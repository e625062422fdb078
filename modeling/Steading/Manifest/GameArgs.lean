import Steading.Manifest.Tenant

/-!
# The arguments of the game

Reading and replacing the arguments of a deployment's game container, which is the first container
of that name.
-/

namespace Steading

def Deployment.containers (d : Deployment) : List Container :=
  match d.spec.bind (·.template.spec) with
  | some pod => pod.containers
  | none => []

def Deployment.game? (d : Deployment) : Option Container :=
  d.containers.find? (·.name == gameContainer)

def Deployment.gameArgs? (d : Deployment) : Option (List String) :=
  d.game?.bind (·.args)

/-- Sets the arguments of the first game container of a list, if it has one. -/
def setGameArgs? (args : String) : List Container → Option (List Container)
  | [] => none
  | c :: cs =>
    if c.name == gameContainer then some ({ c with args := some [args] } :: cs)
    else (setGameArgs? args cs).map (c :: ·)

def PodTemplate.setGameArgs? (t : PodTemplate) (args : String) : Option PodTemplate := do
  let pod ← t.spec
  let containers ← Steading.setGameArgs? args pod.containers
  return { t with spec := some { pod with containers } }

def Deployment.setGameArgs? (d : Deployment) (args : String) : Option Deployment := do
  let spec ← d.spec
  let template ← spec.template.setGameArgs? args
  return { d with spec := some { spec with template } }

end Steading

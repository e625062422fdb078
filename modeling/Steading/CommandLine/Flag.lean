import Steading.Server.Scale
import Steading.Settings

/-!
# What the command line knows

The verbs, of which every run needs one, and the options. All options but the number of replicas
may stand in front of the verb as well as behind it.
-/

namespace Steading

namespace CommandLine

inductive Verb
  | create
  | patch
  | scale
  | delete
  | inspect
  deriving DecidableEq, Inhabited

namespace Verb

def all : List Verb :=
  [create, patch, scale, delete, inspect]

def name : Verb → String
  | create => "create"
  | patch => "patch"
  | scale => "scale"
  | delete => "delete"
  | inspect => "show"

def ofName? (s : String) : Option Verb :=
  all.find? (·.name == s)

def about : Verb → String
  | create => "Provision a server from a request file (YAML or JSON, \"-\" for stdin)"
  | patch => "Change the launch configuration of the running server"
  | scale => "Start (1) or stop (0) the server"
  | delete => "Remove the server, its storage and its record"
  | inspect => "Print the stored server"

/-- Whether the verb is followed by the file of a request. -/
def takesFile : Verb → Bool
  | create | patch => true
  | _ => false

theorem ofName?_name (v : Verb) : ofName? v.name = some v := by
  cases v <;> decide

end Verb

/-- What is printed: a table for people or an object for programs. -/
inductive OutputForm
  | human
  | json
  deriving DecidableEq, Inhabited

namespace OutputForm

def name : OutputForm → String
  | human => "human"
  | json => "json"

def ofName? (s : String) : Option OutputForm :=
  [human, json].find? (·.name == s)

end OutputForm

inductive Flag
  | replicas
  | output
  | ns
  | tenant
  | subscription
  | ingressIp
  deriving DecidableEq, Inhabited

namespace Flag

/-- The options of every verb. -/
def common : List Flag :=
  [output, ns, tenant, subscription, ingressIp]

/-- The options behind a verb, or, without one, in front of it. -/
def available : Option Verb → List Flag
  | some .scale => replicas :: common
  | _ => common

def long : Flag → String
  | replicas => "replicas"
  | output => "output"
  | ns => "ns"
  | tenant => "tenant"
  | subscription => "subscription"
  | ingressIp => "ingress-ip"

def short? : Flag → Option Char
  | output => some 'o'
  | _ => none

/-- The environment variable that stands in for an option. -/
def env? : Flag → Option String
  | tenant => some "LONGHALL_TENANT"
  | subscription => some "LONGHALL_SUBSCRIPTION"
  | _ => none

def default? : Flag → Option String
  | output => some OutputForm.human.name
  | subscription => some "basic"
  | _ => none

def about : Flag → String
  | replicas => ""
  | output => "Output format"
  | ns => "Namespace holding the servers (overrides LONGHALL_NAMESPACE)"
  | tenant => "Tenant the command acts for"
  | subscription => "Billing subscription used to look up plan limits"
  | ingressIp => "Skip the IP echo lookup and report this address instead"

end Flag

/-- The digits of an integer of 32 bits, with an optional sign. -/
def int32? (s : String) : Option Int32 :=
  let n : Option Int :=
    match s.toList with
    | '-' :: ds =>
      if ds.head? = some '+' then none
      else (Settings.natural? (String.ofList ds)).map fun n => -(n : Int)
    | _ => (Settings.natural? s).map fun n => (n : Int)
  match n with
  | some n => if -0x80000000 ≤ n ∧ n < 0x80000000 then some (Int32.ofInt n) else none
  | none => none

/-- Whether an option takes a value. -/
def Flag.accepts (value : String) : Flag → Bool
  | .output => (OutputForm.ofName? value).isSome
  | .replicas => (int32? value).isSome
  | _ => true

end CommandLine

end Steading

import Steading.CommandLine.Flag

/-!
# Reading the arguments

The words of the command line are read one by one, each in the light of what came before it: a word
in front of the verb, behind it, or in the place of an option's value. An option may be given once
in front of the verb and once behind it, and the one behind counts; one that is not given at all is
looked up in the environment.
-/

namespace Steading

namespace CommandLine

/-- A word by its form. A lone dash is as plain as any other word. -/
inductive Word
  | plain (text : String)
  | long (name : String) (value : Option String)
  | short (letter : Char) (rest : List Char)
  /-- Two dashes: all further words are plain. -/
  | dashes
  deriving DecidableEq, Inhabited

/-- What stands before the first equals sign and, if there is one, what stands behind it. -/
def splitAtEquals (cs : List Char) : String × Option String :=
  match cs.dropWhile (· != '=') with
  | [] => (String.ofList cs, none)
  | _ :: value => (String.ofList (cs.takeWhile (· != '=')), some (String.ofList value))

def Word.ofString (s : String) : Word :=
  match s.toList with
  | ['-', '-'] => dashes
  | '-' :: '-' :: cs => long (splitAtEquals cs).1 (splitAtEquals cs).2
  | '-' :: c :: cs => short c cs
  | _ => plain s

/-- Why there is nothing to run. -/
inductive Halt
  | misuse
  | version
  | help (about : Option Verb)
  deriving DecidableEq, Inhabited

/-- Values by option. -/
abbrev Given : Type :=
  List (Flag × String)

/-- How far the words have been read. -/
inductive Phase
  | beforeVerb
  | behind (v : Verb)
  /-- Help was asked for, and words tell what about. -/
  | helping (about : Option Verb)
  deriving DecidableEq, Inhabited

structure Reading where
  phase : Phase
  /-- The option that the next word is the value of. -/
  pending : Option Flag
  onlyPlain : Bool
  file : Option String
  /-- What was given in front of the verb, once it has been read. -/
  outer : Given
  given : Given
  deriving DecidableEq, Inhabited

namespace Reading

def start : Reading :=
  ⟨.beforeVerb, none, false, none, [], []⟩

def verb? (r : Reading) : Option Verb :=
  match r.phase with
  | .behind v => some v
  | _ => none

/-- No option is given twice on one side of the verb. -/
def give (r : Reading) (f : Flag) (value : String) : Except Halt Reading :=
  if f.accepts value && !(r.given.lookup f).isSome then
    .ok { r with pending := none, given := (f, value) :: r.given }
  else .error .misuse

def giveOrAwait (r : Reading) (f : Flag) : Option String → Except Halt Reading
  | some value => r.give f value
  | none => .ok { r with pending := some f }

/-- Takes a word that is no option. -/
def take (r : Reading) (s : String) : Except Halt Reading :=
  match r.phase with
  | .beforeVerb =>
    if r.onlyPlain then .error .misuse
    else if s = "help" then .ok { r with phase := .helping none }
    else
      match Verb.ofName? s with
      | some v => .ok { r with phase := .behind v, outer := r.given, given := [] }
      | none => .error .misuse
  | .behind v =>
    if v.takesFile && r.file.isNone then .ok { r with file := some s } else .error .misuse
  | .helping (some _) => .error .misuse
  | .helping none =>
    if s = "help" then .ok r
    else
      match Verb.ofName? s with
      | some v => .ok { r with phase := .helping (some v) }
      | none => .error .misuse

def long (r : Reading) (name : String) (value : Option String) : Except Halt Reading :=
  if name = "help" ∧ value = none then .error (.help r.verb?)
  else if name = "version" ∧ value = none ∧ r.verb? = none then .error .version
  else
    match (Flag.available r.verb?).find? (·.long == name) with
    | some f => r.giveOrAwait f value
    | none => .error .misuse

/-- The value of an option of one letter may follow right behind it, or behind an equals sign. -/
def short (r : Reading) (letter : Char) (rest : List Char) : Except Halt Reading :=
  if letter = 'h' then .error (.help r.verb?)
  else if letter = 'V' ∧ r.verb? = none then .error .version
  else
    match (Flag.available r.verb?).find? (·.short? == some letter) with
    | none => .error .misuse
    | some f =>
      match rest with
      | [] => r.giveOrAwait f none
      | '=' :: value => r.give f (String.ofList value)
      | value => r.give f (String.ofList value)

def step (r : Reading) (s : String) : Except Halt Reading :=
  match r.phase, r.pending with
  | .helping _, _ => r.take s
  | _, some f =>
    match Word.ofString s with
    | .plain value => r.give f value
    | _ => .error .misuse
  | _, none =>
    if r.onlyPlain then r.take s
    else
      match Word.ofString s with
      | .plain s => r.take s
      | .long name value => r.long name value
      | .short letter rest => r.short letter rest
      | .dashes => .ok { r with onlyPlain := true }

end Reading

/-- Where a request is read from. -/
inductive Source
  | input
  | file (path : String)
  deriving DecidableEq, Inhabited

/-- A lone dash stands for what is typed in. -/
def Source.ofString (s : String) : Source :=
  if s = "-" then input else file s

/-- What is to be done, with the request still to be read. -/
inductive Job
  | create (request : Source)
  | patch (request : Source)
  | scale (r : ScaleRequest)
  | delete
  | inspect
  deriving DecidableEq, Inhabited

structure Invocation where
  output : OutputForm
  /-- Counts instead of the namespace of the settings. -/
  ns : Option String
  tenant : Option String
  subscription : String
  /-- Counts instead of looking the address up. -/
  ingressIp : Option String
  job : Job
  deriving DecidableEq, Inhabited

namespace Reading

section

variable (env : String → Option String) (r : Reading)

/-- The value of an option: the one given nearest to the end, or the environment's. -/
def value? (f : Flag) : Option String :=
  (r.given.lookup f).or ((r.outer.lookup f).or ((f.env?.bind env).or f.default?))

/-- Nothing that the verb needs may be missing. -/
def job? (v : Verb) : Option Job :=
  match v with
  | .create => r.file.map fun path => .create (.ofString path)
  | .patch => r.file.map fun path => .patch (.ofString path)
  | .scale => ((r.value? env .replicas).bind int32?).map fun n => .scale ⟨n⟩
  | .delete => some .delete
  | .inspect => some .inspect

def finish : Except Halt Invocation :=
  match r.phase, r.pending with
  | .helping about, _ => .error (.help about)
  | .behind v, none =>
    match r.job? env v with
    | none => .error .misuse
    | some job => .ok {
        output := ((r.value? env .output).bind OutputForm.ofName?).getD .human
        ns := r.value? env .ns
        tenant := r.value? env .tenant
        subscription := (r.value? env .subscription).getD ""
        ingressIp := r.value? env .ingressIp
        job := job }
  | _, _ => .error .misuse

end

end Reading

def Invocation.ofArguments (env : String → Option String) (words : List String) :
    Except Halt Invocation := do
  (← words.foldlM Reading.step .start).finish env

end CommandLine

end Steading

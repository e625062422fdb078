import Steading.CommandLine.Arguments

/-!
# Help

What the program says about itself, from the tables of verbs and options.
-/

namespace Steading

namespace CommandLine

def programName : String :=
  "longhallctl"

def version : String :=
  "0.0.0"

namespace Flag

/-- What the value of an option is called. -/
def valueName : Flag → String
  | replicas => "REPLICAS"
  | output => "OUTPUT"
  | ns => "NAMESPACE"
  | tenant => "TENANT"
  | subscription => "SUBSCRIPTION"
  | ingressIp => "INGRESS_IP"

def usage (f : Flag) : String :=
  "--" ++ f.long ++ " <" ++ f.valueName ++ ">"

/-- What else is known about an option, in brackets. -/
def notes (env : String → Option String) (f : Flag) : List String :=
  (f.env?.map fun v => "[env: " ++ v ++ "=" ++ (env v).getD "" ++ "]").toList ++
    (f.default?.map fun d => "[default: " ++ d ++ "]").toList ++
    (if f = output then ["[possible values: human, json]"] else [])

end Flag

/-- A line of a list: how something is written, and what it is about. -/
def listed (width : Nat) (usage about : String) : String :=
  "  " ++ Text.padRight width usage ++ "  " ++ about ++ "\n"

def Flag.help (env : String → Option String) (f : Flag) : String :=
  let letter := match f.short? with
    | some c => "-" ++ String.singleton c ++ ", "
    | none => "    "
  let about := (if f.about.isEmpty then [] else [f.about]) ++ f.notes env
  listed 33 (letter ++ f.usage) (" ".intercalate about)

def usageLine : Option Verb → String
  | none => "Usage: " ++ programName ++ " [OPTIONS] <COMMAND>\n"
  | some v =>
    let rest :=
      if v.takesFile then " <FILE>" else if v = .scale then " " ++ Flag.replicas.usage else ""
    "Usage: " ++ programName ++ " " ++ v.name ++ " [OPTIONS]" ++ rest ++ "\n"

def helpOn (env : String → Option String) (about : Option Verb) : String :=
  let title := match about with
    | none => "Provision and manage per-tenant game servers"
    | some v => v.about
  let words := match about with
    | none => "Commands:\n" ++ String.join (Verb.all.map fun v => listed 6 v.name v.about) ++
        listed 6 "help" "Print this message or the help of the given subcommand(s)" ++ "\n"
    | some v => if v.takesFile then "Arguments:\n" ++ listed 6 "<FILE>" "" ++ "\n" else ""
  title ++ "\n\n" ++ usageLine about ++ "\n" ++ words ++ "Options:\n" ++
    String.join ((Flag.available about).map (·.help env)) ++
    listed 33 "-h, --help" "Print help" ++
    (if about = none then listed 33 "-V, --version" "Print version" else "")

end CommandLine

end Steading

import Steading.Url.Host
import Steading.Url.Path

/-!
# URLs

What a URL is made of once it has been read, and the one text it then has. All its parts are
encoded already.
-/

namespace Steading

/-- Who asks whom: a user's name and password, a host, and its port unless it is the usual one. -/
structure Authority where
  user : String := ""
  password : Option String := none
  host : Host
  port : Option Nat := none
  deriving DecidableEq, Inhabited

structure Url where
  scheme : String
  authority : Option Authority := none
  path : String
  query : Option String := none
  fragment : Option String := none
  deriving DecidableEq, Inhabited

/-- A part behind its mark, if there is one. -/
def Url.part (mark : String) : Option String → String
  | some s => mark ++ s
  | none => ""

namespace Authority

def hasCredentials (a : Authority) : Bool :=
  !a.user.isEmpty || a.password.isSome

def credentials (a : Authority) : String :=
  if a.hasCredentials then a.user ++ Url.part ":" a.password ++ "@" else ""

def text (a : Authority) : String :=
  a.credentials ++ a.host.text ++ Url.part ":" (a.port.map toString)

/-- A user's name and password are not a part of what is asked for; they are left in place only if
they do not stand for a text. -/
def withoutCredentials (a : Authority) : Authority :=
  match Percent.decode? a.user.toList, a.password.bind fun p => Percent.decode? p.toList with
  | some [], none => a
  | some _, _ => { a with user := "", password := none }
  | none, _ => a

end Authority

namespace Url

/-- What stands between the scheme and the path. If it is nothing, the path must not look like an
authority. -/
def middle (u : Url) : String :=
  match u.authority with
  | some a => "//" ++ a.text
  | none => if "//".toList.isPrefixOf u.path.toList then "/." else ""

def text (u : Url) : String :=
  u.scheme ++ ":" ++ u.middle ++ u.path ++ part "?" u.query ++ part "#" u.fragment

def withoutCredentials (u : Url) : Url :=
  { u with authority := u.authority.map (·.withoutCredentials) }

/-- Characters that may stand in the name of a host, but not in a request for it. -/
def isUnusual (c : Char) : Bool :=
  "\"`\x7b\x7d".toList.contains c

/-- Whether a request can be made for a URL. -/
def isRequestable (u : Url) : Bool :=
  (u.scheme == "http" || u.scheme == "https") && u.text.utf8ByteSize ≤ 65534 &&
    match u.authority with
    | some { host := .name s, .. } => !s.toList.any isUnusual
    | _ => true

end Url

end Steading

import Steading.Url

/-!
# Reading URLs

A URL is read leniently: blanks around it and breaks inside it do not count, and in the schemes that
go with a host the backslash is a slash and the number of slashes in front of the host does not
matter. What cannot be read is a text without a scheme, a host that is none, or a port that is none.
-/

namespace Steading

namespace Url

/-- The schemes that go with a host, and their usual ports. -/
def specialPorts : List (String × Nat) :=
  [("http", 80), ("https", 443), ("ws", 80), ("wss", 443), ("ftp", 21)]

def isSchemeChar (c : Char) : Bool :=
  c.isAlphanum || c == '+' || c == '-' || c == '.'

/-- The scheme in lower case, and what follows its colon. -/
def scheme? (cs : List Char) : Option (String × List Char) :=
  let name := cs.takeWhile isSchemeChar
  match cs.dropWhile isSchemeChar with
  | ':' :: rest =>
    if name.head?.any Char.isAlpha then some (String.ofList (name.map Char.toLower), rest) else none
  | _ => none

/-- What stands in front of the first mark, and what follows it if there is one. -/
def splitAt (mark : Char) (cs : List Char) : List Char × Option (List Char) :=
  match cs.dropWhile (· != mark) with
  | _ :: rest => (cs.takeWhile (· != mark), some rest)
  | [] => (cs, none)

/-- What stands in front of the last at sign, and what follows it. -/
def splitUser (cs : List Char) : List Char × List Char :=
  let rest := (cs.reverse.takeWhile (· != '@')).reverse
  (cs.take (cs.length - rest.length - 1), rest)

/-- Whether a text is between brackets behind a character, if it was in front of it. -/
def isBracketed (before : Bool) (c : Char) : Bool :=
  if c == '[' then true else if c == ']' then false else before

/-- A host and what follows its colon. The colons between brackets are the host's. -/
def splitPort (bracketed : Bool) : List Char → List Char × Option (List Char)
  | [] => ([], none)
  | c :: cs =>
    if c == ':' && !bracketed then ([], some cs)
    else
      let (host, port) := splitPort (isBracketed bracketed c) cs
      (c :: host, port)

/-- A port; none is given by an empty text. -/
def port? (cs : List Char) : Option (Option Nat) :=
  if !cs.all Char.isDigit then none
  else if cs.isEmpty then some none
  else if Address.value 10 cs < 0x10000 then some (some (Address.value 10 cs))
  else none

def encoded (set : Percent.EncodeSet) (cs : List Char) : String :=
  String.ofList (Percent.encode set cs)

/-- The authority of a URL of some scheme. Where `special` does not hold it may go without a host,
if nothing else is given either. -/
def authority? (scheme : String) (special : Bool) (cs : List Char) : Option Authority := do
  let (user, rest) := splitUser cs
  let (name, password) := splitAt ':' user
  let (host, port) := splitPort false rest
  if host.isEmpty && (special || port.isSome) then none
  else
    let port ← port? (port.getD [])
    let a : Authority := {
      user := encoded Percent.userInfo name
      password := (password.filter (!·.isEmpty)).map (encoded Percent.userInfo)
      host := ← if special then Host.ofChars? host else Host.ofOpaque? host
      port := port.filter fun p => specialPorts.lookup scheme != some p }
    if host.isEmpty && a.hasCredentials then none else some a

/-- What follows the scheme of a URL. The path has the authority in front of it. -/
structure Tail where
  path : List Char
  query : Option (List Char)
  fragment : Option (List Char)

namespace Tail

def ofChars (cs : List Char) : Tail :=
  let (before, fragment) := splitAt '#' cs
  let (path, query) := splitAt '?' before
  ⟨path, query, fragment⟩

def isEmpty (t : Tail) : Bool :=
  t.path.isEmpty && t.query.isNone && t.fragment.isNone

/-- The URL with a path that is encoded already. -/
def url (t : Tail) (scheme : String) (authority : Option Authority) (set : Percent.EncodeSet)
    (path : List Char) : Url where
  scheme := scheme
  authority := authority
  path := String.ofList path
  query := t.query.map (encoded set)
  fragment := t.fragment.map (encoded Percent.fragment)

end Tail

def isSlash (c : Char) : Bool :=
  c == '/' || c == '\\'

/-- Backslashes as slashes. -/
def slashed (cs : List Char) : List Char :=
  cs.map fun c => if isSlash c then '/' else c

/-- A path, encoded and without dots. Its first slash may be missing. -/
def cleanPath (cs : List Char) : List Char :=
  UrlPath.text (UrlPath.ofChars (if cs.head? == some '/' then cs.drop 1 else cs))

/-- A URL of a scheme that goes with a host. It always has a path. -/
def ofSpecial? (scheme : String) (t : Tail) : Option Url := do
  let cs := (slashed t.path).dropWhile isSlash
  let a ← authority? scheme true (cs.takeWhile (!isSlash ·))
  return t.url scheme (some a) Percent.specialQuery (cleanPath (cs.dropWhile (!isSlash ·)))

/-- A file; the machine it is on counts only if it is named and another one. -/
def ofFile? (t : Tail) : Option Url := do
  let (name, cs) := match slashed t.path with
    | '/' :: '/' :: cs => (cs.takeWhile (!isSlash ·), cs.dropWhile (!isSlash ·))
    | cs => ([], cs)
  let host ← if name.isEmpty then some (.name "") else Host.ofChars? name
  let a : Authority := { host := if host = .name "localhost" then .name "" else host }
  return t.url "file" (some a) Percent.specialQuery ('/' :: (cleanPath cs).dropWhile isSlash)

/-- A URL of any other scheme. Without a slash in front its path is not made of segments. -/
def ofOther? (scheme : String) (t : Tail) : Option Url :=
  match t.path with
  | '/' :: '/' :: cs => do
    let rest := cs.dropWhile (· != '/')
    let cs := cs.takeWhile (· != '/')
    if cs == ['@'] && !{ t with path := rest }.isEmpty then none
    else
      let a ← authority? scheme false cs
      return t.url scheme (some a) Percent.query (if rest.isEmpty then [] else cleanPath rest)
  | '/' :: cs => some (t.url scheme none Percent.query (cleanPath ('/' :: cs)))
  | cs => some (t.url scheme none Percent.query (Percent.encode Percent.controls cs))

def isOuter (c : Char) : Bool :=
  c.toNat ≤ 0x20

def isBreak (c : Char) : Bool :=
  c == '\t' || c == '\n' || c == '\r'

/-- The characters of a text that count. -/
def significant (s : String) : List Char :=
  (((s.toList.dropWhile isOuter).reverse.dropWhile isOuter).reverse).filter (!isBreak ·)

def ofText? (s : String) : Option Url := do
  let (scheme, rest) ← scheme? (significant s)
  let t := Tail.ofChars rest
  if scheme == "file" then ofFile? t
  else if (specialPorts.lookup scheme).isSome then ofSpecial? scheme t
  else ofOther? scheme t

end Url

end Steading

import Steading.Yaml.Lexer

/-!
# YAML nodes

How tokens are nested, and what a document consists of. An alias stands for the node with the
anchor of its name; anchors are numbered by how many names there are before, so that an anchor whose
name is taken over gets a number that the next new name gets too, and then the later one counts.
-/

namespace Steading.Yaml

inductive Node
  | scalar (text : String) (style : ScalarStyle) (tag : Option String)
  | sequence (items : List Node)
  | mapping (pairs : List (Node × Node))
  | alias (number : Nat)
  deriving Inhabited

/-- A node with an anchor, once it is complete, goes by the order in which it was begun. -/
structure Anchors where
  /-- The numbers of the names, the newest first. -/
  names : List (String × Nat)
  /-- Which node has a number, the newest first. -/
  numbers : List (Nat × Nat)
  nodes : List (Nat × Node)

namespace Anchors

def empty : Anchors :=
  ⟨[], [], []⟩

def distinctNames (a : Anchors) : Nat :=
  (a.names.map (·.1)).eraseDups.length

/-- Begins a node of a name; the place of the node is that of its number in the list. -/
def begin (a : Anchors) (name : String) : Anchors :=
  let n := a.distinctNames
  { a with names := (name, n) :: a.names, numbers := (n, a.numbers.length) :: a.numbers }

def complete (a : Anchors) (place : Nat) (node : Node) : Anchors :=
  { a with nodes := (place, node) :: a.nodes }

/-- The node that an alias of a number stands for. -/
def find? (a : Anchors) (number : Nat) : Option Node := do
  a.nodes.lookup (← a.numbers.lookup number)

end Anchors

/-- The tokens that are left, what handles are short for, and the anchors so far. -/
structure Composer where
  tokens : List Token
  handles : List (String × String)
  anchors : Anchors

namespace Composer

def next (s : Composer) : Composer :=
  { s with tokens := s.tokens.tail }

/-- Takes a token off, if it is the next one. -/
def take? (s : Composer) (t : Token) : Option Composer :=
  if s.tokens.head? == some t then some s.next else none

def isAt (s : Composer) (ts : List Token) : Bool :=
  s.tokens.head?.any ts.contains

def emptyScalar : Node :=
  .scalar "" .plain none

/-- What may stand before a node. -/
structure Properties where
  anchor : Option String
  tag : Option String

def resolve (s : Composer) (handle rest : String) : Option String :=
  if handle.isEmpty then some rest
  else (s.handles.lookup handle).map (· ++ rest)

/-- An anchor and a tag, each at most once. -/
def properties (s : Composer) : Option (Properties × Composer) :=
  match s.tokens with
  | .anchor name :: .tag handle rest :: _ => do
    return (⟨some name, some (← s.resolve handle rest)⟩, s.next.next)
  | .tag handle rest :: .anchor name :: _ => do
    return (⟨some name, some (← s.resolve handle rest)⟩, s.next.next)
  | .anchor name :: _ => some (⟨some name, none⟩, s.next)
  | .tag handle rest :: _ => do
    return (⟨none, some (← s.resolve handle rest)⟩, s.next)
  | _ => some (⟨none, none⟩, s)

mutual

/-- Reads a node. Only in a block can there be blocks, and below a key a sequence need not be
indented. -/
def node (block indentless : Bool) : Nat → Composer → Option (Node × Composer)
  | 0, _ => none
  | fuel + 1, s =>
    match s.tokens with
    | .alias name :: _ => do
      let number ← s.anchors.names.lookup name
      return (.alias number, s.next)
    | _ => do
      let (p, s) ← s.properties
      let place := s.anchors.numbers.length
      let s := match p.anchor with
        | some name => { s with anchors := s.anchors.begin name }
        | none => s
      let (n, s) ← content block indentless p fuel s
      match p.anchor with
      | some _ => return (n, { s with anchors := s.anchors.complete place n })
      | none => return (n, s)

/-- Reads a node behind its properties. -/
def content (block indentless : Bool) (p : Properties) :
    Nat → Composer → Option (Node × Composer)
  | 0, _ => none
  | fuel + 1, s =>
    match s.tokens with
    | .blockEntry :: _ =>
      if indentless then do
        let (items, s) ← indentlessItems fuel s
        return (.sequence items, s)
      else bare p s
    | .scalar text style :: _ => some (.scalar text style p.tag, s.next)
    | .flowSequenceStart :: _ => do
      let (items, s) ← flowItems true fuel s.next
      return (.sequence items, s)
    | .flowMappingStart :: _ => do
      let (pairs, s) ← flowPairs true fuel s.next
      return (.mapping pairs, s)
    | .blockSequenceStart :: _ =>
      if block then do
        let (items, s) ← blockItems fuel s.next
        return (.sequence items, s)
      else bare p s
    | .blockMappingStart :: _ =>
      if block then do
        let (pairs, s) ← blockPairs fuel s.next
        return (.mapping pairs, s)
      else bare p s
    | _ => bare p s

/-- A node of nothing but properties. -/
def bare (p : Properties) (s : Composer) : Option (Node × Composer) :=
  if p.anchor.isSome || p.tag.isSome then some (.scalar "" .plain p.tag, s) else none

def blockItems : Nat → Composer → Option (List Node × Composer)
  | 0, _ => none
  | fuel + 1, s =>
    match s.tokens with
    | .blockEntry :: _ => do
      let s := s.next
      let (n, s) ←
        if s.isAt [.blockEntry, .blockEnd] then some (emptyScalar, s) else node true false fuel s
      let (ns, s) ← blockItems fuel s
      return (n :: ns, s)
    | .blockEnd :: _ => some ([], s.next)
    | _ => none

def indentlessItems : Nat → Composer → Option (List Node × Composer)
  | 0, _ => none
  | fuel + 1, s =>
    match s.tokens with
    | .blockEntry :: _ => do
      let s := s.next
      let (n, s) ←
        if s.isAt [.blockEntry, .key, .value, .blockEnd] then some (emptyScalar, s)
        else node true false fuel s
      let (ns, s) ← indentlessItems fuel s
      return (n :: ns, s)
    | _ => some ([], s)

/-- A key or a value of a block mapping, which may be empty. -/
def blockPart : Nat → Composer → Option (Node × Composer)
  | 0, _ => none
  | fuel + 1, s =>
    if s.isAt [.key, .value, .blockEnd] then some (emptyScalar, s) else node true true fuel s

def blockPairs : Nat → Composer → Option (List (Node × Node) × Composer)
  | 0, _ => none
  | fuel + 1, s =>
    match s.tokens with
    | .blockEnd :: _ => some ([], s.next)
    | .key :: _ => do
      let (k, s) ← blockPart fuel s.next
      let (v, s) ←
        match s.tokens with
        | .value :: _ => blockPart fuel s.next
        | _ => some (emptyScalar, s)
      let (ps, s) ← blockPairs fuel s
      return ((k, v) :: ps, s)
    | _ => none

/-- The items of a flow sequence from behind its bracket, or from behind an item. -/
def flowItems (first : Bool) : Nat → Composer → Option (List Node × Composer)
  | 0, _ => none
  | fuel + 1, s =>
    if s.isAt [.flowSequenceEnd] then some ([], s.next)
    else do
      let s ← if first then some s else s.take? .flowEntry
      if s.isAt [.flowSequenceEnd] then return ([], s.next)
      else
        let (n, s) ←
          match s.tokens with
          | .key :: _ => do
            let (pair, s) ← flowItemPair fuel s.next
            pure (Node.mapping [pair], s)
          | _ => node false false fuel s
        let (ns, s) ← flowItems false fuel s
        return (n :: ns, s)

/-- A single pair as an item of a flow sequence. What stands in the place of an empty key is
skipped. -/
def flowItemPair : Nat → Composer → Option ((Node × Node) × Composer)
  | 0, _ => none
  | fuel + 1, s => do
    let (k, s) ←
      if s.isAt [.value, .flowEntry, .flowSequenceEnd] then some (emptyScalar, s.next)
      else node false false fuel s
    let (v, s) ←
      match s.tokens with
      | .value :: _ =>
        if s.next.isAt [.flowEntry, .flowSequenceEnd] then some (emptyScalar, s.next)
        else node false false fuel s.next
      | _ => some (emptyScalar, s)
    return ((k, v), s)

/-- A key or a value of a flow mapping, which may be empty. -/
def flowPart (ends : List Token) : Nat → Composer → Option (Node × Composer)
  | 0, _ => none
  | fuel + 1, s => if s.isAt ends then some (emptyScalar, s) else node false false fuel s

/-- The pairs of a flow mapping from behind its brace, or from behind a pair. A node that is not
marked as a key is one without a value. -/
def flowPairs (first : Bool) : Nat → Composer → Option (List (Node × Node) × Composer)
  | 0, _ => none
  | fuel + 1, s =>
    if s.isAt [.flowMappingEnd] then some ([], s.next)
    else do
      let s ← if first then some s else s.take? .flowEntry
      match s.tokens with
      | .flowMappingEnd :: _ => return ([], s.next)
      | .key :: _ =>
        let (k, s) ← flowPart [.value, .flowEntry, .flowMappingEnd] fuel s.next
        let (v, s) ←
          match s.tokens with
          | .value :: _ => flowPart [.flowEntry, .flowMappingEnd] fuel s.next
          | _ => some (emptyScalar, s)
        let (ps, s) ← flowPairs false fuel s
        return ((k, v) :: ps, s)
      | _ =>
        let (k, s) ← node false false fuel s
        let (ps, s) ← flowPairs false fuel s
        return ((k, emptyScalar) :: ps, s)

end

/-- Directives, each handle and the version at most once. -/
def directives (version : Bool) (handles : List (String × String)) :
    List Token → Option (List (String × String) × List Token)
  | .version major minor :: ts =>
    if !version && major == 1 && (minor == 1 || minor == 2) then directives true handles ts
    else none
  | .handle name expansion :: ts =>
    if (handles.lookup name).isSome then none
    else directives version ((name, expansion) :: handles) ts
  | ts => some (handles, ts)

end Composer

/-- The handles that need no directive. -/
def standardHandles : List (String × String) :=
  [("!", "!"), ("!!", "tag:yaml.org,2002:")]

/-- The root of a text, if there is anything in it, and its anchors. -/
structure Document where
  root : Option Node
  anchors : Anchors

namespace Document

open Composer

/-- Nothing may stand behind a document but marks of its end. -/
def endsWith (d : Document) : List Token → Option Document
  | [] => some d
  | .documentEnd :: ts => endsWith d ts
  | _ => none

/-- The content of a document, which may be empty. -/
def ofContent? (handles : List (String × String)) (explicit : Bool) (ts : List Token) :
    Option Document := do
  let s : Composer := ⟨ts, handles ++ standardHandles, .empty⟩
  let (root, s) ←
    if explicit && (ts.isEmpty || ts.head?.any startsDocument) then some (emptyScalar, s)
    else node true false (8 * ts.length + 8) s
  endsWith ⟨some root, s.anchors⟩ s.tokens
where
  startsDocument : Token → Bool
    | .version _ _ | .handle _ _ | .documentStart | .documentEnd => true
    | _ => false

def ofTokens? (ts : List Token) : Option Document :=
  match ts with
  | [] => some ⟨none, .empty⟩
  | .version _ _ :: _ | .handle _ _ :: _ | .documentStart :: _ => do
    let (handles, ts) ← directives false [] ts
    match ts with
    | .documentStart :: ts => ofContent? handles true ts
    | _ => none
  | ts => ofContent? [] false ts

/-- The document of a text that holds at most one. -/
def ofText? (text : String) : Option Document := do
  ofTokens? (← Token.ofText? text)

end Document

end Steading.Yaml

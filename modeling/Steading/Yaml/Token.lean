import Steading.Yaml.Cursor

/-!
# YAML tokens

What a text is made of before it is known how its nodes are nested. Tokens for the start and the
end of a block stand for a change of indentation.
-/

namespace Steading.Yaml

inductive ScalarStyle
  | plain
  | singleQuoted
  | doubleQuoted
  | literal
  | folded
  deriving DecidableEq, Inhabited

inductive Token
  | version (major minor : Nat)
  /-- A handle, and what it is short for. -/
  | handle (name expansion : String)
  | documentStart
  | documentEnd
  | blockSequenceStart
  | blockMappingStart
  | blockEnd
  | flowSequenceStart
  | flowSequenceEnd
  | flowMappingStart
  | flowMappingEnd
  | blockEntry
  | flowEntry
  | key
  | value
  | alias (name : String)
  | anchor (name : String)
  /-- A tag as a handle, which may be empty, and what comes behind it. -/
  | tag (handle rest : String)
  | scalar (text : String) (style : ScalarStyle)
  deriving DecidableEq, Inhabited

end Steading.Yaml

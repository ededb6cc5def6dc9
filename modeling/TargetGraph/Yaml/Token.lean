import TargetGraph.Yaml.Character

/-!
The tokens of a YAML stream: brackets of collections, drawn or implied by indentation, the marks of
entries, keys and values, and the parts of nodes.
-/
set_option autoImplicit false

namespace TargetGraph.Yaml

inductive ScalarStyle where
  | plain | singleQuoted | doubleQuoted | literal | folded
deriving DecidableEq, Repr, Inhabited

/-- The bytes of a tag or tag handle; percent escapes may spell bytes that are no UTF-8. -/
abbrev Octets := List UInt8

def octets (text : List Char) : Octets := text.map fun c => UInt8.ofNat c.toNat

namespace Token

inductive Kind where
  | versionDirective (major minor : Nat)
  | tagDirective (handle replacement : Octets)
  | documentStart
  | documentEnd
  | streamEnd
  | blockSequenceStart
  | blockMappingStart
  | blockEnd
  | flowSequenceStart
  | flowSequenceEnd
  | flowMappingStart
  | flowMappingEnd
  | blockEntry
  | flowEntry
  | key
  | value
  | aliasOf (name : String)
  | anchor (name : String)
  | tag (handle suffix : Octets)
  | scalar (text : String) (style : ScalarStyle)
deriving DecidableEq, Repr

end Token

structure Token where
  kind : Token.Kind
  start : Mark
  stop : Mark
deriving DecidableEq, Repr

end TargetGraph.Yaml

import TargetGraph.Number

/-!
Values: what a YAML document means once anchors are followed and scalars have types. Mappings keep
the order in which they were written, but their equality does not look at it.
-/
set_option autoImplicit false

namespace TargetGraph.Yaml

inductive Number where
  | integer (value : Int)
  | float (value : Binary64)
deriving DecidableEq, Repr, Inhabited

namespace Number

/-- An integer never equals a floating-point number. -/
def same : Number → Number → Bool
  | integer left, integer right => left == right
  | float left, float right => left.same right
  | _, _ => false

def text : Number → String
  | integer value => toString value
  | float value => value.keyText

end Number

inductive Value where
  | null
  | boolean (value : Bool)
  | number (value : Number)
  | string (value : String)
  | sequence (items : List Value)
  | mapping (entries : List (Value × Value))
  | tagged (tag : String) (value : Value)
deriving Repr, Inhabited

namespace Value

/-- A tag's name; one exclamation mark in front does not count unless it is all there is. -/
def tagName (tag : String) : List Char :=
  match tag.toList with
  | '!' :: c :: rest => c :: rest
  | name => name

mutual

/-- Equality of values. In mappings the order of the entries does not matter. -/
def same : Value → Value → Bool
  | null, null => true
  | boolean left, boolean right => left == right
  | number left, number right => left.same right
  | string left, string right => left == right
  | sequence left, sequence right => allSame left right
  | mapping left, mapping right => left.length == right.length && allAmong left right
  | tagged leftTag left, tagged rightTag right => tagName leftTag == tagName rightTag && same left right
  | _, _ => false

def allSame : List Value → List Value → Bool
  | [], [] => true
  | left :: lefts, right :: rights => same left right && allSame lefts rights
  | _, _ => false

def allAmong : List (Value × Value) → List (Value × Value) → Bool
  | [], _ => true
  | (key, value) :: rest, others =>
    others.any (fun other => same key other.1 && same value other.2) && allAmong rest others

end

def kind : Value → String
  | null => "null"
  | boolean _ => "a boolean"
  | number _ => "a number"
  | string _ => "a string"
  | sequence _ => "a list"
  | mapping _ => "a mapping"
  | tagged .. => "a tagged value"

end Value

end TargetGraph.Yaml

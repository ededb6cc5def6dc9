import TargetGraph.Text.Quoted
import TargetGraph.Yaml.Node
import TargetGraph.Yaml.Value
import TargetGraph.Yaml.Value.Datum

/-!
Why a text does not yield the value that is wanted of it, and how that is said. What is wrong with one
value is said behind the way to it from the document's root.
-/
set_option autoImplicit false

namespace TargetGraph.Yaml

/-- A value under a key that is no scalar is `unnamed`. A value that is reached through an alias has
the path of the alias. -/
inductive Path where
  | root
  | item (parent : Path) (index : Nat)
  | member (parent : Path) (key : String)
  | unnamed (parent : Path)
  | repeated (parent : Path)
deriving DecidableEq, Repr

namespace Path

def text : Path → String
  | root => "."
  | item parent index => s!"{parent.text}[{index}]"
  | member root key => key
  | member parent key => s!"{parent.text}.{key}"
  | unnamed root => "?"
  | unnamed parent => s!"{parent.text}.?"
  | repeated parent => parent.text

end Path

inductive Found where
  | datum (datum : Datum)
  | sequence
  | tagged
deriving DecidableEq, Repr

/-- The integers that a value can hold: those of 64 bits, with or without a sign. -/
def isNarrow (value : Int) : Bool := decide (-0x8000000000000000 ≤ value ∧ value < 0x10000000000000000)

def Found.text : Found → String
  | datum .null => "unit value"
  | datum (.boolean value) => s!"boolean `{value}`"
  | datum (.integer value) =>
    if isNarrow value then s!"integer `{value}`"
    else if 0 ≤ value then s!"integer `{value}` as u128"
    else s!"integer `{value}` as i128"
  | datum (.float value) => s!"floating point `{value.positionalText}`"
  | datum (.string value) => s!"string {Text.quoted value}"
  | sequence => "sequence"
  | tagged => "enum"

inductive Wanted where
  | anyValue
  | document
deriving DecidableEq, Repr

def Wanted.text : Wanted → String
  | anyValue => "any YAML value"
  | document => "a mapping of target names to lists of dependency names"

inductive Complaint where
  | wrongType (found : Found) (wanted : Wanted)
  | notOfType (text : String) (type : Datum.CoreType)
  | repeatedKey (key : Value)
deriving Repr

def Complaint.text : Complaint → String
  | wrongType found wanted => s!"invalid type: {found.text}, expected {wanted.text}"
  | notOfType text type =>
    s!"invalid value: string {Text.quoted text}, expected {type.description}"
  | repeatedKey .null => "duplicate entry with null key"
  | repeatedKey (.boolean value) => s!"duplicate entry with key `{value}`"
  | repeatedKey (.number value) => s!"duplicate entry with key {value.text}"
  | repeatedKey (.string value) => s!"duplicate entry with key {Text.quoted value}"
  | repeatedKey _ => "duplicate entry in YAML map"

inductive Error where
  | malformed (fault : Fault)
  | unknownAnchor (mark : Mark)
  | tooDeep (mark : Mark)
  | tooManyAliases
  | severalDocuments
  | unsuitable (complaint : Complaint) (mark : Mark) (path : Path)
deriving Repr

/-- Lines and columns are counted from 1, and nothing is said of the very first position. -/
def Mark.suffix (mark : Mark) : String :=
  if mark = .start then "" else s!" at line {mark.line + 1} column {mark.column + 1}"

def Error.message : Error → String
  | malformed fault => fault.message
  | unknownAnchor mark => s!"unknown anchor{mark.suffix}"
  | tooDeep mark => s!"recursion limit exceeded{mark.suffix}"
  | tooManyAliases => "repetition limit exceeded"
  | severalDocuments => "deserializing from YAML containing more than one document is not supported"
  | unsuitable complaint mark path =>
    let place := if path.text = "." then "" else s!"{path.text}: "
    s!"{place}{complaint.text}{mark.suffix}"

end TargetGraph.Yaml

import TargetGraph.Number
import TargetGraph.Yaml.Token

/-!
What scalars stand for. A plain scalar without a tag may be null, a boolean or a number; any other
scalar is a string, unless a tag asks for one of those types.
-/
set_option autoImplicit false

namespace TargetGraph.Yaml

/-- The meaning of a scalar. Integers have at most 128 bits. -/
inductive Datum where
  | null
  | boolean (value : Bool)
  | integer (value : Int)
  | float (value : Binary64)
  | string (value : String)
deriving DecidableEq, Repr

namespace Datum

def isNullWord (text : String) : Bool := ["null", "Null", "NULL", "~"].contains text

def boolean? (text : String) : Option Bool :=
  if ["true", "True", "TRUE"].contains text then some true
  else if ["false", "False", "FALSE"].contains text then some false
  else none

def baseMark? : List Char → Option (Nat × List Char)
  | '0' :: 'x' :: rest => some (16, rest)
  | '0' :: 'o' :: rest => some (8, rest)
  | '0' :: 'b' :: rest => some (2, rest)
  | _ => none

def isSign (c : Char) : Bool := c == '+' || c == '-'

/-- Decimal digits that start with a superfluous zero, after an optional sign. They are no number. -/
def hasLeadingZero (text : List Char) : Bool :=
  let unsigned := if text.head?.any isSign then text.tail else text
  match unsigned with
  | '0' :: c :: rest => (c :: rest).all Digits.isDecimal
  | _ => false

def magnitude? (text : List Char) : Option Nat :=
  match baseMark? text with
  | some (base, digits) => Digits.read? base digits
  | none => Digits.read? 10 text

def integer? (text : List Char) : Option Int :=
  if hasLeadingZero text then none
  else
    match text with
    | '-' :: unsigned =>
      (magnitude? unsigned).bind fun value =>
        if value ≤ 0x80000000000000000000000000000000 then some (-(value : Int)) else none
    | _ =>
      let unsigned := if text.head? == some '+' then text.tail else text
      (magnitude? unsigned).bind fun value =>
        if value < 0x100000000000000000000000000000000 then some (value : Int) else none

def exponent? : List Char → Option Int
  | [] => some 0
  | mark :: rest =>
    if mark == 'e' || mark == 'E' then
      match rest with
      | '-' :: digits => (Digits.read? 10 digits).map fun value => -(value : Int)
      | '+' :: digits => (Digits.read? 10 digits).map fun value => (value : Int)
      | digits => (Digits.read? 10 digits).map fun value => (value : Int)
    else none

/-- A number in decimal, with a point, an exponent, both or neither, and at least one digit apart from
the exponent's. -/
def decimal? (negative : Bool) (text : List Char) : Option Binary64 :=
  let whole := text.takeWhile Digits.isDecimal
  let rest := text.dropWhile Digits.isDecimal
  let (fraction, rest) :=
    match rest with
    | '.' :: rest => (rest.takeWhile Digits.isDecimal, rest.dropWhile Digits.isDecimal)
    | _ => ([], rest)
  (exponent? rest).bind fun exponent =>
    (Digits.read? 10 (whole ++ fraction)).bind fun digits =>
      Binary64.ofDecimal? negative digits (exponent - fraction.length)

def isInfinityWord (text : List Char) : Bool :=
  [".inf", ".Inf", ".INF"].contains (String.ofList text)

def isNanWord (text : List Char) : Bool :=
  [".nan", ".NaN", ".NAN"].contains (String.ofList text)

def float? (text : List Char) : Option Binary64 :=
  if isNanWord text then some .notANumber
  else
    match text with
    | '-' :: unsigned =>
      if isInfinityWord unsigned then some (.infinite true) else decimal? true unsigned
    | '+' :: unsigned =>
      if isInfinityWord unsigned then some (.infinite false) else decimal? false unsigned
    | _ => if isInfinityWord text then some (.infinite false) else decimal? false text

def ofPlain (text : String) : Datum :=
  if text.isEmpty || isNullWord text then null
  else
    match boolean? text with
    | some value => boolean value
    | none =>
      match integer? text.toList with
      | some value => integer value
      | none =>
        if hasLeadingZero text.toList then string text
        else ((float? text.toList).map float).getD (string text)

inductive CoreType where
  | boolean | integer | float | null
deriving DecidableEq, Repr

namespace CoreType

def ofTag? (tag : Octets) : Option CoreType :=
  if tag = octets "tag:yaml.org,2002:bool".toList then some boolean
  else if tag = octets "tag:yaml.org,2002:int".toList then some integer
  else if tag = octets "tag:yaml.org,2002:float".toList then some float
  else if tag = octets "tag:yaml.org,2002:null".toList then some null
  else none

def description : CoreType → String
  | boolean => "a boolean"
  | integer => "an integer"
  | float => "a float"
  | null => "null"

def read? (type : CoreType) (text : String) : Option Datum :=
  match type with
  | boolean => (boolean? text).map .boolean
  | integer => (integer? text.toList).map .integer
  | float => (float? text.toList).map .float
  | null => if isNullWord text then some .null else none

end CoreType

/-- What a scalar stands for; the type that was asked for when the text is none of it. A tag that is
not looked at leaves the style to decide. -/
def ofScalar (tag : Option Octets) (text : String) (style : ScalarStyle) : Except CoreType Datum :=
  let bare := if style = .plain then ofPlain text else string text
  match tag with
  | none => .ok bare
  | some tag =>
    match CoreType.ofTag? tag with
    | some type =>
      match type.read? text with
      | some datum => .ok datum
      | none => .error type
    | none => .ok (if tag.head? == some 0x21 then bare else string text)

end Datum

end TargetGraph.Yaml

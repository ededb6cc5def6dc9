import TargetGraph.Number

/-!
JSON values and their two written forms: without any spaces, and laid out with two spaces for each
level. Characters outside ASCII are written as they are.
-/
set_option autoImplicit false

namespace TargetGraph

inductive Json where
  | null
  | number (value : Nat)
  | string (value : String)
  | array (items : List Json)
  | object (members : List (String × Json))
deriving Repr, Inhabited

namespace Json

def hexDigit (value : Nat) : Char := Nat.digitChar value

def escapeChar (c : Char) : List Char :=
  if c = '\x22' then ['\\', '\x22']
  else if c = '\\' then ['\\', '\\']
  else if c = '\x08' then ['\\', 'b']
  else if c = '\x0c' then ['\\', 'f']
  else if c = '\n' then ['\\', 'n']
  else if c = '\x0d' then ['\\', 'r']
  else if c = '\t' then ['\\', 't']
  else if c.toNat < 0x20 then
    ['\\', 'u', '0', '0', hexDigit (c.toNat / 16), hexDigit (c.toNat % 16)]
  else [c]

def escape (text : List Char) : List Char := text.flatMap escapeChar

def quote (text : String) : List Char := '\x22' :: (escape text.toList ++ ['\x22'])

mutual

def compactChars : Json → List Char
  | null => "null".toList
  | number value => Digits.write value
  | string value => quote value
  | array items => '[' :: (compactItems items ++ [']'])
  | object members => '{' :: (compactMembers members ++ ['}'])

def compactItems : List Json → List Char
  | [] => []
  | [item] => compactChars item
  | item :: next :: rest => compactChars item ++ ',' :: compactItems (next :: rest)

def compactMembers : List (String × Json) → List Char
  | [] => []
  | [(key, value)] => quote key ++ ':' :: compactChars value
  | (key, value) :: next :: rest =>
    quote key ++ ':' :: (compactChars value ++ ',' :: compactMembers (next :: rest))

end

def compact (value : Json) : String := String.ofList value.compactChars

def lineBreak (level : Nat) : List Char := '\n' :: List.replicate (2 * level) ' '

mutual

def prettyChars (level : Nat) : Json → List Char
  | null => "null".toList
  | number value => Digits.write value
  | string value => quote value
  | array [] => ['[', ']']
  | array (item :: rest) =>
    '[' :: (prettyItems (level + 1) (item :: rest) ++ lineBreak level ++ [']'])
  | object [] => ['{', '}']
  | object (member :: rest) =>
    '{' :: (prettyMembers (level + 1) (member :: rest) ++ lineBreak level ++ ['}'])

def prettyItems (level : Nat) : List Json → List Char
  | [] => []
  | [item] => lineBreak level ++ prettyChars level item
  | item :: next :: rest =>
    lineBreak level ++ prettyChars level item ++ ',' :: prettyItems level (next :: rest)

def prettyMembers (level : Nat) : List (String × Json) → List Char
  | [] => []
  | [(key, value)] => lineBreak level ++ quote key ++ ':' :: ' ' :: prettyChars level value
  | (key, value) :: next :: rest =>
    lineBreak level ++ quote key ++ ':' :: ' ' ::
      (prettyChars level value ++ ',' :: prettyMembers level (next :: rest))

end

/-- The text with one item or member on a line; empty lists and objects stay closed. -/
def pretty (value : Json) : String := String.ofList (value.prettyChars 0)

end Json

end TargetGraph

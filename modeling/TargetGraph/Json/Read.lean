import TargetGraph.Json

/-!
JSON texts, read back for the values that are written here: no booleans, and no numbers with a sign, a
fraction or an exponent. A text is cut into tokens one character after the other, and the value is put
together one token after the other. A character that is written as two codes is not read.
-/
set_option autoImplicit false

namespace TargetGraph.Json

inductive Token where
  | openList
  | closeList
  | openObject
  | closeObject
  | comma
  | colon
  | null
  | number (value : Nat)
  | string (text : String)
deriving DecidableEq, Repr

def isBlank (c : Char) : Bool := c = ' ' || c = '\t' || c = '\n' || c = '\x0d'

def mark? : Char → Option Token
  | '[' => some .openList
  | ']' => some .closeList
  | '\x7b' => some .openObject
  | '\x7d' => some .closeObject
  | ',' => some .comma
  | ':' => some .colon
  | _ => none

def escaped? : Char → Option Char
  | '\x22' => some '\x22'
  | '\\' => some '\\'
  | '/' => some '/'
  | 'b' => some '\x08'
  | 'f' => some '\x0c'
  | 'n' => some '\n'
  | 'r' => some '\x0d'
  | 't' => some '\t'
  | _ => none

/-- A place between two characters. Inside a string, what has been read of it is kept backwards. -/
inductive Place where
  | between
  | word (next : Char) (later : List Char)
  | digits (value : Nat)
  | text (read : List Char)
  | escape (read : List Char)
  | code (missing value : Nat) (read : List Char)
deriving DecidableEq, Repr

namespace Place

def start (c : Char) : Option (List Token × Place) :=
  if isBlank c then some ([], between)
  else if c = '\x22' then some ([], text [])
  else if c = 'n' then some ([], word 'u' ['l', 'l'])
  else match mark? c with
    | some mark => some ([mark], between)
    | none => (Digits.digit? 10 c).map fun digit => ([], digits digit)

/-- The tokens that end with a character or before it, and the place behind it. A number ends with the
first character that is no digit, and starts with 0 only if it is 0. -/
def step : Place → Char → Option (List Token × Place)
  | between, c => start c
  | word next later, c =>
    if c ≠ next then none
    else match later with
      | [] => some ([.null], between)
      | next :: later => some ([], word next later)
  | digits value, c =>
    match Digits.digit? 10 c with
    | some digit => if value = 0 then none else some ([], digits (value * 10 + digit))
    | none => (start c).map fun (found, place) => (.number value :: found, place)
  | text read, c =>
    if c = '\x22' then some ([.string (String.ofList read.reverse)], between)
    else if c = '\\' then some ([], escape read)
    else if c.toNat < 0x20 then none
    else some ([], text (c :: read))
  | escape read, c =>
    if c = 'u' then some ([], code 4 0 read)
    else (escaped? c).map fun meant => ([], text (meant :: read))
  | code missing value read, c => do
    let digit ← Digits.digit? 16 c
    let code := value * 16 + digit
    if 1 < missing then some ([], .code (missing - 1) code read)
    else if code.isValidChar then some ([], text (Char.ofNat code :: read))
    else none

def finish : Place → Option (List Token)
  | between => some []
  | digits value => some [.number value]
  | _ => none

end Place

def tokensFrom : Place → List Char → Option (List Token)
  | place, [] => place.finish
  | place, c :: rest => do
    let (found, next) ← place.step c
    let later ← tokensFrom next rest
    some (found ++ later)

/-- A value that has been opened and not closed, with what it has got so far, the last first. -/
inductive Frame where
  | list (items : List Json)
  | object (members : List (String × Json))
  | member (members : List (String × Json)) (key : String)

inductive Awaited where
  | value
  | key
  | colon
  | behind (value : Json)

structure Building where
  awaited : Awaited
  frames : List Frame

namespace Building

/-- A list may be closed in place of its first item, and only there. -/
def stepValue : List Frame → Token → Option Building
  | frames, .null => some ⟨.behind .null, frames⟩
  | frames, .number value => some ⟨.behind (.number value), frames⟩
  | frames, .string text => some ⟨.behind (.string text), frames⟩
  | frames, .openList => some ⟨.value, .list [] :: frames⟩
  | frames, .openObject => some ⟨.key, .object [] :: frames⟩
  | .list [] :: frames, .closeList => some ⟨.behind (.array []), frames⟩
  | _, _ => none

def stepKey : List Frame → Token → Option Building
  | .object members :: frames, .string key => some ⟨.colon, .member members key :: frames⟩
  | .object [] :: frames, .closeObject => some ⟨.behind (.object []), frames⟩
  | _, _ => none

def stepBehind (value : Json) : List Frame → Token → Option Building
  | .list items :: frames, .comma => some ⟨.value, .list (value :: items) :: frames⟩
  | .list items :: frames, .closeList => some ⟨.behind (.array (value :: items).reverse), frames⟩
  | .member members key :: frames, .comma =>
    some ⟨.key, .object ((key, value) :: members) :: frames⟩
  | .member members key :: frames, .closeObject =>
    some ⟨.behind (.object ((key, value) :: members).reverse), frames⟩
  | _, _ => none

def step : Building → Token → Option Building
  | ⟨.value, frames⟩, token => stepValue frames token
  | ⟨.key, frames⟩, token => stepKey frames token
  | ⟨.colon, frames⟩, .colon => some ⟨.value, frames⟩
  | ⟨.colon, _⟩, _ => none
  | ⟨.behind value, frames⟩, token => stepBehind value frames token

def finish : Building → Option Json
  | ⟨.behind value, []⟩ => some value
  | _ => none

end Building

def ofTokens? (tokens : List Token) : Option Json := do
  let built ← tokens.foldlM Building.step ⟨.value, []⟩
  built.finish

def read? (text : String) : Option Json := do
  let tokens ← tokensFrom .between text.toList
  ofTokens? tokens

end TargetGraph.Json

import TargetGraph.Json.Read
import TargetGraph.Proofs.Lists

/-!
# The grammar of JSON texts

A text is a value's when it spells the tokens of the value in order, with any blanks between them. Each
token has its ways of being spelled, a string those of its characters, and the way in which it is written
here is one of them. A row of tokens may be followed by another one, except by a digit behind a number.
-/

namespace TargetGraph.Json

set_option autoImplicit false

mutual

/-- What a value is made of, without any spelling. -/
def tokens : Json → List Token
  | null => [.null]
  | number value => [.number value]
  | string value => [.string value]
  | array items => .openList :: (itemTokens items ++ [.closeList])
  | object members => .openObject :: (memberTokens members ++ [.closeObject])

def itemTokens : List Json → List Token
  | [] => []
  | [item] => tokens item
  | item :: next :: rest => tokens item ++ .comma :: itemTokens (next :: rest)

def memberTokens : List (String × Json) → List Token
  | [] => []
  | [(key, value)] => .string key :: .colon :: tokens value
  | (key, value) :: next :: rest =>
    .string key :: .colon :: (tokens value ++ .comma :: memberTokens (next :: rest))

end

inductive Spells (c : Char) : List Char → Prop where
  | bare (visible : 0x20 ≤ c.toNat) (quoteless : c ≠ '\x22') (slashless : c ≠ '\\') : Spells c [c]
  | letter (letter : Char) (known : escaped? letter = some c) : Spells c ['\\', letter]
  | code (digits : List Char) (four : digits.length = 4)
      (value : Digits.read? 16 digits = some c.toNat) : Spells c ('\\' :: 'u' :: digits)

namespace Token

inductive Spelled : Token → List Char → Prop where
  | mark (c : Char) (token : Token) (known : mark? c = some token) : Spelled token [c]
  | null : Spelled .null ['n', 'u', 'l', 'l']
  | number (value : Nat) : Spelled (.number value) (Digits.write value)
  | string (text : String) (parts : List (List Char))
      (each : List.Forall₂ Spells text.toList parts) :
      Spelled (.string text) ('\x22' :: (parts.flatten ++ ['\x22']))

def written : Token → List Char
  | openList => ['[']
  | closeList => [']']
  | openObject => ['\x7b']
  | closeObject => ['\x7d']
  | comma => [',']
  | colon => [':']
  | null => "null".toList
  | number value => Digits.write value
  | string text => quote text

def isNumber : Token → Bool
  | number _ => true
  | _ => false

end Token

def Ended (text : List Char) : Prop := ∀ c ∈ text.head?, c.isDigit = false

/-- Tokens in a row, each spelled in one of its ways, with gaps between them and at both ends. -/
inductive LaidOut (gap : Char → Prop) (spelled : Token → List Char → Prop) :
    List Token → List Char → Prop where
  | nil : LaidOut gap spelled [] []
  | gap {c : Char} {tokens : List Token} {text : List Char} (between : gap c)
      (rest : LaidOut gap spelled tokens text) : LaidOut gap spelled tokens (c :: text)
  | token {token : Token} {part : List Char} {tokens : List Token} {text : List Char}
      (own : spelled token part) (apart : token.isNumber = true → Ended text)
      (rest : LaidOut gap spelled tokens text) : LaidOut gap spelled (token :: tokens) (part ++ text)

/-- A text is well-formed and means a value. -/
def IsText (value : Json) (text : String) : Prop :=
  LaidOut (isBlank ·) Token.Spelled value.tokens text.toList

theorem member_smaller {members : List (String × Json)} {member : String × Json}
    (among : member ∈ members) : sizeOf member.2 < 1 + sizeOf members := by
  have inside := List.sizeOf_lt_of_mem among
  have parts : sizeOf member = 1 + sizeOf member.1 + sizeOf member.2 := rfl
  omega

/-- What holds of the values without parts, and of lists and objects if it holds of what is in them. -/
theorem nested_induction {motive : Json → Prop} (null : motive .null)
    (number : ∀ value, motive (.number value)) (string : ∀ text, motive (.string text))
    (array : ∀ items, (∀ item ∈ items, motive item) → motive (.array items))
    (object : ∀ members, (∀ member ∈ members, motive member.2) → motive (.object members)) :
    ∀ value, motive value
  | .null => null
  | .number value => number value
  | .string text => string text
  | .array items => array items fun item _ =>
      nested_induction null number string array object item
  | .object members => object members fun member among =>
      have := member_smaller among
      nested_induction null number string array object member.2

inductive EscapeForm (c : Char) : List Char → Prop where
  | letter (letter : Char) (known : escaped? letter = some c) : EscapeForm c ['\\', letter]
  | code (control : c.toNat < 0x20) :
      EscapeForm c ['\\', 'u', '0', '0', hexDigit (c.toNat / 16), hexDigit (c.toNat % 16)]
  | bare (visible : 0x20 ≤ c.toNat) (quoteless : c ≠ '\x22') (slashless : c ≠ '\\') :
      EscapeForm c [c]

theorem escape_char_form (c : Char) : EscapeForm c (escapeChar c) := by
  unfold escapeChar
  split
  case isTrue same => subst same; exact .letter '\x22' rfl
  split
  case isTrue same => subst same; exact .letter '\\' rfl
  split
  case isTrue same => subst same; exact .letter 'b' rfl
  split
  case isTrue same => subst same; exact .letter 'f' rfl
  split
  case isTrue same => subst same; exact .letter 'n' rfl
  split
  case isTrue same => subst same; exact .letter 'r' rfl
  split
  case isTrue same => subst same; exact .letter 't' rfl
  split
  case isTrue control => exact .code control
  case isFalse quoteless slashless _ _ _ _ _ visible =>
    exact .bare (Nat.le_of_not_lt visible) quoteless slashless

theorem control_code : ∀ value < 0x20,
    Digits.read? 16 ['0', '0', hexDigit (value / 16), hexDigit (value % 16)] = some value := by
  decide

theorem escape_char_spells (c : Char) : Spells c (escapeChar c) := by
  have form := escape_char_form c
  generalize escapeChar c = written at form
  cases form with
  | letter letter known => exact .letter letter known
  | code control => exact .code _ rfl (control_code c.toNat control)
  | bare visible quoteless slashless => exact .bare visible quoteless slashless

theorem Token.written_spelled (token : Token) : token.Spelled token.written := by
  cases token with
  | openList => exact .mark '[' _ rfl
  | closeList => exact .mark ']' _ rfl
  | openObject => exact .mark '\x7b' _ rfl
  | closeObject => exact .mark '\x7d' _ rfl
  | comma => exact .mark ',' _ rfl
  | colon => exact .mark ':' _ rfl
  | null => exact .null
  | number value => exact .number value
  | string text =>
      have each : List.Forall₂ Spells text.toList (text.toList.map escapeChar) := by
        rw [List.forall₂_map_right_iff, List.forall₂_same]
        intro c _
        exact escape_char_spells c
      have spelled := Spelled.string text _ each
      rwa [← List.flatMap_def] at spelled

theorem Ended.append {text more : List Char} (own : Ended text) (behind : Ended more) :
    Ended (text ++ more) := by
  cases text with
  | nil => exact behind
  | cons c text => exact own

namespace LaidOut

variable {gap : Char → Prop} {spelled : Token → List Char → Prop}

theorem imp {gap' : Char → Prop} {spelled' : Token → List Char → Prop} {tokens : List Token}
    {text : List Char} (gaps : ∀ c, gap c → gap' c)
    (ways : ∀ token part, spelled token part → spelled' token part)
    (laid : LaidOut gap spelled tokens text) : LaidOut gap' spelled' tokens text := by
  induction laid with
  | nil => exact .nil
  | gap between _ induction => exact .gap (gaps _ between) induction
  | token own apart _ induction => exact .token (ways _ _ own) apart induction

/-- A last number of the first tokens ends where the others start. -/
theorem append {first second : List Token} {text more : List Char}
    (laid : LaidOut gap spelled first text) (behind : LaidOut gap spelled second more)
    (ended : Ended more) : LaidOut gap spelled (first ++ second) (text ++ more) := by
  induction laid with
  | nil => exact behind
  | gap between _ induction => exact .gap between induction
  | token own apart _ induction =>
      rw [List.append_assoc]
      exact .token own (fun number => (apart number).append ended) induction

theorem blanks {tokens : List Token} {before text : List Char} (between : ∀ c ∈ before, gap c)
    (laid : LaidOut gap spelled tokens text) : LaidOut gap spelled tokens (before ++ text) := by
  induction before with
  | nil => exact laid
  | cons c before induction =>
      rw [List.forall_mem_cons] at between
      exact .gap between.1 (induction between.2)

end LaidOut

/-- Tokens as they are written here, with the given gaps. -/
abbrev Written (gap : Char → Prop) : List Token → List Char → Prop :=
  LaidOut gap fun token part => part = token.written

namespace Written

variable {gap : Char → Prop}

theorem single (token : Token) : Written gap [token] token.written := by
  have laid : Written gap [token] (token.written ++ []) :=
    .token rfl (fun _ => by simp [Ended]) .nil
  rwa [List.append_nil] at laid

theorem cons (token : Token) (unnumbered : token.isNumber = false) {tokens : List Token}
    {text : List Char} (laid : Written gap tokens text) :
    Written gap (token :: tokens) (token.written ++ text) :=
  .token rfl (fun number => by simp [unnumbered] at number) laid

theorem separated {Item : Type} {tokens : Item → List Token} {write : Item → List Char}
    {items : List Item} (each : ∀ item ∈ items, Written gap (tokens item) (write item)) :
    Written gap ([Token.comma].intercalate (items.map tokens))
      ([','].intercalate (items.map write)) := by
  cases items with
  | nil => exact .nil
  | cons item items =>
      induction items generalizing item with
      | nil => simpa using each item
      | cons next items induction =>
          have later := induction next fun other among => each other (by simp [List.mem_cons.mp among])
          simp only [List.map_cons, List.intercalate_cons_cons, List.append_assoc]
          apply LaidOut.append (each item (by simp))
          · exact cons .comma rfl later
          · simp [Ended]

end Written

end TargetGraph.Json

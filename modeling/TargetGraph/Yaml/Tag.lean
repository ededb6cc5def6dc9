import TargetGraph.Number
import TargetGraph.Yaml.Fault
import TargetGraph.Yaml.Token

/-!
The written parts of tags: handles between exclamation marks, and the characters of URIs with percent
escapes. Escapes must spell sequences that have the outer form of UTF-8.
-/
set_option autoImplicit false

namespace TargetGraph.Yaml

/-- Punctuation that a tag may hold. Brackets and commas are tag characters only where a closing mark
shows the tag's end. -/
def isTagChar (bracketed : Bool) (c : Char) : Bool :=
  isWordChar c || ";/?:@&=+$.%!~*'()".toList.contains c ||
    (bracketed && (c == ',' || c == '[' || c == ']'))

def followers? (lead : Nat) : Option Nat :=
  if lead < 0x80 then some 0
  else if lead < 0xC0 then none
  else if lead < 0xE0 then some 1
  else if lead < 0xF0 then some 2
  else if lead < 0xF8 then some 3
  else none

/-- Reads tag characters as far as they go. So many bytes of the character that an escape started
must still follow, each of them escaped. -/
def scanTagChars (bracketed : Bool) : List Char → Mark → Nat → Except Fault (Octets × Cursor)
  | [], mark, pending => if pending = 0 then .ok ([], ⟨[], mark⟩) else .error .badTag
  | c :: rest, mark, pending =>
    if c = '%' then
      match rest with
      | high :: low :: rest =>
        match Digits.hexadecimal? high, Digits.hexadecimal? low with
        | some high, some low =>
          let byte := high * 16 + low
          let pending? :=
            if pending = 0 then followers? byte
            else if 0x80 ≤ byte ∧ byte < 0xC0 then some (pending - 1)
            else none
          match pending? with
          | none => .error .badTag
          | some pending => do
            let (bytes, cursor) ← scanTagChars bracketed rest (mark.shift 3) pending
            .ok (UInt8.ofNat byte :: bytes, cursor)
        | _, _ => .error .badTag
      | _ => .error .badTag
    else if pending ≠ 0 then .error .badTag
    else if isTagChar bracketed c then do
      let (bytes, cursor) ← scanTagChars bracketed rest (mark.after c) 0
      .ok (UInt8.ofNat c.toNat :: bytes, cursor)
    else .ok ([], ⟨c :: rest, mark⟩)

/-- The bytes before the first zero byte, which ends a tag. -/
def beforeZero (bytes : Octets) : Octets := bytes.takeWhile fun byte => byte != 0

def scanHandle (cursor : Cursor) : Except Fault (List Char × Cursor) :=
  match cursor.rest with
  | '!' :: _ =>
    let (word, cursor) := cursor.next.take isWordChar
    match cursor.rest with
    | '!' :: _ => .ok ('!' :: (word ++ ['!']), cursor.next)
    | _ => .ok ('!' :: word, cursor)
  | _ => .error .badTag

/-- Reads a tag from its exclamation mark on. A tag in angle brackets has no handle, and a lone mark is
a suffix; a word that no second mark follows belongs to the suffix of the primary handle. -/
def scanTag (inFlow : Bool) (cursor : Cursor) : Except Fault (Token.Kind × Cursor) := do
  let (kind, cursor) ←
    match cursor.rest with
    | '!' :: '<' :: rest => do
      let (suffix, cursor) ← scanTagChars true rest (cursor.mark.shift 2) 0
      match suffix, cursor.rest with
      | _ :: _, '>' :: _ => .ok (Token.Kind.tag [] (beforeZero suffix), cursor.next)
      | _, _ => .error .badTag
    | _ => do
      let (handle, cursor) ← scanHandle cursor
      let (tail, cursor) ← scanTagChars false cursor.rest cursor.mark 0
      if 1 < handle.length && handle.getLast? == some '!' then
        if tail.isEmpty then .error .badTag
        else .ok (Token.Kind.tag (octets handle) (beforeZero tail), cursor)
      else
        let suffix := beforeZero (octets handle.tail ++ tail)
        let kind := if suffix.isEmpty then Token.Kind.tag [] (octets ['!'])
          else Token.Kind.tag (octets ['!']) suffix
        .ok (kind, cursor)
  if atBlankOrEnd cursor.rest || (inFlow && cursor.rest.head? == some ',') then .ok (kind, cursor)
  else .error .badTag

end TargetGraph.Yaml

import TargetGraph.Text.Utf8

/-!
Characters of a YAML stream: which may occur at all, which end lines, and where each stands. The
line breaks CR, CR LF and U+0085 are read as LF, so that after `unifyBreaks` only LF and the two
Unicode separators end a line.
-/
set_option autoImplicit false

namespace TargetGraph.Yaml

def byteOrderMark : Char := '\uFEFF'

/-- The characters a stream may hold; most controls are excluded, also inside quotes. -/
def isAllowed (c : Char) : Bool :=
  let code := c.toNat
  c == '\t' || c == '\n' || c == '\x0d' || decide (0x20 ≤ code ∧ code ≤ 0x7E) || code == 0x85 ||
    decide (0xA0 ≤ code ∧ code ≤ 0xFFFD) || decide (0x10000 ≤ code)

def unifyBreaks : List Char → List Char
  | [] => []
  | c :: rest =>
    if c = '\x0d' then
      match rest with
      | [] => ['\n']
      | next :: rest =>
        if next = '\n' then '\n' :: unifyBreaks rest else '\n' :: unifyBreaks (next :: rest)
    else if c = '\u0085' then '\n' :: unifyBreaks rest
    else c :: unifyBreaks rest

def isBreak (c : Char) : Bool := c == '\n' || c == '\u2028' || c == '\u2029'

def isBlank (c : Char) : Bool := c == ' ' || c == '\t'

def isWordChar (c : Char) : Bool :=
  ('a' ≤ c && c ≤ 'z') || ('A' ≤ c && c ≤ 'Z') || ('0' ≤ c && c ≤ '9') || c == '_' || c == '-'

def atBlankOrEnd : List Char → Bool
  | [] => true
  | c :: _ => isBlank c || isBreak c

def atLineEnd : List Char → Bool
  | [] => true
  | c :: _ => isBreak c

/-- Where a character stands: its line and its column in that line, counted from 0, and the number of
bytes before it. The bytes of two marks are compared within a line only. -/
structure Mark where
  line : Nat
  column : Nat
  offset : Nat
deriving DecidableEq, Repr, Inhabited

namespace Mark

def start : Mark := ⟨0, 0, 0⟩

def after (mark : Mark) (c : Char) : Mark :=
  let offset := mark.offset + Text.Utf8.width c
  if isBreak c then ⟨mark.line + 1, 0, offset⟩ else ⟨mark.line, mark.column + 1, offset⟩

def shift (mark : Mark) (columns : Nat) : Mark :=
  ⟨mark.line, mark.column + columns, mark.offset + columns⟩

def nextLine (mark : Mark) : Mark := ⟨mark.line + 1, 0, mark.offset⟩

end Mark

structure Cursor where
  rest : List Char
  mark : Mark
deriving DecidableEq, Repr, Inhabited

namespace Cursor

def next (cursor : Cursor) : Cursor :=
  match cursor.rest with
  | [] => cursor
  | c :: rest => ⟨rest, cursor.mark.after c⟩

def skip (among : Char → Bool) (cursor : Cursor) : Cursor := go cursor.rest cursor.mark
where
  go : List Char → Mark → Cursor
    | [], mark => ⟨[], mark⟩
    | c :: rest, mark => if among c then go rest (mark.after c) else ⟨c :: rest, mark⟩

def take (among : Char → Bool) (cursor : Cursor) : List Char × Cursor :=
  (cursor.rest.takeWhile among, cursor.skip among)

def skipBlanks (cursor : Cursor) : Cursor := cursor.skip isBlank

/-- Passes over blanks and a comment. The result is at a line break or the end unless something
else stands on the line. -/
def skipLineTail (cursor : Cursor) : Cursor :=
  let cursor := cursor.skipBlanks
  match cursor.rest with
  | '#' :: _ => cursor.skip fun c => !isBreak c
  | _ => cursor

end Cursor

/-- Three hyphens or three full stops, followed by a blank, a line break or the end. Such a line
start separates documents. -/
def atDocumentMark : List Char → Bool
  | a :: b :: c :: rest =>
    ((a == '-' && b == '-' && c == '-') || (a == '.' && b == '.' && c == '.')) && atBlankOrEnd rest
  | _ => false

end TargetGraph.Yaml

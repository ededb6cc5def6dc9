import TargetGraph.Number
import TargetGraph.Yaml.Scalar.Plain

/-!
Scalars in quotes. Between single quotes a quote is written twice; between double quotes a backslash
starts an escape, and an escaped line break is dropped together with the blanks after it.
-/
set_option autoImplicit false

namespace TargetGraph.Yaml

def scanSingleQuoted : List Char → Mark → Gap → List Char → Except Fault ScannedScalar
  | [], _, _, _ => .error .unclosedQuote
  | c :: rest, mark, gap, text =>
    if isBlank c || isBreak c then scanSingleQuoted rest (mark.after c) (gap.push c) text
    else if mark.column == 0 && atDocumentMark (c :: rest) then .error .documentMarkInQuotes
    else
      let text := gap.fold.reverse ++ text
      if c = '\x27' then
        match rest with
        | '\x27' :: rest => scanSingleQuoted rest (mark.shift 2) .none ('\x27' :: text)
        | rest => .ok ⟨text.reverse, ⟨rest, mark.shift 1⟩⟩
      else scanSingleQuoted rest (mark.after c) .none (c :: text)

def simpleEscape? : Char → Option Char
  | '0' => some '\x00'
  | 'a' => some '\x07'
  | 'b' => some '\x08'
  | 't' => some '\t'
  | '\t' => some '\t'
  | 'n' => some '\n'
  | 'v' => some '\x0b'
  | 'f' => some '\x0c'
  | 'r' => some '\x0d'
  | 'e' => some '\x1b'
  | ' ' => some ' '
  | '\x22' => some '\x22'
  | '/' => some '/'
  | '\\' => some '\\'
  | 'N' => some '\u0085'
  | '_' => some '\u00a0'
  | 'L' => some '\u2028'
  | 'P' => some '\u2029'
  | _ => none

def codeLength? : Char → Option Nat
  | 'x' => some 2
  | 'u' => some 4
  | 'U' => some 8
  | _ => none

/-- The place within a double-quoted scalar: in its text, after a backslash, or in the digits of a
code, of which some number are still to come. -/
inductive QuotedMode where
  | text
  | escape
  | code (digits : Nat) (value : Nat)
deriving DecidableEq, Repr

/-- Reads what follows an opening double quote. The text so far is kept backwards. -/
def scanDoubleQuoted : List Char → Mark → QuotedMode → Gap → List Char → Except Fault ScannedScalar
  | [], _, _, _, _ => .error .unclosedQuote
  | c :: rest, mark, .text, gap, text =>
    if isBlank c || isBreak c then scanDoubleQuoted rest (mark.after c) .text (gap.push c) text
    else if mark.column == 0 && atDocumentMark (c :: rest) then .error .documentMarkInQuotes
    else
      let text := gap.fold.reverse ++ text
      if c = '\x22' then .ok ⟨text.reverse, ⟨rest, mark.shift 1⟩⟩
      else if c = '\\' then scanDoubleQuoted rest (mark.after c) .escape .none text
      else scanDoubleQuoted rest (mark.after c) .text .none (c :: text)
  | c :: rest, mark, .escape, _, text =>
    if isBreak c then scanDoubleQuoted rest (mark.after c) .text (.breaks .none []) text
    else
      match simpleEscape? c, codeLength? c with
      | some meant, _ => scanDoubleQuoted rest (mark.after c) .text .none (meant :: text)
      | none, some digits => scanDoubleQuoted rest (mark.after c) (.code digits 0) .none text
      | none, none => .error .badEscape
  | c :: rest, mark, .code digits value, _, text =>
    match Digits.hexadecimal? c with
    | none => .error .badEscape
    | some digit =>
      let value := value * 16 + digit
      if 1 < digits then scanDoubleQuoted rest (mark.after c) (.code (digits - 1) value) .none text
      else if value.isValidChar then
        scanDoubleQuoted rest (mark.after c) .text .none (Char.ofNat value :: text)
      else .error .badEscape

end TargetGraph.Yaml

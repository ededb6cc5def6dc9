import TargetGraph.Proofs.FlowTokens
import TargetGraph.Proofs.JsonGrammar

/-!
# Names in double quotes

A string that is escaped as in JSON is read back as it was, character by character. Blanks are held back
until it is known that no line break follows them, so that what has been read is the text so far together
with the blanks that are held.
-/

namespace TargetGraph.Yaml

open Json (escape escapeChar hexDigit escape_char_form)

set_option autoImplicit false

/-- ASCII but for the last control, which may not stand in a stream and has no escape of its own. -/
def IsEscapable (c : Char) : Prop := c.toNat < 0x7F

instance (c : Char) : Decidable (IsEscapable c) := inferInstanceAs (Decidable (_ < _))

theorem hexadecimal_digit : ∀ digit < 16, Digits.hexadecimal? (hexDigit digit) = some digit := by
  decide

theorem hex_digit_printable : ∀ digit < 16, IsPrintable (hexDigit digit) := by decide

/-- The letters that JSON has behind a backslash mean the same here. -/
theorem simple_escape_known {letter meant : Char} (known : Json.escaped? letter = some meant) :
    simpleEscape? letter = some meant ∧ IsPrintable letter := by
  unfold Json.escaped? at known
  split at known <;> cases known <;> exact ⟨rfl, by decide⟩

theorem escape_char_printable {c : Char} (escapable : IsEscapable c) :
    ∀ written ∈ escapeChar c, IsPrintable written := by
  have limit : c.toNat < 0x7F := escapable
  have form := escape_char_form c
  generalize escapeChar c = written at form
  cases form with
  | letter letter known =>
      simp only [List.mem_cons, List.not_mem_nil, or_false]
      rintro written (rfl | rfl)
      · decide
      · exact (simple_escape_known known).2
  | code control =>
      have high := hex_digit_printable (c.toNat / 16) (by omega)
      have low := hex_digit_printable (c.toNat % 16) (by omega)
      simp only [List.mem_cons, List.not_mem_nil, or_false]
      rintro written (rfl | rfl | rfl | rfl | rfl | rfl) <;> first | assumption | decide
  | bare visible =>
      simp only [List.mem_singleton]
      rintro written rfl
      exact ⟨visible, by omega⟩

theorem escape_printable {text : List Char} (escapable : ∀ c ∈ text, IsEscapable c) :
    ∀ written ∈ escape text, IsPrintable written := by
  intro written member
  obtain ⟨c, among, inside⟩ := List.mem_flatMap.mp member
  exact escape_char_printable (escapable c among) written inside

section

variable (rest : List Char) (mark : Mark) (gap : Gap) (text : List Char)

theorem scan_digit {c : Char} {digit : Nat} (known : Digits.hexadecimal? c = some digit)
    (printable : IsPrintable c) (more value : Nat) :
    scanDoubleQuoted (c :: rest) mark (.code (more + 2) value) gap text =
      scanDoubleQuoted rest (mark.shift 1) (.code (more + 1) (value * 16 + digit)) .none text := by
  rw [scanDoubleQuoted, known, Mark.after_printable mark printable]
  simp

theorem scan_last_digit (meant : Char) {c : Char} {digit value : Nat}
    (known : Digits.hexadecimal? c = some digit) (printable : IsPrintable c)
    (code : value * 16 + digit = meant.toNat) :
    scanDoubleQuoted (c :: rest) mark (.code 1 value) gap text =
      scanDoubleQuoted rest (mark.shift 1) .text .none (meant :: text) := by
  have valid : meant.toNat.isValidChar := meant.valid
  rw [scanDoubleQuoted, known, Mark.after_printable mark printable]
  simp [code, valid, Char.ofNat_toNat]

end

section

variable (rest : List Char) {mark : Mark} (inside : mark.column ≠ 0) (held text : List Char)
include inside

theorem scan_backslash : scanDoubleQuoted ('\\' :: rest) mark .text (.blanks held) text =
    scanDoubleQuoted rest (mark.shift 1) .escape .none (held.reverse ++ text) := by
  rw [scanDoubleQuoted, Mark.after_printable mark (by decide : IsPrintable '\\')]
  simp [isBlank, isBreak, inside, Gap.fold]

theorem scan_simple_escape {letter meant : Char} (known : simpleEscape? letter = some meant)
    (printable : IsPrintable letter) :
    scanDoubleQuoted ('\\' :: letter :: rest) mark .text (.blanks held) text =
      scanDoubleQuoted rest (mark.shift 2) .text .none (meant :: (held.reverse ++ text)) := by
  rw [scan_backslash _ inside, scanDoubleQuoted, printable_no_break printable, known,
    Mark.after_printable _ printable, Mark.shift_shift]
  rfl

theorem scan_code_escape {c : Char} (control : c.toNat < 0x20) :
    scanDoubleQuoted ('\\' :: 'u' :: '0' :: '0' :: hexDigit (c.toNat / 16) :: hexDigit (c.toNat % 16) ::
        rest) mark .text (.blanks held) text =
      scanDoubleQuoted rest (mark.shift 6) .text .none (c :: (held.reverse ++ text)) := by
  have marker (rest : List Char) (mark : Mark) (text : List Char) :
      scanDoubleQuoted ('u' :: rest) mark .escape .none text =
        scanDoubleQuoted rest (mark.shift 1) (.code 4 0) .none text := by
    rw [scanDoubleQuoted, Mark.after_printable _ (by decide : IsPrintable 'u')]
    rfl
  have zero : Digits.hexadecimal? '0' = some 0 := rfl
  have high := hexadecimal_digit (c.toNat / 16) (by omega)
  have low := hexadecimal_digit (c.toNat % 16) (by omega)
  rw [scan_backslash _ inside, marker, scan_digit _ _ _ _ zero (by decide),
    scan_digit _ _ _ _ zero (by decide),
    scan_digit _ _ _ _ high (hex_digit_printable _ (by omega)),
    scan_last_digit _ _ _ _ c low (hex_digit_printable _ (by omega)) (by omega)]
  simp only [Mark.shift_shift]

/-- A bare character ends the blanks before it, or is one more of them. -/
theorem scan_bare {c : Char} (printable : IsPrintable c) (quoteless : c ≠ '\x22')
    (slashless : c ≠ '\\') :
    ∃ later read, later ++ read = c :: (held.reverse ++ text) ∧
      scanDoubleQuoted (c :: rest) mark .text (.blanks held) text =
        scanDoubleQuoted rest (mark.shift 1) .text (.blanks later.reverse) read := by
  by_cases blank : isBlank c
  · refine ⟨c :: held.reverse, text, rfl, ?_⟩
    rw [scanDoubleQuoted, Mark.after_printable mark printable]
    simp [blank, Gap.push, printable_no_break printable]
  · refine ⟨[], _, rfl, ?_⟩
    rw [scanDoubleQuoted, Mark.after_printable mark printable]
    simp [blank, printable_no_break printable, inside, quoteless, slashless, Gap.fold, Gap.none]

/-- However a character is written, it is read as itself, and what was held before it is kept. -/
theorem scan_escaped_char {c : Char} (escapable : IsEscapable c) :
    ∃ later read, later ++ read = c :: (held.reverse ++ text) ∧
      scanDoubleQuoted (escapeChar c ++ rest) mark .text (.blanks held) text =
        scanDoubleQuoted rest (mark.shift (escapeChar c).length) .text (.blanks later.reverse) read := by
  have limit : c.toNat < 0x7F := escapable
  have form := escape_char_form c
  generalize escapeChar c = written at form
  cases form with
  | letter letter known =>
      rcases simple_escape_known known with ⟨known, printable⟩
      exact ⟨[], _, rfl, scan_simple_escape rest inside held text known printable⟩
  | code control => exact ⟨[], _, rfl, scan_code_escape rest inside held text control⟩
  | bare visible quoteless slashless =>
      exact scan_bare rest inside held text ⟨visible, by omega⟩ quoteless slashless

end

theorem scan_escaped (name : List Char) (escapable : ∀ c ∈ name, IsEscapable c) (rest : List Char)
    {mark : Mark} (inside : mark.column ≠ 0) (held text : List Char) :
    scanDoubleQuoted (escape name ++ '\x22' :: rest) mark .text (.blanks held) text =
      .ok ⟨text.reverse ++ (held ++ name), ⟨rest, mark.shift ((escape name).length + 1)⟩⟩ := by
  induction name generalizing mark held text with
  | nil =>
      rw [escape, List.flatMap_nil, List.nil_append, scanDoubleQuoted]
      simp [isBlank, isBreak, inside, Gap.fold]
  | cons c name induction =>
      have later := fun other member => escapable other (List.mem_cons_of_mem c member)
      obtain ⟨kept, read, same, step⟩ :=
        scan_escaped_char (escape name ++ '\x22' :: rest) inside held text (escapable c (by simp))
      have moved : (mark.shift (escapeChar c).length).column ≠ 0 := by
        simp only [Mark.shift]
        omega
      have whole : read.reverse ++ kept.reverse = text.reverse ++ (held ++ [c]) := by
        rw [← List.reverse_append, same]
        simp
      rw [escape, List.flatMap_cons, List.append_assoc, ← escape, step, induction later moved,
        Mark.shift_shift, ← List.append_assoc, whole, List.length_append]
      simp [Nat.add_assoc]

/-- A name in quotes is read as one scalar wherever a token may start. -/
theorem Scanner.quoted_reads (name : String) (escapable : ∀ c ∈ name.toList, IsEscapable c)
    (inFlow : Bool) (text : List Char) :
    ReadsAs (Json.quote name) name .doubleQuoted inFlow text where
  solid := ⟨'\x22', _, rfl, by decide⟩
  read scanner here _ saved := by
    have inside : (scanner.mark.shift 1).column ≠ 0 := Nat.succ_ne_zero _
    have here : scanner.cursor.rest = '\x22' :: (escape name.toList ++ '\x22' :: text) := by
      rw [here, Json.quote, List.cons_append, List.append_assoc]
      rfl
    have next : scanner.cursor.next =
        ⟨escape name.toList ++ '\x22' :: text, scanner.mark.shift 1⟩ := by
      rw [Cursor.next, here]
      exact congrArg (Cursor.mk _) (Mark.after_printable _ (by decide))
    have read := scan_escaped name.toList escapable text inside [] []
    have quoted : scanner.dispatch = scanner.doubleQuoted := by
      rw [dispatch, here]
      simp
    have width : (Json.quote name).length = 1 + ((escape name.toList).length + 1) := by
      rw [Json.quote, List.length_cons, List.length_append]
      exact Nat.add_comm _ _
    rw [quoted, doubleQuoted, nodePart, saved, passScalar, width, ← Mark.shift_shift]
    change (Except.map (scalarToken .doubleQuoted) (scanDoubleQuoted scanner.cursor.next.rest
      scanner.cursor.next.mark .text (.blanks []) [])) >>= _ = _
    rw [next, read]
    simp only [scalarToken, List.reverse_nil, List.nil_append, String.ofList_toList, Except.map]
    rfl

end TargetGraph.Yaml

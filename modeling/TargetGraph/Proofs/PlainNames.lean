import TargetGraph.Proofs.FlowLists
import TargetGraph.Yaml.Value.Datum

/-!
# Names without quotes

A word is read as one plain scalar, inside a flow collection and as a key outside of one, and it is typed
as a string unless it is one of the words for null, true and false. What the characters of a word are not
is checked for each of them.
-/

namespace TargetGraph.Yaml

set_option autoImplicit false

def IsWord (name : String) : Prop :=
  name.toList.head?.any Char.isAlpha = true ∧ name.toList.all isWordChar = true

instance (name : String) : Decidable (IsWord name) := inferInstanceAs (Decidable (_ ∧ _))

def isTypedWord (name : String) : Bool :=
  ["null", "Null", "NULL", "true", "True", "TRUE", "false", "False", "FALSE"].contains name

theorem ascii_forall (wanted : Char → Prop) (all : ∀ code < 128, wanted (Char.ofNat code)) {c : Char}
    (ascii : c.toNat < 128) : wanted c := by
  have here := all c.toNat ascii
  rwa [Char.ofNat_toNat] at here

theorem word_char_ascii {c : Char} (word : isWordChar c = true) : c.toNat < 128 := by
  simp only [isWordChar, Bool.or_eq_true, Bool.and_eq_true, decide_eq_true_eq, beq_iff_eq,
    Char.le_def, UInt32.le_iff_toNat_le] at word
  have limits : 'z'.val.toNat = 122 ∧ 'Z'.val.toNat = 90 ∧ '9'.val.toNat = 57 := ⟨rfl, rfl, rfl⟩
  rcases word with (((⟨_, high⟩ | ⟨_, high⟩) | ⟨_, high⟩) | rfl) | rfl
  · exact Nat.lt_of_le_of_lt high (by omega)
  · exact Nat.lt_of_le_of_lt high (by omega)
  · exact Nat.lt_of_le_of_lt high (by omega)
  · decide
  · decide

/-- A character that neither ends a plain scalar nor separates its parts. -/
def IsInside (c : Char) : Prop :=
  IsPrintable c ∧ isBlank c = false ∧ isBreak c = false ∧ isFlowIndicator c = false ∧ c ≠ ':'

instance (c : Char) : Decidable (IsInside c) := inferInstanceAs (Decidable (_ ∧ _))

theorem word_char_inside {c : Char} (word : isWordChar c = true) : IsInside c :=
  ascii_forall (fun c => isWordChar c = true → IsInside c) (by decide +kernel) (word_char_ascii word)
    word

theorem letter_word_char {c : Char} (letter : c.isAlpha = true) : isWordChar c = true := by
  have cased : c.isUpper = true ∨ c.isLower = true := Bool.or_eq_true_iff.mp letter
  rcases cased with upper | lower
  · have capital : 'A' ≤ c ∧ c ≤ 'Z' := of_decide_eq_true upper
    simp [isWordChar, capital]
  · have small : ('a' ≤ c && c ≤ 'z') = true := lower
    rw [isWordChar, small]
    rfl

theorem letter_ascii {c : Char} (letter : c.isAlpha = true) : c.toNat < 128 :=
  word_char_ascii (letter_word_char letter)

theorem letter_solid {c : Char} (letter : c.isAlpha = true) : Scanner.IsSolid c :=
  ascii_forall (fun c => c.isAlpha = true → Scanner.IsSolid c) (by decide +kernel)
    (letter_ascii letter) letter

theorem letter_other {c : Char} (letter : c.isAlpha = true) {other : Char}
    (none : other.isAlpha = false) : (c == other) = false := by
  apply beq_false_of_ne
  rintro rfl
  rw [letter] at none
  cases none

theorem IsWord.starts {name : String} (word : IsWord name) :
    ∃ c rest, name.toList = c :: rest ∧ c.isAlpha = true := by
  have letter := word.1
  cases shape : name.toList with
  | nil => simp [shape] at letter
  | cons c rest => exact ⟨c, rest, rfl, by simpa [shape] using letter⟩

theorem IsWord.filled {name : String} (word : IsWord name) : name ≠ "" := by
  obtain ⟨c, rest, shape, _⟩ := word.starts
  rintro rfl
  cases shape

def StopsPlain (inFlow : Bool) (text : List Char) : Prop :=
  ∀ column mark read, scanPlain inFlow column text mark .none read =
    .ok ⟨read.reverse, ⟨text, mark⟩, false⟩

theorem stops_at_item_end {text : List Char} (ends : Scanner.EndsItem text) : StopsPlain true text := by
  obtain ⟨c, rest, rfl, indicator⟩ := ends
  intro column mark read
  have known : c = ',' ∨ c = '[' ∨ c = ']' ∨ c = '{' ∨ c = '}' := by
    simpa [isFlowIndicator, or_assoc] using indicator
  rcases known with rfl | rfl | rfl | rfl | rfl <;> rfl

theorem stops_at_colon (text : List Char) : StopsPlain false (':' :: ' ' :: text) :=
  fun _ _ _ => rfl

theorem scan_word (inFlow : Bool) (column : Nat) {text : List Char} (stops : StopsPlain inFlow text)
    (written : List Char) (word : ∀ c ∈ written, isWordChar c = true) (mark : Mark)
    (read : List Char) :
    scanPlain inFlow column (written ++ text) mark .none read =
      .ok ⟨read.reverse ++ written, ⟨text, mark.shift written.length⟩, false⟩ := by
  induction written generalizing mark read with
  | nil => simpa [Mark.shift_zero] using stops column mark read
  | cons c written induction =>
      obtain ⟨printable, blankless, breakless, itemless, colonless⟩ :=
        word_char_inside (word c (by simp))
      have passed : scanPlain inFlow column (c :: (written ++ text)) mark .none read =
          scanPlain inFlow column (written ++ text) (mark.shift 1) .none (c :: read) := by
        rw [scanPlain, Mark.after_printable mark printable]
        simp [blankless, breakless, itemless, colonless, endsPlain, colonBeforeIndicator, Gap.none,
          Gap.fold]
      rw [List.cons_append, passed, induction fun other member => word other (by simp [member])]
      simp [Mark.shift_shift, Nat.add_comm]

namespace Scanner

theorem dispatch_letter {scanner : Scanner} {c : Char} {text : List Char} (letter : c.isAlpha = true)
    (here : scanner.cursor.rest = c :: text) : scanner.dispatch = scanner.plain := by
  have other (mark : Char) (none : mark.isAlpha = false) : (c == mark) = false :=
    letter_other letter none
  have starts : startsPlain scanner.inFlow (c :: text) = true := by
    have free : isBlank c = false ∧ isBreak c = false ∧
        ",[]\x7b\x7d#&*!|>'\"%@\x60".toList.contains c = false :=
      ascii_forall (fun c => c.isAlpha = true → isBlank c = false ∧ isBreak c = false ∧
        ",[]\x7b\x7d#&*!|>'\"%@\x60".toList.contains c = false) (by decide +kernel)
        (letter_ascii letter) letter
    obtain ⟨blankless, breakless, unmarked⟩ := free
    rw [startsPlain, other '-' rfl, other '?' rfl, other ':' rfl, blankless, breakless, unmarked]
    rfl
  rw [dispatch, here]
  simp only [other '%' rfl, other '-' rfl, other '.' rfl, other '[' rfl, other '{' rfl, other ']' rfl,
    other '}' rfl, other ',' rfl, other '?' rfl, other ':' rfl, other '*' rfl, other '&' rfl,
    other '!' rfl, other '|' rfl, other '>' rfl, other '\x27' rfl, other '\x22' rfl, Bool.and_false,
    Bool.false_and, Bool.false_eq_true, if_false, starts, if_true]

/-- A word is read as one scalar where the reader of plain scalars stops behind it. -/
theorem word_reads {name : String} (word : IsWord name) {inFlow : Bool} {text : List Char}
    (stops : StopsPlain inFlow text) : ReadsAs name.toList name .plain inFlow text := by
  obtain ⟨c, rest, shape, letter⟩ := word.starts
  refine ⟨⟨c, rest, shape, letter_solid letter⟩, fun scanner here flow saved => ?_⟩
  have read := scan_word scanner.inFlow ((scanner.indents.head?.map (· + 1)).getD 0) (flow ▸ stops)
    name.toList (List.all_eq_true.mp word.2) scanner.mark []
  have first : scanner.cursor.rest = c :: (rest ++ text) := by rw [here, shape, List.cons_append]
  rw [dispatch_letter letter first, plain, saved]
  change (scanPlain scanner.inFlow _ scanner.cursor.rest scanner.mark .none []) >>= _ = _
  rw [here, read]
  simp only [List.reverse_nil, List.nil_append, bind, Except.bind, String.ofList_toList]
  rfl

end Scanner

section

variable {c : Char} (letter : c.isAlpha = true) (rest : List Char)
include letter

theorem letter_no_digit : Digits.isDecimal c = false ∧ Digits.digit? 10 c = none :=
  ascii_forall (fun c => c.isAlpha = true → Digits.isDecimal c = false ∧ Digits.digit? 10 c = none)
    (by decide +kernel) (letter_ascii letter) letter

theorem word_no_leading_zero : Datum.hasLeadingZero (c :: rest) = false := by
  have unsigned : Datum.isSign c = false := by
    rw [Datum.isSign, letter_other letter rfl, letter_other letter rfl]
    rfl
  have zeroless : c ≠ '0' := ne_of_beq_false (letter_other letter rfl)
  simp only [Datum.hasLeadingZero, List.head?_cons, Option.any_some, unsigned, Bool.false_eq_true,
    if_false]
  split
  · rename_i same
    exact absurd (List.cons.inj same).1 zeroless
  · rfl

theorem word_no_number : Digits.read? 10 (c :: rest) = none := by
  rw [Digits.read?, List.isEmpty_cons, List.foldlM_cons, (letter_no_digit letter).2]
  rfl

theorem word_no_integer : Datum.integer? (c :: rest) = none := by
  have zeroless : c ≠ '0' := ne_of_beq_false (letter_other letter rfl)
  have minusless : c ≠ '-' := ne_of_beq_false (letter_other letter rfl)
  have plusless : c ≠ '+' := ne_of_beq_false (letter_other letter rfl)
  have unmarked : Datum.baseMark? (c :: rest) = none := by
    unfold Datum.baseMark?
    split <;> simp_all
  have sizeless : Datum.magnitude? (c :: rest) = none := by
    rw [Datum.magnitude?, unmarked]
    exact word_no_number letter rest
  unfold Datum.integer?
  rw [word_no_leading_zero letter]
  split
  · contradiction
  · split
    · rename_i same
      exact absurd (List.cons.inj same).1 minusless
    · simp [plusless, sizeless]

theorem word_no_decimal (negative : Bool) : Datum.decimal? negative (c :: rest) = none := by
  have pointless : c ≠ '.' := ne_of_beq_false (letter_other letter rfl)
  have digitless := (letter_no_digit letter).1
  unfold Datum.decimal?
  simp only [List.takeWhile_cons, List.dropWhile_cons, digitless, Bool.false_eq_true, if_false]
  split
  · rename_i same
    exact absurd (List.cons.inj same).1 pointless
  · simp [Digits.read?]

theorem word_no_float : Datum.float? (c :: rest) = none := by
  have minusless : c ≠ '-' := ne_of_beq_false (letter_other letter rfl)
  have plusless : c ≠ '+' := ne_of_beq_false (letter_other letter rfl)
  have pointless : c ≠ '.' := ne_of_beq_false (letter_other letter rfl)
  have unlisted (words : List String) (points : ∀ word ∈ words, word.toList.head? = some '.') :
      words.contains (String.ofList (c :: rest)) = false := by
    rw [List.contains_eq_mem, decide_eq_false_iff_not]
    intro member
    have point := points _ member
    rw [String.toList_ofList] at point
    exact pointless (Option.some.inj point)
  have infinite : Datum.isInfinityWord (c :: rest) = false := unlisted _ (by decide)
  have undefined : Datum.isNanWord (c :: rest) = false := unlisted _ (by decide)
  unfold Datum.float?
  rw [undefined]
  split
  · contradiction
  · split
    · rename_i same
      exact absurd (List.cons.inj same).1 minusless
    · rename_i same
      exact absurd (List.cons.inj same).1 plusless
    · simp [infinite, word_no_decimal letter]

end

theorem word_kept {name : String} (word : IsWord name) (free : isTypedWord name = false) :
    Datum.ofPlain name = .string name := by
  obtain ⟨c, rest, shape, letter⟩ := word.starts
  have filled : name.isEmpty = false := by
    rw [← Bool.not_eq_true, String.isEmpty_iff]
    exact word.filled
  have known : name ≠ "null" ∧ name ≠ "Null" ∧ name ≠ "NULL" ∧ name ≠ "true" ∧ name ≠ "True" ∧
      name ≠ "TRUE" ∧ name ≠ "false" ∧ name ≠ "False" ∧ name ≠ "FALSE" := by
    simpa [isTypedWord] using free
  have tildeless : name ≠ "~" := by
    rintro rfl
    cases shape
    cases letter
  have null : Datum.isNullWord name = false := by
    simp [Datum.isNullWord, known, tildeless]
  have truth : Datum.boolean? name = none := by
    simp [Datum.boolean?, known]
  simp only [Datum.ofPlain, filled, null, truth, shape, word_no_integer letter,
    word_no_leading_zero letter, word_no_float letter]
  rfl

end TargetGraph.Yaml

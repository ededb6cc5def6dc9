import TargetGraph.Yaml.Token.Scanner

/-!
# Runs of the scanner

A run is followed from one state to the next without looking at its fuel, and a state is known by the
text that is left, the tokens so far, and the collections that are open. Where keys may start and which
of them are too far behind shows in a state only as far as later tokens depend on it: as long as no key
is required, giving some of them up changes nothing that is said of the state.

Block collections are considered only at the margin, so that none is closed before the end.
-/

namespace TargetGraph.Yaml

set_option autoImplicit false

def IsPrintable (c : Char) : Prop := 0x20 ≤ c.toNat ∧ c.toNat ≤ 0x7E

instance (c : Char) : Decidable (IsPrintable c) := inferInstanceAs (Decidable (_ ∧ _))

theorem printable_no_break {c : Char} (printable : IsPrintable c) : isBreak c = false := by
  obtain ⟨low, high⟩ := printable
  simp only [isBreak, Bool.or_eq_false_iff, beq_eq_false_iff_ne]
  refine ⟨⟨?_, ?_⟩, ?_⟩ <;> rintro rfl <;> revert low high <;> decide

theorem printable_allowed {c : Char} (printable : IsPrintable c) : isAllowed c = true := by
  have inside : 0x20 ≤ c.toNat ∧ c.toNat ≤ 0x7E := printable
  simp [isAllowed, inside]

namespace Mark

theorem after_printable (mark : Mark) {c : Char} (printable : IsPrintable c) :
    mark.after c = mark.shift 1 := by
  have narrow : Text.Utf8.width c = 1 := by
    rw [Text.Utf8.width, if_pos (Nat.lt_of_le_of_lt printable.2 (by decide))]
  rw [after, printable_no_break printable, narrow]
  rfl

theorem shift_shift (mark : Mark) (first second : Nat) :
    (mark.shift first).shift second = mark.shift (first + second) := by
  simp only [shift, Nat.add_assoc]

theorem shift_zero (mark : Mark) : mark.shift 0 = mark := rfl

end Mark

theorem unify_breaks_append (before rest : List Char)
    (plain : ∀ c ∈ before, c ≠ '\x0d' ∧ c ≠ '\u0085') :
    unifyBreaks (before ++ rest) = before ++ unifyBreaks rest := by
  induction before with
  | nil => rfl
  | cons c before induction =>
      have head := plain c (by simp)
      have later := induction fun other member => plain other (by simp [member])
      rw [List.cons_append, unifyBreaks.eq_def (c :: (before ++ rest))]
      simp only [if_neg head.1, if_neg head.2, later, List.cons_append]

theorem unify_breaks_plain (text : List Char)
    (plain : ∀ c ∈ text, c ≠ '\x0d' ∧ c ≠ '\u0085') : unifyBreaks text = text := by
  have unified := unify_breaks_append text [] plain
  rwa [List.append_nil, unifyBreaks, List.append_nil] at unified

theorem of_text_printable (text : List Char) (lines : ∀ c ∈ text, IsPrintable c ∨ c = '\n') :
    TokenStream.ofText text = Scanner.run (text.length + 1) (.start text) := by
  have allowed : text.all isAllowed = true := by
    rw [List.all_eq_true]
    intro c member
    rcases lines c member with printable | rfl
    · exact printable_allowed printable
    · decide
  have unified : unifyBreaks text = text := by
    apply unify_breaks_plain
    intro c member
    rcases lines c member with ⟨low, high⟩ | rfl
    · constructor <;> rintro rfl <;> revert low high <;> decide
    · decide
  rw [TokenStream.ofText, if_pos allowed]
  simp only [unified]

namespace Scanner

/-- Scanning from one state comes to scanning from another one that is further on. -/
def Leads (first later : Scanner) : Prop :=
  ∀ fuel, first.cursor.rest.length < fuel →
    ∃ left, later.cursor.rest.length < left ∧ run fuel first = run left later

theorem Leads.trans {first middle later : Scanner} (early : first.Leads middle)
    (late : middle.Leads later) : first.Leads later := by
  intro fuel enough
  obtain ⟨left, more, same⟩ := early fuel enough
  obtain ⟨last, most, again⟩ := late left more
  exact ⟨last, most, same.trans again⟩

theorem leads_of_fetch {scanner next : Scanner}
    (fetched : scanner.fetch >>= dropStaleKeys = .ok next)
    (going : (next.tokens.head?.any fun token => token.kind == .streamEnd) = false)
    (shorter : next.cursor.rest.length < scanner.cursor.rest.length) : scanner.Leads next := by
  intro fuel enough
  cases fuel with
  | zero => exact absurd enough (Nat.not_lt_zero _)
  | succ fuel =>
      refine ⟨fuel, by omega, ?_⟩
      rw [run, fetched]
      simp only [going, Bool.false_eq_true, if_false]

theorem leads_of_skip {scanner next : Scanner} (same : scanner.fetch = next.fetch)
    (settled : scanner.settled = next.settled)
    (shorter : next.cursor.rest.length ≤ scanner.cursor.rest.length) : scanner.Leads next := by
  intro fuel enough
  refine ⟨fuel, by omega, ?_⟩
  cases fuel with
  | zero => exact absurd enough (Nat.not_lt_zero _)
  | succ fuel => rw [run, run, same, settled]

theorem possible_key_iff (scanner : Scanner) (key : PossibleKey) :
    key ∈ scanner.possibleKeys ↔ scanner.key = some key ∨ some key ∈ scanner.outerKeys := by
  simp only [possibleKeys, List.mem_filterMap, List.mem_cons, id]
  constructor
  · rintro ⟨_, same | member, rfl⟩
    · exact .inl same.symm
    · exact .inr member
  · rintro (same | member)
    · exact ⟨_, .inl rfl, same⟩
    · exact ⟨_, .inr member, rfl⟩

def forgetStale (scanner : Scanner) : Scanner :=
  let keep (key : Option PossibleKey) : Option PossibleKey :=
    key.filter fun key => !key.isStale scanner.mark
  { scanner with key := keep scanner.key, outerKeys := scanner.outerKeys.map keep }

/-- Keys are given up without a fault unless one of them is required. -/
theorem drop_stale_keys_ok {scanner : Scanner}
    (kept : ∀ key ∈ scanner.possibleKeys, key.required = true → key.isStale scanner.mark = false) :
    scanner.dropStaleKeys = .ok scanner.forgetStale := by
  have unlost (key : Option PossibleKey) (possible : ∀ held, key = some held →
      held ∈ scanner.possibleKeys) :
      (key.any fun key => key.required && key.isStale scanner.mark) = false := by
    cases key with
    | none => rfl
    | some held =>
        cases required : held.required with
        | false => simp [required]
        | true => simp [kept held (possible held rfl) required]
  have own := unlost scanner.key fun held same =>
    (possible_key_iff scanner held).mpr (.inl same)
  have outer : (scanner.outerKeys.any fun key =>
      key.any fun key => key.required && key.isStale scanner.mark) = false := by
    rw [List.any_eq_false]
    intro key member
    rw [unlost key fun held same => (possible_key_iff scanner held).mpr (.inr (same ▸ member))]
    exact Bool.false_ne_true
  rw [dropStaleKeys]
  simp only [own, outer, Bool.or_false, Bool.false_eq_true, if_false]
  rfl

theorem forget_stale_possible {scanner : Scanner} {key : PossibleKey}
    (possible : key ∈ scanner.forgetStale.possibleKeys) : key ∈ scanner.possibleKeys := by
  rw [possible_key_iff] at possible ⊢
  rcases possible with same | member
  · exact .inl (Option.filter_eq_some_iff.mp same).1
  · obtain ⟨other, outer, same⟩ := List.mem_map.mp member
    obtain ⟨rfl, _⟩ := Option.filter_eq_some_iff.mp same
    exact .inr outer

theorem drop_key_ok {scanner : Scanner}
    (optional : ∀ key, scanner.key = some key → key.required = false) :
    scanner.dropKey = .ok { scanner with key := none } := by
  have free : scanner.key.any PossibleKey.required = false := by
    cases held : scanner.key with
    | none => rfl
    | some key => exact optional key held
  rw [dropKey, free]
  rfl

/-- What is known of a state between two tokens: the text that is left, the tokens backwards, how many
flow collections and which blocks are open, and whether a key may start. No key is required. -/
structure At (scanner : Scanner) (text : List Char) (kinds : List Token.Kind) (depth : Nat)
    (indents : List Nat) (allowed : Bool) : Prop where
  text : scanner.cursor.rest = text
  kinds : scanner.tokens.map Token.kind = kinds
  depth : scanner.outerKeys.length = depth
  indents : scanner.indents = indents
  margin : ∀ indent ∈ scanner.indents, indent = 0
  allowed : scanner.keyAllowed = allowed
  optional : ∀ key ∈ scanner.possibleKeys, key.required = false

theorem start_at (text : List Char) : (start text).At text [] 0 [] true :=
  ⟨rfl, rfl, rfl, rfl, by simp [start], rfl, by simp [possibleKeys, start]⟩

section

variable {scanner : Scanner} {text : List Char} {kinds : List Token.Kind} {depth : Nat}
  {indents : List Nat} {allowed : Bool}

theorem At.in_flow (at_ : scanner.At text kinds depth indents allowed) :
    scanner.inFlow = !decide (depth = 0) := by
  rw [inFlow, ← at_.depth]
  cases scanner.outerKeys <;> simp

theorem At.forget_stale (at_ : scanner.At text kinds depth indents allowed) :
    scanner.forgetStale.At text kinds depth indents allowed where
  text := at_.text
  kinds := at_.kinds
  depth := by rw [← at_.depth]; simp [forgetStale]
  indents := at_.indents
  margin := at_.margin
  allowed := at_.allowed
  optional key possible := at_.optional key (forget_stale_possible possible)

theorem At.drop_stale_keys (at_ : scanner.At text kinds depth indents allowed) :
    scanner.dropStaleKeys = .ok scanner.forgetStale :=
  drop_stale_keys_ok fun key possible required => by
    rw [at_.optional key possible] at required
    cases required

theorem At.drop_key (at_ : scanner.At text kinds depth indents allowed) :
    scanner.dropKey = .ok { scanner with key := none } :=
  drop_key_ok fun key held => at_.optional key ((possible_key_iff scanner key).mpr (.inl held))

/-- No key is required behind a step that keeps the outer keys and leaves no key of its own that is. -/
theorem At.optional_behind (at_ : scanner.At text kinds depth indents allowed) {next : Scanner}
    (own : ∀ key, next.key = some key → key.required = false)
    (outer : next.outerKeys = scanner.outerKeys) :
    ∀ key ∈ next.possibleKeys, key.required = false := by
  intro key possible
  rcases (possible_key_iff next key).mp possible with held | member
  · exact own key held
  · exact at_.optional key ((possible_key_iff scanner key).mpr (.inr (outer ▸ member)))

/-- Blocks at the margin stay open whatever column the scanner has reached. -/
theorem close_blocks_margin (margin : ∀ indent ∈ scanner.indents, indent = 0) (column : Nat) :
    scanner.closeBlocks (some column) = scanner := by
  have inner : (scanner.indents.takeWhile fun indent => decide (column < indent)) = [] := by
    cases shape : scanner.indents with
    | nil => rfl
    | cons indent rest =>
        have zero : indent = 0 := margin indent (by simp [shape])
        simp [zero]
  rw [closeBlocks]
  split
  · rfl
  · simp [inner]

end

def IsSolid (c : Char) : Prop :=
  isBreak c = false ∧ c ≠ ' ' ∧ c ≠ '\t' ∧ c ≠ '#' ∧ c ≠ byteOrderMark

instance (c : Char) : Decidable (IsSolid c) := inferInstanceAs (Decidable (_ ∧ _))

theorem skip_to_token_solid {c : Char} (solid : IsSolid c) (inFlow : Bool) (blanks : Nat)
    (rest : List Char) (mark : Mark) (allowed : Bool) :
    skipToToken inFlow (List.replicate blanks ' ' ++ c :: rest) mark allowed false =
      (⟨c :: rest, mark.shift blanks⟩, allowed) := by
  induction blanks generalizing mark with
  | zero =>
      obtain ⟨breakless, space, tab, hash, order⟩ := solid
      rw [List.replicate_zero, List.nil_append, skipToToken]
      simp [breakless, space, tab, hash, order, Mark.shift_zero]
  | succ blanks induction =>
      have later := induction (mark.after ' ')
      rw [Mark.after_printable mark (by decide : IsPrintable ' '), Mark.shift_shift,
        Nat.add_comm] at later
      rw [List.replicate_succ, List.cons_append, skipToToken,
        Mark.after_printable mark (by decide : IsPrintable ' ')]
      simpa [isBreak] using later

end Scanner

end TargetGraph.Yaml

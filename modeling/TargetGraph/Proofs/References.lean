import TargetGraph.Proofs.Accesses
import TargetGraph.Proofs.Numerals

/-!
# References to targets

A reference on the command line is taken for an identifier wherever it can be one, and for a name
otherwise. What can be an identifier depends on the graph as well: a number that no target has is a name
like any other, and so is one that is too large for an identifier.
-/

namespace TargetGraph

set_option autoImplicit false

namespace Command

/-- A number as references spell it: decimal digits, zeros in front among them, behind one plus sign or
none. -/
inductive Numeral : List Char → Nat → Prop where
  | plain {digits : List Char} (some : digits ≠ []) (decimal : ∀ c ∈ digits, c.isDigit) :
      Numeral digits (Nat.ofDigitChars 10 digits 0)
  | signed {digits : List Char} (some : digits ≠ []) (decimal : ∀ c ∈ digits, c.isDigit) :
      Numeral ('+' :: digits) (Nat.ofDigitChars 10 digits 0)

def unsigned : List Char → List Char
  | '+' :: rest => rest
  | text => text

theorem unsigned_other {c : Char} {rest : List Char} (other : c ≠ '+') :
    unsigned (c :: rest) = c :: rest := by
  rw [unsigned]
  intro _ same
  exact other (List.cons.inj same).1

theorem digits_unsigned {digits : List Char} (decimal : ∀ c ∈ digits, c.isDigit) :
    unsigned digits = digits := by
  cases digits with
  | nil => rfl
  | cons c rest =>
      apply unsigned_other
      intro same
      have digit := decimal c (by simp)
      rw [same] at digit
      exact absurd digit (by decide)

theorem numeral_iff (text : List Char) (value : Nat) :
    Numeral text value ↔ Digits.read? 10 (unsigned text) = some value := by
  rw [Digits.read_decimal_iff]
  constructor
  · intro numeral
    cases numeral with
    | plain some decimal =>
        rw [digits_unsigned decimal]
        exact ⟨some, decimal, rfl⟩
    | signed some decimal => exact ⟨some, decimal, rfl⟩
  · intro reads
    rcases reads with ⟨some, decimal, rfl⟩
    cases text with
    | nil => exact absurd rfl some
    | cons c rest =>
        by_cases sign : c = '+'
        · subst sign
          exact .signed some decimal
        · rw [unsigned_other sign] at some decimal ⊢
          exact .plain some decimal

theorem reference_id_eq (reference : String) : referenceId? reference =
    (Digits.read? 10 (unsigned reference.toList)).bind fun value =>
      if value < UInt32.size then some ⟨UInt32.ofNat value⟩ else none :=
  rfl

/-- A reference reads as an identifier just when it spells its number. -/
theorem reference_id_iff (reference : String) (id : TargetId) :
    referenceId? reference = some id ↔ Numeral reference.toList id.index := by
  rw [reference_id_eq, numeral_iff, Option.bind_eq_some_iff]
  constructor
  · intro reads
    rcases reads with ⟨value, counted, fits⟩
    by_cases small : value < UInt32.size
    · rw [if_pos small, Option.some.injEq] at fits
      rw [← fits, counted, TargetId.index, UInt32.toNat_ofNat_of_lt' small]
    · rw [if_neg small] at fits
      cases fits
  · intro counted
    have fits : id.index < UInt32.size := id.raw.toNat_lt
    refine ⟨id.index, counted, ?_⟩
    rw [if_pos fits]
    exact congrArg some (TargetId.of_position_of_index id)

theorem decimal_numeral (value : Nat) : Numeral (toString value).toList value := by
  have text : (toString value).toList = Digits.write value := by
    rw [Nat.toString_eq_ofList_toDigits, String.toList_ofList]
    rfl
  have numeral := Numeral.plain (Digits.written_some value) (Digits.written_digits value)
  rw [Digits.written_count] at numeral
  rwa [text]

namespace Session

variable {graph : Graph} (formed : graph.WellFormed)
include formed

theorem find_by_identifier (few : graph.size ≤ 0xFFFFFFFF) {reference : String} {target : Target}
    (member : target ∈ graph.targets) (numeral : Numeral reference.toList target.id.index) :
    findTarget graph reference = pure target := by
  have given := (formed.target_by_id few target.id target).mpr ⟨member, rfl⟩
  rw [findTarget, (reference_id_iff reference target.id).mpr numeral, Option.map_some, given]

theorem target_at_number {value : Nat} (inside : value < graph.size) :
    ∃ target, graph.targets[value]? = some target ∧ target ∈ graph.targets ∧
      target.id.index = value := by
  have place : graph.targets[value]? = some (graph.targets.get ⟨value, inside⟩) :=
    List.getElem?_eq_getElem inside
  exact ⟨_, place, List.mem_of_getElem? place, formed.numbered value _ place⟩

/-- What is no identifier in range is looked up among the names. -/
theorem find_by_name {reference : String}
    (other : ∀ value, Numeral reference.toList value → graph.size ≤ value) :
    findTarget graph reference = foundOrFail reference (graph.targetByName reference) := by
  have named : targetByName graph reference >>= foundOrFail reference =
      foundOrFail reference (graph.targetByName reference) := by
    rw [target_by_name_found formed, pure_bind]
  rw [findTarget]
  cases reads : referenceId? reference with
  | none => exact named
  | some id =>
      have beyond := other _ ((reference_id_iff reference id).mp reads)
      rw [Option.map_some, Graph.target_by_id_beyond beyond]
      exact named

theorem find_known_name {target : Target} (member : target ∈ graph.targets)
    (other : ∀ value, Numeral target.name.toList value → graph.size ≤ value) :
    findTarget graph target.name = pure target := by
  have found := (formed.target_by_name target.name target).mpr ⟨member, rfl⟩
  rw [find_by_name formed other, found]
  rfl

theorem find_unknown_name {reference : String}
    (other : ∀ value, Numeral reference.toList value → graph.size ≤ value)
    (unknown : ∀ target ∈ graph.targets, target.name ≠ reference) :
    findTarget graph reference = fail (.noSuchTarget reference) := by
  rw [find_by_name formed other]
  cases given : graph.targetByName reference with
  | none => rfl
  | some target =>
      have known := (formed.target_by_name reference target).mp given
      exact absurd known.2 (unknown target known.1)

theorem find_by_own_number (few : graph.size ≤ 0xFFFFFFFF) {target : Target}
    (member : target ∈ graph.targets) :
    target.id.display = toString target.id.index ∧
      findTarget graph target.id.display = pure target := by
  have inside := formed.inside_of_member member
  have shown := TargetId.display_below (Nat.lt_of_lt_of_le inside few)
  have numeral := decimal_numeral target.id.index
  rw [← shown] at numeral
  exact ⟨shown, find_by_identifier formed few member numeral⟩

/-- What spells no target's number spells no number in range. -/
theorem beyond_of_free {text : List Char}
    (free : ∀ target ∈ graph.targets, ¬ Numeral text target.id.index) (value : Nat)
    (numeral : Numeral text value) : graph.size ≤ value := by
  by_contra inside
  rcases target_at_number formed (Nat.lt_of_not_le inside) with ⟨target, _, member, number⟩
  rw [← number] at numeral
  exact free target member numeral

/-- A name that spells its own target's identifier does no harm. -/
theorem find_by_own_name (few : graph.size ≤ 0xFFFFFFFF) {target : Target}
    (member : target ∈ graph.targets)
    (free : ∀ other ∈ graph.targets, Numeral target.name.toList other.id.index → other = target) :
    findTarget graph target.name = pure target := by
  by_cases spells : Numeral target.name.toList target.id.index
  · exact find_by_identifier formed few member spells
  · apply find_known_name formed member
    apply beyond_of_free formed
    intro other among numeral
    rw [free other among numeral] at numeral
    exact spells numeral

end Session

/-- A reference that spells the number of a target means that target, even where it is another's name,
and every other one the target of that name, if there is one; otherwise it is refused. So each target is
found by its identifier in decimal, and by its name unless the name spells another's identifier. What is
refused is neither a number in range nor a name. -/
theorem references_resolve {graph : Graph} (reachable : graph.Reachable) :
    (∀ (reference : String) (value : Nat), Numeral reference.toList value → value < graph.size →
      ∃ target, graph.targets[value]? = some target ∧ target.id.index = value ∧
        Session.findTarget graph reference = pure target) ∧
    (∀ reference : String, (∀ value, Numeral reference.toList value → graph.size ≤ value) →
      (∀ target ∈ graph.targets, target.name = reference →
        Session.findTarget graph reference = pure target) ∧
      ((∀ target ∈ graph.targets, target.name ≠ reference) →
        Session.findTarget graph reference = Session.fail (.noSuchTarget reference))) ∧
    (∀ target ∈ graph.targets, target.id.display = toString target.id.index ∧
      Session.findTarget graph target.id.display = pure target) ∧
    (∀ target ∈ graph.targets,
      (∀ other ∈ graph.targets, Numeral target.name.toList other.id.index → other = target) →
      Session.findTarget graph target.name = pure target) ∧
    ∀ (reference : String) (console : Console) (stop : Stop),
      ((Session.findTarget graph reference).on console).1 = .error stop →
      (∀ value, Numeral reference.toList value → graph.size ≤ value) ∧
      ∀ target ∈ graph.targets, target.name ≠ reference := by
  have formed := reachable.well_formed
  have few := reachable.size_le
  constructor
  · intro reference value numeral inside
    rcases Session.target_at_number formed inside with ⟨target, place, member, number⟩
    rw [← number] at numeral
    exact ⟨target, place, number, Session.find_by_identifier formed few member numeral⟩
  constructor
  · intro reference other
    constructor
    · intro target member same
      rw [← same] at other ⊢
      exact Session.find_known_name formed member other
    · exact Session.find_unknown_name formed other
  constructor
  · intro target member
    exact Session.find_by_own_number formed few member
  constructor
  · intro target member free
    exact Session.find_by_own_name formed few member free
  · intro reference console stop refused
    have other : ∀ value, Numeral reference.toList value → graph.size ≤ value := by
      apply Session.beyond_of_free formed
      intro target member numeral
      rw [Session.find_by_identifier formed few member numeral] at refused
      cases refused
    refine ⟨other, ?_⟩
    intro target member same
    rw [← same] at other refused
    rw [Session.find_known_name formed member other] at refused
    cases refused

def numberedOperations : List Operation :=
  [.load [⟨"1", []⟩, ⟨"+007", ["1"]⟩, ⟨"4294967296", []⟩]]

def numberedGraph : Graph := (Graph.empty.run numberedOperations).2

theorem numbered_references_resolve : numberedGraph.Reachable ∧
    (Numeral "1".toList 1 ∧ Session.findTarget numberedGraph "1" = pure ⟨⟨1⟩, "+007", [⟨0⟩]⟩) ∧
    ((∀ value, Numeral "+007".toList value → numberedGraph.size ≤ value) ∧
      Session.findTarget numberedGraph "+007" = pure ⟨⟨1⟩, "+007", [⟨0⟩]⟩) ∧
    (∀ value, Numeral "-1".toList value → numberedGraph.size ≤ value) ∧
    Session.findTarget numberedGraph "-1" = Session.fail (.noSuchTarget "-1") := by
  have reachable : numberedGraph.Reachable := ⟨numberedOperations, rfl⟩
  have one : Numeral "1".toList 1 := (numeral_iff _ _).mpr (by decide)
  have seven : Digits.read? 10 (unsigned "+007".toList) = some 7 := by decide
  have negative : Digits.read? 10 (unsigned "-1".toList) = none := by decide
  have beyond : ∀ value, Numeral "+007".toList value → numberedGraph.size ≤ value := by
    intro value numeral
    rw [numeral_iff, seven] at numeral
    cases numeral
    decide
  have none : ∀ value, Numeral "-1".toList value → numberedGraph.size ≤ value := by
    intro value numeral
    rw [numeral_iff, negative] at numeral
    cases numeral
  rcases references_resolve reachable with ⟨numbers, names, _⟩
  rcases numbers "1" 1 one (by decide) with ⟨target, place, _, found⟩
  have second : numberedGraph.targets[1]? = some ⟨⟨1⟩, "+007", [⟨0⟩]⟩ := rfl
  rw [second] at place
  cases place
  have member := List.mem_of_getElem? second
  have named := (names "+007" beyond).1 _ member rfl
  have refused := (names "-1" none).2 (by decide)
  exact ⟨reachable, ⟨one, found⟩, ⟨beyond, named⟩, none, refused⟩

end Command

end TargetGraph

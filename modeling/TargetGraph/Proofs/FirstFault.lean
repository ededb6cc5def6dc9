import Mathlib.Data.Prod.Lex
import Mathlib.Order.Bounds.Basic
import TargetGraph.Proofs.Loading

/-!
# The first fault of a load

A load that fails names one place in the declarations, and no fault of its kind comes before it. All
names are looked at before any dependency is: where one of them is repeated, the earliest repetition is
reported, whatever is wrong with the dependencies in front of it.
-/

namespace TargetGraph

set_option autoImplicit false

def positionsOf (names : List String) (name : String) : Set Nat :=
  {position | names[position]? = some name}

def RepeatsAt (names : List String) (position : Nat) : Prop :=
  ∃ name, position ∈ positionsOf names name ∧ ∃ earlier < position, earlier ∈ positionsOf names name

/-- The name at the first position that repeats one, with the identifier of that name's own first
position. -/
structure FirstRepeat (names : List String) (position : Nat) (name : String) (first : TargetId) :
    Prop where
  least : IsLeast {position | RepeatsAt names position} position
  stands : position ∈ positionsOf names name
  earliest : IsLeast (positionsOf names name) first.index
  before : first.index < position

/-- The dependency at a place, its owner's position before its own, is declared nowhere. -/
def UndeclaredAt (declarations : List Declaration) (place : Nat ×ₗ Nat) : Prop :=
  ∃ declaration dependency, declarations[(ofLex place).1]? = some declaration ∧
    declaration.dependencies[(ofLex place).2]? = some dependency ∧
    dependency ∉ namesOf declarations

/-- The first dependency that is declared nowhere, with its owner's name. Owners come in declared
order, and so do the dependencies of each. -/
structure FirstUndeclared (declarations : List Declaration) (owner item : Nat)
    (target dependency : String) : Prop where
  least : IsLeast {place | UndeclaredAt declarations place} (toLex (owner, item))
  depends : ∃ declaration, declarations[owner]? = some declaration ∧ declaration.name = target ∧
    declaration.dependencies[item]? = some dependency

section

variable {names : List String} {name : String}

theorem mem_positions_iff {position : Nat} :
    position ∈ positionsOf names name ↔ names[position]? = some name :=
  Iff.rfl

theorem least_position (known : name ∈ names) :
    IsLeast (positionsOf names name) (names.idxOf name) := by
  constructor
  · exact List.getElem?_idxOf known
  · intro position stands
    have within : name ∈ names.take (position + 1) := by
      apply List.mem_of_getElem? (i := position)
      rw [List.getElem?_take_of_lt (Nat.lt_succ_self position)]
      exact stands
    apply Nat.le_of_lt_succ
    exact (List.mem_take_iff_idxOf_lt known).mp within

theorem repeats_nowhere (distinct : names.Nodup) (position : Nat) : ¬ RepeatsAt names position := by
  intro repeated
  rcases repeated with ⟨name, stands, earlier, before, stood⟩
  have inside : position < names.length := (List.getElem?_eq_some_iff.mp stands).1
  have same := (List.getElem?_inj inside distinct).mp (stands.trans stood.symm)
  exact Nat.ne_of_gt before same

theorem repeats_before {earlier later : List String} {position : Nat}
    (repeated : RepeatsAt (earlier ++ later) position) (inside : position < earlier.length) :
    RepeatsAt earlier position := by
  rcases repeated with ⟨name, stands, previous, before, stood⟩
  rw [mem_positions_iff, List.getElem?_append_left inside] at stands
  rw [mem_positions_iff, List.getElem?_append_left (Nat.lt_trans before inside)] at stood
  exact ⟨name, stands, previous, before, stood⟩

/-- Behind distinct names, the first one that is among them is the first that repeats. -/
theorem first_repeat_behind {earlier : List String} (later : List String) (distinct : earlier.Nodup)
    (fits : earlier.length ≤ 0xFFFFFFFF) (known : name ∈ earlier) :
    FirstRepeat (earlier ++ name :: later) earlier.length name (identifierIn earlier name) := by
  have number := identifier_index known fits
  have moved : (earlier ++ name :: later).idxOf name = earlier.idxOf name :=
    List.idxOf_append_of_mem known
  have stands : earlier.length ∈ positionsOf (earlier ++ name :: later) name := by
    simp [positionsOf]
  have earliest : IsLeast (positionsOf (earlier ++ name :: later) name)
      (identifierIn earlier name).index := by
    rw [number, ← moved]
    apply least_position
    exact List.mem_append_left _ known
  have before : (identifierIn earlier name).index < earlier.length := by
    rw [number]
    exact List.idxOf_lt_length_of_mem known
  have least : IsLeast {position | RepeatsAt (earlier ++ name :: later) position} earlier.length := by
    constructor
    · exact ⟨name, stands, _, before, earliest.1⟩
    · intro position repeated
      by_contra ahead
      have inside := Nat.lt_of_not_le ahead
      exact repeats_nowhere distinct position (repeats_before repeated inside)
  exact ⟨least, stands, earliest, before⟩

end

section

variable {declarations before after : List Declaration} {declaration : Declaration}
  {known others : List String} {missing : String}

theorem undeclared_nowhere (resolved : ResolveIn (namesOf declarations) declarations)
    (place : Nat ×ₗ Nat) : ¬ UndeclaredAt declarations place := by
  intro undeclared
  rcases undeclared with ⟨declaration, dependency, owner, item, unknown⟩
  apply unknown
  exact resolved declaration (List.mem_of_getElem? owner) dependency (List.mem_of_getElem? item)

/-- What stands behind dependencies that are all declared is the first one that is not. -/
theorem first_undeclared_behind (split : declarations = before ++ declaration :: after)
    (resolved : ResolveIn (namesOf declarations) before)
    (dependencies : declaration.dependencies = known ++ missing :: others)
    (declared : ∀ dependency ∈ known, dependency ∈ namesOf declarations)
    (undeclared : missing ∉ namesOf declarations) :
    FirstUndeclared declarations before.length known.length declaration.name missing := by
  have owner : declarations[before.length]? = some declaration := by
    rw [split]
    simp
  have item : declaration.dependencies[known.length]? = some missing := by
    rw [dependencies]
    simp
  have least : IsLeast {place | UndeclaredAt declarations place}
      (toLex (before.length, known.length)) := by
    constructor
    · exact ⟨declaration, missing, owner, item, undeclared⟩
    · intro place found
      rcases found with ⟨other, dependency, stands, depends, unknown⟩
      rw [Prod.Lex.le_iff]
      rcases Nat.lt_trichotomy (ofLex place).1 before.length with earlier | same | later
      · -- an earlier owner, of which everything resolves
        rw [split, List.getElem?_append_left earlier] at stands
        have known := resolved other (List.mem_of_getElem? stands) dependency
          (List.mem_of_getElem? depends)
        exact absurd known unknown
      · right
        constructor
        · exact same.symm
        · rw [same, owner, Option.some.injEq] at stands
          subst stands
          by_contra ahead
          rw [dependencies, List.getElem?_append_left (Nat.lt_of_not_le ahead)] at depends
          exact unknown (declared dependency (List.mem_of_getElem? depends))
      · left
        exact later
  exact ⟨least, declaration, owner, rfl, item⟩

end

namespace Graph

section

variable {declarations : List Declaration} {outcome : Except GraphError Graph}
  (verdict : Verdict declarations outcome) (few : declarations.length < 0x100000000)
include verdict few

theorem Verdict.first_repeat (repeats : ¬ (namesOf declarations).Nodup) :
    ∃ position name first, FirstRepeat (namesOf declarations) position name first ∧
      outcome = .error (.duplicateTarget name first) := by
  cases verdict with
  | loaded distinct => exact absurd distinct repeats
  | @repeated before after declaration split distinct below known =>
      have names : namesOf declarations = namesOf before ++ declaration.name :: namesOf after := by
        rw [split, namesOf, List.map_append, List.map_cons]
      have fits : (namesOf before).length ≤ 0xFFFFFFFF := by
        rw [List.length_map]
        omega
      have first := first_repeat_behind (namesOf after) distinct fits known
      rw [← names] at first
      exact ⟨_, _, _, first, rfl⟩
  | overfull split _ full =>
      rw [split, List.length_append, List.length_cons] at few
      omega
  | unresolved distinct => exact absurd distinct repeats

theorem Verdict.first_undeclared (distinct : (namesOf declarations).Nodup)
    (undeclared : ∃ place, UndeclaredAt declarations place) :
    ∃ owner item target dependency, FirstUndeclared declarations owner item target dependency ∧
      outcome = .error (.unresolvedDependency target dependency) := by
  cases verdict with
  | loaded _ _ resolved =>
      rcases undeclared with ⟨place, unknown⟩
      exact absurd unknown (undeclared_nowhere resolved place)
  | repeated split _ _ known => exact absurd distinct (repeat_anywhere split known)
  | overfull split _ full =>
      rw [split, List.length_append, List.length_cons] at few
      omega
  | unresolved _ _ split resolved dependencies declared unknown =>
      have first := first_undeclared_behind split resolved dependencies declared unknown
      exact ⟨_, _, _, _, first, rfl⟩

theorem Verdict.no_other_error {error : GraphError} (failed : outcome = .error error) :
    (¬ (namesOf declarations).Nodup ∧ ∃ name first, error = .duplicateTarget name first) ∨
    ((namesOf declarations).Nodup ∧ (∃ place, UndeclaredAt declarations place) ∧
      ∃ target dependency, error = .unresolvedDependency target dependency) := by
  cases verdict with
  | loaded => cases failed
  | repeated split _ _ known =>
      cases failed
      left
      exact ⟨repeat_anywhere split known, _, _, rfl⟩
  | overfull split _ full =>
      rw [split, List.length_append, List.length_cons] at few
      omega
  | unresolved distinct _ split resolved dependencies declared unknown =>
      cases failed
      right
      have first := first_undeclared_behind split resolved dependencies declared unknown
      exact ⟨distinct, ⟨_, first.least.1⟩, _, _, rfl⟩

end

/-- A load reports the first name that repeats an earlier one, whatever its dependencies are, and, where
all names are distinct, the first dependency that is none of them. It reports nothing else. -/
theorem load_reports_first_fault (graph : Graph) (declarations : List Declaration)
    (unloaded : graph.state ≠ .loaded) (few : declarations.length < 0x100000000) :
    (¬ (namesOf declarations).Nodup → ∃ position name first,
      FirstRepeat (namesOf declarations) position name first ∧
      (graph.load declarations).outcome = .error (.duplicateTarget name first)) ∧
    ((namesOf declarations).Nodup → (∃ place, UndeclaredAt declarations place) →
      ∃ owner item target dependency,
        FirstUndeclared declarations owner item target dependency ∧
        (graph.load declarations).outcome = .error (.unresolvedDependency target dependency)) ∧
    ∀ error, (graph.load declarations).outcome = .error error →
      (¬ (namesOf declarations).Nodup ∧ ∃ name first, error = .duplicateTarget name first) ∨
      ((namesOf declarations).Nodup ∧ (∃ place, UndeclaredAt declarations place) ∧
        ∃ target dependency, error = .unresolvedDependency target dependency) := by
  have verdict := build_verdict declarations
  rw [← load_unloaded unloaded] at verdict
  constructor
  · exact verdict.first_repeat few
  constructor
  · exact verdict.first_undeclared few
  · intro error failed
    exact verdict.no_other_error few failed

def tangled : List Declaration :=
  [⟨"a", ["z"]⟩, ⟨"b", []⟩, ⟨"c", ["b"]⟩, ⟨"b", []⟩, ⟨"a", []⟩, ⟨"b", ["y"]⟩]

def stray : List Declaration := [⟨"a", ["b", "c"]⟩, ⟨"b", ["a", "z", "y"]⟩, ⟨"c", ["z"]⟩]

theorem first_faults_reported :
    (empty.state ≠ .loaded ∧ tangled.length < 0x100000000 ∧ ¬ (namesOf tangled).Nodup ∧
      ∃ position, FirstRepeat (namesOf tangled) position "b" (.ofPosition 1) ∧
        (empty.load tangled).outcome = .error (.duplicateTarget "b" (.ofPosition 1))) ∧
    stray.length < 0x100000000 ∧ (namesOf stray).Nodup ∧ (∃ place, UndeclaredAt stray place) ∧
      ∃ owner item, FirstUndeclared stray owner item "b" "z" ∧
        (empty.load stray).outcome = .error (.unresolvedDependency "b" "z") := by
  have unloaded : empty.state ≠ .loaded := by decide
  have fewTangled : tangled.length < 0x100000000 := by decide
  have fewStray : stray.length < 0x100000000 := by decide
  have repeats : ¬ (namesOf tangled).Nodup := by decide
  have distinct : (namesOf stray).Nodup := by decide
  have undeclared : ∃ place, UndeclaredAt stray place :=
    ⟨toLex (2, 0), ⟨"c", ["z"]⟩, "z", rfl, rfl, by decide⟩
  obtain ⟨position, name, first, repeated, reported⟩ :=
    (load_reports_first_fault empty tangled unloaded fewTangled).1 repeats
  obtain ⟨owner, item, target, dependency, unknown, refused⟩ :=
    (load_reports_first_fault empty stray unloaded fewStray).2.1 distinct undeclared
  have tangledOutcome : (empty.load tangled).outcome =
      .error (.duplicateTarget "b" (.ofPosition 1)) := rfl
  have strayOutcome : (empty.load stray).outcome = .error (.unresolvedDependency "b" "z") := rfl
  rw [tangledOutcome] at reported
  rw [strayOutcome] at refused
  cases reported
  cases refused
  constructor
  · exact ⟨unloaded, fewTangled, repeats, position, repeated, tangledOutcome⟩
  · exact ⟨fewStray, distinct, undeclared, owner, item, unknown, strayOutcome⟩

end Graph

end TargetGraph

import Mathlib.Data.List.Basic
import Mathlib.Data.List.Induction
import TargetGraph.Graph

/-!
# Registration

The first pass over the declarations. The index is at every point the inverse of the list of names
registered so far: it knows those names and no other, and gives each its position. One step appends a
name; the run over any prefix of distinct names follows by induction, and leaves the rest to be run
from the index that the prefix has filled.
-/

namespace TargetGraph

set_option autoImplicit false

abbrev namesOf (declarations : List Declaration) : List String :=
  declarations.map Declaration.name

/-- The identifier of a name's first position among some names. -/
def identifierIn (names : List String) (name : String) : TargetId :=
  .ofPosition (names.idxOf name)

namespace NameIndex

/-- The index gives each of the names its position, and knows no other name. -/
def Numbers (index : NameIndex) (names : List String) : Prop :=
  ∀ name, index.find? name = if name ∈ names then some (identifierIn names name) else none

theorem empty_numbers : empty.Numbers [] := by
  intro name
  simp [find?_empty]

theorem find_numbered {index : NameIndex} {names : List String} {name : String}
    (numbers : index.Numbers names) (known : name ∈ names) :
    index.find? name = some (identifierIn names name) := by
  rw [numbers name, if_pos known]

theorem find_unknown {index : NameIndex} {names : List String} {name : String}
    (numbers : index.Numbers names) (unknown : name ∉ names) : index.find? name = none := by
  rw [numbers name, if_neg unknown]

/-- A name that is not known yet takes the next position, and no other name moves. -/
theorem insert_numbers {index : NameIndex} {names : List String} {name : String}
    (numbers : index.Numbers names) (fresh : name ∉ names) :
    (index.insert name (.ofPosition names.length)).Numbers (names ++ [name]) := by
  intro other
  rw [find?_insert]
  by_cases same : other = name
  · subst other
    have last : (names ++ [name]).idxOf name = names.length := by
      rw [List.idxOf_append_of_notMem fresh, List.idxOf_cons_self, Nat.add_zero]
    rw [if_pos rfl, if_pos (by simp), identifierIn, last]
  · rw [if_neg same]
    by_cases known : other ∈ names
    · have still : (names ++ [name]).idxOf other = names.idxOf other :=
        List.idxOf_append_of_mem known
      rw [find_numbered numbers known, if_pos (List.mem_append_left _ known), identifierIn,
        identifierIn, still]
    · have absent : other ∉ names ++ [name] := by
        simp [known, same]
      rw [find_unknown numbers known, if_neg absent]

end NameIndex

namespace Graph

def registeredFrom (position : Nat) (declarations : List Declaration) : List Target :=
  (declarations.zipIdx position).map fun entry => ⟨.ofPosition entry.2, entry.1.name, []⟩

theorem registered_from_cons (position : Nat) (declaration : Declaration)
    (rest : List Declaration) :
    registeredFrom position (declaration :: rest) =
      ⟨.ofPosition position, declaration.name, []⟩ :: registeredFrom (position + 1) rest := by
  simp [registeredFrom]

def withTargets (targets : List Target) (rest : List Target × NameIndex) :
    List Target × NameIndex :=
  (targets ++ rest.1, rest.2)

theorem register_fresh {total position : Nat} {index : NameIndex} {declaration : Declaration}
    {rest : List Declaration} (below : position < 0xFFFFFFFF)
    (fresh : index.find? declaration.name = none) :
    registerFrom total position index (declaration :: rest) =
      (registerFrom total (position + 1)
        (index.insert declaration.name (.ofPosition position)) rest).map
          (withTargets [⟨.ofPosition position, declaration.name, []⟩]) := by
  simp only [registerFrom, TargetId.of_index_below position below, fresh]
  cases registerFrom total (position + 1)
      (index.insert declaration.name (.ofPosition position)) rest with
  | error error => rfl
  | ok filled => rfl

theorem register_taken {total position : Nat} {index : NameIndex} {declaration : Declaration}
    {rest : List Declaration} {first : TargetId} (below : position < 0xFFFFFFFF)
    (taken : index.find? declaration.name = some first) :
    registerFrom total position index (declaration :: rest) =
      .error (.duplicateTarget declaration.name first) := by
  simp only [registerFrom, TargetId.of_index_below position below, taken]

theorem register_crowded {total position : Nat} {index : NameIndex} {declaration : Declaration}
    {rest : List Declaration} (beyond : 0xFFFFFFFF ≤ position) :
    registerFrom total position index (declaration :: rest) = .error (.tooManyTargets total) := by
  simp only [registerFrom, TargetId.of_index_beyond position beyond]

/-- Distinct names register one after the other. The rest is then registered as it would be behind
them, with an index that numbers all names so far. -/
theorem register_from_append (total : Nat) (names : List String) (index : NameIndex)
    (before rest : List Declaration) (numbers : index.Numbers names)
    (distinct : (names ++ namesOf before).Nodup)
    (fits : names.length + before.length ≤ 0xFFFFFFFF) :
    ∃ filled : NameIndex, filled.Numbers (names ++ namesOf before) ∧
      registerFrom total names.length index (before ++ rest) =
        (registerFrom total (names.length + before.length) filled rest).map
          (withTargets (registeredFrom names.length before)) := by
  induction before generalizing names index with
  | nil =>
      refine ⟨index, by simpa using numbers, ?_⟩
      cases registered : registerFrom total names.length index rest with
      | error error => simp [registered, Except.map]
      | ok filled => simp [registered, Except.map, withTargets, registeredFrom]
  | cons declaration before induction =>
      have fresh : declaration.name ∉ names := by
        intro known
        rw [List.nodup_append] at distinct
        exact distinct.2.2 _ known declaration.name (by simp) rfl
      have regrouped : names ++ namesOf (declaration :: before) =
          (names ++ [declaration.name]) ++ namesOf before := by
        simp
      have below : names.length < 0xFFFFFFFF := by
        simp only [List.length_cons] at fits
        omega
      obtain ⟨filled, numbered, registered⟩ := induction (names ++ [declaration.name])
        (index.insert declaration.name (.ofPosition names.length))
        (NameIndex.insert_numbers numbers fresh) (by rw [← regrouped]; exact distinct)
        (by simp only [List.length_append, List.length_cons, List.length_nil] at fits ⊢; omega)
      refine ⟨filled, by rw [regrouped]; exact numbered, ?_⟩
      have lengths : (names ++ [declaration.name]).length = names.length + 1 := by simp
      rw [lengths, Nat.add_assoc, Nat.add_comm 1] at registered
      rw [List.cons_append, register_fresh below (NameIndex.find_unknown numbers fresh),
        registered, registered_from_cons, List.length_cons]
      cases registerFrom total (names.length + (before.length + 1)) filled rest with
      | error error => rfl
      | ok last => rfl

theorem register_append (before rest : List Declaration) (distinct : (namesOf before).Nodup)
    (fits : before.length ≤ 0xFFFFFFFF) :
    ∃ filled : NameIndex, filled.Numbers (namesOf before) ∧
      register (before ++ rest) =
        (registerFrom (before ++ rest).length before.length filled rest).map
          (withTargets (registeredFrom 0 before)) := by
  obtain ⟨filled, numbered, registered⟩ := register_from_append (before ++ rest).length [] .empty
    before rest NameIndex.empty_numbers (by simpa using distinct) (by simpa using fits)
  simp only [List.nil_append, List.length_nil, Nat.zero_add] at numbered registered
  exact ⟨filled, numbered, registered⟩

theorem register_distinct (declarations : List Declaration)
    (distinct : (namesOf declarations).Nodup) (fits : declarations.length ≤ 0xFFFFFFFF) :
    ∃ filled : NameIndex, filled.Numbers (namesOf declarations) ∧
      register declarations = .ok (registeredFrom 0 declarations, filled) := by
  obtain ⟨filled, numbered, registered⟩ := register_append declarations [] distinct fits
  refine ⟨filled, numbered, ?_⟩
  rw [List.append_nil] at registered
  simpa [registerFrom, Except.map, withTargets] using registered

/-- A name that stands behind its like is reported with the identifier of the first of them, whatever
comes later. -/
theorem register_repeated (before after : List Declaration) (declaration : Declaration)
    (distinct : (namesOf before).Nodup) (fits : before.length < 0xFFFFFFFF)
    (known : declaration.name ∈ namesOf before) :
    register (before ++ declaration :: after) =
      .error (.duplicateTarget declaration.name
        (identifierIn (namesOf before) declaration.name)) := by
  obtain ⟨filled, numbered, registered⟩ :=
    register_append before (declaration :: after) distinct (by omega)
  rw [registered, register_taken fits (NameIndex.find_numbered numbered known)]
  rfl

/-- The position that would collide with the unassigned identifier is refused. -/
theorem register_overfull (before after : List Declaration) (declaration : Declaration)
    (distinct : (namesOf before).Nodup) (full : before.length = 0xFFFFFFFF) :
    register (before ++ declaration :: after) =
      .error (.tooManyTargets (before ++ declaration :: after).length) := by
  obtain ⟨filled, _, registered⟩ :=
    register_append before (declaration :: after) distinct (by omega)
  rw [registered, register_crowded (by omega)]
  rfl

end Graph

/-- Names are distinct, or one of them is the first that occurs before. -/
theorem distinct_or_first_repeat (declarations : List Declaration) :
    (namesOf declarations).Nodup ∨
      ∃ before declaration after, declarations = before ++ declaration :: after ∧
        (namesOf before).Nodup ∧ declaration.name ∈ namesOf before := by
  induction declarations using List.reverseRecOn with
  | nil => exact Or.inl (by simp)
  | append_singleton before declaration induction =>
      rcases induction with distinct | ⟨earlier, repeated, later, split, distinct, known⟩
      · by_cases known : declaration.name ∈ namesOf before
        · exact Or.inr ⟨before, declaration, [], rfl, distinct, known⟩
        · refine Or.inl ?_
          rw [namesOf, List.map_append, List.map_singleton, List.nodup_append]
          refine ⟨distinct, by simp, ?_⟩
          intro name member other single same
          rw [List.mem_singleton] at single
          exact known (single ▸ same ▸ member)
      · refine Or.inr ⟨earlier, repeated, later ++ [declaration], ?_, distinct, known⟩
        rw [split, List.append_assoc, List.cons_append]

end TargetGraph

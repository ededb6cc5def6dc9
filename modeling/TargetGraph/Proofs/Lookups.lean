import TargetGraph.Proofs.Lifecycle

/-!
# Lookups

A target is found by its identifier, which is a position, by its name, which the index leads to a
position, or by a search through all targets. In a well-formed graph these ways come to one relation
between targets and their names and identifiers.
-/

namespace TargetGraph

set_option autoImplicit false

theorem TargetId.index_injective {left right : TargetId} (same : left.index = right.index) :
    left = right := by
  obtain ⟨left⟩ := left
  obtain ⟨right⟩ := right
  exact congrArg TargetId.mk (UInt32.toNat_inj.mp same)

namespace Graph

variable {graph : Graph}

theorem target_beyond {id : TargetId} (beyond : graph.size ≤ id.index) : graph.target? id = none :=
  List.getElem?_eq_none beyond

theorem target_by_id_beyond {id : TargetId} (beyond : graph.size ≤ id.index) :
    graph.targetById id = .error (.outOfRange id graph.size) := by
  rw [targetById, target_beyond beyond, ite_self]

namespace WellFormed

variable (formed : graph.WellFormed)
include formed

theorem target_at {id : TargetId} (inside : id.index < graph.size) :
    ∃ target, graph.target? id = some target ∧ target ∈ graph.targets ∧ target.id = id := by
  have found : graph.targets[id.index]? = some (graph.targets.get ⟨id.index, inside⟩) :=
    List.getElem?_eq_getElem inside
  have number := formed.numbered _ _ found
  exact ⟨_, found, List.mem_of_getElem? found, TargetId.index_injective number⟩

theorem target_of_member {target : Target} (member : target ∈ graph.targets) :
    graph.target? target.id = some target := by
  obtain ⟨position, place⟩ := List.getElem?_of_mem member
  rw [target?, formed.numbered position target place, place]

theorem inside_of_member {target : Target} (member : target ∈ graph.targets) :
    target.id.index < graph.size := by
  obtain ⟨position, place⟩ := List.getElem?_of_mem member
  rw [formed.numbered position target place]
  exact (List.getElem?_eq_some_iff.mp place).1

theorem in_range_or_beyond (id : TargetId) :
    (∃ target ∈ graph.targets, target.id = id) ∨ graph.size ≤ id.index := by
  by_cases inside : id.index < graph.size
  · obtain ⟨target, _, member, same⟩ := formed.target_at inside
    exact .inl ⟨target, member, same⟩
  · exact .inr (Nat.le_of_not_lt inside)

theorem resolved {ids : List TargetId} (inside : ∀ id ∈ ids, id.index < graph.size) :
    List.Forall₂ (fun id target => graph.target? id = some target) ids (graph.resolve ids) := by
  induction ids with
  | nil => exact .nil
  | cons id ids induction =>
      obtain ⟨target, found, _⟩ := formed.target_at (inside id (by simp))
      have later := induction fun other member => inside other (by simp [member])
      rw [resolve, List.filterMap_cons, found]
      exact .cons found later

/-- All targets are resolved, none dropped, and in the order of the identifiers. -/
theorem resolve_complete {ids : List TargetId} (inside : ∀ id ∈ ids, id.index < graph.size) :
    (graph.resolve ids).map Target.id = ids := by
  have same : List.Forall₂ (· = ·) ids ((graph.resolve ids).map Target.id) := by
    apply List.forall₂_map_right_iff.mpr
    apply (formed.resolved inside).imp
    intro id target found
    exact TargetId.index_injective (formed.numbered _ _ found).symm
  rw [List.forall₂_eq_eq_eq] at same
  exact same.symm

theorem target_by_id (few : graph.size ≤ 0xFFFFFFFF) (id : TargetId) (target : Target) :
    graph.targetById id = .ok target ↔ target ∈ graph.targets ∧ target.id = id := by
  rcases formed.in_range_or_beyond id with ⟨own, member, rfl⟩ | beyond
  · have inside := formed.inside_of_member member
    have assigned := TargetId.assigned_below (Nat.lt_of_lt_of_le inside few)
    rw [targetById, assigned, formed.target_of_member member]
    constructor
    · intro given
      cases given
      exact ⟨member, rfl⟩
    · rintro ⟨among, same⟩
      have found := formed.target_of_member among
      rw [same, formed.target_of_member member] at found
      cases found
      rfl
  · rw [target_by_id_beyond beyond]
    constructor
    · intro given
      cases given
    · rintro ⟨member, rfl⟩
      exact absurd (formed.inside_of_member member) (Nat.not_lt.mpr beyond)

theorem target_by_id_absent {id : TargetId} (absent : ∀ target ∈ graph.targets, target.id ≠ id) :
    graph.targetById id = .error (.outOfRange id graph.size) := by
  rcases formed.in_range_or_beyond id with ⟨target, member, same⟩ | beyond
  · exact absurd same (absent target member)
  · exact target_by_id_beyond beyond

theorem target_by_name (name : String) (target : Target) :
    graph.targetByName name = some target ↔ target ∈ graph.targets ∧ target.name = name := by
  rw [targetByName, Option.bind_eq_some_iff]
  constructor
  · rintro ⟨id, known, found⟩
    obtain ⟨own, member, named, rfl⟩ := (formed.indexed name id).mp known
    rw [formed.target_of_member member] at found
    cases found
    exact ⟨member, named⟩
  · rintro ⟨member, named⟩
    exact ⟨target.id, (formed.indexed name target.id).mpr ⟨target, member, named, rfl⟩,
      formed.target_of_member member⟩

theorem same_name {target other : Target} (member : target ∈ graph.targets)
    (among : other ∈ graph.targets) (same : target.name = other.name) : target = other := by
  have first := (formed.target_by_name target.name target).mpr ⟨member, rfl⟩
  have second := (formed.target_by_name target.name other).mpr ⟨among, same.symm⟩
  rw [first] at second
  exact Option.some.inj second

/-- The index leads to the target that a search comes to first. -/
theorem find_by_name (name : String) :
    (graph.targets.find? fun target => target.name = name) = graph.targetByName name := by
  apply find_eq_of_iff
  intro target
  rw [formed.target_by_name, decide_eq_true_iff]

theorem find_by_id (id : TargetId) :
    (graph.targets.find? fun target => target.id = id) = graph.target? id := by
  apply find_eq_of_iff
  intro target
  rw [decide_eq_true_iff]
  constructor
  · intro place
    exact ⟨List.mem_of_getElem? place, TargetId.index_injective (formed.numbered _ _ place)⟩
  · intro own
    rw [← own.2]
    exact formed.target_of_member own.1

theorem top_level_eq (few : graph.size ≤ 0xFFFFFFFF) :
    graph.topLevel.map Except.ok =
      (graph.targetByName rootName).map fun root => graph.dependenciesOf root.id := by
  rw [topLevel, formed.find_by_name rootName]
  cases given : graph.targetByName rootName with
  | none => rfl
  | some root =>
      have member := ((formed.target_by_name rootName root).mp given).1
      have found := (formed.target_by_id few root.id root).mpr ⟨member, rfl⟩
      rw [Option.map_some, Option.map_some, Option.map_some, dependenciesOf, found]
      rfl

end WellFormed

/-- Names and identifiers lead to a target just when it is among all targets and has them. A name leads
to the target that a search comes to first, there is no other of that name, and an identifier without a
target is out of range. The top-level targets are what the root depends on, the root being looked up by
its name. -/
theorem lookups_agree (reachable : graph.Reachable) :
    (∀ name target, graph.targetByName name = some target ↔
      target ∈ graph.targets ∧ target.name = name) ∧
    (∀ name, graph.targetByName name = graph.targets.find? fun target => target.name = name) ∧
    (∀ target ∈ graph.targets, ∀ other ∈ graph.targets, target.name = other.name → target = other) ∧
    (∀ id target, graph.targetById id = .ok target ↔ target ∈ graph.targets ∧ target.id = id) ∧
    (∀ id, (∀ target ∈ graph.targets, target.id ≠ id) →
      graph.targetById id = .error (.outOfRange id graph.size)) ∧
    (∀ target ∈ graph.targets, graph.targetByName target.name = some target ∧
      graph.targetById target.id = .ok target) ∧
    graph.topLevel.map Except.ok =
      (graph.targetByName rootName).map fun root => graph.dependenciesOf root.id := by
  have formed := reachable.well_formed
  have few := reachable.size_le
  constructor
  · exact formed.target_by_name
  constructor
  · intro name
    exact (formed.find_by_name name).symm
  constructor
  · intro target member other among same
    exact formed.same_name member among same
  constructor
  · exact formed.target_by_id few
  constructor
  · intro id absent
    exact formed.target_by_id_absent absent
  constructor
  · intro target member
    constructor
    · exact (formed.target_by_name target.name target).mpr ⟨member, rfl⟩
    · exact (formed.target_by_id few target.id target).mpr ⟨member, rfl⟩
  · exact formed.top_level_eq few

def rootedOperations : List Operation :=
  [.load [⟨"a", ["b"]⟩],
    .load [⟨"a", ["b", "b"]⟩, ⟨rootName, ["b", "a"]⟩, ⟨"b", ["a", "b"]⟩]]

def rootedGraph : Graph := (empty.run rootedOperations).2

theorem rooted_reachable : rootedGraph.Reachable := ⟨rootedOperations, rfl⟩

theorem rooted_lookups_agree : rootedGraph.Reachable ∧
    ((rootedGraph.targetByName rootName).map fun root => rootedGraph.dependenciesOf root.id) =
      some (.ok [⟨⟨2⟩, "b", [⟨0⟩, ⟨2⟩]⟩, ⟨⟨0⟩, "a", [⟨2⟩, ⟨2⟩]⟩]) := by
  obtain ⟨_, _, _, _, _, _, top⟩ := lookups_agree rooted_reachable
  have listed : rootedGraph.topLevel =
      some [⟨⟨2⟩, "b", [⟨0⟩, ⟨2⟩]⟩, ⟨⟨0⟩, "a", [⟨2⟩, ⟨2⟩]⟩] := by
    decide
  rw [listed] at top
  exact ⟨rooted_reachable, top.symm⟩

end Graph

end TargetGraph

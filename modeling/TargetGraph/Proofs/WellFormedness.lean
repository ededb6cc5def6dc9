import TargetGraph.Proofs.Representation

/-!
# Well-formed graphs

Identifiers are positions, names are distinct, the index leads each name to its target and no edge
leaves the graph. A graph that holds declarations is well-formed because of what the two passes have
made sure of, and a new graph because there is nothing in it.
-/

namespace TargetGraph

set_option autoImplicit false

namespace Graph

/-- A graph that can be read without a check. While it is empty nothing has been written to it. -/
structure WellFormed (graph : Graph) : Prop where
  blank : graph.state = .empty → graph.targets = [] ∧ graph.index = .empty
  numbered : ∀ (position : Nat) (target : Target), graph.targets[position]? = some target →
    target.id.index = position
  distinct : graph.names.Nodup
  indexed : ∀ name id, graph.index.find? name = some id ↔
    ∃ target ∈ graph.targets, target.name = name ∧ target.id = id
  bounded : ∀ target ∈ graph.targets, ∀ id ∈ target.dependencies, id.index < graph.size

theorem empty_well_formed : empty.WellFormed where
  blank _ := ⟨rfl, rfl⟩
  numbered _ _ place := by simp [empty] at place
  distinct := List.nodup_nil
  indexed _ _ := by simp [empty, NameIndex.find?_empty]
  bounded _ member := by simp [empty] at member

namespace Represents

variable {graph : Graph} {declarations : List Declaration}

theorem target_inversion (represents : graph.Represents declarations) {position : Nat}
    {target : Target} (place : graph.targets[position]? = some target) :
    ∃ declaration, declarations[position]? = some declaration ∧
      target = ⟨.ofPosition position, declaration.name,
        declaration.dependencies.map (identifierIn (namesOf declarations))⟩ := by
  rw [represents.targets, targets_of_get, Option.map_eq_some_iff] at place
  obtain ⟨declaration, declared, same⟩ := place
  exact ⟨declaration, declared, same.symm⟩

theorem identifier_of_place (represents : graph.Represents declarations) {position : Nat}
    {declaration : Declaration} (declared : declarations[position]? = some declaration) :
    identifierIn (namesOf declarations) declaration.name = .ofPosition position := by
  obtain ⟨inside, same⟩ := List.getElem?_eq_some_iff.mp declared
  have place : position < (namesOf declarations).length := by simpa using inside
  have name : (namesOf declarations)[position] = declaration.name := by
    rw [List.getElem_map, same]
  rw [identifierIn, ← name, represents.distinct.idxOf_getElem]

theorem indexed (represents : graph.Represents declarations) (name : String) (id : TargetId) :
    graph.index.find? name = some id ↔
      ∃ target ∈ graph.targets, target.name = name ∧ target.id = id := by
  constructor
  · intro found
    have declared : name ∈ namesOf declarations := by
      by_contra unknown
      rw [NameIndex.find_unknown represents.numbers unknown] at found
      cases found
    rw [NameIndex.find_numbered represents.numbers declared, Option.some.injEq] at found
    obtain ⟨target, place, same, number⟩ := represents.target_of_identifier declared
    exact ⟨target, List.mem_of_getElem? place, same, number.trans found⟩
  · rintro ⟨target, member, rfl, rfl⟩
    obtain ⟨position, place⟩ := List.getElem?_of_mem member
    obtain ⟨declaration, declared, rfl⟩ := represents.target_inversion place
    have known : declaration.name ∈ namesOf declarations :=
      List.mem_map_of_mem (List.mem_of_getElem? declared)
    rw [NameIndex.find_numbered represents.numbers known,
      represents.identifier_of_place declared]

theorem bounded (represents : graph.Represents declarations) {target : Target}
    (member : target ∈ graph.targets) {id : TargetId} (edge : id ∈ target.dependencies) :
    id.index < graph.size := by
  obtain ⟨position, place⟩ := List.getElem?_of_mem member
  obtain ⟨declaration, declared, rfl⟩ := represents.target_inversion place
  obtain ⟨dependency, named, rfl⟩ := List.mem_map.mp edge
  have known := represents.resolved declaration (List.mem_of_getElem? declared) dependency named
  rw [identifier_index known (by simpa using represents.fits), represents.size_eq]
  simpa using List.idxOf_lt_length_of_mem known

theorem well_formed (represents : graph.Represents declarations) : graph.WellFormed where
  blank empty := by
    rw [represents.state] at empty
    cases empty
  numbered position target place := by
    obtain ⟨declaration, declared, rfl⟩ := represents.target_inversion place
    exact TargetId.of_position_index position (represents.position_below declared)
  distinct := by
    rw [represents.names_eq]
    exact represents.distinct
  indexed := represents.indexed
  bounded _ member _ edge := represents.bounded member edge

end Represents

end Graph

end TargetGraph

import TargetGraph.Proofs.Representation

/-!
# Loading is exact and lossless

A graph that is still empty takes exactly the declarations whose names are distinct and whose
dependencies are all declared, in whatever order, cycles included. What it then holds is those
declarations again.
-/

namespace TargetGraph

set_option autoImplicit false

namespace Graph

theorem load_unloaded {graph : Graph} (unloaded : graph.state ≠ .loaded)
    (declarations : List Declaration) : graph.load declarations = build declarations := by
  cases lifecycle : graph.state with
  | loaded => exact absurd lifecycle unloaded
  | empty => simp only [load, lifecycle]

theorem build_succeeds {declarations : List Declaration}
    (distinct : (namesOf declarations).Nodup) (fits : declarations.length ≤ 0xFFFFFFFF)
    (resolved : ResolveIn (namesOf declarations) declarations) :
    ∃ graph, (build declarations).outcome = .ok graph := by
  obtain ⟨index, _, built⟩ := build_resolved declarations distinct fits resolved
  exact ⟨_, congrArg Traced.outcome built⟩

theorem Represents.positions {graph : Graph} {declarations : List Declaration}
    (represents : graph.Represents declarations) {position : Nat} {declaration : Declaration}
    (declared : declarations[position]? = some declaration) :
    (declaration.dependencies.map (identifierIn (namesOf declarations))).map TargetId.index =
      declaration.dependencies.map (namesOf declarations).idxOf := by
  rw [List.map_map]
  apply List.map_congr_left
  intro dependency member
  have known := represents.resolved declaration (List.mem_of_getElem? declared) dependency member
  exact identifier_index known (by simpa using represents.fits)

/-- A load succeeds for no other reason than that names are distinct and dependencies declared, and
keeps every name and every dependency, repeated ones included, at its place. -/
theorem load_exact_and_lossless (graph : Graph) (declarations : List Declaration)
    (unloaded : graph.state ≠ .loaded) (few : declarations.length < 0x100000000) :
    ((∃ loaded, (graph.load declarations).outcome = .ok loaded) ↔
      (namesOf declarations).Nodup ∧
        ∀ declaration ∈ declarations, ∀ dependency ∈ declaration.dependencies,
          dependency ∈ namesOf declarations) ∧
    ∀ loaded, (graph.load declarations).outcome = .ok loaded →
      loaded.state = .loaded ∧ loaded.size = declarations.length ∧
      (∀ position (inside : position < declarations.length), ∃ target,
        loaded.targets[position]? = some target ∧ target.id.index = position ∧
        target.name = declarations[position].name ∧
        target.dependencies.map TargetId.index =
          declarations[position].dependencies.map (namesOf declarations).idxOf) ∧
      loaded.restated = .ok declarations := by
  constructor
  · constructor
    · rintro ⟨loaded, done⟩
      have represents := load_represents done
      exact ⟨represents.distinct, represents.resolved⟩
    · rintro ⟨distinct, resolved⟩
      rw [load_unloaded unloaded]
      exact build_succeeds distinct (by omega) resolved
  · intro loaded done
    have represents := load_represents done
    refine ⟨represents.state, represents.size_eq, ?_, represents.restated_eq⟩
    intro position inside
    have declared := List.getElem?_eq_getElem inside
    exact ⟨_, represents.target_get declared,
      TargetId.of_position_index position (represents.position_below declared), rfl,
      represents.positions declared⟩

/-- Forward and backward references, a cycle, a target that depends on itself and an edge that is
written twice. -/
def knot : List Declaration := [⟨"a", ["b", "b"]⟩, ⟨"b", ["a", "b"]⟩]

theorem knot_loads_losslessly : empty.state ≠ .loaded ∧ knot.length < 0x100000000 ∧
    ∃ loaded, (empty.load knot).outcome = .ok loaded ∧ loaded.restated = .ok knot := by
  have unloaded : empty.state ≠ .loaded := by decide
  have few : knot.length < 0x100000000 := by decide
  obtain ⟨succeeds, keeps⟩ := load_exact_and_lossless empty knot unloaded few
  obtain ⟨loaded, done⟩ := succeeds.mpr (by decide)
  exact ⟨unloaded, few, loaded, done, (keeps loaded done).2.2.2⟩

end Graph

end TargetGraph

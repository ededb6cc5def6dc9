import TargetGraph.Graph.Query
import TargetGraph.Proofs.Building

/-!
# Loaded graphs

What a loaded graph holds of its declarations, and that nothing of them is lost: identifiers are
positions, and following them back gives the declared names in declared order.
-/

namespace TargetGraph

set_option autoImplicit false

theorem identifier_index {names : List String} {name : String} (declared : name ∈ names)
    (fits : names.length ≤ 0xFFFFFFFF) : (identifierIn names name).index = names.idxOf name := by
  have inside := List.idxOf_lt_length_of_mem declared
  exact TargetId.of_position_index _ (by omega)

namespace Graph

/-- A graph that was filled from some declarations. -/
structure Represents (graph : Graph) (declarations : List Declaration) : Prop where
  distinct : (namesOf declarations).Nodup
  fits : declarations.length ≤ 0xFFFFFFFF
  resolved : ResolveIn (namesOf declarations) declarations
  targets : graph.targets = targetsOf declarations
  numbers : graph.index.Numbers (namesOf declarations)
  state : graph.state = .loaded

theorem build_represents {declarations : List Declaration} {graph : Graph}
    (built : (build declarations).outcome = .ok graph) : graph.Represents declarations := by
  have verdict := build_verdict declarations
  rw [built] at verdict
  cases verdict with
  | loaded distinct fits resolved numbers => exact ⟨distinct, fits, resolved, rfl, numbers, rfl⟩

theorem load_represents {graph loaded : Graph} {declarations : List Declaration}
    (done : (graph.load declarations).outcome = .ok loaded) : loaded.Represents declarations := by
  cases lifecycle : graph.state with
  | loaded => simp [load, lifecycle, Traced.fail] at done
  | empty =>
      simp only [load, lifecycle] at done
      exact build_represents done

theorem targets_of_get (declarations : List Declaration) (position : Nat) :
    (targetsOf declarations)[position]? = declarations[position]?.map fun declaration =>
      ⟨.ofPosition position, declaration.name,
        declaration.dependencies.map (identifierIn (namesOf declarations))⟩ := by
  rw [targetsOf, targetsFrom, List.getElem?_map, List.getElem?_zipIdx, Nat.zero_add, Option.map_map]
  rfl

/-- The declarations that a graph's targets show, dependencies being looked up by identifier. -/
def restated (graph : Graph) : Except GraphError (List Declaration) :=
  graph.targets.mapM fun target =>
    (graph.dependenciesOf target.id).map fun dependencies =>
      ⟨target.name, dependencies.map Target.name⟩

namespace Represents

variable {graph : Graph} {declarations : List Declaration}

theorem size_eq (represents : graph.Represents declarations) :
    graph.size = declarations.length := by
  simp [size, represents.targets, targetsOf, targetsFrom]

theorem few (represents : graph.Represents declarations) : graph.size ≤ 0xFFFFFFFF := by
  rw [represents.size_eq]
  exact represents.fits

theorem names_eq (represents : graph.Represents declarations) :
    graph.names = namesOf declarations := by
  rw [names, represents.targets, targetsOf, targetsFrom, List.map_map]
  calc
    declarations.zipIdx.map _ = (declarations.zipIdx.map Prod.fst).map Declaration.name := by
      rw [List.map_map]
      rfl
    _ = namesOf declarations := by rw [List.zipIdx_map_fst]

theorem target_get (represents : graph.Represents declarations) {position : Nat}
    {declaration : Declaration} (declared : declarations[position]? = some declaration) :
    graph.targets[position]? = some ⟨.ofPosition position, declaration.name,
      declaration.dependencies.map (identifierIn (namesOf declarations))⟩ := by
  rw [represents.targets, targets_of_get, declared]
  rfl

theorem position_below (represents : graph.Represents declarations) {position : Nat}
    {declaration : Declaration} (declared : declarations[position]? = some declaration) :
    position < 0xFFFFFFFF := by
  obtain ⟨inside, _⟩ := List.getElem?_eq_some_iff.mp declared
  have fits := represents.fits
  omega

theorem target_by_id_get (represents : graph.Represents declarations) {position : Nat}
    {declaration : Declaration} (declared : declarations[position]? = some declaration) :
    graph.targetById (.ofPosition position) = .ok ⟨.ofPosition position, declaration.name,
      declaration.dependencies.map (identifierIn (namesOf declarations))⟩ := by
  have below := represents.position_below declared
  simp [targetById, target?, TargetId.of_position_assigned position below,
    TargetId.of_position_index position below, represents.target_get declared]

theorem target_of_identifier (represents : graph.Represents declarations) {name : String}
    (declared : name ∈ namesOf declarations) :
    ∃ target, graph.target? (identifierIn (namesOf declarations) name) = some target ∧
      target.name = name ∧ target.id = identifierIn (namesOf declarations) name := by
  have found := List.getElem?_idxOf declared
  rw [List.getElem?_map, Option.map_eq_some_iff] at found
  obtain ⟨declaration, place, same⟩ := found
  have found : graph.target? (identifierIn (namesOf declarations) name) =
      graph.targets[(namesOf declarations).idxOf name]? := by
    rw [target?, identifier_index declared (by simpa using represents.fits)]
  rw [represents.target_get place] at found
  exact ⟨_, found, same, rfl⟩

theorem resolve_identifiers (represents : graph.Represents declarations) (wanted : List String)
    (declared : ∀ name ∈ wanted, name ∈ namesOf declarations) :
    (graph.resolve (wanted.map (identifierIn (namesOf declarations)))).map Target.name =
      wanted := by
  induction wanted with
  | nil => rfl
  | cons name wanted induction =>
      obtain ⟨target, found, same, _⟩ := represents.target_of_identifier (declared name (by simp))
      have later := induction fun other member => declared other (by simp [member])
      rw [resolve] at later ⊢
      rw [List.map_cons, List.filterMap_cons, found, List.map_cons, later, same]

/-- Each target shows its declaration, when its identifiers are followed back to names. -/
theorem declarations_shown (represents : graph.Represents declarations) :
    (graph.targets.map fun target =>
      Declaration.mk target.name ((graph.resolve target.dependencies).map Target.name)) =
        declarations := by
  apply List.ext_getElem?
  intro position
  rw [represents.targets, List.getElem?_map, targets_of_get, Option.map_map]
  cases declared : declarations[position]? with
  | none => rfl
  | some declaration =>
      have resolved := represents.resolve_identifiers declaration.dependencies
        (represents.resolved declaration (List.mem_of_getElem? declared))
      simp only [Option.map_some, Function.comp_apply, resolved]

theorem restated_eq (represents : graph.Represents declarations) :
    graph.restated = .ok declarations := by
  have each : ∀ target ∈ graph.targets, (graph.dependenciesOf target.id).map
      (fun dependencies => Declaration.mk target.name (dependencies.map Target.name)) =
        .ok ⟨target.name, (graph.resolve target.dependencies).map Target.name⟩ := by
    intro target member
    rw [represents.targets] at member
    obtain ⟨position, place⟩ := List.getElem?_of_mem member
    rw [targets_of_get, Option.map_eq_some_iff] at place
    obtain ⟨declaration, declared, same⟩ := place
    rw [← same, dependenciesOf, represents.target_by_id_get declared]
    rfl
  rw [restated, map_m_ok _ _ _ each, represents.declarations_shown]

end Represents

end Graph

end TargetGraph

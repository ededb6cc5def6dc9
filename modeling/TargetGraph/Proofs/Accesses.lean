import TargetGraph.Command.Report
import TargetGraph.Graph.Access
import TargetGraph.Proofs.Lookups

/-!
# Accesses without a check

The name index and the edges of a graph hold identifiers that are followed without a check, by queries
and by the command line alike. Whatever has been done with the graph, each of them has its target, so
that what follows them comes to the same as if it had been checked. Only an element can be missing,
since it is asked for by any identifier at all.
-/

namespace TargetGraph

set_option autoImplicit false

namespace Graph

variable {graph : Graph}

theorem access_found {id : TargetId} {target : Target} (found : graph.target? id = some target) :
    graph.access id = .ok target := by
  rw [access, found]

theorem access_beyond {id : TargetId} (beyond : graph.size ≤ id.index) :
    graph.access id = .error ⟨id.index, graph.size⟩ := by
  rw [access, target_beyond beyond]

namespace WellFormed

variable (formed : graph.WellFormed)
include formed

/-- Every identifier that the index gives has its target. -/
theorem known_name {name : String} {id : TargetId} (known : graph.index.find? name = some id) :
    ∃ target, graph.target? id = some target ∧ graph.targetByName name = some target := by
  obtain ⟨target, member, _, rfl⟩ := (formed.indexed name id).mp known
  have found := formed.target_of_member member
  refine ⟨target, found, ?_⟩
  rw [targetByName, known, Option.bind_some, found]

/-- Every edge has its target. -/
theorem resolved_edges {target : Target} (member : target ∈ graph.targets) :
    List.Forall₂ (fun id target => graph.target? id = some target) target.dependencies
      (graph.resolve target.dependencies) :=
  formed.resolved (formed.bounded target member)

theorem access_edges {target : Target} (member : target ∈ graph.targets) :
    graph.accessAll target.dependencies = .ok (graph.resolve target.dependencies) :=
  map_m_pure ((formed.resolved_edges member).imp fun _ _ => access_found)

theorem access_by_name (name : String) : graph.accessByName name = .ok (graph.targetByName name) := by
  unfold accessByName
  cases known : graph.index.find? name with
  | none =>
      rw [targetByName, known]
      rfl
  | some id =>
      obtain ⟨target, found, given⟩ := formed.known_name known
      simp only [access_found found, given]
      rfl

theorem access_dependencies (few : graph.size ≤ 0xFFFFFFFF) (id : TargetId) :
    graph.accessDependencies id = .ok (graph.dependenciesOf id) := by
  unfold accessDependencies dependenciesOf
  cases given : graph.targetById id with
  | error error => rfl
  | ok target =>
      have member := ((formed.target_by_id few id target).mp given).1
      simp only [formed.access_edges member]
      rfl

theorem access_top_level : graph.accessTopLevel = .ok graph.topLevel := by
  unfold accessTopLevel topLevel
  cases found : graph.targets.find? fun target => target.name = rootName with
  | none => rfl
  | some root =>
      have member := List.mem_of_find?_eq_some found
      simp only [formed.access_edges member]
      rfl

/-- Whatever is no element is answered as if every access were checked. -/
theorem attempt_other (few : graph.size ≤ 0xFFFFFFFF) {operation : Operation}
    (other : ∀ id, operation ≠ .ask (.element id)) :
    graph.attempt operation = .ok (graph.perform operation) := by
  cases operation with
  | load declarations => rfl
  | ask query =>
      cases query with
      | targetByName name =>
          rw [attempt, formed.access_by_name name]
          rfl
      | dependenciesOf id =>
          rw [attempt, formed.access_dependencies few id]
          rfl
      | topLevel =>
          rw [attempt, formed.access_top_level]
          rfl
      | element id => exact absurd rfl (other id)
      | _ => rfl

/-- What is out of range for a checked lookup breaks an access off, and otherwise both give the same
target. -/
theorem access_checked (few : graph.size ≤ 0xFFFFFFFF) (id : TargetId) :
    (graph.size ≤ id.index ∧ graph.access id = .error ⟨id.index, graph.size⟩ ∧
      graph.targetById id = .error (.outOfRange id graph.size)) ∨
    ∃ target, id.index < graph.size ∧ graph.access id = .ok target ∧
      graph.targetById id = .ok target := by
  rcases formed.in_range_or_beyond id with ⟨target, member, rfl⟩ | beyond
  · have taken := access_found (formed.target_of_member member)
    have given := (formed.target_by_id few target.id target).mpr ⟨member, rfl⟩
    exact .inr ⟨target, formed.inside_of_member member, taken, given⟩
  · exact .inl ⟨beyond, access_beyond beyond, target_by_id_beyond beyond⟩

end WellFormed

end Graph

namespace Command.Session

variable {graph : Graph}

theorem element_found {id : TargetId} {target : Target} (found : graph.target? id = some target) :
    element graph id = pure target := by
  rw [element, found]

section

variable (formed : graph.WellFormed)
include formed

theorem edges_found {target : Target} (member : target ∈ graph.targets) :
    target.dependencies.mapM (element graph) = pure (graph.resolve target.dependencies) :=
  map_m_pure ((formed.resolved_edges member).imp fun _ _ => element_found)

theorem dependency_names_found {target : Target} (member : target ∈ graph.targets) :
    dependencyNames graph target = pure (graph.dependencyNames target) := by
  rw [dependencyNames, edges_found formed member, pure_bind]
  rfl

/-- Printing a target is printing its line and nothing else. -/
theorem print_target_found (coloured : Bool) {target : Target} (member : target ∈ graph.targets) :
    printTarget coloured graph target =
      print (targetLine coloured target (graph.dependencyNames target)) := by
  rw [printTarget, dependency_names_found formed member, pure_bind]

theorem target_by_name_found (name : String) :
    targetByName graph name = pure (graph.targetByName name) := by
  unfold targetByName
  cases known : graph.index.find? name with
  | none =>
      rw [Graph.targetByName, known]
      rfl
  | some id =>
      obtain ⟨target, found, given⟩ := formed.known_name known
      simp only [element_found found, given, pure_bind]

theorem top_level_found : topLevel graph = pure graph.topLevel := by
  unfold topLevel Graph.topLevel
  cases found : graph.targets.find? fun target => target.name = rootName with
  | none => rfl
  | some root =>
      have member := List.mem_of_find?_eq_some found
      simp only [edges_found formed member, pure_bind, Option.map_some]

end

end Command.Session

namespace Graph

variable {graph : Graph}

/-- Whatever has been done with a graph, no operation on it is broken off but an element that is asked
for by an identifier without a target. Those are just the identifiers that a checked lookup finds out of
range, the unassigned one among them; for every other one the element is what the lookup gives. On the
command line, taking the targets that a target of the graph depends on and printing that target never
break off either. -/
theorem only_elements_break (reachable : graph.Reachable) :
    (∀ operation, (∀ id, operation ≠ .ask (.element id)) →
      graph.attempt operation = .ok (graph.perform operation)) ∧
    (∀ id, ((∃ outside, graph.attempt (.ask (.element id)) = .error outside) ↔
        graph.size ≤ id.index) ∧
      (graph.size ≤ id.index ↔ graph.targetById id = .error (.outOfRange id graph.size)) ∧
      ∀ answer, graph.attempt (.ask (.element id)) = .ok answer →
        ∃ target, answer = (.element (some target), graph) ∧ graph.targetById id = .ok target) ∧
    graph.size ≤ TargetId.unassigned.index ∧
    ∀ target ∈ graph.targets, ∀ coloured,
      Command.Session.dependencyNames graph target = pure (graph.dependencyNames target) ∧
      Command.Session.printTarget coloured graph target =
        Command.Session.print
          (Command.targetLine coloured target (graph.dependencyNames target)) := by
  have formed := reachable.well_formed
  have few := reachable.size_le
  constructor
  · intro operation other
    exact formed.attempt_other few other
  constructor
  · intro id
    rw [attempt]
    rcases formed.access_checked few id with ⟨beyond, broken, refused⟩ | ⟨target, inside, taken, given⟩
    · rw [broken, refused]
      exact ⟨⟨fun _ => beyond, fun _ => ⟨_, rfl⟩⟩, ⟨fun _ => rfl, fun _ => beyond⟩, nofun⟩
    · have within := Nat.not_le.mpr inside
      rw [taken, given]
      refine ⟨⟨nofun, fun beyond => absurd beyond within⟩,
        ⟨fun beyond => absurd beyond within, nofun⟩, ?_⟩
      intro answer same
      cases same
      exact ⟨target, rfl, rfl⟩
  constructor
  · exact few
  · intro target member coloured
    constructor
    · exact Command.Session.dependency_names_found formed member
    · exact Command.Session.print_target_found formed coloured member

theorem rooted_elements_break : rootedGraph.Reachable ∧
    rootedGraph.attempt (.ask .topLevel) = .ok (rootedGraph.perform (.ask .topLevel)) ∧
    (∃ outside, rootedGraph.attempt (.ask (.element ⟨3⟩)) = .error outside) ∧
    rootedGraph.targetById ⟨3⟩ = .error (.outOfRange ⟨3⟩ 3) := by
  obtain ⟨others, elements, _⟩ := only_elements_break rooted_reachable
  have size : rootedGraph.size = 3 := by decide
  have beyond : rootedGraph.size ≤ (⟨3⟩ : TargetId).index := by decide
  have refused := (elements ⟨3⟩).2.1.mp beyond
  rw [size] at refused
  exact ⟨rooted_reachable, others _ nofun, (elements ⟨3⟩).1.mpr beyond, refused⟩

end Graph

end TargetGraph

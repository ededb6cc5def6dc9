import TargetGraph.Json.Read
import TargetGraph.Proofs.CommandOutcome

/-!
# The commands answer alike in JSON

The list of all targets, the list of the top-level ones and the record of a single target are put together
in three ways. What they say is compared here as a reader of the printed values would do it: by members,
and by positions in the list of all targets.
-/

namespace TargetGraph

set_option autoImplicit false

def Json.member? : Json → String → Option Json
  | .object members, key => members.lookup key
  | _, _ => none

namespace Command

def AsksJson (file : String) (action : Action) (arguments : List String) : Prop :=
  ∃ options, Request.ofArguments arguments = some (.run action options) ∧ options.fileName = file ∧
    options.json = true

structure Outcome.Shows (outcome : Outcome) (value : Json) : Prop where
  code : outcome.code = 0
  printed : outcome.printed = [value.pretty]

/-- The top-level list against the list of all targets. It is null just where no element has the root's
name; otherwise it has the dependencies of that element in their order, and each of its elements is the
one at the position that its identifier tells. -/
structure TopAgrees (all : List Json) (top : Json) : Prop where
  null_iff : top = .null ↔ ∀ element ∈ all, element.member? "name" ≠ some (.string rootName)
  listed : ∀ root ∈ all, root.member? "name" = some (.string rootName) → ∃ elements ids,
    top = .array elements ∧ root.member? "dependencies" = some (.array ids) ∧
      elements.map (fun element => element.member? "id") = ids.map some
  placed : ∀ elements, top = .array elements → ∀ element ∈ elements, ∃ position,
    element.member? "id" = some (.number position) ∧ all[position]? = some element

/-- The record of a single target against the list of all targets and the declarations of the document.
It has the members of the element at its position, and its dependencies have the names of the elements at
theirs, which are the declared names. -/
def SingleAgrees (all : List Json) (declarations : List Declaration) (single : Json) : Prop :=
  ∃ (position : Nat) (element : Json) (declaration : Declaration) (ids names : List Json),
    single.member? "id" = some (.number position) ∧ all[position]? = some element ∧
    declarations[position]? = some declaration ∧
    (∀ key ∈ ["id", "name", "dependencies"], single.member? key = element.member? key) ∧
    single.member? "name" = some (.string declaration.name) ∧
    single.member? "dependencies" = some (.array ids) ∧
    single.member? "dependency_names" = some (.array names) ∧
    names = declaration.dependencies.map .string ∧
    List.Forall₂ (fun id name => ∃ place other, id = .number place ∧ all[place]? = some other ∧
      other.member? "name" = some name) ids names

section

variable {graph : Graph} {targets : List Target}

theorem name_of_element {target : Target} {name : String} :
    target.toJson.member? "name" = some (.string name) ↔ target.name = name := by
  change some (Json.string target.name) = some (.string name) ↔ _
  rw [Option.some.injEq, Json.string.injEq]

theorem single_members (target : Target) (names : List String) :
    ∀ key ∈ ["id", "name", "dependencies"],
      (targetJson target names).member? key = target.toJson.member? key := by
  intro key member
  simp only [List.mem_cons, List.not_mem_nil, or_false] at member
  rcases member with rfl | rfl | rfl
  · rfl
  · rfl
  · rfl

theorem element_at (formed : graph.WellFormed) {target : Target} (member : target ∈ graph.targets) :
    (graph.targets.map Target.toJson)[target.id.index]? = some target.toJson := by
  have found : graph.targets[target.id.index]? = some target := formed.target_of_member member
  rw [List.getElem?_map, found, Option.map_some]

theorem resolve_members (formed : graph.WellFormed)
    (members : ∀ target ∈ targets, target ∈ graph.targets) :
    graph.resolve (targets.map Target.id) = targets := by
  induction targets with
  | nil => rfl
  | cons target targets induction =>
      have found := formed.target_of_member (members target (by simp))
      have later := induction fun other among => members other (by simp [among])
      rw [Graph.resolve] at later ⊢
      rw [List.map_cons, List.filterMap_cons, found, later]

/-- There is only one list that a root can be said to list. -/
theorem TopLevel.unique (formed : graph.WellFormed) (top : TopLevel graph targets) :
    graph.topLevel = some targets := by
  rcases top.listed with ⟨root, member, named, ids⟩
  have found := (formed.target_by_name rootName root).mpr ⟨member, named⟩
  rw [Graph.topLevel, formed.find_by_name, found, Option.map_some, ← ids,
    resolve_members formed top.members]

theorem Rootless.no_top_level (none : Rootless graph) : graph.topLevel = Option.none := by
  have absent : (graph.targets.find? fun target => target.name = rootName) = Option.none := by
    rw [List.find?_eq_none]
    intro target member
    simpa using none target member
  rw [Graph.topLevel, absent]
  rfl

theorem rootless_agrees (none : Rootless graph) :
    TopAgrees (graph.targets.map Target.toJson) .null := by
  have unnamed : ∀ element ∈ graph.targets.map Target.toJson,
      element.member? "name" ≠ some (.string rootName) := by
    intro element among
    rcases List.mem_map.mp among with ⟨target, member, rfl⟩
    rw [ne_eq, name_of_element]
    exact none target member
  constructor
  · exact ⟨fun _ => unnamed, fun _ => rfl⟩
  · intro root among named
    exact absurd named (unnamed root among)
  · intro elements same
    cases same

theorem TopLevel.agrees (formed : graph.WellFormed) (top : TopLevel graph targets) :
    TopAgrees (graph.targets.map Target.toJson) (targetsToJson targets) := by
  rcases top.listed with ⟨root, member, named, ids⟩
  constructor
  · constructor
    · intro same
      cases same
    · intro unnamed
      have absent := unnamed root.toJson (List.mem_map_of_mem member)
      exact absurd (name_of_element.mpr named) absent
  -- Names are distinct, so that the element with the root's name is the root itself.
  · intro element among known
    rcases List.mem_map.mp among with ⟨other, there, rfl⟩
    have same := formed.same_name there member ((name_of_element.mp known).trans named.symm)
    subst same
    refine ⟨_, _, rfl, rfl, ?_⟩
    rw [← ids, List.map_map, List.map_map, List.map_map]
    rfl
  · intro elements same element among
    rw [← Json.array.inj same] at among
    rcases List.mem_map.mp among with ⟨target, there, rfl⟩
    exact ⟨target.id.index, rfl, element_at formed (top.members target there)⟩

theorem top_agrees (formed : graph.WellFormed) :
    TopAgrees (graph.targets.map Target.toJson) (topJson graph.topLevel) := by
  cases given : graph.topLevel with
  | none => exact rootless_agrees (top_level_absent given)
  | some targets => exact (top_level_listed formed given).agrees formed

theorem dependency_names_agree (formed : graph.WellFormed) {target : Target}
    (member : target ∈ graph.targets) :
    List.Forall₂ (fun id name => ∃ place other, id = Json.number place ∧
        (graph.targets.map Target.toJson)[place]? = some other ∧ other.member? "name" = some name)
      (target.dependencies.map TargetId.toJson) ((graph.dependencyNames target).map .string) := by
  rw [Graph.dependencyNames, List.map_map, List.forall₂_map_left_iff, List.forall₂_map_right_iff]
  apply (formed.resolved (formed.bounded target member)).imp
  intro id other found
  refine ⟨id.index, other.toJson, rfl, ?_, rfl⟩
  have place : graph.targets[id.index]? = some other := found
  rw [List.getElem?_map, place, Option.map_some]

theorem declared_at {declarations : List Declaration} (represents : graph.Represents declarations)
    {target : Target} (member : target ∈ graph.targets) :
    declarations[target.id.index]? = some ⟨target.name, graph.dependencyNames target⟩ := by
  have found : graph.targets[target.id.index]? = some target :=
    represents.well_formed.target_of_member member
  rw [← represents.declarations_shown, List.getElem?_map, found]
  rfl

theorem single_agrees {declarations : List Declaration} (represents : graph.Represents declarations)
    {target : Target} (member : target ∈ graph.targets) :
    SingleAgrees (graph.targets.map Target.toJson) declarations
      (targetJson target (graph.dependencyNames target)) := by
  have formed := represents.well_formed
  refine ⟨target.id.index, target.toJson, _, target.dependencies.map TargetId.toJson,
    (graph.dependencyNames target).map .string, ?_, element_at formed member,
    declared_at represents member, single_members target _, ?_, ?_, ?_, rfl,
    dependency_names_agree formed member⟩
  · exact single_members target _ "id" (by simp)
  · exact single_members target _ "name" (by simp)
  · exact single_members target _ "dependencies" (by simp)
  · rfl

end

section

variable {files : Files} {file : String} {graph : Graph}
  (loaded : (Graph.ofPath files file).outcome = .ok graph)
include loaded

/-- An action that is asked for on a document that loads is answered in JSON, unless a single target is
not there. -/
theorem AsksJson.answered {action : Action} {arguments : List String}
    (asks : AsksJson file action arguments) (environment : Environment) :
    (run files environment arguments).code = 0 ∧
      Answers environment.coloured file graph true action (run files environment arguments).printed ∨
    (run files environment arguments).code = 1 ∧ ∃ reference, action = .show reference := by
  rcases asks with ⟨options, accepted, named, json⟩
  subst named
  rw [← json]
  exact loaded_answered environment accepted loaded

theorem AsksJson.targets_shown {arguments : List String} (asks : AsksJson file .targets arguments)
    (environment : Environment) :
    (run files environment arguments).Shows (.array (graph.targets.map Target.toJson)) := by
  rcases asks.answered loaded environment with ⟨code, answers⟩ | ⟨_, reference, other⟩
  · generalize shown : (run files environment arguments).printed = printed at answers
    cases answers with
    | targetsJson => exact ⟨code, shown⟩
  · cases other

theorem AsksJson.top_shown (formed : graph.WellFormed) {arguments : List String}
    (asks : AsksJson file .top arguments) (environment : Environment) :
    (run files environment arguments).Shows (topJson graph.topLevel) := by
  rcases asks.answered loaded environment with ⟨code, answers⟩ | ⟨_, reference, other⟩
  · generalize shown : (run files environment arguments).printed = printed at answers
    cases answers with
    | topJson targets top =>
        rw [top.unique formed]
        exact ⟨code, shown⟩
    | noRootJson none =>
        rw [none.no_top_level]
        exact ⟨code, shown⟩
  · cases other

theorem AsksJson.single_shown {arguments : List String} {reference : String}
    (asks : AsksJson file (.show reference) arguments) (environment : Environment)
    (succeeds : (run files environment arguments).code = 0) :
    ∃ target ∈ graph.targets, (run files environment arguments).Shows
      (targetJson target (graph.dependencyNames target)) := by
  rcases asks.answered loaded environment with ⟨code, answers⟩ | ⟨fails, _⟩
  · generalize shown : (run files environment arguments).printed = printed at answers
    cases answers with
    | singleJson reference target refers =>
        have member : target ∈ graph.targets := by
          cases refers with
          | number _ _ member _ => exact member
          | name _ member _ => exact member
        exact ⟨target, member, code, shown⟩
  · rw [fails] at succeeds
    cases succeeds

/-- What the three commands print in JSON of a document that loads is one view of it. The elements of the
top-level list stand in the list of all targets at the positions that their identifiers tell; there is no
such list just where no element of the list of all has the root's name, and otherwise it is the
dependencies of that element in order. A single target that is found has the members of the element at its
position, and the names of its dependencies are those of the elements at their positions and those that
the document has in their places. -/
theorem json_views_agree :
    ∃ document all top, (Document.ofPath files file).outcome = .ok document ∧
      (∀ environment arguments, AsksJson file .targets arguments →
        (run files environment arguments).Shows (.array all)) ∧
      (∀ environment arguments, AsksJson file .top arguments →
        (run files environment arguments).Shows top) ∧
      TopAgrees all top ∧
      ∀ environment arguments reference, AsksJson file (.show reference) arguments →
        (run files environment arguments).code = 0 →
          ∃ single, (run files environment arguments).Shows single ∧
            SingleAgrees all document.declarations single := by
  rcases of_path_loaded loaded with ⟨document, read, represents⟩
  have formed := represents.well_formed
  refine ⟨document, graph.targets.map Target.toJson, topJson graph.topLevel, read, ?_, ?_,
    top_agrees formed, ?_⟩
  · intro environment arguments asks
    exact asks.targets_shown loaded environment
  · intro environment arguments asks
    exact asks.top_shown loaded formed environment
  · intro environment arguments reference asks succeeds
    rcases asks.single_shown loaded environment succeeds with ⟨target, member, shows⟩
    exact ⟨_, shows, single_agrees represents member⟩

end

/-- A root behind what it depends on, twice the same target in its list, and a target that depends on
itself and on the root. -/
def ringFiles : Files := fun _ =>
  .ok [.bytes (Yaml.octets "a: [a, DOCUMENT]\nDOCUMENT: [b, a, b]\nb: []\n".toList)]

theorem ring_views_agree :
    (∃ graph, (Graph.ofPath ringFiles "targets.yml").outcome = .ok graph) ∧
    AsksJson "targets.yml" .targets ["targets", "--json"] ∧
    AsksJson "targets.yml" .top ["--json", "top"] ∧
    AsksJson "targets.yml" (.show "a") ["show", "a", "--json"] ∧
    ∃ declarations all top single,
      (run ringFiles ⟨none, false⟩ ["targets", "--json"]).Shows (.array all) ∧
      (run ringFiles ⟨none, false⟩ ["--json", "top"]).Shows top ∧ TopAgrees all top ∧
      (run ringFiles ⟨none, false⟩ ["show", "a", "--json"]).Shows single ∧
      SingleAgrees all declarations single := by
  have targets : AsksJson "targets.yml" .targets ["targets", "--json"] :=
    ⟨⟨none, true, false⟩, by decide +kernel, rfl, rfl⟩
  have top : AsksJson "targets.yml" .top ["--json", "top"] :=
    ⟨⟨none, true, false⟩, by decide +kernel, rfl, rfl⟩
  have single : AsksJson "targets.yml" (.show "a") ["show", "a", "--json"] :=
    ⟨⟨none, true, false⟩, by decide +kernel, rfl, rfl⟩
  have loads : (match (Graph.ofPath ringFiles "targets.yml").outcome with
      | .ok _ => true
      | .error _ => false) = true := by
    decide +kernel
  split at loads
  · rename_i graph loaded
    rcases json_views_agree loaded with ⟨document, all, list, _, listed, topmost, agrees, others⟩
    have found : (run ringFiles ⟨none, false⟩ ["show", "a", "--json"]).code = 0 := by
      decide +kernel
    rcases others ⟨none, false⟩ _ "a" single found with ⟨record, shows, matched⟩
    exact ⟨⟨graph, loaded⟩, targets, top, single, document.declarations, all, list, record,
      listed _ _ targets, topmost _ _ top, agrees, shows, matched⟩
  · cases loads

end Command

end TargetGraph

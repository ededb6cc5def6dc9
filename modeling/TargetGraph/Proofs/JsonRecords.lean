import TargetGraph.Graph.Json
import TargetGraph.Proofs.JsonReading
import TargetGraph.Proofs.Lookups

/-!
# Graphs and documents as JSON

The JSON text of a loaded graph holds all of it. The records in it are the targets, and following their
identifiers back gives the declarations that the graph was loaded from.
-/

namespace TargetGraph

set_option autoImplicit false

theorem Json.written_is_text {value : Json} {text : String}
    (among : text ∈ [value.compact, value.pretty]) : value.IsText text := by
  rcases List.mem_pair.mp among with same | same
  · rw [same]
    exact value.compact_is_text
  · rw [same]
    exact value.pretty_is_text

theorem Json.written_alike {value other : Json} {text : String}
    (among : text ∈ [value.compact, value.pretty]) (again : text ∈ [other.compact, other.pretty]) :
    value = other := by
  have first := (Json.written_is_text among).read
  rw [(Json.written_is_text again).read] at first
  exact (Option.some.inj first).symm

theorem TargetId.of_json (id : TargetId) : ofJson? id.toJson = some id := by
  have word : id.index < 0x100000000 := id.raw.toNat_lt
  rw [toJson, ofJson?, if_pos word, of_position_of_index]

theorem Target.of_json (target : Target) : ofJson? target.toJson = some target := by
  have numbers : (target.dependencies.map TargetId.toJson).mapM TargetId.ofJson? =
      some target.dependencies := by
    apply map_m_pure
    rw [List.forall₂_map_left_iff, List.forall₂_same]
    intro id _
    exact id.of_json
  simp [toJson, ofJson?, TargetId.of_json, numbers]

theorem targets_of_json (targets : List Target) : targetsOfJson? (targetsToJson targets) = some targets := by
  rw [targetsToJson, targetsOfJson?]
  apply map_m_pure
  rw [List.forall₂_map_left_iff, List.forall₂_same]
  intro target _
  exact target.of_json

theorem Declaration.to_json_injective : Function.Injective Declaration.toJson := by
  have texts : Function.Injective (List.map Json.string) :=
    List.map_injective_iff.mpr fun _ _ same => Json.string.inj same
  intro declaration other same
  cases declaration
  cases other
  simp only [toJson, Json.object.injEq, List.cons.injEq, Prod.mk.injEq, Json.string.injEq,
    Json.array.injEq, true_and, and_true] at same
  rw [same.1, texts same.2]

theorem Document.to_json_injective : Function.Injective Document.toJson := by
  intro document other same
  cases document
  cases other
  simp only [toJson, Json.object.injEq, List.cons.injEq, Prod.mk.injEq, Json.array.injEq, true_and,
    and_true] at same
  rw [List.map_injective_iff.mpr Declaration.to_json_injective same]

namespace Graph

variable {graph : Graph}

/-- Every dependency is the identifier of a record, whose name it stands for. -/
theorem WellFormed.declared (formed : graph.WellFormed) {target : Target}
    (member : target ∈ graph.targets) : target.declared? graph.targets =
      some ⟨target.name, (graph.resolve target.dependencies).map Target.name⟩ := by
  have names : (target.dependencies.mapM fun id =>
      (graph.targets.find? fun other => other.id = id).map Target.name) =
        some ((graph.resolve target.dependencies).map Target.name) := by
    apply map_m_pure
    rw [List.forall₂_map_right_iff]
    apply (formed.resolved (formed.bounded target member)).imp
    intro id other found
    rw [formed.find_by_id, found]
    rfl
  rw [Target.declared?, names]
  rfl

theorem Represents.declarations_of_records {declarations : List Declaration}
    (represents : graph.Represents declarations) :
    declarationsOf? graph.targets = some declarations := by
  rw [← represents.declarations_shown]
  apply map_m_pure
  rw [List.forall₂_map_right_iff, List.forall₂_same]
  intro target member
  exact represents.well_formed.declared member

theorem targets_of_text {text : String} (among : text ∈ [graph.toJson.compact, graph.toJson.pretty]) :
    targetsOfText? text = some graph.targets := by
  rw [targetsOfText?, (Json.written_is_text among).read]
  exact targets_of_json graph.targets

/-- Both JSON texts of a loaded graph are well-formed, mean one value only, and list the records of its
targets in the order of their identifiers; the longer one is the other one with blanks between its tokens.
Hence graphs with equal texts have equal targets, and the declarations that the records come from load as
the same graph. Documents with equal texts are equal. -/
theorem json_text_determines :
    (∀ graph : Graph, graph.Reachable → graph.state = .loaded →
      (∀ text ∈ [graph.toJson.compact, graph.toJson.pretty],
        graph.toJson.IsText text ∧ (∀ value : Json, value.IsText text → value = graph.toJson) ∧
        targetsOfText? text = some graph.targets ∧
        ∃ declarations, (targetsOfText? text).bind declarationsOf? = some declarations ∧
          (empty.load declarations).outcome = .ok graph) ∧
      (∀ (position : Nat) (target : Target), graph.targets[position]? = some target →
        target.id.index = position) ∧
      Json.squeeze graph.toJson.pretty = graph.toJson.compact ∧
      ∀ other : Graph, other.Reachable → other.state = .loaded →
        ∀ text ∈ [graph.toJson.compact, graph.toJson.pretty],
          text ∈ [other.toJson.compact, other.toJson.pretty] → graph.targets = other.targets) ∧
    ∀ document other : Document, ∀ text ∈ [document.toJson.compact, document.toJson.pretty],
      text ∈ [other.toJson.compact, other.toJson.pretty] → document = other := by
  constructor
  · intro graph reachable loaded
    rcases reachable.loaded_from loaded with ⟨declarations, done⟩
    have restored := (load_represents done).declarations_of_records
    constructor
    · intro text among
      have means := Json.written_is_text among
      have records := targets_of_text among
      refine ⟨means, ?_, records, declarations, ?_, done⟩
      · intro value again
        have first := means.read
        rw [again.read] at first
        exact Option.some.inj first
      · rw [records]
        exact restored
    constructor
    · exact reachable.well_formed.numbered
    constructor
    · exact graph.toJson.pretty_squeezed
    · intro other _ _ text among again
      have first := targets_of_text among
      rw [targets_of_text again] at first
      exact (Option.some.inj first).symm
  · intro document other text among again
    exact Document.to_json_injective (Json.written_alike among again)

def strange : List Declaration :=
  [⟨"\x22\\", ["\x01\n"]⟩, ⟨"\x01\n", ["\x22\\", "é😀", "\x22\\"]⟩, ⟨"é😀", []⟩]

def strangeGraph : Graph := (empty.run [.load strange]).2

theorem strange_text_determines : strangeGraph.Reachable ∧ strangeGraph.state = .loaded ∧
    strangeGraph.toJson.compact =
      "[\x7b\"id\":0,\"name\":\"\\\"\\\\\",\"dependencies\":[1]\x7d," ++
        "\x7b\"id\":1,\"name\":\"\\u0001\\n\",\"dependencies\":[0,2,0]\x7d," ++
        "\x7b\"id\":2,\"name\":\"é😀\",\"dependencies\":[]\x7d]" ∧
    Json.squeeze strangeGraph.toJson.pretty = strangeGraph.toJson.compact ∧
    targetsOfText? strangeGraph.toJson.pretty = some strangeGraph.targets ∧
    (∃ declarations, (targetsOfText? strangeGraph.toJson.compact).bind declarationsOf? =
        some declarations ∧ (empty.load declarations).outcome = .ok strangeGraph) ∧
    (Document.mk strange).toJson.pretty = (Document.mk strange.reverse.reverse).toJson.pretty ∧
    Document.mk strange = Document.mk strange.reverse.reverse := by
  have reachable : strangeGraph.Reachable := ⟨[.load strange], rfl⟩
  have loaded : strangeGraph.state = .loaded := rfl
  rcases json_text_determines with ⟨graphs, documents⟩
  rcases graphs strangeGraph reachable loaded with ⟨texts, _, squeezed, _⟩
  have long := texts strangeGraph.toJson.pretty (by simp)
  have short := texts strangeGraph.toJson.compact (by simp)
  have same := documents ⟨strange⟩ ⟨strange.reverse.reverse⟩ _ (List.mem_cons_of_mem _ (by simp))
    (List.mem_cons_of_mem _ List.mem_cons_self)
  exact ⟨reachable, loaded, by decide +kernel, squeezed, long.2.2.1, short.2.2.2, rfl, same⟩

end Graph

end TargetGraph

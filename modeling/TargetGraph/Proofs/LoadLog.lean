import Mathlib.Data.List.TakeWhile
import TargetGraph.Proofs.CommandOutcome

/-!
# The log of a load

What a load leaves behind tells how far it got: whether the file was opened, how many entries were read
and how many targets registered, each dependency up to the first undeclared one, and the totals if there
was none.
-/

namespace TargetGraph

set_option autoImplicit false

def edgesOf (declarations : List Declaration) : List (String × String) :=
  declarations.flatMap fun declaration =>
    declaration.dependencies.map fun dependency => (declaration.name, dependency)

namespace Log

/-- The edges up to the first whose dependency is not among the names. -/
def ofEdges (names : List String) (edges : List (String × String)) : List Event :=
  (edges.takeWhile fun edge => decide (edge.2 ∈ names)).map fun edge =>
    Graph.resolution names edge.1 edge.2

/-- More declarations than identifiers are not registered, like repeated names. -/
def ofDeclarations (declarations : List Declaration) : List Event :=
  if (namesOf declarations).Nodup ∧ declarations.length ≤ 0xFFFFFFFF then
    .registered declarations.length ::
      (ofEdges (namesOf declarations) (edgesOf declarations) ++
        if ∀ edge ∈ edgesOf declarations, edge.2 ∈ namesOf declarations then
          [.connected (edgesOf declarations).length, .loaded declarations.length]
        else [])
  else []

/-- Nothing is parsed of a blank text, which is a document all the same. -/
def ofText (text : String) : List Event :=
  match (Document.ofText text).outcome with
  | .error _ => []
  | .ok document =>
    (if Text.isBlankText text.toList then [] else [.parsed document.size]) ++
      ofDeclarations document.declarations

def ofStream (stream : ByteStream) : List Event :=
  match stream.readToEnd with
  | .error _ => []
  | .ok bytes =>
    match Text.Utf8.decode? bytes with
    | none => []
    | some text => ofText (String.ofList text)

def ofPath (files : Files) (path : String) : List Event :=
  match files path with
  | .error _ => []
  | .ok stream => .reading path :: ofStream stream

/-- The events of a load, and the size of the graph if there is one. -/
def left {ε : Type} (load : Traced ε Graph) : List Event :=
  load.events ++ match load.outcome with
    | .error _ => []
    | .ok graph => [.loaded graph.size]

end Log

section

variable {names : List String} {declarations : List Declaration}

theorem edges_of_append (before after : List Declaration) :
    edgesOf (before ++ after) = edgesOf before ++ edgesOf after := List.flatMap_append

theorem edges_of_cons (declaration : Declaration) (rest : List Declaration) :
    edgesOf (declaration :: rest) =
      declaration.dependencies.map (fun dependency => (declaration.name, dependency)) ++ edgesOf rest :=
  List.flatMap_cons

theorem mem_edges_iff (edge : String × String) : edge ∈ edgesOf declarations ↔
    ∃ declaration ∈ declarations, declaration.name = edge.1 ∧ edge.2 ∈ declaration.dependencies := by
  unfold edgesOf
  rw [List.mem_flatMap]
  constructor
  · rintro ⟨declaration, member, inside⟩
    rcases List.mem_map.mp inside with ⟨dependency, needed, rfl⟩
    exact ⟨declaration, member, rfl, needed⟩
  · rintro ⟨declaration, member, named, needed⟩
    exact ⟨declaration, member, List.mem_map.mpr ⟨edge.2, needed, by rw [named]⟩⟩

theorem resolve_in_iff :
    ResolveIn names declarations ↔ ∀ edge ∈ edgesOf declarations, edge.2 ∈ names := by
  constructor
  · intro resolved edge member
    rcases (mem_edges_iff edge).mp member with ⟨declaration, declared, _, needed⟩
    exact resolved declaration declared edge.2 needed
  · intro resolved declaration declared dependency needed
    exact resolved (declaration.name, dependency)
      ((mem_edges_iff _).mpr ⟨declaration, declared, rfl, needed⟩)

theorem resolutions_of_edges : Graph.resolutions names declarations =
    (edgesOf declarations).map fun edge => Graph.resolution names edge.1 edge.2 := by
  unfold Graph.resolutions edgesOf
  rw [List.map_flatMap]
  apply List.flatMap_congr
  intro declaration _
  rw [List.map_map]
  rfl

theorem edge_count_edges :
    Graph.edgeCount (Graph.targetsOf declarations) = (edgesOf declarations).length := by
  have lengths : (Graph.targetsOf declarations).map (fun target => target.dependencies.length) =
      declarations.map fun declaration => declaration.dependencies.length := by
    apply List.ext_getElem
    · simp [Graph.targetsOf, Graph.targetsFrom]
    · simp [Graph.targetsOf, Graph.targetsFrom]
  have total : Graph.edgeCount (Graph.targetsOf declarations) =
      ((Graph.targetsOf declarations).map fun target => target.dependencies.length).sum := by
    rw [Graph.edgeCount, List.sum_eq_foldl, List.foldl_map]
  rw [total, lengths, edgesOf, List.length_flatMap]
  simp

end

namespace Log

section

variable {names : List String} {declarations : List Declaration}

theorem of_edges_declared (edges : List (String × String))
    (declared : ∀ edge ∈ edges, edge.2 ∈ names) :
    ofEdges names edges = edges.map fun edge => Graph.resolution names edge.1 edge.2 := by
  have all : edges.takeWhile (fun edge => decide (edge.2 ∈ names)) = edges := by
    rw [List.takeWhile_eq_self_iff]
    intro edge member
    exact decide_eq_true (declared edge member)
  rw [ofEdges, all]

/-- Nothing is recorded from an undeclared dependency on. -/
theorem of_edges_stopped (before after : List (String × String)) (owner : String) {missing : String}
    (declared : ∀ edge ∈ before, edge.2 ∈ names) (undeclared : missing ∉ names) :
    ofEdges names (before ++ (owner, missing) :: after) =
      before.map fun edge => Graph.resolution names edge.1 edge.2 := by
  have reached : (before ++ (owner, missing) :: after).takeWhile
      (fun edge => decide (edge.2 ∈ names)) = before := by
    rw [List.takeWhile_append_of_pos fun edge member => decide_eq_true (declared edge member),
      List.takeWhile_cons_of_neg (by simpa using undeclared), List.append_nil]
  rw [ofEdges, reached]

theorem build_resolved_left (distinct : (namesOf declarations).Nodup)
    (fits : declarations.length ≤ 0xFFFFFFFF) (resolved : ResolveIn (namesOf declarations) declarations) :
    left (Graph.build declarations) = ofDeclarations declarations := by
  rcases Graph.build_resolved declarations distinct fits resolved with ⟨index, _, built⟩
  have edges := resolve_in_iff.mp resolved
  have size := (Graph.build_represents (congrArg Traced.outcome built)).size_eq
  unfold ofDeclarations
  rw [if_pos ⟨distinct, fits⟩, if_pos edges, of_edges_declared _ edges, built, resolutions_of_edges,
    edge_count_edges]
  simp only [left, size, List.cons_append, List.append_assoc, List.nil_append]

theorem build_unresolved_left {before after : List Declaration} {declaration : Declaration}
    {known others : List String} {missing : String}
    (split : declarations = before ++ declaration :: after)
    (distinct : (namesOf declarations).Nodup) (fits : declarations.length ≤ 0xFFFFFFFF)
    (resolved : ResolveIn (namesOf declarations) before)
    (dependencies : declaration.dependencies = known ++ missing :: others)
    (declared : ∀ dependency ∈ known, dependency ∈ namesOf declarations)
    (undeclared : missing ∉ namesOf declarations) :
    left (Graph.build declarations) = ofDeclarations declarations := by
  let reached := edgesOf before ++ known.map fun dependency => (declaration.name, dependency)
  let further := others.map (fun dependency => (declaration.name, dependency)) ++ edgesOf after
  have edges : edgesOf declarations = reached ++ (declaration.name, missing) :: further := by
    rw [split, edges_of_append, edges_of_cons, dependencies]
    simp [reached, further]
  have good : ∀ edge ∈ reached, edge.2 ∈ namesOf declarations := by
    intro edge member
    rcases List.mem_append.mp member with earlier | own
    · exact resolve_in_iff.mp resolved edge earlier
    · rcases List.mem_map.mp own with ⟨dependency, among, rfl⟩
      exact declared dependency among
  have incomplete : ¬ ∀ edge ∈ edgesOf declarations, edge.2 ∈ namesOf declarations := by
    intro all
    apply undeclared
    apply all (declaration.name, missing)
    simp [edges]
  have built := Graph.build_unresolved before after declaration known others missing
    (split ▸ distinct) (split ▸ fits) (split ▸ resolved) dependencies (split ▸ declared)
    (split ▸ undeclared)
  rw [← split] at built
  unfold ofDeclarations
  rw [if_pos ⟨distinct, fits⟩, if_neg incomplete, edges,
    of_edges_stopped reached further declaration.name good undeclared, built, resolutions_of_edges]
  simp [left, reached]

/-- Both passes together leave the log of the declarations, wherever they stop. -/
theorem build_left (declarations : List Declaration) :
    left (Graph.build declarations) = ofDeclarations declarations := by
  by_cases accepted : (namesOf declarations).Nodup ∧ declarations.length ≤ 0xFFFFFFFF
  · rcases resolve_or_first_unknown (namesOf declarations) declarations with
      resolved | ⟨before, declaration, after, known, missing, others, split, dependencies, resolved,
        declared, undeclared⟩
    · exact build_resolved_left accepted.1 accepted.2 resolved
    · exact build_unresolved_left split accepted.1 accepted.2 resolved dependencies declared undeclared
  · rcases Graph.register_refused accepted with ⟨error, refused⟩
    unfold ofDeclarations
    rw [if_neg accepted, Graph.build_refused refused]
    rfl

theorem resolved_among_edges {edges : List (String × String)} {owner dependency : String} {id : TargetId}
    (recorded : .resolved owner dependency id ∈ ofEdges names edges) :
    (owner, dependency) ∈ edges ∧ dependency ∈ names ∧ id = identifierIn names dependency := by
  rcases List.mem_map.mp recorded with ⟨⟨source, needed⟩, reached, same⟩
  cases same
  have declared : decide (needed ∈ names) = true := by
    simpa using List.mem_takeWhile_imp reached
  exact ⟨(List.takeWhile_sublist _).subset reached, of_decide_eq_true declared, rfl⟩

/-- The identifier of a resolved dependency is the position at which its name is declared. -/
theorem resolved_position {owner dependency : String} {id : TargetId}
    (recorded : .resolved owner dependency id ∈ ofDeclarations declarations) :
    (owner, dependency) ∈ edgesOf declarations ∧
      (namesOf declarations)[id.index]? = some dependency ∧ id.display = toString id.index := by
  unfold ofDeclarations at recorded
  split at recorded
  · rename_i accepted
    have among : .resolved owner dependency id ∈
        ofEdges (namesOf declarations) (edgesOf declarations) := by
      rcases List.mem_cons.mp recorded with other | inside
      · cases other
      · rcases List.mem_append.mp inside with edge | total
        · exact edge
        · split at total
          · simp at total
          · cases total
    rcases resolved_among_edges among with ⟨edge, declared, rfl⟩
    have few : (namesOf declarations).length ≤ 0xFFFFFFFF := by
      rw [List.length_map]
      exact accepted.2
    have place := identifier_index declared few
    have inside := List.idxOf_lt_length_of_mem declared
    refine ⟨edge, ?_, ?_⟩
    · rw [place]
      exact List.getElem?_idxOf declared
    · apply TargetId.display_below
      omega
  · cases recorded

end

theorem left_map_error {ε ζ : Type} (f : ε → ζ) (load : Traced ε Graph) :
    left (load.mapError f) = left load := by
  cases load with
  | mk events outcome =>
      cases outcome with
      | error error => rfl
      | ok graph => rfl

theorem reading_left (reading : Traced DocumentError Document) :
    left (Graph.ofReading reading) = reading.events ++ match reading.outcome with
      | .error _ => []
      | .ok document => ofDeclarations document.declarations := by
  cases reading with
  | mk events outcome =>
      cases outcome with
      | error error => rfl
      | ok document =>
          have built := left_map_error LoadError.graph (Graph.build document.declarations)
          rw [build_left] at built
          change (events ++ _) ++ _ = events ++ ofDeclarations document.declarations
          rw [List.append_assoc, ← built]
          rfl

theorem read_events (text : String) :
    (Document.ofText text).events = match (Document.ofText text).outcome with
      | .error _ => []
      | .ok document => if Text.isBlankText text.toList then [] else [.parsed document.size] := by
  unfold Document.ofText
  split
  · rfl
  · cases (Yaml.entriesOfText text.toList).mapError DocumentError.notYaml with
    | error error => rfl
    | ok entries =>
        rw [Traced.of_except_ok, Traced.ok_bind]
        cases (Document.ofEntries entries).mapError DocumentError.illShaped with
        | error error => rfl
        | ok document => rfl

theorem text_left (text : String) : left (Graph.ofText text) = ofText text := by
  have read := read_events text
  unfold Graph.ofText ofText
  rw [reading_left, read]
  cases (Document.ofText text).outcome with
  | error error => rfl
  | ok document => rfl

theorem stream_left (stream : ByteStream) : left (Graph.ofStream stream) = ofStream stream := by
  unfold Graph.ofStream Document.ofStream ofStream
  cases stream.readToEnd with
  | error failure => rfl
  | ok bytes =>
      dsimp only
      cases Text.Utf8.decode? bytes with
      | none => rfl
      | some text => exact text_left (String.ofList text)

/-- Whatever way a file can be read, its log is that of its text behind the record that it was opened. -/
theorem path_left (files : Files) (path : String) : left (Graph.ofPath files path) = ofPath files path := by
  unfold Graph.ofPath Document.ofPath ofPath
  cases files path with
  | error failure =>
      cases failure with
      | notFound => rfl
      | failed failure => rfl
  | ok stream =>
      have behind := stream_left stream
      unfold Graph.ofStream at behind
      rw [reading_left] at behind
      dsimp only
      rw [Traced.emit_bind, reading_left, List.cons_append, behind]

section

variable {owner dependency : String} {id : TargetId}

theorem text_resolved {text : String} (recorded : .resolved owner dependency id ∈ ofText text) :
    ∃ document, (Document.ofText text).outcome = .ok document ∧
      .resolved owner dependency id ∈ ofDeclarations document.declarations := by
  unfold ofText at recorded
  cases read : (Document.ofText text).outcome with
  | error error =>
      rw [read] at recorded
      cases recorded
  | ok document =>
      rw [read] at recorded
      rcases List.mem_append.mp recorded with parsed | built
      · split at parsed
        · cases parsed
        · simp at parsed
      · exact ⟨document, rfl, built⟩

theorem stream_resolved {stream : ByteStream}
    (recorded : .resolved owner dependency id ∈ ofStream stream) :
    ∃ document, (Document.ofStream stream).outcome = .ok document ∧
      .resolved owner dependency id ∈ ofDeclarations document.declarations := by
  unfold ofStream at recorded
  unfold Document.ofStream
  cases read : stream.readToEnd with
  | error failure =>
      rw [read] at recorded
      cases recorded
  | ok bytes =>
      rw [read] at recorded
      dsimp only at recorded ⊢
      cases decoded : Text.Utf8.decode? bytes with
      | none =>
          rw [decoded] at recorded
          cases recorded
      | some text =>
          rw [decoded] at recorded
          exact text_resolved recorded

theorem path_resolved {files : Files} {path : String}
    (recorded : .resolved owner dependency id ∈ ofPath files path) :
    ∃ document, (Document.ofPath files path).outcome = .ok document ∧
      .resolved owner dependency id ∈ ofDeclarations document.declarations := by
  unfold ofPath at recorded
  unfold Document.ofPath
  cases opened : files path with
  | error failure =>
      rw [opened] at recorded
      cases recorded
  | ok stream =>
      rw [opened] at recorded
      rcases List.mem_cons.mp recorded with reading | behind
      · cases reading
      · rcases stream_resolved behind with ⟨document, read, among⟩
        exact ⟨document, read, among⟩

end

end Log

namespace Command

theorem all_lines (events : List Log.Event) :
    logLines (.upTo .trace) events = events.map Log.Event.line := by
  have admitted : events.filter (fun event => (Log.Verbosity.upTo .trace).admits event.level) = events := by
    rw [List.filter_eq_self]
    intro event _
    cases event with
    | _ => rfl
  rw [logLines, admitted]

/-- A reference without a target leaves the log as it is. -/
theorem Fails.left_behind {load : Traced LoadError Graph} {file : String} {action : Action}
    {failure : Failure} {events : List Log.Event} (fails : Fails load file action failure events) :
    events = Log.left load := by
  cases fails with
  | load error failed =>
      unfold Log.left
      rw [failed, List.append_nil]
  | noSuchTarget graph loaded reference asked absent =>
      unfold Log.left
      rw [loaded]

/-- A load records the log of its file. Where everything is logged, a command reports that log line by
line and, if it fails, one error behind it. In the log each resolved dependency stands with the position at
which its name is declared. -/
theorem load_log_faithful (files : Files) {environment : Environment} {arguments : List String}
    {action : Action} {options : Options}
    (accepted : Request.ofArguments arguments = some (.run action options))
    (tracing : environment.verbosity = some (.upTo .trace)) :
    Log.left (Graph.ofPath files options.fileName) = Log.ofPath files options.fileName ∧
    (∃ errors, (run files environment arguments).reported =
        (Log.ofPath files options.fileName).map Log.Event.line ++ errors ∧
      ((run files environment arguments).code = 0 ∧ errors = [] ∨
        (run files environment arguments).code = 1 ∧
          ∃ message, errors = [errorLine environment.coloured message])) ∧
    ∀ owner dependency id, .resolved owner dependency id ∈ Log.ofPath files options.fileName →
      ∃ document, (Document.ofPath files options.fileName).outcome = .ok document ∧
        (owner, dependency) ∈ edgesOf document.declarations ∧
        document.names[id.index]? = some dependency ∧ id.display = toString id.index := by
  have ran := run_accepted files environment accepted
  have everything : environment.effectiveVerbosity options = .upTo .trace := by
    rw [Environment.effectiveVerbosity, tracing]
    rfl
  have recorded := Log.path_left files options.fileName
  refine ⟨recorded, ?_, ?_⟩
  · rw [ran, ← recorded]
    rcases run_action_outcome files environment action options with
      ⟨graph, printed, loaded, _, done⟩ | ⟨failure, events, fails, done⟩
    · rw [everything, all_lines] at done
      refine ⟨[], ?_, ?_⟩
      · unfold Log.left
        rw [done, loaded, List.append_nil]
      · rw [done]
        exact .inl ⟨rfl, rfl⟩
    · rw [everything, all_lines, fails.left_behind] at done
      refine ⟨[errorLine environment.coloured failure.message], ?_, ?_⟩
      · rw [done]
      · rw [done]
        exact .inr ⟨rfl, failure.message, rfl⟩
  · intro owner dependency id logged
    rcases Log.path_resolved logged with ⟨document, read, among⟩
    exact ⟨document, read, Log.resolved_position among⟩

def haltedFiles : Files := fun _ =>
  .ok [.bytes (Yaml.octets "a: [b, a]\nb: [a, c, b]\n".toList)]

theorem halted_log :
    Request.ofArguments ["show", "b"] = some (.run (.show "b") ⟨none, false, false⟩) ∧
    Log.left (Graph.ofPath haltedFiles "targets.yml") = Log.ofPath haltedFiles "targets.yml" ∧
    Log.ofPath haltedFiles "targets.yml" =
      [.reading "targets.yml", .parsed 2, .registered 2, .resolved "a" "b" ⟨1⟩,
        .resolved "a" "a" ⟨0⟩, .resolved "b" "a" ⟨0⟩] ∧
    (Log.ofPath haltedFiles "targets.yml").map Log.Event.line =
      ["DEBUG buildgraph_lib::document::parse: reading target document path=targets.yml",
        "DEBUG buildgraph_lib::document::parse: parsed target document entries=2",
        "DEBUG buildgraph_lib::graph: registered targets targets=2",
        "TRACE buildgraph_lib::graph: resolved dependency owner=a dependency=b id=1",
        "TRACE buildgraph_lib::graph: resolved dependency owner=a dependency=a id=0",
        "TRACE buildgraph_lib::graph: resolved dependency owner=b dependency=a id=0"] ∧
    (∃ errors, (run haltedFiles ⟨some (.upTo .trace), false⟩ ["show", "b"]).reported =
        (Log.ofPath haltedFiles "targets.yml").map Log.Event.line ++ errors ∧ errors.length = 1) ∧
    ∃ document, (Document.ofPath haltedFiles "targets.yml").outcome = .ok document ∧
      document.names[1]? = some "b" := by
  have accepted : Request.ofArguments ["show", "b"] =
      some (.run (.show "b") ⟨none, false, false⟩) := by decide +kernel
  have log : Log.ofPath haltedFiles "targets.yml" =
      [.reading "targets.yml", .parsed 2, .registered 2, .resolved "a" "b" ⟨1⟩,
        .resolved "a" "a" ⟨0⟩, .resolved "b" "a" ⟨0⟩] := by decide +kernel
  have code : (run haltedFiles ⟨some (.upTo .trace), false⟩ ["show", "b"]).code = 1 := by
    decide +kernel
  have tracing : (Environment.mk (some (.upTo .trace)) false).verbosity = some (.upTo .trace) := rfl
  rcases load_log_faithful haltedFiles accepted tracing with
    ⟨left, ⟨errors, reported, ended⟩, positions⟩
  refine ⟨accepted, left, log, ?_, ⟨errors, reported, ?_⟩, ?_⟩
  · rw [log]
    decide +kernel
  · rcases ended with ⟨done, _⟩ | ⟨_, message, alone⟩
    · rw [code] at done
      cases done
    · rw [alone]
      rfl
  · have logged : .resolved "a" "b" ⟨1⟩ ∈ Log.ofPath haltedFiles "targets.yml" := by
      rw [log]
      simp
    rcases positions "a" "b" ⟨1⟩ logged with ⟨document, read, _, named, _⟩
    exact ⟨document, read, named⟩

end Command

end TargetGraph

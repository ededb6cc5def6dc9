import TargetGraph.Proofs.CommandSteps
import TargetGraph.Proofs.Pipeline

/-!
# Outcomes of the command line

A command either prints all that it has to print and reports nothing but log lines, or prints nothing
and reports its failure behind the log lines. Which of the two it is depends only on the load and, where
a single target is asked for, on the reference. No command panics, since a graph that was loaded has all
the targets that its identifiers stand for.
-/

namespace TargetGraph

set_option autoImplicit false

namespace Command

/-- The target that a reference means: the one of the identifier that it reads as, if that is in range,
and otherwise the one of that name. -/
inductive Refers (graph : Graph) (reference : String) (target : Target) : Prop where
  | number (id : TargetId) (reads : referenceId? reference = some id)
      (member : target ∈ graph.targets) (same : target.id = id)
  | name (beyond : ∀ id, referenceId? reference = some id → graph.size ≤ id.index)
      (member : target ∈ graph.targets) (same : target.name = reference)

/-- What an action asks of the graph. Only a single target has to be there. -/
def Action.Answerable (graph : Graph) : Action → Prop
  | .targets => True
  | .top => True
  | .show reference => ∃ target, Refers graph reference target

def linesOf (coloured : Bool) (graph : Graph) (targets : List Target) : List String :=
  targets.map fun target => targetLine coloured target (graph.dependencyNames target)

structure TopLevel (graph : Graph) (targets : List Target) : Prop where
  members : ∀ target ∈ targets, target ∈ graph.targets
  listed : ∃ root ∈ graph.targets, root.name = rootName ∧ targets.map Target.id = root.dependencies

/-- No target has the root's name. -/
def Rootless (graph : Graph) : Prop := ∀ target ∈ graph.targets, target.name ≠ rootName

/-- All that an action prints, as a JSON text or in words. -/
inductive Answers (coloured : Bool) (file : String) (graph : Graph) :
    (json : Bool) → Action → List String → Prop where
  | targetsJson : Answers coloured file graph true .targets [graph.toJson.pretty]
  | targets : Answers coloured file graph false .targets
      (targetsHeading coloured file graph.size :: linesOf coloured graph graph.targets)
  | topJson (targets : List Target) (top : TopLevel graph targets) :
      Answers coloured file graph true .top [(targetsToJson targets).pretty]
  | top (targets : List Target) (top : TopLevel graph targets) :
      Answers coloured file graph false .top
        (topHeading coloured targets.length :: linesOf coloured graph targets)
  | noRootJson (none : Rootless graph) : Answers coloured file graph true .top [Json.null.pretty]
  | noRoot (none : Rootless graph) :
      Answers coloured file graph false .top [noRootLine coloured file]
  | singleJson (reference : String) (target : Target) (refers : Refers graph reference target) :
      Answers coloured file graph true (.show reference)
        [(targetJson target (graph.dependencyNames target)).pretty]
  | single (reference : String) (target : Target) (refers : Refers graph reference target) :
      Answers coloured file graph false (.show reference)
        (targetLines coloured target (graph.dependencyNames target))

/-- Why a command fails, and what was recorded until then. -/
inductive Fails (load : Traced LoadError Graph) (file : String) (action : Action) :
    Failure → List Log.Event → Prop where
  | load (error : LoadError) (failed : load.outcome = .error error) :
      Fails load file action (.load file error) load.events
  | noSuchTarget (graph : Graph) (loaded : load.outcome = .ok graph) (reference : String)
      (asked : action = .show reference) (absent : ∀ target, ¬ Refers graph reference target) :
      Fails load file action (.noSuchTarget reference) (load.events ++ [.loaded graph.size])

section

variable {graph : Graph} (formed : graph.WellFormed)
include formed

theorem target_by_name_done (name : String) :
    (∃ target ∈ graph.targets, target.name = name ∧
      (Session.targetByName graph name).Does (.ok (some target)) [] []) ∨
    (∀ target ∈ graph.targets, target.name ≠ name) ∧
      (Session.targetByName graph name).Does (.ok none) [] [] := by
  rw [Session.target_by_name_found formed]
  cases given : graph.targetByName name with
  | some target =>
      obtain ⟨member, named⟩ := (formed.target_by_name name target).mp given
      exact .inl ⟨target, member, named, Session.does_pure _⟩
  | none =>
      refine .inr ⟨?_, Session.does_pure _⟩
      intro target member named
      rw [(formed.target_by_name name target).mpr ⟨member, named⟩] at given
      cases given

theorem find_by_name_done {reference : String}
    (beyond : ∀ id, referenceId? reference = some id → graph.size ≤ id.index) :
    (∃ target, Refers graph reference target ∧ target ∈ graph.targets ∧
      (Session.findTarget graph reference).Does (.ok target) [] []) ∨
    (∀ target, ¬ Refers graph reference target) ∧
      (Session.findTarget graph reference).Does (.error (.failed (.noSuchTarget reference))) [] [] := by
  have byName {result : Except Stop Target}
      (looked : Session.Does (Session.targetByName graph reference >>= Session.foundOrFail reference)
        result [] []) :
      (Session.findTarget graph reference).Does result [] [] := by
    rw [Session.findTarget]
    cases reads : referenceId? reference with
    | none => exact looked
    | some id =>
        rw [Option.map_some, Graph.target_by_id_beyond (beyond id reads)]
        exact looked
  rcases target_by_name_done formed reference with ⟨target, member, named, done⟩ | ⟨absent, done⟩
  · exact .inl ⟨target, .name beyond member named, member,
      byName (done.bind (Session.does_pure target))⟩
  · refine .inr ⟨?_, byName (done.bind (Session.does_fail _))⟩
    rintro target (⟨id, reads, member, same⟩ | ⟨_, member, named⟩)
    · have inside := formed.inside_of_member member
      rw [same] at inside
      exact absurd inside (Nat.not_lt.mpr (beyond id reads))
    · exact absent target member named

theorem find_target_done (few : graph.size ≤ 0xFFFFFFFF) (reference : String) :
    (∃ target, Refers graph reference target ∧ target ∈ graph.targets ∧
      (Session.findTarget graph reference).Does (.ok target) [] []) ∨
    (∀ target, ¬ Refers graph reference target) ∧
      (Session.findTarget graph reference).Does (.error (.failed (.noSuchTarget reference))) [] [] := by
  cases reads : referenceId? reference with
  | none => exact find_by_name_done formed fun id same => by rw [reads] at same; cases same
  | some id =>
      rcases formed.in_range_or_beyond id with ⟨target, member, same⟩ | beyond
      · have given := (formed.target_by_id few id target).mpr ⟨member, same⟩
        refine .inl ⟨target, .number id reads member same, member, ?_⟩
        rw [Session.findTarget, reads, Option.map_some, given]
        exact Session.does_pure target
      · refine find_by_name_done formed fun other same => ?_
        rw [reads] at same
        cases same
        exact beyond

theorem top_level_listed {targets : List Target} (given : graph.topLevel = some targets) :
    TopLevel graph targets := by
  rw [Graph.topLevel, Option.map_eq_some_iff] at given
  rcases given with ⟨root, found, rfl⟩
  have member := List.mem_of_find?_eq_some found
  have named := List.find?_some found
  constructor
  · intro target among
    rw [Graph.resolve, List.mem_filterMap] at among
    rcases among with ⟨id, _, there⟩
    exact List.mem_of_getElem? there
  · exact ⟨root, member, of_decide_eq_true named, formed.resolve_complete (formed.bounded root member)⟩

omit formed in
theorem top_level_absent (absent : graph.topLevel = none) : Rootless graph := by
  rw [Graph.topLevel, Option.map_eq_none_iff, List.find?_eq_none] at absent
  intro target member
  simpa using absent target member

theorem top_level_done : ∃ top, (Session.topLevel graph).Does (.ok top) [] [] ∧
    (∀ targets, top = some targets → TopLevel graph targets) ∧ (top = none → Rootless graph) := by
  rw [Session.top_level_found formed]
  exact ⟨graph.topLevel, Session.does_pure _, fun _ => top_level_listed formed, top_level_absent⟩

theorem list_targets_done (coloured json : Bool) (file : String) : ∃ printed,
    (Session.listTargets coloured json file graph).Does (.ok ()) printed [] ∧
      Answers coloured file graph json .targets printed := by
  cases json with
  | true => exact ⟨_, Session.does_print _, .targetsJson⟩
  | false =>
      have lines : Session.Does (graph.targets.forM (Session.printTarget coloured graph)) (.ok ())
          (linesOf coloured graph graph.targets) [] :=
        Session.does_print_targets formed coloured fun _ => id
      exact ⟨_, (Session.does_print _).bind lines, .targets⟩

theorem list_top_done (coloured json : Bool) (file : String) : ∃ printed,
    (Session.listTop coloured json file graph).Does (.ok ()) printed [] ∧
      Answers coloured file graph json .top printed := by
  obtain ⟨top, done, some, none⟩ := top_level_done formed
  cases json with
  | true =>
      cases top with
      | none => exact ⟨_, done.bind (Session.does_print _), .noRootJson (none rfl)⟩
      | some targets => exact ⟨_, done.bind (Session.does_print _), .topJson targets (some targets rfl)⟩
  | false =>
      cases top with
      | none => exact ⟨_, done.bind (Session.does_print _), .noRoot (none rfl)⟩
      | some targets =>
          have lines := Session.does_print_targets formed coloured (some targets rfl).members
          exact ⟨_, done.bind ((Session.does_print _).bind lines), .top targets (some targets rfl)⟩

theorem show_target_done (few : graph.size ≤ 0xFFFFFFFF) (coloured json : Bool) (file : String)
    (reference : String) :
    (∃ printed, (Session.showTarget coloured json reference graph).Does (.ok ()) printed [] ∧
      Answers coloured file graph json (.show reference) printed) ∨
    (∀ target, ¬ Refers graph reference target) ∧
      (Session.showTarget coloured json reference graph).Does
        (.error (.failed (.noSuchTarget reference))) [] [] := by
  rcases find_target_done formed few reference with ⟨target, refers, member, found⟩ | ⟨absent, failed⟩
  · have names := Session.does_dependency_names formed member
    cases json with
    | true =>
        exact .inl ⟨_, found.bind (names.bind (Session.does_print _)),
          .singleJson reference target refers⟩
    | false =>
        exact .inl ⟨_, found.bind (names.bind (Session.does_print_all _)),
          .single reference target refers⟩
  · exact .inr ⟨absent, failed.stops _⟩

end

/-- A path that loads holds a document, and the graph is that document's. -/
theorem of_path_loaded {files : Files} {path : String} {graph : Graph}
    (loaded : (Graph.ofPath files path).outcome = .ok graph) :
    ∃ document, (Document.ofPath files path).outcome = .ok document ∧
      graph.Represents document.declarations := by
  rw [Graph.ofPath, Graph.ofReading, Traced.outcome_bind] at loaded
  cases read : (Document.ofPath files path).outcome with
  | error error =>
      have failed : ((Document.ofPath files path).mapError LoadError.document).outcome =
          .error (.document error) := by
        rw [Traced.mapError, read]
        rfl
      rw [failed] at loaded
      cases loaded
  | ok document =>
      have done : ((Document.ofPath files path).mapError LoadError.document).outcome =
          .ok document := by
        rw [Traced.mapError, read]
        rfl
      rw [done] at loaded
      change (Graph.ofDocument document).outcome.mapError LoadError.graph = .ok graph at loaded
      cases built : (Graph.ofDocument document).outcome with
      | error error =>
          rw [built] at loaded
          cases loaded
      | ok other =>
          rw [built] at loaded
          cases loaded
          exact ⟨document, rfl, Graph.load_represents built⟩

theorem of_path_represents {files : Files} {path : String} {graph : Graph}
    (loaded : (Graph.ofPath files path).outcome = .ok graph) :
    ∃ declarations, graph.Represents declarations := by
  obtain ⟨document, _, represents⟩ := of_path_loaded loaded
  exact ⟨_, represents⟩

theorem perform_loaded {files : Files} (environment : Environment) (action : Action)
    {options : Options} {graph : Graph}
    (loaded : (Graph.ofPath files options.fileName).outcome = .ok graph) :
    (∃ printed, Answers environment.coloured options.fileName graph options.json action printed ∧
      (perform files environment action options).Does (.ok ()) printed
        (logLines (environment.effectiveVerbosity options)
          ((Graph.ofPath files options.fileName).events ++ [.loaded graph.size]))) ∨
    ∃ reference, action = .show reference ∧ (∀ target, ¬ Refers graph reference target) ∧
      (perform files environment action options).Does (.error (.failed (.noSuchTarget reference))) []
        (logLines (environment.effectiveVerbosity options)
          ((Graph.ofPath files options.fileName).events ++ [.loaded graph.size])) := by
  obtain ⟨declarations, represents⟩ := of_path_represents loaded
  have formed := represents.well_formed
  have few := represents.few
  have load := Session.does_load (environment.effectiveVerbosity options) loaded
  match action with
  | .targets =>
      obtain ⟨printed, done, answers⟩ :=
        list_targets_done formed environment.coloured options.json options.fileName
      exact .inl ⟨printed, answers, load.then_prints done⟩
  | .top =>
      obtain ⟨printed, done, answers⟩ :=
        list_top_done formed environment.coloured options.json options.fileName
      exact .inl ⟨printed, answers, load.then_prints done⟩
  | .show reference =>
      rcases show_target_done formed few environment.coloured options.json options.fileName reference
        with ⟨printed, done, answers⟩ | ⟨absent, failed⟩
      · exact .inl ⟨printed, answers, load.then_prints done⟩
      · exact .inr ⟨reference, rfl, absent, load.then_prints failed⟩

theorem run_accepted (files : Files) (environment : Environment) {arguments : List String}
    {action : Action} {options : Options}
    (accepted : Request.ofArguments arguments = some (.run action options)) :
    run files environment arguments = runAction files environment action options := by
  rw [run, accepted]

/-- A command either answers in full or fails with nothing printed. It never panics. -/
theorem run_action_outcome (files : Files) (environment : Environment) (action : Action)
    (options : Options) :
    (∃ graph printed, (Graph.ofPath files options.fileName).outcome = .ok graph ∧
      Answers environment.coloured options.fileName graph options.json action printed ∧
      runAction files environment action options = ⟨0, printed,
        logLines (environment.effectiveVerbosity options)
          ((Graph.ofPath files options.fileName).events ++ [.loaded graph.size])⟩) ∨
    ∃ failure events, Fails (Graph.ofPath files options.fileName) options.fileName action failure events ∧
      runAction files environment action options = ⟨1, [],
        logLines (environment.effectiveVerbosity options) events ++
          [errorLine environment.coloured failure.message]⟩ := by
  cases outcome : (Graph.ofPath files options.fileName).outcome with
  | error error =>
      have failed : (perform files environment action options).Does _ _ _ :=
        (Session.does_load_failed (environment.effectiveVerbosity options) outcome).stops _
      refine .inr ⟨_, _, .load error outcome, ?_⟩
      rw [runAction, failed]
      rfl
  | ok graph =>
      rcases perform_loaded environment action outcome with
        ⟨printed, answers, done⟩ | ⟨reference, asked, absent, failed⟩
      · refine .inl ⟨graph, printed, rfl, answers, ?_⟩
        rw [runAction, done]
        rfl
      · refine .inr ⟨_, _, .noSuchTarget graph outcome reference asked absent, ?_⟩
        rw [runAction, failed]
        rfl

theorem Fails.of_loaded {load : Traced LoadError Graph} {file : String} {action : Action}
    {failure : Failure} {events : List Log.Event} {graph : Graph}
    (fails : Fails load file action failure events) (loaded : load.outcome = .ok graph) :
    ∃ reference, action = .show reference ∧ failure = .noSuchTarget reference ∧
      ∀ target, ¬ Refers graph reference target := by
  cases fails with
  | load error failed =>
      rw [loaded] at failed
      cases failed
  | noSuchTarget other again reference asked absent =>
      rw [loaded] at again
      cases again
      exact ⟨reference, asked, rfl, absent⟩

/-- On a file that loads, an action is answered, unless it asks for a single target that is not there. -/
theorem loaded_answered {files : Files} {arguments : List String} {action : Action} {options : Options}
    {graph : Graph} (environment : Environment)
    (accepted : Request.ofArguments arguments = some (.run action options))
    (loaded : (Graph.ofPath files options.fileName).outcome = .ok graph) :
    (run files environment arguments).code = 0 ∧
      Answers environment.coloured options.fileName graph options.json action
        (run files environment arguments).printed ∨
    (run files environment arguments).code = 1 ∧ ∃ reference, action = .show reference := by
  rw [run_accepted files environment accepted]
  rcases run_action_outcome files environment action options with
    ⟨other, printed, again, answers, done⟩ | ⟨failure, events, fails, done⟩
  · rw [loaded] at again
    cases again
    rw [done]
    exact .inl ⟨rfl, answers⟩
  · obtain ⟨reference, asked, _⟩ := fails.of_loaded loaded
    rw [done]
    exact .inr ⟨rfl, reference, asked⟩

theorem Answers.answerable {coloured json : Bool} {file : String} {graph : Graph} {action : Action}
    {printed : List String} (answers : Answers coloured file graph json action printed) :
    action.Answerable graph := by
  cases answers with
  | singleJson reference target refers => exact ⟨target, refers⟩
  | single reference target refers => exact ⟨target, refers⟩
  | _ => exact trivial

theorem Fails.unanswerable {load : Traced LoadError Graph} {file : String} {action : Action}
    {failure : Failure} {events : List Log.Event} (fails : Fails load file action failure events) :
    ¬ ∃ graph, load.outcome = .ok graph ∧ action.Answerable graph := by
  rintro ⟨graph, loaded, answerable⟩
  obtain ⟨reference, rfl, _, absent⟩ := fails.of_loaded loaded
  obtain ⟨target, refers⟩ := answerable
  exact absent target refers

theorem Answers.rootless {coloured json : Bool} {file : String} {graph : Graph} {printed : List String}
    (answers : Answers coloured file graph json .top printed) (none : Rootless graph) :
    printed = [if json then Json.null.pretty else noRootLine coloured file] := by
  cases answers with
  | topJson targets top | top targets top =>
      obtain ⟨root, member, named, _⟩ := top.listed
      exact absurd named (none root member)
  | noRootJson | noRoot => rfl

/-- The mark of an error starts no log line. -/
theorem log_line_unmarked (event : Log.Event) (coloured : Bool) (message : String) :
    event.line ≠ errorLine coloured message := by
  have label : event.line.toList.head? = some 'D' ∨ event.line.toList.head? = some 'T' := by
    cases event <;> simp [Log.Event.line, Log.Event.level, Log.Level.label, toString]
  have mark : (errorLine coloured message).toList.head? = some '✗' ∨
      (errorLine coloured message).toList.head? = some '\x1b' := by
    cases coloured <;> simp [errorLine, paint, toString]
  intro same
  rw [same] at label
  rcases mark with mark | mark <;> rw [mark] at label <;> simp at label

theorem log_lines_unmarked (verbosity : Log.Verbosity) (events : List Log.Event) (coloured : Bool)
    (message : String) : errorLine coloured message ∉ logLines verbosity events := by
  intro member
  obtain ⟨event, _, same⟩ := List.mem_map.mp member
  exact log_line_unmarked event coloured message same

/-- The program ends with code 0 just when the load succeeds and the reference, if there is one, means a
target; otherwise it ends with code 1, and never with a panic. With code 1 nothing is printed, and one
error is reported behind the log lines. With code 0 only log lines are reported and the answer is
complete: the targets are listed in the order of their identifiers, which are positions, the top-level
ones in the order in which the root declares them, and for each of them all targets that it depends on.
That there is no root is no failure. -/
theorem command_outcome (files : Files) (environment : Environment) (arguments : List String)
    {action : Action} {options : Options}
    (accepted : Request.ofArguments arguments = some (.run action options)) :
    ((run files environment arguments).code = 0 ∨ (run files environment arguments).code = 1) ∧
    ((run files environment arguments).code = 0 ↔
      ∃ graph, (Graph.ofPath files options.fileName).outcome = .ok graph ∧ action.Answerable graph) ∧
    ((run files environment arguments).code = 1 → ∃ failure events,
      Fails (Graph.ofPath files options.fileName) options.fileName action failure events ∧
      (run files environment arguments).printed = [] ∧
      (run files environment arguments).reported =
        logLines (environment.effectiveVerbosity options) events ++
          [errorLine environment.coloured failure.message] ∧
      ∀ message, errorLine environment.coloured message ∉
        logLines (environment.effectiveVerbosity options) events) ∧
    ((run files environment arguments).code = 0 → ∃ graph,
      (Graph.ofPath files options.fileName).outcome = .ok graph ∧
      (run files environment arguments).reported =
        logLines (environment.effectiveVerbosity options)
          ((Graph.ofPath files options.fileName).events ++ [.loaded graph.size]) ∧
      (∀ message, errorLine environment.coloured message ∉
        (run files environment arguments).reported) ∧
      Answers environment.coloured options.fileName graph options.json action
        (run files environment arguments).printed ∧
      (∀ (position : Nat) (target : Target), graph.targets[position]? = some target →
        target.id.index = position) ∧
      (∀ target ∈ graph.targets,
        (graph.resolve target.dependencies).map Target.id = target.dependencies)) ∧
    (∀ graph, (Graph.ofPath files options.fileName).outcome = .ok graph → Rootless graph →
      action = .top → (run files environment arguments).code = 0 ∧
        (run files environment arguments).printed =
          [if options.json then Json.null.pretty
            else noRootLine environment.coloured options.fileName]) := by
  have ran : run files environment arguments = runAction files environment action options := by
    rw [run, accepted]
  rw [ran]
  rcases run_action_outcome files environment action options with
    ⟨graph, printed, loaded, answers, done⟩ | ⟨failure, events, fails, done⟩
  · obtain ⟨declarations, represents⟩ := of_path_represents loaded
    have formed := represents.well_formed
    rw [done]
    refine ⟨.inl rfl, ⟨fun _ => ⟨graph, loaded, answers.answerable⟩, fun _ => rfl⟩, nofun,
      fun _ => ?_, ?_⟩
    · exact ⟨graph, loaded, rfl, log_lines_unmarked _ _ _, answers, formed.numbered,
        fun target member => formed.resolve_complete (formed.bounded target member)⟩
    · rintro other again none rfl
      rw [loaded] at again
      cases again
      exact ⟨rfl, answers.rootless none⟩
  · rw [done]
    refine ⟨.inr rfl, ⟨nofun, fun answerable => absurd answerable fails.unanswerable⟩, fun _ => ?_,
      nofun, ?_⟩
    · exact ⟨failure, events, fails, rfl, rfl, log_lines_unmarked _ _ _⟩
    · rintro other loaded _ rfl
      exact absurd ⟨other, loaded, trivial⟩ fails.unanswerable

/-- Two targets that depend on each other, and neither is the root. -/
def rootlessFiles : Files := fun _ => .ok [.bytes (Yaml.octets "a: [b, a]\nb: [a]\n".toList)]

theorem rootless_document_listed :
    (Request.ofArguments ["top"] = some (.run .top .none) ∧
      (run rootlessFiles ⟨none, false⟩ ["top"]).code = 0 ∧
      (run rootlessFiles ⟨none, false⟩ ["top"]).printed = ["• No DOCUMENT target in targets.yml"]) ∧
    (Request.ofArguments ["targets"] = some (.run .targets .none) ∧
      (run rootlessFiles ⟨none, false⟩ ["targets"]).code = 0 ∧
      ∃ graph, (Graph.ofPath rootlessFiles "targets.yml").outcome = .ok graph ∧
        Answers false "targets.yml" graph false .targets
          ["✓ 2 target(s) in targets.yml", "  0 a → b, a", "  1 b → a"] ∧
        (run rootlessFiles ⟨none, false⟩ ["targets"]).printed =
          ["✓ 2 target(s) in targets.yml", "  0 a → b, a", "  1 b → a"]) ∧
    Request.ofArguments ["show", "c"] = some (.run (.show "c") .none) ∧
    (run rootlessFiles ⟨some (.upTo .debug), false⟩ ["show", "c"]).code = 1 ∧
    (run rootlessFiles ⟨some (.upTo .debug), false⟩ ["show", "c"]).printed = [] ∧
    ∃ events, (run rootlessFiles ⟨some (.upTo .debug), false⟩ ["show", "c"]).reported =
        logLines (.upTo .debug) events ++ ["✗ No target with id or name 'c'"] ∧
      Fails (Graph.ofPath rootlessFiles "targets.yml") "targets.yml" (.show "c") (.noSuchTarget "c")
        events := by
  have topAsked : Request.ofArguments ["top"] = some (.run .top .none) := by decide +kernel
  have listAsked : Request.ofArguments ["targets"] = some (.run .targets .none) := by decide +kernel
  have oneAsked : Request.ofArguments ["show", "c"] = some (.run (.show "c") .none) := by
    decide +kernel
  have listCode : (run rootlessFiles ⟨none, false⟩ ["targets"]).code = 0 := by decide +kernel
  have listPrinted : (run rootlessFiles ⟨none, false⟩ ["targets"]).printed =
      ["✓ 2 target(s) in targets.yml", "  0 a → b, a", "  1 b → a"] := by decide +kernel
  have oneCode : (run rootlessFiles ⟨some (.upTo .debug), false⟩ ["show", "c"]).code = 1 := by
    decide +kernel
  have names : (match (Graph.ofPath rootlessFiles "targets.yml").outcome with
      | .ok graph => graph.targets.all fun target => target.name ≠ rootName
      | .error _ => false) = true := by
    decide +kernel
  obtain ⟨_, _, _, listed, _⟩ := command_outcome rootlessFiles ⟨none, false⟩ ["targets"] listAsked
  obtain ⟨graph, loaded, _, _, answers, _⟩ := listed listCode
  obtain ⟨_, _, _, _, rootless⟩ := command_outcome rootlessFiles ⟨none, false⟩ ["top"] topAsked
  obtain ⟨_, _, refused, _, _⟩ :=
    command_outcome rootlessFiles ⟨some (.upTo .debug), false⟩ ["show", "c"] oneAsked
  refine ⟨⟨topAsked, ?_⟩, ⟨listAsked, listCode, graph, loaded, ?_, listPrinted⟩, oneAsked, oneCode, ?_⟩
  · have none : Rootless graph := by
      change (Graph.ofPath rootlessFiles "targets.yml").outcome = .ok graph at loaded
      rw [loaded] at names
      simpa [Rootless] using names
    obtain ⟨code, printed⟩ := rootless graph loaded none rfl
    exact ⟨code, printed.trans (by decide +kernel)⟩
  · rw [listPrinted] at answers
    exact answers
  · obtain ⟨failure, events, fails, printed, reported, _⟩ := refused oneCode
    obtain ⟨reference, asked, rfl, _⟩ := fails.of_loaded loaded
    cases asked
    exact ⟨printed, events, reported, fails⟩

end Command

end TargetGraph

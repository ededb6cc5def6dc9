import TargetGraph.Proofs.FrontOptions
import TargetGraph.Proofs.LoadLog

/-!
# Verbosity

How much is logged decides which lines of the log are written, and nothing else. Every line starts with its
level, so that the log of a run can be had from that of a more verbose run of the same command.
-/

namespace TargetGraph

set_option autoImplicit false

namespace Log

def Verbosity.rank : Verbosity → Nat
  | off => 0
  | upTo level => level.rank

def Level.ofLine? (line : String) : Option Level :=
  [error, warn, info, debug, trace].find? fun level => level.label.toList.isPrefixOf line.toList

def Verbosity.admitsLine (verbosity : Verbosity) (line : String) : Bool :=
  (Level.ofLine? line).any verbosity.admits

theorem admits_iff (verbosity : Verbosity) (level : Level) :
    verbosity.admits level = true ↔ level.rank ≤ verbosity.rank := by
  cases verbosity with
  | off => cases level <;> decide
  | upTo limit => exact decide_eq_true_iff

theorem admits_more {less more : Verbosity} (fewer : less.rank ≤ more.rank) {level : Level}
    (admitted : less.admits level = true) : more.admits level = true := by
  rw [admits_iff] at admitted ⊢
  exact Nat.le_trans admitted fewer

theorem level_of_labelled (level : Level) (rest : String) :
    Level.ofLine? (level.label ++ rest) = some level := by
  rw [Level.ofLine?, String.toList_append]
  cases level with
  | _ => rfl

theorem level_of_event (event : Event) : Level.ofLine? event.line = some event.level := by
  have labelled : event.line = event.level.label ++ (" " ++ event.origin ++ ": " ++ event.text) := by
    simp [Event.line, toString, String.append_assoc]
  rw [labelled, level_of_labelled]

theorem admits_line (verbosity : Verbosity) (event : Event) :
    verbosity.admitsLine event.line = verbosity.admits event.level := by
  rw [Verbosity.admitsLine, level_of_event]
  rfl

end Log

namespace Command

/-- The lines of a log whose level a less verbose one admits make up that one. -/
theorem log_lines_fewer {less more : Log.Verbosity} (fewer : less.rank ≤ more.rank)
    (events : List Log.Event) :
    logLines less events = (logLines more events).filter less.admitsLine := by
  have same : ∀ event ∈ events, ((less.admitsLine ∘ Log.Event.line) event && more.admits event.level) =
      less.admits event.level := by
    intro event _
    rw [Function.comp_apply, Log.admits_line]
    cases admitted : less.admits event.level with
    | true => rw [Log.admits_more fewer admitted, Bool.and_true]
    | false => rw [Bool.false_and]
  rw [logLines, logLines, List.filter_map, List.filter_filter, List.filter_congr same]

namespace Outcome

/-- What is reported besides the error of a run that fails, which comes last. -/
def log (outcome : Outcome) : List String :=
  if outcome.code = 0 then outcome.reported else outcome.reported.dropLast

def error? (outcome : Outcome) : Option String :=
  if outcome.code = 0 then none else outcome.reported.getLast?

theorem log_then_error (outcome : Outcome) :
    outcome.reported = outcome.log ++ outcome.error?.toList := by
  unfold log error?
  by_cases done : outcome.code = 0
  · rw [if_pos done, if_pos done]
    exact (List.append_nil _).symm
  · rw [if_neg done, if_neg done]
    cases last : outcome.reported.getLast? with
    | none =>
        rw [List.getLast?_eq_none_iff.mp last]
        rfl
    | some line => exact (List.dropLast_append_getLast? line last).symm

end Outcome

def endingOf : Option Failure → Except Stop Unit
  | none => .ok ()
  | some failure => .error (.failed failure)

/-- What a run comes to that ends so behind the lines of its log. -/
def concluded (coloured : Bool) (failure : Option Failure) (printed lines : List String) : Outcome :=
  finish coloured (endingOf failure, ⟨printed, lines⟩)

section

variable (coloured : Bool) (failure : Option Failure) (printed lines : List String)

theorem concluded_log : (concluded coloured failure printed lines).log = lines := by
  cases failure with
  | none => rfl
  | some failure => exact List.dropLast_concat

theorem concluded_error : (concluded coloured failure printed lines).error? =
    failure.map fun failure => errorLine coloured failure.message := by
  cases failure with
  | none => rfl
  | some failure => exact List.getLast?_concat

theorem concluded_otherwise (others : List String) :
    (concluded coloured failure printed lines).code = (concluded coloured failure printed others).code ∧
    (concluded coloured failure printed lines).printed =
      (concluded coloured failure printed others).printed ∧
    (concluded coloured failure printed lines).error? =
      (concluded coloured failure printed others).error? := by
  rw [concluded_error, concluded_error]
  cases failure with
  | _ => exact ⟨rfl, rfl, rfl⟩

theorem concluded_ends :
    (concluded coloured failure printed lines).code = 0 ∧
      (concluded coloured failure printed lines).error? = none ∨
    (concluded coloured failure printed lines).code = 1 ∧ ∃ message,
      (concluded coloured failure printed lines).error? = some (errorLine coloured message) := by
  rw [concluded_error]
  cases failure with
  | none => exact .inl ⟨rfl, rfl⟩
  | some failure => exact .inr ⟨rfl, failure.message, rfl⟩

end

def respond (coloured json : Bool) (file : String) (graph : Graph) : Action → Session Unit
  | .targets => Session.listTargets coloured json file graph
  | .top => Session.listTop coloured json file graph
  | .show reference => Session.showTarget coloured json reference graph

theorem perform_eq (files : Files) (environment : Environment) (action : Action) (options : Options) :
    perform files environment action options =
      loadGraph files (environment.effectiveVerbosity options) options.fileName >>= fun graph =>
        respond environment.coloured options.json options.fileName graph action := by
  cases action with
  | _ => rfl

theorem respond_done {graph : Graph} (formed : graph.WellFormed) (few : graph.size ≤ 0xFFFFFFFF)
    (coloured json : Bool) (file : String) (action : Action) : ∃ failure printed,
    (respond coloured json file graph action).Does (endingOf failure) printed [] := by
  cases action with
  | targets =>
      rcases list_targets_done formed coloured json file with ⟨printed, done, _⟩
      exact ⟨none, printed, done⟩
  | top =>
      rcases list_top_done formed coloured json file with ⟨printed, done, _⟩
      exact ⟨none, printed, done⟩
  | «show» reference =>
      rcases show_target_done formed few coloured json file reference with
        ⟨printed, done, _⟩ | ⟨_, failed⟩
      · exact ⟨none, printed, done⟩
      · exact ⟨some (.noSuchTarget reference), [], failed⟩

/-- An action ends the same way and prints the same, however much of the log of its file is reported. -/
theorem perform_done (files : Files) (coloured json : Bool) (file : String) (action : Action) :
    ∃ failure printed, ∀ (environment : Environment) (options : Options),
      environment.coloured = coloured → options.json = json → options.fileName = file →
      (perform files environment action options).Does (endingOf failure) printed
        (logLines (environment.effectiveVerbosity options) (Log.ofPath files file)) := by
  have left := Log.path_left files file
  -- How it ends is found before the verbosity is known: only the lines depend on that.
  cases outcome : (Graph.ofPath files file).outcome with
  | error error =>
      rw [Log.left, outcome, List.append_nil] at left
      refine ⟨some (.load file error), [], ?_⟩
      intro environment options _ _ named
      subst named
      rw [← left, perform_eq]
      exact (Session.does_load_failed (environment.effectiveVerbosity options) outcome).stops _
  | ok graph =>
      rw [Log.left, outcome] at left
      rcases of_path_represents outcome with ⟨declarations, represents⟩
      rcases respond_done represents.well_formed represents.few coloured json file action with
        ⟨failure, printed, done⟩
      refine ⟨failure, printed, ?_⟩
      intro environment options tinted form named
      subst tinted form named
      rw [← left, perform_eq]
      exact (Session.does_load (environment.effectiveVerbosity options) outcome).then_prints done

theorem effective_known {environment : Environment} {verbosity : Log.Verbosity}
    (known : environment.verbosity = some verbosity) (options : Options) :
    environment.effectiveVerbosity options = verbosity := by
  rw [Environment.effectiveVerbosity, known]
  rfl

theorem run_concluded (files : Files) (coloured json : Bool) (file : String) (action : Action) :
    ∃ failure printed, ∀ (environment : Environment) (arguments : List String) (options : Options),
      Request.ofArguments arguments = some (.run action options) →
      environment.coloured = coloured → options.json = json → options.fileName = file →
      run files environment arguments = concluded coloured failure printed
        (logLines (environment.effectiveVerbosity options) (Log.ofPath files file)) := by
  rcases perform_done files coloured json file action with ⟨failure, printed, done⟩
  refine ⟨failure, printed, ?_⟩
  intro environment arguments options accepted tinted form named
  rw [run_accepted files environment accepted, runAction, done environment options tinted form named,
    tinted]
  rfl

/-- A run reports its log and then its error, if there is one. Two runs of a command on the same file,
whatever each of them logs, end with the same code, print the same and report the same error. The log of
either is what its verbosity admits of one and the same log, so that the less verbose one reports just the
lines of the other whose level it admits, in their order. The environment's verbosity counts, if there is
one, whether or not the command is asked to be verbose, and every command that is not can be asked to. -/
theorem verbosity_filters_log (files : Files) {first second : Environment}
    {arguments others : List String} {action : Action} {options further : Options}
    (accepted : Request.ofArguments arguments = some (.run action options))
    (again : Request.ofArguments others = some (.run action further))
    (sameFile : further.fileName = options.fileName) (sameForm : further.json = options.json)
    (sameColours : second.coloured = first.coloured) :
    ((run files first arguments).reported =
        (run files first arguments).log ++ (run files first arguments).error?.toList ∧
      (run files second others).reported =
        (run files second others).log ++ (run files second others).error?.toList) ∧
    (run files first arguments).code = (run files second others).code ∧
    (run files first arguments).printed = (run files second others).printed ∧
    (run files first arguments).error? = (run files second others).error? ∧
    ((run files first arguments).code = 0 ∧ (run files first arguments).error? = none ∨
      (run files first arguments).code = 1 ∧ ∃ message,
        (run files first arguments).error? = some (errorLine first.coloured message)) ∧
    (run files first arguments).log =
      logLines (first.effectiveVerbosity options) (Log.ofPath files options.fileName) ∧
    ((first.effectiveVerbosity options).rank ≤ (second.effectiveVerbosity further).rank →
      (run files first arguments).log =
        (run files second others).log.filter (first.effectiveVerbosity options).admitsLine) ∧
    (∀ verbosity, first.verbosity = some verbosity → second.verbosity = some verbosity →
      run files first arguments = run files second others ∧
      (run files first arguments).log = logLines verbosity (Log.ofPath files options.fileName)) ∧
    (options.verbose = false → Request.ofArguments ("--verbose" :: arguments) =
      some (.run action { options with verbose := true })) := by
  rcases run_concluded files first.coloured options.json options.fileName action with
    ⟨failure, printed, concludes⟩
  have ran := concludes first arguments options accepted rfl rfl rfl
  have ranAgain := concludes second others further again sameColours sameForm sameFile
  rcases concluded_otherwise first.coloured failure printed
    (logLines (first.effectiveVerbosity options) (Log.ofPath files options.fileName))
    (logLines (second.effectiveVerbosity further) (Log.ofPath files options.fileName)) with
    ⟨code, same, error⟩
  refine ⟨⟨Outcome.log_then_error _, Outcome.log_then_error _⟩, ?_⟩
  rw [ran, ranAgain, concluded_log, concluded_log]
  constructor
  · exact code
  constructor
  · exact same
  constructor
  · exact error
  constructor
  · exact concluded_ends _ _ _ _
  constructor
  · rfl
  constructor
  · intro fewer
    exact log_lines_fewer fewer _
  constructor
  · intro verbosity known knownAgain
    rw [effective_known known, effective_known knownAgain]
    exact ⟨rfl, rfl⟩
  · exact verbose_in_front accepted

theorem halted_log_filtered :
    Request.ofArguments ["-v", "top"] = some (.run .top ⟨none, false, true⟩) ∧
    Request.ofArguments ["top"] = some (.run .top ⟨none, false, false⟩) ∧
    (run haltedFiles ⟨none, false⟩ ["-v", "top"]).code = 1 ∧
    (run haltedFiles ⟨none, false⟩ ["-v", "top"]).reported =
      (run haltedFiles ⟨none, false⟩ ["-v", "top"]).log ++
        (run haltedFiles ⟨none, false⟩ ["-v", "top"]).error?.toList ∧
    (run haltedFiles ⟨none, false⟩ ["-v", "top"]).error? =
      (run haltedFiles ⟨some (.upTo .trace), false⟩ ["top"]).error? ∧
    (run haltedFiles ⟨none, false⟩ ["-v", "top"]).log =
      (run haltedFiles ⟨some (.upTo .trace), false⟩ ["top"]).log.filter
        (Log.Verbosity.upTo .debug).admitsLine ∧
    (run haltedFiles ⟨none, false⟩ ["-v", "top"]).log.length = 3 ∧
    (run haltedFiles ⟨some (.upTo .trace), false⟩ ["top"]).log.length = 6 := by
  have asked : Request.ofArguments ["-v", "top"] = some (.run .top ⟨none, false, true⟩) := by
    decide +kernel
  have unasked : Request.ofArguments ["top"] = some (.run .top ⟨none, false, false⟩) := by
    decide +kernel
  have colours : (Environment.mk (some (.upTo .trace)) false).coloured =
      (Environment.mk none false).coloured := rfl
  rcases verbosity_filters_log haltedFiles asked unasked rfl rfl colours with
    ⟨⟨split, _⟩, _, _, error, _, _, fewer, _, _⟩
  exact ⟨asked, unasked, by decide +kernel, split, error, fewer (by decide), by decide +kernel,
    by decide +kernel⟩

end Command

end TargetGraph

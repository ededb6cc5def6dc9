import TargetGraph.Proofs.CommandOutcome
import TargetGraph.Source.FileTree

/-!
# Error lines of failed loads

A failed load is reported on one line: the mark, what was tried, the path, and the message of the load.
Where bytes could not be had or the text is no YAML, the message quotes the words of its cause at its end,
and the line has them once more behind it.
-/

namespace TargetGraph

set_option autoImplicit false

/-- The words that a message quotes from what is behind the failure. -/
inductive LoadError.Quotes : LoadError → String → Prop where
  | unreadable (failure : ReadFailure) : Quotes (.document (.unreadable failure)) failure.message
  | notYaml (error : Yaml.Error) : Quotes (.document (.notYaml error)) error.message

namespace LoadError

theorem cause_iff (error : LoadError) (words : String) :
    error.cause? = some words ↔ error.Quotes words := by
  constructor
  · intro known
    cases error with
    | graph error => cases known
    | document error =>
        cases error with
        | unreadable failure =>
            cases known
            exact .unreadable failure
        | notYaml error =>
            cases known
            exact .notYaml error
        | notFound path => cases known
        | illShaped fault => cases known
  · intro quotes
    cases quotes with
    | unreadable failure => rfl
    | notYaml error => rfl

/-- A message that quotes words ends with them, behind a colon. -/
theorem Quotes.message_ends {error : LoadError} {words : String} (quotes : error.Quotes words) :
    ∃ label, error.message = label ++ ": " ++ words := by
  cases quotes with
  | unreadable failure => exact ⟨"failed to read document", rfl⟩
  | notYaml error => exact ⟨"failed to parse document", rfl⟩

end LoadError

namespace Command

def loadFailureLine (file : String) (error : LoadError) : String :=
  "✗ Failed to load target document: " ++ file ++ ": " ++ error.message

section

variable {file : String} {error : LoadError}

theorem error_line_plain (message : String) : errorLine false message = "✗ " ++ message := by
  change "✗" ++ " " ++ message = "✗ " ++ message
  rfl

theorem load_failure_marked :
    "✗ " ++ ("Failed to load target document: " ++ file ++ ": " ++ error.message) =
      loadFailureLine file error := by
  have opening : "✗ " ++ "Failed to load target document: " = "✗ Failed to load target document: " := by
    decide
  rw [← String.append_assoc, ← String.append_assoc, ← String.append_assoc, opening]
  rfl

theorem unquoted_line (unquoted : error.cause? = none) :
    errorLine false (Failure.load file error).message = loadFailureLine file error := by
  have message : (Failure.load file error).message =
      "Failed to load target document: " ++ file ++ ": " ++ error.message := by
    rw [Failure.message, Failure.chain, unquoted]
    simp [toString]
  rw [error_line_plain, message, load_failure_marked]

theorem quoted_line {words : String} (quoted : error.cause? = some words) :
    errorLine false (Failure.load file error).message =
      loadFailureLine file error ++ ": " ++ words := by
  have message : (Failure.load file error).message =
      "Failed to load target document: " ++ file ++ ": " ++ error.message ++ (": " ++ words) := by
    rw [Failure.message, Failure.chain, quoted]
    simp [toString, String.append_assoc]
  rw [error_line_plain, message, ← String.append_assoc, load_failure_marked, String.append_assoc]

theorem line_behind_other (line words : String) : line ++ ": " ++ words ≠ line := by
  intro same
  have length := congrArg String.length same
  rw [String.length_append, String.length_append] at length
  have colon : (": ").length = 2 := by decide
  omega

/-- The line has nothing behind the message unless the message quotes some words, and then these. -/
theorem load_failure_line (file : String) (error : LoadError) :
    ((∀ words, ¬ error.Quotes words) ↔
      errorLine false (Failure.load file error).message = loadFailureLine file error) ∧
    ∀ words, error.Quotes words →
      errorLine false (Failure.load file error).message = loadFailureLine file error ++ ": " ++ words ∧
        ∃ label, error.message = label ++ ": " ++ words := by
  constructor
  · constructor
    · intro unquoted
      apply unquoted_line
      cases cause : error.cause? with
      | none => rfl
      | some words => exact absurd ((error.cause_iff words).mp cause) (unquoted words)
    · intro same words quotes
      rw [quoted_line ((error.cause_iff words).mpr quotes)] at same
      exact line_behind_other _ words same
  · intro words quotes
    exact ⟨quoted_line ((error.cause_iff words).mpr quotes), quotes.message_ends⟩

end

section

variable {files : Files} {environment : Environment} {arguments : List String} {action : Action}
  {options : Options} {error : LoadError}

/-- Every command reports a failed load on one line behind the log lines. Without colours it is the mark,
the path and the message of the load and nothing more, unless the message quotes what is behind the
failure: then it ends with those words, and they are repeated behind it. -/
theorem failed_load_line (accepted : Request.ofArguments arguments = some (.run action options))
    (plain : environment.coloured = false)
    (failed : (Graph.ofPath files options.fileName).outcome = .error error) :
    ∃ line, run files environment arguments = ⟨1, [],
        logLines (environment.effectiveVerbosity options)
          (Graph.ofPath files options.fileName).events ++ [line]⟩ ∧
      ((∀ words, ¬ error.Quotes words) ↔ line = loadFailureLine options.fileName error) ∧
      ∀ words, error.Quotes words →
        line = loadFailureLine options.fileName error ++ ": " ++ words ∧
          ∃ label, error.message = label ++ ": " ++ words := by
  have ran := run_accepted files environment accepted
  rcases run_action_outcome files environment action options with
    ⟨graph, _, loaded, _⟩ | ⟨failure, events, fails, done⟩
  · rw [failed] at loaded
    cases loaded
  · cases fails with
    | noSuchTarget graph loaded _ _ _ =>
        rw [failed] at loaded
        cases loaded
    | load other again =>
        rw [failed] at again
        cases again
        rw [plain] at done
        exact ⟨_, ran.trans done, load_failure_line options.fileName error⟩

end

def directoryFiles : Files := FileTree.files (.directory [("docs", .directory [])])

theorem directory_lines :
    (Graph.ofPath directoryFiles "a.yml").outcome = .error (.document (.notFound "a.yml")) ∧
    (run directoryFiles ⟨none, false⟩ ["-f", "a.yml", "top"]).reported =
      ["✗ Failed to load target document: a.yml: document not found: a.yml"] ∧
    (Graph.ofPath directoryFiles "docs").outcome = .error (.document (.unreadable .isDirectory)) ∧
    ∃ line, (run directoryFiles ⟨none, false⟩ ["-f", "docs", "show", "a"]).reported = [line] ∧
      line = "✗ Failed to load target document: docs: failed to read document: " ++
        "Is a directory (os error 21): Is a directory (os error 21)" := by
  have missing : (Graph.ofPath directoryFiles "a.yml").outcome =
      .error (.document (.notFound "a.yml")) := rfl
  have directory : (Graph.ofPath directoryFiles "docs").outcome =
      .error (.document (.unreadable .isDirectory)) := rfl
  have first : Request.ofArguments ["-f", "a.yml", "top"] =
      some (.run .top ⟨some "a.yml", false, false⟩) := by decide +kernel
  have second : Request.ofArguments ["-f", "docs", "show", "a"] =
      some (.run (.show "a") ⟨some "docs", false, false⟩) := by decide +kernel
  have plain : (Environment.mk none false).coloured = false := rfl
  rcases failed_load_line first plain missing with ⟨line, done, alone, _⟩
  rcases failed_load_line second plain directory with
    ⟨other, again, _, quoted⟩
  have plainly := alone.mp nofun
  have twice := (quoted _ (.unreadable .isDirectory)).1
  refine ⟨missing, ?_, directory, other, ?_, ?_⟩
  · rw [done, plainly]
    rfl
  · rw [again]
    rfl
  · rw [twice]
    decide +kernel

def garbledFiles : Files := fun _ => .ok [.bytes [0xFF]]

/-- The words of the cause stand twice on the line. -/
theorem cause_repeated :
    (Graph.ofPath garbledFiles "targets.yml").outcome = .error (.document (.unreadable .notUtf8)) ∧
    (run garbledFiles ⟨none, false⟩ ["targets"]).reported =
      [loadFailureLine "targets.yml" (.document (.unreadable .notUtf8)) ++
        ": stream did not contain valid UTF-8"] ∧
    (run garbledFiles ⟨none, false⟩ ["targets"]).reported ≠
      [loadFailureLine "targets.yml" (.document (.unreadable .notUtf8))] :=
  ⟨rfl, by decide +kernel, by decide +kernel⟩

end Command

end TargetGraph

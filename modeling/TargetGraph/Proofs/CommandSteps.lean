import TargetGraph.Command.Run
import TargetGraph.Proofs.Accesses

/-!
# Steps of a command

What each step of a command writes and how it ends, from whatever has been written before it. In a
well-formed graph the targets behind stored identifiers are all there, so that taking them writes nothing
and never breaks a command off.
-/

namespace TargetGraph

set_option autoImplicit false

namespace Command

theorem Console.written_again (console : Console) (output errors moreOutput moreErrors : List String) :
    ((((console.printed output).reported errors).printed moreOutput).reported moreErrors) =
      (console.printed (output ++ moreOutput)).reported (errors ++ moreErrors) := by
  simp [Console.printed, Console.reported]

namespace Session

variable {First Result Item : Type} {output errors moreOutput moreErrors : List String}

/-- From whatever has been written, a session writes these lines and comes to this end. -/
def Does (session : Session Result) (ending : Except Stop Result) (output errors : List String) :
    Prop :=
  ∀ console, session.on console = (ending, (console.printed output).reported errors)

theorem does_pure (result : Result) : Does (pure result) (.ok result) [] [] := by
  intro console
  simp only [Console.printed, Console.reported, List.append_nil]
  rfl

theorem does_print (line : String) : (print line).Does (.ok ()) [line] [] := by
  intro console
  simp only [Console.printed, Console.reported, List.append_nil]
  rfl

theorem does_report (line : String) : (report line).Does (.ok ()) [] [line] := by
  intro console
  simp only [Console.printed, Console.reported, List.append_nil]
  rfl

theorem does_fail (failure : Failure) :
    (fail failure : Session Result).Does (.error (.failed failure)) [] [] := by
  intro console
  simp only [Console.printed, Console.reported, List.append_nil]
  rfl

theorem on_bind (first : Session First) (next : First → Session Result) (console : Console) :
    (first >>= next).on console =
      match first.on console with
      | (.ok value, console) => (next value).on console
      | (.error stop, console) => (.error stop, console) := by
  rw [on, on, ExceptT.run_bind, StateT.run_bind]
  obtain ⟨ending, after⟩ := first.run.run console
  cases ending <;> rfl

theorem Does.bind {first : Session First} {next : First → Session Result} {value : First}
    {ending : Except Stop Result} (head : first.Does (.ok value) output errors)
    (rest : (next value).Does ending moreOutput moreErrors) :
    (first >>= next).Does ending (output ++ moreOutput) (errors ++ moreErrors) := by
  intro console
  rw [on_bind, head, ← Console.written_again]
  exact rest _

theorem Does.then_prints {first : Session First} {next : First → Session Result} {value : First}
    {ending : Except Stop Result} (head : first.Does (.ok value) [] errors)
    (rest : (next value).Does ending output []) : (first >>= next).Does ending output errors := by
  simpa using head.bind rest

theorem Does.stops {first : Session First} {stop : Stop} (head : first.Does (.error stop) output errors)
    (next : First → Session Result) : (first >>= next).Does (.error stop) output errors := by
  intro console
  rw [on_bind, head]

/-- A pass over items writes what each of them makes it write. -/
theorem does_each {step : Item → Session Unit} {output errors : Item → List String} (items : List Item)
    (each : ∀ item ∈ items, (step item).Does (.ok ()) (output item) (errors item)) :
    (items.forM step).Does (.ok ()) (items.flatMap output) (items.flatMap errors) := by
  induction items with
  | nil => exact does_pure ()
  | cons item items induction =>
      have rest := induction fun other member => each other (by simp [member])
      rw [List.flatMap_cons, List.flatMap_cons]
      exact (each item (by simp)).bind rest

theorem does_print_each {step : Item → Session Unit} {line : Item → String} (items : List Item)
    (each : ∀ item ∈ items, (step item).Does (.ok ()) [line item] []) :
    (items.forM step).Does (.ok ()) (items.map line) [] := by
  have all := does_each items each
  have silent : items.flatMap (fun _ => ([] : List String)) = [] := by simp
  rwa [silent, ← List.map_eq_flatMap] at all

theorem does_print_all (lines : List String) : (lines.forM print).Does (.ok ()) lines [] := by
  have all := does_print_each lines fun line _ => does_print line
  rwa [List.map_id'] at all

end Session

def logLines (verbosity : Log.Verbosity) (events : List Log.Event) : List String :=
  (events.filter fun event => verbosity.admits event.level).map Log.Event.line

theorem log_lines_append (verbosity : Log.Verbosity) (first rest : List Log.Event) :
    logLines verbosity (first ++ rest) = logLines verbosity first ++ logLines verbosity rest := by
  rw [logLines, List.filter_append, List.map_append]
  rfl

theorem log_lines_flat_map (verbosity : Log.Verbosity) (events : List Log.Event) :
    events.flatMap (fun event => logLines verbosity [event]) = logLines verbosity events := by
  induction events with
  | nil => rfl
  | cons event events induction =>
      rw [List.flatMap_cons, induction, ← log_lines_append]
      rfl

namespace Session

theorem does_record (verbosity : Log.Verbosity) (event : Log.Event) :
    (record verbosity event).Does (.ok ()) [] (logLines verbosity [event]) := by
  cases admitted : verbosity.admits event.level with
  | true =>
      have shown : logLines verbosity [event] = [event.line] := by simp [logLines, admitted]
      rw [record, if_pos admitted, shown]
      exact does_report event.line
  | false =>
      have hidden : logLines verbosity [event] = [] := by simp [logLines, admitted]
      rw [record, admitted, hidden]
      exact does_pure ()

theorem does_record_all (verbosity : Log.Verbosity) (events : List Log.Event) :
    (events.forM (record verbosity)).Does (.ok ()) [] (logLines verbosity events) := by
  have all := does_each events fun event _ => does_record verbosity event
  have silent : events.flatMap (fun _ => ([] : List String)) = [] := by simp
  rwa [log_lines_flat_map, silent] at all

theorem does_load_failed {files : Files} (verbosity : Log.Verbosity) {file : String} {error : LoadError}
    (failed : (Graph.ofPath files file).outcome = .error error) :
    (loadGraph files verbosity file).Does (.error (.failed (.load file error))) []
      (logLines verbosity (Graph.ofPath files file).events) := by
  have stopped : (loading verbosity file (Graph.ofPath files file)).Does
      (.error (.failed (.load file error))) ([] ++ [])
      (logLines verbosity (Graph.ofPath files file).events ++ []) := by
    rw [loading, failed]
    exact (does_record_all verbosity (Graph.ofPath files file).events).bind (does_fail _)
  rw [List.append_nil, List.append_nil] at stopped
  exact stopped.stops _

theorem does_load {files : Files} (verbosity : Log.Verbosity) {file : String} {graph : Graph}
    (loaded : (Graph.ofPath files file).outcome = .ok graph) :
    (loadGraph files verbosity file).Does (.ok graph) []
      (logLines verbosity ((Graph.ofPath files file).events ++ [.loaded graph.size])) := by
  have done : (loading verbosity file (Graph.ofPath files file)).Does (.ok graph) ([] ++ [])
      (logLines verbosity (Graph.ofPath files file).events ++ []) := by
    rw [loading, loaded]
    exact (does_record_all verbosity (Graph.ofPath files file).events).bind (does_pure graph)
  rw [List.append_nil, List.append_nil] at done
  have all : (loadGraph files verbosity file).Does (.ok graph) ([] ++ ([] ++ []))
      (logLines verbosity (Graph.ofPath files file).events ++
        (logLines verbosity [.loaded graph.size] ++ [])) :=
    done.bind ((does_record verbosity (.loaded graph.size)).bind (does_pure graph))
  rw [log_lines_append]
  simpa using all

section

variable {graph : Graph} (formed : graph.WellFormed) (coloured : Bool)
include formed

theorem does_dependency_names {target : Target} (member : target ∈ graph.targets) :
    (dependencyNames graph target).Does (.ok (graph.dependencyNames target)) [] [] := by
  rw [dependency_names_found formed member]
  exact does_pure _

theorem does_print_target {target : Target} (member : target ∈ graph.targets) :
    (printTarget coloured graph target).Does (.ok ())
      [targetLine coloured target (graph.dependencyNames target)] [] := by
  rw [print_target_found formed coloured member]
  exact does_print _

theorem does_print_targets {targets : List Target}
    (members : ∀ target ∈ targets, target ∈ graph.targets) :
    (targets.forM (printTarget coloured graph)).Does (.ok ())
      (targets.map fun target => targetLine coloured target (graph.dependencyNames target)) [] :=
  does_print_each targets fun target among => does_print_target formed coloured (members target among)

end

end Session

end Command

end TargetGraph
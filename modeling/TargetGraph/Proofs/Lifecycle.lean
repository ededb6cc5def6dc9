import TargetGraph.Graph.Session
import TargetGraph.Proofs.Loading
import TargetGraph.Proofs.WellFormedness

/-!
# The life of a graph

Whatever is done with a new graph, it is empty until a load succeeds and holds the declarations of that
load ever after. One step either leaves the graph alone or is the step that fills it; everything that
is said of runs follows from that by induction on the operations.
-/

namespace TargetGraph

set_option autoImplicit false

namespace Graph

namespace Change

variable {α β : Type} (graph : Graph)

theorem on_get : on (get : Change Graph) graph = (.ok graph, graph) := rfl

theorem on_modify (write : Graph → Graph) :
    on (modify write : Change PUnit) graph = (.ok ⟨⟩, write graph) := rfl

theorem on_throw (error : GraphError) : on (throw error : Change α) graph = (.error error, graph) :=
  rfl

theorem on_except (outcome : Except GraphError α) :
    on (MonadExcept.ofExcept outcome : Change α) graph = (outcome, graph) := by
  cases outcome <;> rfl

/-- The second change starts from what the first one has written, if it is reached at all. -/
theorem on_bind (first : Change α) (next : α → Change β) :
    on (first >>= next) graph =
      match on first graph with
      | (.ok value, after) => on (next value) after
      | (.error error, after) => (.error error, after) := by
  simp only [on, ExceptT.run_bind, StateT.run_bind]
  rcases first.run.run graph with ⟨outcome, after⟩
  cases outcome with
  | error error => rfl
  | ok value => rfl

end Change

/-- Writing the fields one by one comes to replacing the graph, or to leaving it alone. -/
theorem load_in_place (graph : Graph) (declarations : List Declaration) :
    Change.on (loadInPlace declarations) graph =
      match (graph.load declarations).outcome with
      | .ok loaded => (.ok (), loaded)
      | .error error => (.error error, graph) := by
  cases lifecycle : graph.state with
  | loaded =>
      simp [loadInPlace, load, lifecycle, Change.on_bind, Change.on_get, Change.on_throw,
        Traced.fail]
  | empty =>
      cases registered : register declarations with
      | error error =>
          simp [loadInPlace, load, lifecycle, Change.on_bind, Change.on_get, Change.on_except,
            registered, build_refused registered, Traced.fail]
      | ok filled =>
          rcases connected : connect filled.2 (filled.1.zip declarations) with ⟨events, outcome⟩
          cases outcome with
          | error error =>
              simp [loadInPlace, load, lifecycle, Change.on_bind, Change.on_get, Change.on_except,
                registered, build, connected, Traced.emit_bind, Traced.mk_error_bind]
          | ok targets =>
              simp [loadInPlace, load, lifecycle, Change.on_bind, Change.on_get, Change.on_except,
                Change.on_modify, registered, build, connected, Traced.emit_bind,
                Traced.mk_ok_bind, Traced.ok]

def filled : Answer := .loading (.ok ())

theorem answer_not_filled (graph : Graph) (query : Query) : graph.answer query ≠ filled := by
  cases query <;> simp [answer, filled]

theorem perform_load_ok {graph loaded : Graph} {declarations : List Declaration}
    (done : (graph.load declarations).outcome = .ok loaded) :
    graph.perform (.load declarations) = (filled, loaded) := by
  simp only [perform, load_in_place, done, filled]

theorem perform_load_error {graph : Graph} {declarations : List Declaration} {error : GraphError}
    (failed : (graph.load declarations).outcome = .error error) :
    graph.perform (.load declarations) = (.loading (.error error), graph) := by
  simp only [perform, load_in_place, failed]

theorem load_of_loaded {graph : Graph} (loaded : graph.state = .loaded)
    (declarations : List Declaration) :
    (graph.load declarations).outcome = .error .alreadyLoaded := by
  simp [load, loaded, Traced.fail]

theorem load_empty_not_already_loaded (declarations : List Declaration) :
    (empty.load declarations).outcome ≠ .error .alreadyLoaded := by
  intro same
  have unloaded : empty.state ≠ .loaded := by decide
  have verdict := build_verdict declarations
  rw [← load_unloaded unloaded declarations, same] at verdict
  cases verdict

theorem perform_of_loaded {graph : Graph} (loaded : graph.state = .loaded)
    (operation : Operation) :
    (graph.perform operation).2 = graph ∧ (graph.perform operation).1 ≠ filled := by
  cases operation with
  | load declarations =>
      rw [perform_load_error (load_of_loaded loaded declarations)]
      exact ⟨rfl, by simp [filled]⟩
  | ask query => exact ⟨rfl, answer_not_filled graph query⟩

theorem run_of_loaded {graph : Graph} (loaded : graph.state = .loaded)
    (operations : List Operation) :
    (graph.run operations).2 = graph ∧ filled ∉ (graph.run operations).1 := by
  induction operations with
  | nil => simp [run]
  | cons operation rest induction =>
      obtain ⟨kept, other⟩ := perform_of_loaded loaded operation
      simp only [run, kept, List.mem_cons, not_or]
      exact ⟨induction.1, other.symm, induction.2⟩

theorem run_length (graph : Graph) (operations : List Operation) :
    (graph.run operations).1.length = operations.length := by
  induction operations generalizing graph with
  | nil => rfl
  | cons operation rest induction => simp only [run, List.length_cons, induction]

theorem run_append (graph : Graph) (first second : List Operation) :
    graph.run (first ++ second) =
      ((graph.run first).1 ++ ((graph.run first).2.run second).1,
        ((graph.run first).2.run second).2) := by
  induction first generalizing graph with
  | nil => rfl
  | cons operation rest induction => simp only [List.cons_append, run, induction]

def loads (operations : List Operation) : List (List Declaration) :=
  operations.filterMap fun operation =>
    match operation with
    | .load declarations => some declarations
    | .ask _ => none

/-- The graph of the first list, among those that a run tries to load, of which there is one. -/
def firstLoadable (operations : List Operation) : Option Graph :=
  (loads operations).findSome? fun declarations =>
    (ofDocument ⟨declarations⟩).outcome.toOption

theorem first_loadable_ask (query : Query) (rest : List Operation) :
    firstLoadable (.ask query :: rest) = firstLoadable rest := rfl

theorem first_loadable_ok {declarations : List Declaration} {loaded : Graph}
    (done : (empty.load declarations).outcome = .ok loaded) (rest : List Operation) :
    firstLoadable (.load declarations :: rest) = some loaded := by
  simp [firstLoadable, loads, ofDocument, done, Except.toOption]

theorem first_loadable_error {declarations : List Declaration} {error : GraphError}
    (failed : (empty.load declarations).outcome = .error error) (rest : List Operation) :
    firstLoadable (.load declarations :: rest) = firstLoadable rest := by
  simp [firstLoadable, loads, ofDocument, failed, Except.toOption]

theorem first_loadable_loaded {operations : List Operation} {loaded : Graph}
    (first : firstLoadable operations = some loaded) :
    ∃ declarations, (empty.load declarations).outcome = .ok loaded := by
  obtain ⟨declarations, _, found⟩ := List.exists_of_findSome?_eq_some first
  refine ⟨declarations, ?_⟩
  simp only [ofDocument] at found
  cases outcome : (empty.load declarations).outcome with
  | error error => simp [outcome, Except.toOption] at found
  | ok graph => simpa [outcome, Except.toOption] using found

/-- The graph is empty up to the first load that succeeds, and what that load made of it afterwards. -/
theorem run_of_empty (operations : List Operation) :
    (empty.run operations).2 = (firstLoadable operations).getD empty ∧
      (filled ∈ (empty.run operations).1 ↔ (firstLoadable operations).isSome) := by
  induction operations with
  | nil => simp [run, firstLoadable, loads]
  | cons operation rest induction =>
      cases operation with
      | ask query =>
          have other := (answer_not_filled empty query).symm
          simpa [run, perform, first_loadable_ask, other] using induction
      | load declarations =>
          cases outcome : (empty.load declarations).outcome with
          | error error =>
              simp only [run, perform_load_error outcome, first_loadable_error outcome,
                List.mem_cons]
              simpa [filled] using induction
          | ok loaded =>
              have kept := run_of_loaded (load_represents outcome).state rest
              simp [run, perform_load_ok outcome, first_loadable_ok outcome, kept.1]

theorem load_answer (earlier : List Operation) (declarations : List Declaration) :
    ∃ outcome, ((empty.run earlier).2.perform (.load declarations)).1 = .loading outcome ∧
      (outcome = .error .alreadyLoaded ↔ filled ∈ (empty.run earlier).1) ∧
      (filled ∉ (empty.run earlier).1 →
        outcome = (empty.load declarations).outcome.map fun _ => ()) := by
  obtain ⟨after, answers⟩ := run_of_empty earlier
  cases first : firstLoadable earlier with
  | some loaded =>
      obtain ⟨source, done⟩ := first_loadable_loaded first
      rw [after, first, Option.getD_some,
        perform_load_error (load_of_loaded (load_represents done).state declarations)]
      have before : filled ∈ (empty.run earlier).1 := answers.mpr (by simp [first])
      exact ⟨_, rfl, by simp [before], fun never => absurd before never⟩
  | none =>
      have never : filled ∉ (empty.run earlier).1 := by
        intro before
        simpa [first] using answers.mp before
      rw [after, first, Option.getD_none]
      have fresh := load_empty_not_already_loaded declarations
      cases outcome : (empty.load declarations).outcome with
      | error error =>
          rw [perform_load_error outcome]
          rw [outcome] at fresh
          exact ⟨_, rfl, by simpa [never] using fresh, fun _ => rfl⟩
      | ok loaded =>
          rw [perform_load_ok outcome]
          exact ⟨_, rfl, by simp [never], fun _ => rfl⟩

theorem run_well_formed (operations : List Operation) : (empty.run operations).2.WellFormed := by
  rw [(run_of_empty operations).1]
  cases first : firstLoadable operations with
  | none => exact empty_well_formed
  | some loaded =>
      obtain ⟨declarations, done⟩ := first_loadable_loaded first
      exact (load_represents done).well_formed

theorem run_size_le (operations : List Operation) : (empty.run operations).2.size ≤ 0xFFFFFFFF := by
  rw [(run_of_empty operations).1]
  cases first : firstLoadable operations with
  | none => exact Nat.zero_le _
  | some loaded =>
      obtain ⟨declarations, done⟩ := first_loadable_loaded first
      have represents := load_represents done
      rw [Option.getD_some, represents.size_eq]
      exact represents.fits

/-- A graph that some operations leave of a new one. -/
def Reachable (graph : Graph) : Prop := ∃ operations, (empty.run operations).2 = graph

namespace Reachable

variable {graph : Graph} (reachable : graph.Reachable)
include reachable

theorem well_formed : graph.WellFormed := by
  obtain ⟨operations, rfl⟩ := reachable
  exact run_well_formed operations

theorem size_le : graph.size ≤ 0xFFFFFFFF := by
  obtain ⟨operations, rfl⟩ := reachable
  exact run_size_le operations

theorem loaded_from (loaded : graph.state = .loaded) :
    ∃ declarations, (empty.load declarations).outcome = .ok graph := by
  rcases reachable with ⟨operations, after⟩
  rw [(run_of_empty operations).1] at after
  cases first : firstLoadable operations with
  | none =>
      rw [first, Option.getD_none] at after
      rw [← after] at loaded
      cases loaded
  | some own =>
      rw [first, Option.getD_some] at after
      rw [← after]
      exact first_loadable_loaded first

end Reachable

/-- Over any run on a new graph: loads answer that the graph is loaded exactly behind the first one that
succeeds, and otherwise as on a new graph; the graph is in the end a new one, or that of the first list
that can be loaded; and it is well-formed. -/
theorem run_is_one_shot (operations : List Operation) :
    (∀ earlier declarations later, operations = earlier ++ .load declarations :: later →
      ∃ outcome, (empty.run operations).1[earlier.length]? = some (.loading outcome) ∧
        (outcome = .error .alreadyLoaded ↔
          filled ∈ (empty.run operations).1.take earlier.length) ∧
        (filled ∉ (empty.run operations).1.take earlier.length →
          outcome = (empty.load declarations).outcome.map fun _ => ())) ∧
    (empty.run operations).2 = (firstLoadable operations).getD empty ∧
    (filled ∈ (empty.run operations).1 ↔ (firstLoadable operations).isSome) ∧
    (empty.run operations).2.WellFormed := by
  obtain ⟨after, answers⟩ := run_of_empty operations
  refine ⟨?_, after, answers, run_well_formed operations⟩
  rintro earlier declarations later rfl
  have length := run_length empty earlier
  have before : (empty.run (earlier ++ .load declarations :: later)).1.take earlier.length =
      (empty.run earlier).1 := by
    rw [run_append, ← length, List.take_left]
  have own : (empty.run (earlier ++ .load declarations :: later)).1[earlier.length]? =
      some ((empty.run earlier).2.perform (.load declarations)).1 := by
    rw [run_append, ← length, List.getElem?_append_right (Nat.le_refl _), Nat.sub_self]
    rfl
  rw [before, own]
  obtain ⟨outcome, same, loaded, fresh⟩ := load_answer earlier declarations
  exact ⟨outcome, congrArg some same, loaded, fresh⟩

end Graph

end TargetGraph

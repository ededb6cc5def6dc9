import TargetGraph.Proofs.Lists
import TargetGraph.Proofs.Registration

/-!
# Resolution

The second pass. Names that the index numbers are resolved one after the other, each with its record,
and the first name that it does not know stops the run. As in the first pass, the run over a good
prefix is one induction, and everything else is what the rest does behind it.
-/

namespace TargetGraph

set_option autoImplicit false

namespace Traced

variable {ε α β γ : Type}

theorem preceded_preceded (first second : List Log.Event) (outer : β → γ) (inner : α → β)
    (run : Traced ε α) :
    (run.preceded second inner).preceded first outer =
      run.preceded (first ++ second) (outer ∘ inner) := by
  cases run with
  | mk events outcome =>
      cases outcome <;> simp [preceded, Except.map]

theorem ok_preceded (events : List Log.Event) (complete : α → β) (value : α) :
    (ok value : Traced ε α).preceded events complete = ⟨events, .ok (complete value)⟩ := by
  simp [preceded, ok, Except.map]

theorem fail_preceded (events : List Log.Event) (complete : α → β) (error : ε) :
    (fail error : Traced ε α).preceded events complete = ⟨events, .error error⟩ := by
  simp [preceded, fail, Except.map]

end Traced

def ResolveIn (names : List String) (declarations : List Declaration) : Prop :=
  ∀ declaration ∈ declarations, ∀ dependency ∈ declaration.dependencies, dependency ∈ names

namespace Graph

def resolution (names : List String) (owner dependency : String) : Log.Event :=
  .resolved owner dependency (identifierIn names dependency)

def resolutions (names : List String) (declarations : List Declaration) : List Log.Event :=
  declarations.flatMap fun declaration =>
    declaration.dependencies.map (resolution names declaration.name)

def link (names : List String) (entry : Target × Declaration) : Target :=
  { entry.1 with dependencies := entry.2.dependencies.map (identifierIn names) }

theorem resolve_known {index : NameIndex} {owner dependency : String} {rest : List String}
    {id : TargetId} (known : index.find? dependency = some id) :
    resolveNames index owner (dependency :: rest) =
      (resolveNames index owner rest).preceded [.resolved owner dependency id] (id :: ·) := by
  simp only [resolveNames, known, Traced.emit_bind]
  cases resolveNames index owner rest with
  | mk events outcome =>
      cases outcome with
      | error error => rfl
      | ok ids => simp [Traced.mk_ok_bind, Traced.ok, Traced.preceded, Except.map]

theorem resolve_unknown {index : NameIndex} {owner dependency : String} {rest : List String}
    (unknown : index.find? dependency = none) :
    resolveNames index owner (dependency :: rest) =
      .fail (.unresolvedDependency owner dependency) := by
  simp only [resolveNames, unknown]

theorem resolve_names_append {index : NameIndex} {names : List String}
    (numbers : index.Numbers names) (owner : String) (known rest : List String)
    (declared : ∀ dependency ∈ known, dependency ∈ names) :
    resolveNames index owner (known ++ rest) =
      (resolveNames index owner rest).preceded (known.map (resolution names owner))
        (known.map (identifierIn names) ++ ·) := by
  induction known with
  | nil =>
      cases run : resolveNames index owner rest with
      | mk events outcome => cases outcome <;> simp [run, Traced.preceded, Except.map]
  | cons dependency known induction =>
      have found := NameIndex.find_numbered numbers (declared dependency (by simp))
      have later := induction fun other member => declared other (by simp [member])
      rw [List.cons_append, resolve_known found, later, Traced.preceded_preceded]
      rfl

theorem connect_known {index : NameIndex} {names : List String} (numbers : index.Numbers names)
    (target : Target) (declaration : Declaration) (rest : List (Target × Declaration))
    (declared : ∀ dependency ∈ declaration.dependencies, dependency ∈ names) :
    connect index ((target, declaration) :: rest) =
      (connect index rest).preceded
        (declaration.dependencies.map (resolution names declaration.name))
        (link names (target, declaration) :: ·) := by
  have resolved := resolve_names_append numbers declaration.name declaration.dependencies [] declared
  rw [List.append_nil, resolveNames, Traced.ok_preceded, List.append_nil] at resolved
  simp only [connect, resolved, Traced.mk_ok_bind]
  cases connect index rest with
  | mk events outcome =>
      cases outcome with
      | error error => rfl
      | ok targets => simp [Traced.mk_ok_bind, Traced.ok, Traced.preceded, Except.map, link]

theorem connect_unknown {index : NameIndex} {names : List String} (numbers : index.Numbers names)
    (target : Target) (declaration : Declaration) (rest : List (Target × Declaration))
    (known others : List String) (missing : String)
    (split : declaration.dependencies = known ++ missing :: others)
    (declared : ∀ dependency ∈ known, dependency ∈ names) (undeclared : missing ∉ names) :
    connect index ((target, declaration) :: rest) =
      ⟨known.map (resolution names declaration.name),
        .error (.unresolvedDependency declaration.name missing)⟩ := by
  have resolved := resolve_names_append numbers declaration.name known (missing :: others) declared
  rw [resolve_unknown (NameIndex.find_unknown numbers undeclared), Traced.fail_preceded,
    ← split] at resolved
  simp only [connect, resolved, Traced.mk_error_bind]

theorem connect_append {index : NameIndex} {names : List String} (numbers : index.Numbers names)
    (before rest : List (Target × Declaration))
    (declared : ResolveIn names (before.map Prod.snd)) :
    connect index (before ++ rest) =
      (connect index rest).preceded (resolutions names (before.map Prod.snd))
        (before.map (link names) ++ ·) := by
  induction before with
  | nil =>
      cases run : connect index rest with
      | mk events outcome => cases outcome <;> simp [run, Traced.preceded, Except.map, resolutions]
  | cons entry before induction =>
      have own := declared entry.2 (by simp)
      have later := induction fun declaration member => declared declaration (by simp [member])
      rw [List.cons_append, connect_known numbers entry.1 entry.2 _ own, later,
        Traced.preceded_preceded]
      rfl

end Graph

/-- All dependencies resolve, or one of them is the first, in declared order, that does not. -/
theorem resolve_or_first_unknown (names : List String) (declarations : List Declaration) :
    ResolveIn names declarations ∨
      ∃ before declaration after known missing others,
        declarations = before ++ declaration :: after ∧
        declaration.dependencies = known ++ missing :: others ∧ ResolveIn names before ∧
        (∀ dependency ∈ known, dependency ∈ names) ∧ missing ∉ names := by
  rcases all_or_first_failing (fun declaration : Declaration =>
      ∀ dependency ∈ declaration.dependencies, dependency ∈ names) declarations with
    all | ⟨before, declaration, after, split, resolved, failing⟩
  · exact Or.inl all
  · rcases all_or_first_failing (· ∈ names) declaration.dependencies with
      all | ⟨known, missing, others, dependencies, declared, undeclared⟩
    · exact absurd all failing
    · exact Or.inr ⟨before, declaration, after, known, missing, others, split, dependencies,
        resolved, declared, undeclared⟩

end TargetGraph

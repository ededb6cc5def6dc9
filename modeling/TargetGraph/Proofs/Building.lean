import TargetGraph.Proofs.Resolution

/-!
# Building a graph

Both passes together. Every list of declarations has exactly one verdict: it is loaded, or it is
refused for the first repeated name, for the first position without an identifier, or, where the names
are in order, for the first dependency that no declaration has as its name.
-/

namespace TargetGraph

set_option autoImplicit false

namespace Graph

def targetsFrom (position : Nat) (names : List String) (declarations : List Declaration) :
    List Target :=
  (declarations.zipIdx position).map fun entry =>
    ⟨.ofPosition entry.2, entry.1.name, entry.1.dependencies.map (identifierIn names)⟩

def targetsOf (declarations : List Declaration) : List Target :=
  targetsFrom 0 (namesOf declarations) declarations

theorem registered_from_length (position : Nat) (declarations : List Declaration) :
    (registeredFrom position declarations).length = declarations.length := by
  simp [registeredFrom]

theorem registered_from_append (position : Nat) (before after : List Declaration) :
    registeredFrom position (before ++ after) =
      registeredFrom position before ++ registeredFrom (position + before.length) after := by
  simp [registeredFrom, List.zipIdx_append]

theorem registered_zip_declarations (position : Nat) (declarations : List Declaration) :
    ((registeredFrom position declarations).zip declarations).map Prod.snd = declarations :=
  List.map_snd_zip (Nat.le_of_eq (registered_from_length position declarations).symm)

theorem linked_registered (position : Nat) (names : List String)
    (declarations : List Declaration) :
    ((registeredFrom position declarations).zip declarations).map (link names) =
      targetsFrom position names declarations := by
  induction declarations generalizing position with
  | nil => rfl
  | cons declaration rest induction =>
      rw [registered_from_cons, List.zip_cons_cons, List.map_cons, induction (position + 1)]
      simp [targetsFrom, link]

theorem connect_resolved {index : NameIndex} {names : List String} (numbers : index.Numbers names)
    (declarations : List Declaration) (resolved : ResolveIn names declarations) :
    connect index ((registeredFrom 0 declarations).zip declarations) =
      ⟨resolutions names declarations, .ok (targetsFrom 0 names declarations)⟩ := by
  have pairs := registered_zip_declarations 0 declarations
  have linked := connect_append numbers ((registeredFrom 0 declarations).zip declarations) []
    (by rw [pairs]; exact resolved)
  rw [List.append_nil, connect, Traced.ok_preceded, List.append_nil, pairs,
    linked_registered] at linked
  exact linked

theorem connect_unresolved {index : NameIndex} {names : List String}
    (numbers : index.Numbers names) (before after : List Declaration) (declaration : Declaration)
    (known others : List String) (missing : String) (resolved : ResolveIn names before)
    (dependencies : declaration.dependencies = known ++ missing :: others)
    (declared : ∀ dependency ∈ known, dependency ∈ names) (undeclared : missing ∉ names) :
    connect index
        ((registeredFrom 0 (before ++ declaration :: after)).zip
          (before ++ declaration :: after)) =
      ⟨resolutions names before ++ known.map (resolution names declaration.name),
        .error (.unresolvedDependency declaration.name missing)⟩ := by
  have pairs := registered_zip_declarations 0 before
  rw [registered_from_append, List.zip_append (registered_from_length 0 before),
    registered_from_cons, List.zip_cons_cons,
    connect_append numbers _ _ (by rw [pairs]; exact resolved),
    connect_unknown numbers _ declaration _ known others missing dependencies declared undeclared,
    pairs]
  rfl

theorem build_resolved (declarations : List Declaration)
    (distinct : (namesOf declarations).Nodup) (fits : declarations.length ≤ 0xFFFFFFFF)
    (resolved : ResolveIn (namesOf declarations) declarations) :
    ∃ index : NameIndex, index.Numbers (namesOf declarations) ∧
      build declarations =
        ⟨.registered declarations.length :: (resolutions (namesOf declarations) declarations ++
            [.connected (edgeCount (targetsOf declarations))]),
          .ok ⟨targetsOf declarations, index, .loaded⟩⟩ := by
  obtain ⟨index, numbers, registered⟩ := register_distinct declarations distinct fits
  refine ⟨index, numbers, ?_⟩
  simp only [build, registered, Traced.of_except_ok, Traced.ok_bind, Traced.emit_bind,
    registered_from_length, connect_resolved numbers declarations resolved, Traced.mk_ok_bind]
  rfl

theorem build_unresolved (before after : List Declaration) (declaration : Declaration)
    (known others : List String) (missing : String)
    (distinct : (namesOf (before ++ declaration :: after)).Nodup)
    (fits : (before ++ declaration :: after).length ≤ 0xFFFFFFFF)
    (resolved : ResolveIn (namesOf (before ++ declaration :: after)) before)
    (dependencies : declaration.dependencies = known ++ missing :: others)
    (declared : ∀ dependency ∈ known, dependency ∈ namesOf (before ++ declaration :: after))
    (undeclared : missing ∉ namesOf (before ++ declaration :: after)) :
    build (before ++ declaration :: after) =
      ⟨.registered (before ++ declaration :: after).length ::
          (resolutions (namesOf (before ++ declaration :: after)) before ++
            known.map (resolution (namesOf (before ++ declaration :: after)) declaration.name)),
        .error (.unresolvedDependency declaration.name missing)⟩ := by
  obtain ⟨index, numbers, registered⟩ := register_distinct _ distinct fits
  simp only [build, registered, Traced.of_except_ok, Traced.ok_bind, Traced.emit_bind,
    registered_from_length, Traced.mk_error_bind,
    connect_unresolved numbers before after declaration known others missing resolved dependencies
      declared undeclared]

theorem build_refused {declarations : List Declaration} {error : GraphError}
    (refused : register declarations = .error error) : build declarations = .fail error := by
  simp only [build, refused, Traced.of_except_error, Traced.fail_bind]

/-- What becomes of declarations. Wherever it is an error, everything before the place that it names
was in order. -/
inductive Verdict (declarations : List Declaration) : Except GraphError Graph → Prop where
  | loaded {index : NameIndex} (distinct : (namesOf declarations).Nodup)
      (fits : declarations.length ≤ 0xFFFFFFFF)
      (resolved : ResolveIn (namesOf declarations) declarations)
      (numbers : index.Numbers (namesOf declarations)) :
      Verdict declarations (.ok ⟨targetsOf declarations, index, .loaded⟩)
  | repeated {before after : List Declaration} {declaration : Declaration}
      (split : declarations = before ++ declaration :: after)
      (distinct : (namesOf before).Nodup) (below : before.length < 0xFFFFFFFF)
      (known : declaration.name ∈ namesOf before) :
      Verdict declarations (.error (.duplicateTarget declaration.name
        (identifierIn (namesOf before) declaration.name)))
  | overfull {before after : List Declaration} {declaration : Declaration}
      (split : declarations = before ++ declaration :: after)
      (distinct : (namesOf before).Nodup) (full : before.length = 0xFFFFFFFF) :
      Verdict declarations (.error (.tooManyTargets declarations.length))
  | unresolved {before after : List Declaration} {declaration : Declaration}
      {known others : List String} {missing : String}
      (distinct : (namesOf declarations).Nodup) (fits : declarations.length ≤ 0xFFFFFFFF)
      (split : declarations = before ++ declaration :: after)
      (resolved : ResolveIn (namesOf declarations) before)
      (dependencies : declaration.dependencies = known ++ missing :: others)
      (declared : ∀ dependency ∈ known, dependency ∈ namesOf declarations)
      (undeclared : missing ∉ namesOf declarations) :
      Verdict declarations (.error (.unresolvedDependency declaration.name missing))

theorem verdict_of_repeat {declarations before after : List Declaration}
    {declaration : Declaration} (split : declarations = before ++ declaration :: after)
    (distinct : (namesOf before).Nodup) (below : before.length < 0xFFFFFFFF)
    (known : declaration.name ∈ namesOf before) : Verdict declarations (build declarations).outcome := by
  have refused := register_repeated before after declaration distinct below known
  rw [← split] at refused
  rw [build_refused refused]
  exact .repeated split distinct below known

theorem verdict_of_distinct (declarations : List Declaration)
    (distinct : (namesOf declarations).Nodup) (fits : declarations.length ≤ 0xFFFFFFFF) :
    Verdict declarations (build declarations).outcome := by
  rcases resolve_or_first_unknown (namesOf declarations) declarations with
    resolved | ⟨before, declaration, after, known, missing, others, split, dependencies, resolved,
      declared, undeclared⟩
  · obtain ⟨index, numbers, built⟩ := build_resolved declarations distinct fits resolved
    rw [built]
    exact .loaded distinct fits resolved numbers
  · have built : (build declarations).outcome =
        .error (.unresolvedDependency declaration.name missing) := by
      subst split
      rw [build_unresolved before after declaration known others missing distinct fits resolved
        dependencies declared undeclared]
    rw [built]
    exact .unresolved distinct fits split resolved dependencies declared undeclared

/-- Unless the names are distinct and few enough, some declaration is the first that cannot be given an
identifier: its name is taken, or no identifier is left. -/
theorem first_without_identifier {declarations : List Declaration}
    (refused : ¬ ((namesOf declarations).Nodup ∧ declarations.length ≤ 0xFFFFFFFF)) :
    ∃ before declaration after, declarations = before ++ declaration :: after ∧
      (namesOf before).Nodup ∧
      (before.length < 0xFFFFFFFF ∧ declaration.name ∈ namesOf before ∨
        before.length = 0xFFFFFFFF) := by
  rcases distinct_or_first_repeat (declarations.take 0xFFFFFFFF) with
    distinct | ⟨before, declaration, after, earlier, distinct, known⟩
  · have overlong : 0xFFFFFFFF < declarations.length := by
      by_contra short
      have fits : declarations.length ≤ 0xFFFFFFFF := by omega
      rw [List.take_of_length_le fits] at distinct
      exact refused ⟨distinct, fits⟩
    refine ⟨declarations.take 0xFFFFFFFF, declarations[0xFFFFFFFF],
      declarations.drop (0xFFFFFFFF + 1), ?_, distinct, .inr ?_⟩
    · rw [List.getElem_cons_drop, List.take_append_drop]
    · rw [List.length_take]
      omega
  · refine ⟨before, declaration, after ++ declarations.drop 0xFFFFFFFF, ?_, distinct,
      .inl ⟨?_, known⟩⟩
    · rw [← List.cons_append, ← List.append_assoc, ← earlier, List.take_append_drop]
    · have total := congrArg List.length earlier
      rw [List.length_take, List.length_append, List.length_cons] at total
      omega

theorem register_refused {declarations : List Declaration}
    (refused : ¬ ((namesOf declarations).Nodup ∧ declarations.length ≤ 0xFFFFFFFF)) :
    ∃ error, register declarations = .error error := by
  obtain ⟨before, declaration, after, rfl, distinct, taken⟩ := first_without_identifier refused
  rcases taken with ⟨below, known⟩ | full
  · exact ⟨_, register_repeated before after declaration distinct below known⟩
  · exact ⟨_, register_overfull before after declaration distinct full⟩

theorem build_verdict (declarations : List Declaration) :
    Verdict declarations (build declarations).outcome := by
  by_cases accepted : (namesOf declarations).Nodup ∧ declarations.length ≤ 0xFFFFFFFF
  · exact verdict_of_distinct declarations accepted.1 accepted.2
  · obtain ⟨before, declaration, after, split, distinct, taken⟩ := first_without_identifier accepted
    rcases taken with ⟨below, known⟩ | full
    · exact verdict_of_repeat split distinct below known
    · have refused := register_overfull before after declaration distinct full
      rw [← split] at refused
      rw [build_refused refused]
      exact .overfull split distinct full

theorem repeat_within {declarations before after : List Declaration} {declaration : Declaration}
    (limit : Nat) (split : declarations = before ++ declaration :: after)
    (below : before.length < limit) (known : declaration.name ∈ namesOf before) :
    ¬ ((namesOf declarations).take limit).Nodup := by
  intro distinct
  have first : (namesOf declarations).take (before.length + 1) =
      namesOf before ++ [declaration.name] := by
    simp [split, List.take_append, List.take_of_length_le]
  have inside : before.length + 1 ≤ limit := below
  have shorter := distinct.sublist (List.take_sublist_take_left inside)
  rw [first] at shorter
  rw [List.nodup_append] at shorter
  exact shorter.2.2 _ known _ (by simp) rfl

theorem repeat_anywhere {declarations before after : List Declaration} {declaration : Declaration}
    (split : declarations = before ++ declaration :: after)
    (known : declaration.name ∈ namesOf before) : ¬ (namesOf declarations).Nodup := by
  intro distinct
  apply repeat_within (before.length + 1) split (Nat.lt_succ_self _) known
  exact distinct.sublist (List.take_sublist _ _)

theorem build_repeats {declarations : List Declaration}
    (repeats : ¬ ((namesOf declarations).take 0xFFFFFFFF).Nodup) :
    ∃ name first, (build declarations).outcome = .error (.duplicateTarget name first) := by
  have verdict := build_verdict declarations
  generalize (build declarations).outcome = outcome at verdict ⊢
  cases verdict with
  | loaded distinct => exact absurd (distinct.sublist (List.take_sublist _ _)) repeats
  | repeated => exact ⟨_, _, rfl⟩
  | @overfull before after declaration split distinct full =>
      have first : (namesOf declarations).take 0xFFFFFFFF = namesOf before := by
        simp [split, ← full]
      rw [first] at repeats
      exact absurd distinct repeats
  | unresolved distinct => exact absurd (distinct.sublist (List.take_sublist _ _)) repeats

theorem build_overfull {declarations : List Declaration}
    (distinct : ((namesOf declarations).take 0xFFFFFFFF).Nodup)
    (overlong : 0xFFFFFFFF < declarations.length) :
    (build declarations).outcome = .error (.tooManyTargets declarations.length) := by
  have verdict := build_verdict declarations
  generalize (build declarations).outcome = outcome at verdict ⊢
  cases verdict with
  | loaded _ fits => omega
  | repeated split _ below known => exact absurd distinct (repeat_within _ split below known)
  | overfull => rfl
  | unresolved _ fits => omega

theorem build_undeclared {declarations : List Declaration}
    (distinct : (namesOf declarations).Nodup) (fits : declarations.length ≤ 0xFFFFFFFF)
    (unresolved : ¬ ResolveIn (namesOf declarations) declarations) :
    ∃ owner missing,
      (build declarations).outcome = .error (.unresolvedDependency owner missing) := by
  have verdict := verdict_of_distinct declarations distinct fits
  generalize (build declarations).outcome = outcome at verdict ⊢
  cases verdict with
  | loaded _ _ resolved => exact absurd resolved unresolved
  | repeated split _ _ known => exact absurd distinct (repeat_anywhere split known)
  | overfull split _ full =>
      rw [split, List.length_append, List.length_cons] at fits
      omega
  | unresolved => exact ⟨_, _, rfl⟩

end Graph

end TargetGraph

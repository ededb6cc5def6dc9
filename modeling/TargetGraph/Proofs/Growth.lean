import TargetGraph.Proofs.Loading

/-!
# Documents that grow

Declarations that are added at the end of a document leave the identifiers of the others as they were.
A name keeps its first position, so that whatever has been resolved stays resolved as it was, and a load
that fails for what has been added says so.
-/

namespace TargetGraph

set_option autoImplicit false

theorem identifier_append {names : List String} {name : String} (known : name ∈ names)
    (more : List String) : identifierIn (names ++ more) name = identifierIn names name := by
  rw [identifierIn, identifierIn, List.idxOf_append_of_mem known]

theorem place_in_append {Item : Type} {first more before after : List Item} {item : Item}
    (split : first ++ more = before ++ item :: after) :
    (∃ rest, first = before ++ item :: rest) ∨ item ∈ more := by
  rcases List.append_eq_append_iff.mp split with ⟨between, _, behind⟩ | ⟨rest, inside, behind⟩
  · right
    rw [behind]
    simp
  · cases rest with
    | nil =>
        right
        rw [List.nil_append] at behind
        rw [← behind]
        simp
    | cons other rest =>
        left
        rw [List.cons_append, List.cons.injEq] at behind
        rw [behind.1]
        exact ⟨rest, inside⟩

namespace Graph

variable {declarations more : List Declaration}

theorem targets_from_append (position : Nat) (names : List String)
    (before after : List Declaration) :
    targetsFrom position names (before ++ after) =
      targetsFrom position names before ++ targetsFrom (position + before.length) names after := by
  simp [targetsFrom, List.zipIdx_append]

/-- Names that are declared later do not change what resolves without them. -/
theorem targets_from_more_names (position : Nat) {names : List String} (more : List String)
    (resolved : ResolveIn names declarations) :
    targetsFrom position (names ++ more) declarations = targetsFrom position names declarations := by
  apply List.map_congr_left
  intro entry member
  have declared := resolved entry.1 (List.fst_mem_of_mem_zipIdx member)
  have same : entry.1.dependencies.map (identifierIn (names ++ more)) =
      entry.1.dependencies.map (identifierIn names) := by
    apply List.map_congr_left
    intro dependency among
    exact identifier_append (declared dependency among) more
  rw [same]

theorem targets_of_prefix (more : List Declaration)
    (resolved : ResolveIn (namesOf declarations) declarations) :
    (targetsOf (declarations ++ more)).take declarations.length = targetsOf declarations := by
  have length : (targetsOf declarations).length = declarations.length := by
    simp [targetsOf, targetsFrom]
  have names : namesOf (declarations ++ more) = namesOf declarations ++ namesOf more :=
    List.map_append
  have first : targetsFrom 0 (namesOf (declarations ++ more)) declarations =
      targetsOf declarations := by
    rw [names]
    exact targets_from_more_names 0 (namesOf more) resolved
  rw [targetsOf, targets_from_append, first, ← length, List.take_left]

theorem Represents.grown_prefix {loaded grown : Graph} (represents : loaded.Represents declarations)
    (larger : grown.Represents (declarations ++ more)) :
    grown.targets.take declarations.length = loaded.targets := by
  rw [larger.targets, represents.targets]
  exact targets_of_prefix more represents.resolved

/-- What is wrong with declarations whose first ones could be loaded is wrong with the others. -/
theorem Represents.grown_fault {loaded : Graph} (represents : loaded.Represents declarations)
    (few : (declarations ++ more).length < 0x100000000) {outcome : Except GraphError Graph}
    (verdict : Verdict (declarations ++ more) outcome) {error : GraphError}
    (failed : outcome = .error error) :
    (∃ name first, error = .duplicateTarget name first ∧ name ∈ namesOf more) ∨
      ∃ owner dependency, error = .unresolvedDependency owner dependency ∧ owner ∈ namesOf more := by
  cases verdict with
  | loaded => cases failed
  | @repeated before after declaration split _ _ known =>
      cases failed
      left
      refine ⟨_, _, rfl, ?_⟩
      rcases place_in_append split with ⟨rest, inside⟩ | behind
      · exact absurd represents.distinct (repeat_anywhere inside known)
      · exact List.mem_map_of_mem behind
  | overfull split _ full =>
      rw [split, List.length_append, List.length_cons] at few
      omega
  | @unresolved before after declaration known others missing _ _ split _ dependencies _ undeclared =>
      cases failed
      right
      refine ⟨_, _, rfl, ?_⟩
      rcases place_in_append split with ⟨rest, inside⟩ | behind
      · have member : declaration ∈ declarations := by
          rw [inside]
          simp
        have declared := represents.resolved declaration member missing (by simp [dependencies])
        have within : missing ∈ namesOf (declarations ++ more) := by
          rw [namesOf, List.map_append]
          exact List.mem_append_left _ declared
        exact absurd within undeclared
      · exact List.mem_map_of_mem behind

theorem build_grown_repeat {name : String} {first : TargetId}
    (failed : (build declarations).outcome = .error (.duplicateTarget name first)) :
    (build (declarations ++ more)).outcome = .error (.duplicateTarget name first) := by
  have verdict := build_verdict declarations
  rw [failed] at verdict
  cases verdict with
  | @repeated before after declaration split distinct below known =>
      have longer : declarations ++ more = before ++ declaration :: (after ++ more) := by
        rw [split, List.append_assoc, List.cons_append]
      rw [longer, build_refused (register_repeated before _ declaration distinct below known)]
      rfl

/-- A dependency that was missing and is not any more has been declared since. -/
theorem Represents.grown_missing {grown : Graph} (larger : grown.Represents (declarations ++ more))
    {owner dependency : String}
    (failed : (build declarations).outcome = .error (.unresolvedDependency owner dependency)) :
    dependency ∈ namesOf more := by
  have verdict := build_verdict declarations
  rw [failed] at verdict
  cases verdict with
  | @unresolved before after declaration known others missing _ _ split _ dependencies _ undeclared =>
      have member : declaration ∈ declarations ++ more := by simp [split]
      have declared := larger.resolved declaration member dependency (by simp [dependencies])
      rw [namesOf, List.map_append, List.mem_append] at declared
      exact declared.resolve_left undeclared

/-- Whatever is added at the end of a document, the targets of the others stay as they were, and a load
that fails now names what has been added. A name that was repeated is still reported as it was. A
dependency that was missing is declared in what has been added, if the whole can be loaded. -/
theorem growth_keeps_identifiers (graph : Graph) (declarations more : List Declaration)
    (unloaded : graph.state ≠ .loaded) (few : (declarations ++ more).length < 0x100000000) :
    (∀ loaded, (graph.load declarations).outcome = .ok loaded →
      (∀ grown, (graph.load (declarations ++ more)).outcome = .ok grown →
        grown.targets.take declarations.length = loaded.targets) ∧
      ∀ error, (graph.load (declarations ++ more)).outcome = .error error →
        (∃ name first, error = .duplicateTarget name first ∧ name ∈ namesOf more) ∨
        ∃ owner dependency, error = .unresolvedDependency owner dependency ∧
          owner ∈ namesOf more) ∧
    (∀ name first, (graph.load declarations).outcome = .error (.duplicateTarget name first) →
      (graph.load (declarations ++ more)).outcome = .error (.duplicateTarget name first)) ∧
    ∀ owner dependency,
      (graph.load declarations).outcome = .error (.unresolvedDependency owner dependency) →
      ∀ grown, (graph.load (declarations ++ more)).outcome = .ok grown →
        dependency ∈ namesOf more := by
  simp only [load_unloaded unloaded]
  constructor
  · intro loaded done
    have represents := build_represents done
    constructor
    · intro grown larger
      exact represents.grown_prefix (build_represents larger)
    · intro error failed
      exact represents.grown_fault few (build_verdict _) failed
  constructor
  · intro name first failed
    exact build_grown_repeat failed
  · intro owner dependency failed grown larger
    exact (build_represents larger).grown_missing failed

def ring : List Declaration := [⟨"a", ["b"]⟩, ⟨"b", ["a", "a"]⟩]

def outsider : Declaration := ⟨"c", ["b", "d"]⟩

def remedy : Declaration := ⟨"d", []⟩

theorem ring_grows : empty.state ≠ .loaded ∧
    (ring ++ [outsider, remedy]).length < 0x100000000 ∧
    (∃ loaded grown, (empty.load ring).outcome = .ok loaded ∧
      (empty.load (ring ++ [outsider, remedy])).outcome = .ok grown ∧
      grown.targets.take 2 = loaded.targets) ∧
    (ring ++ [outsider] ++ [remedy]).length < 0x100000000 ∧
    (empty.load (ring ++ [outsider])).outcome = .error (.unresolvedDependency "c" "d") ∧
    "d" ∈ namesOf [remedy] := by
  have unloaded : empty.state ≠ .loaded := by decide
  have few : (ring ++ [outsider, remedy]).length < 0x100000000 := by decide
  have enough : (ring ++ [outsider] ++ [remedy]).length < 0x100000000 := by decide
  have missing : (empty.load (ring ++ [outsider])).outcome =
      .error (.unresolvedDependency "c" "d") := rfl
  obtain ⟨stable, _⟩ := growth_keeps_identifiers empty ring [outsider, remedy] unloaded few
  obtain ⟨_, _, declared⟩ :=
    growth_keeps_identifiers empty (ring ++ [outsider]) [remedy] unloaded enough
  have kept := (stable _ rfl).1 _ rfl
  have found := declared "c" "d" missing _ rfl
  exact ⟨unloaded, few, ⟨_, _, rfl, rfl, kept⟩, enough, missing, found⟩

end Graph

end TargetGraph

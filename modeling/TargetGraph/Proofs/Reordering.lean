import TargetGraph.Proofs.FirstFault
import TargetGraph.Proofs.Lookups

/-!
# Documents in another order

The order of declarations decides which identifier a target gets, and nothing else. A graph of the same
declarations in another order is the first one under another numbering. Where a load fails, the order
decides which fault is met first, but not of which kind it is, since all names are looked at before any
dependency is.
-/

namespace TargetGraph

set_option autoImplicit false

def Target.renumbered (move : TargetId → TargetId) (target : Target) : Target :=
  ⟨move target.id, target.name, target.dependencies.map move⟩

def Target.notAfter (left right : Target) : Bool := left.id.index ≤ right.id.index

theorem Target.not_after_iff (left right : Target) :
    left.notAfter right = true ↔ left.id.index ≤ right.id.index :=
  decide_eq_true_iff

def NameIndex.renumbered (move : TargetId → TargetId) (index : NameIndex) : NameIndex :=
  ⟨index.pairs.map fun pair => (pair.1, move pair.2)⟩

theorem NameIndex.find_renumbered (move : TargetId → TargetId) (index : NameIndex) (name : String) :
    (index.renumbered move).find? name = (index.find? name).map move := by
  rcases index with ⟨pairs⟩
  induction pairs with
  | nil => rfl
  | cons pair pairs induction =>
      rcases pair with ⟨key, id⟩
      simp only [find?, renumbered, List.map_cons, List.lookup_cons] at induction ⊢
      cases name == key with
      | true => rfl
      | false => exact induction

/-- Both errors are of one of the two kinds that a load on a new graph can fail with. -/
inductive GraphError.SameKind : GraphError → GraphError → Prop where
  | duplicate {name other : String} {first earliest : TargetId} :
      SameKind (.duplicateTarget name first) (.duplicateTarget other earliest)
  | unresolved {owner other dependency missing : String} :
      SameKind (.unresolvedDependency owner dependency) (.unresolvedDependency other missing)

namespace Graph

/-- The graph with other identifiers, its targets again in the order of theirs. -/
def renumbered (move : TargetId → TargetId) (graph : Graph) : Graph where
  targets := (graph.targets.map (Target.renumbered move)).mergeSort Target.notAfter
  index := graph.index.renumbered move
  state := graph.state

/-- Two graphs with the same content. Of an index only its lookups count. -/
structure Same (left right : Graph) : Prop where
  targets : left.targets = right.targets
  index : ∀ name, left.index.find? name = right.index.find? name
  state : left.state = right.state

/-- The names that the target of a name depends on, looked up by identifiers. -/
def needs (graph : Graph) (name : String) : Option (Except GraphError (List String)) :=
  (graph.targetByName name).map fun target =>
    (graph.dependenciesOf target.id).map (List.map Target.name)

/-- The identifier of each declaration's position moves to that of its position in the other list. -/
def Carries (move : TargetId → TargetId) (declarations reordered : List Declaration) : Prop :=
  ∀ position declaration, declarations[position]? = some declaration →
    reordered[(move (.ofPosition position)).index]? = some declaration

def followNames (declarations : List Declaration) (names : List String) (id : TargetId) : TargetId :=
  match declarations[id.index]? with
  | some declaration => identifierIn names declaration.name
  | none => id

def shown (names : List String) (declaration : Declaration) : Target :=
  ⟨identifierIn names declaration.name, declaration.name,
    declaration.dependencies.map (identifierIn names)⟩

namespace WellFormed

variable {graph : Graph} (formed : graph.WellFormed)
include formed

theorem ordered : graph.targets.Pairwise fun left right => left.notAfter right := by
  rw [List.pairwise_iff_getElem]
  intro first second early late before
  rw [Target.not_after_iff, formed.numbered first _ (List.getElem?_eq_getElem early),
    formed.numbered second _ (List.getElem?_eq_getElem late)]
  exact Nat.le_of_lt before

theorem same_index {target other : Target} (member : target ∈ graph.targets)
    (among : other ∈ graph.targets) (same : target.id.index = other.id.index) : target = other := by
  have first := formed.target_of_member member
  have second := formed.target_of_member among
  rw [TargetId.index_injective same, second] at first
  exact (Option.some.inj first).symm

/-- The graph's targets in any order are the graph's again once they are sorted. -/
theorem sorted_targets {targets : List Target} (permuted : targets.Perm graph.targets) :
    targets.mergeSort Target.notAfter = graph.targets := by
  have whole := (List.mergeSort_perm targets Target.notAfter).trans permuted
  have sorted : (targets.mergeSort Target.notAfter).Pairwise fun left right =>
      left.notAfter right := by
    apply List.pairwise_mergeSort
    · intro first second third
      simp only [Target.not_after_iff]
      exact Nat.le_trans
    · intro first second
      simp only [Bool.or_eq_true, Target.not_after_iff]
      exact Nat.le_total _ _
  apply List.Perm.eq_of_pairwise _ sorted formed.ordered whole
  intro left right member among before after
  rw [Target.not_after_iff] at before after
  exact formed.same_index (whole.mem_iff.mp member) among (Nat.le_antisymm before after)

end WellFormed

namespace Represents

variable {graph other : Graph} {declarations reordered : List Declaration}

theorem targets_shown (represents : graph.Represents declarations) :
    graph.targets = declarations.map (shown (namesOf declarations)) := by
  rw [represents.targets]
  apply List.ext_getElem?
  intro position
  rw [targets_of_get, List.getElem?_map]
  cases declared : declarations[position]? with
  | none => rfl
  | some declaration =>
      rw [Option.map_some, Option.map_some, shown, represents.identifier_of_place declared]

theorem needs_declared (represents : graph.Represents declarations) {declaration : Declaration}
    (member : declaration ∈ declarations) :
    graph.needs declaration.name = some (.ok declaration.dependencies) := by
  rcases List.getElem?_of_mem member with ⟨position, declared⟩
  have found := (represents.well_formed.target_by_name declaration.name _).mpr
    ⟨List.mem_of_getElem? (represents.target_get declared), rfl⟩
  have names := represents.resolve_identifiers declaration.dependencies
    (represents.resolved declaration member)
  rw [needs, found, Option.map_some, dependenciesOf, represents.target_by_id_get declared]
  exact congrArg (fun names => some (Except.ok names)) names

theorem needs_undeclared (represents : graph.Represents declarations) {name : String}
    (unknown : name ∉ namesOf declarations) : graph.needs name = none := by
  cases found : graph.targetByName name with
  | none => rw [needs, found, Option.map_none]
  | some target =>
      have known := (represents.well_formed.target_by_name name target).mp found
      have listed : name ∈ graph.names := List.mem_map.mpr ⟨target, known⟩
      rw [represents.names_eq] at listed
      exact absurd listed unknown

theorem needs_permuted (represents : graph.Represents declarations)
    (permuted : declarations.Perm reordered) (others : other.Represents reordered) (name : String) :
    graph.needs name = other.needs name := by
  by_cases known : name ∈ namesOf declarations
  · rcases List.mem_map.mp known with ⟨declaration, member, same⟩
    rw [← same, represents.needs_declared member, others.needs_declared (permuted.mem_iff.mp member)]
  · have unknown : name ∉ namesOf reordered := by
      rwa [← (permuted.map Declaration.name).mem_iff]
    rw [represents.needs_undeclared known, others.needs_undeclared unknown]

theorem top_level_needs (represents : graph.Represents declarations) :
    (graph.topLevel.map (List.map Target.name)).map Except.ok = graph.needs rootName := by
  have top := congrArg (Option.map (Except.map (List.map Target.name)))
    (represents.well_formed.top_level_eq represents.few)
  rw [Option.map_map, Option.map_map] at top
  rw [Option.map_map]
  exact top

theorem top_level_permuted (represents : graph.Represents declarations)
    (permuted : declarations.Perm reordered) (others : other.Represents reordered) :
    graph.topLevel.map (List.map Target.name) = other.topLevel.map (List.map Target.name) := by
  have same := represents.needs_permuted permuted others rootName
  rw [← represents.top_level_needs, ← others.top_level_needs] at same
  apply Option.map_injective _ same
  intro left right equal
  exact Except.ok.inj equal

theorem identifier_carried (others : other.Represents reordered) {move : TargetId → TargetId}
    (carries : Carries move declarations reordered) {name : String}
    (known : name ∈ namesOf declarations) :
    move (identifierIn (namesOf declarations) name) = identifierIn (namesOf reordered) name := by
  have stands := List.getElem?_idxOf known
  rw [List.getElem?_map, Option.map_eq_some_iff] at stands
  rcases stands with ⟨declaration, place, same⟩
  have moved := others.identifier_of_place (carries _ _ place)
  rw [same, TargetId.of_position_of_index] at moved
  exact moved.symm

theorem shown_carried (represents : graph.Represents declarations)
    (others : other.Represents reordered) {move : TargetId → TargetId}
    (carries : Carries move declarations reordered) {declaration : Declaration}
    (member : declaration ∈ declarations) :
    (shown (namesOf declarations) declaration).renumbered move =
      shown (namesOf reordered) declaration := by
  have own := others.identifier_carried carries (List.mem_map_of_mem member)
  have edges : (declaration.dependencies.map (identifierIn (namesOf declarations))).map move =
      declaration.dependencies.map (identifierIn (namesOf reordered)) := by
    rw [List.map_map]
    apply List.map_congr_left
    intro dependency among
    exact others.identifier_carried carries (represents.resolved declaration member dependency among)
  rw [shown, Target.renumbered, own, edges]
  rfl

theorem index_carried (represents : graph.Represents declarations)
    (permuted : declarations.Perm reordered) (others : other.Represents reordered)
    {move : TargetId → TargetId} (carries : Carries move declarations reordered) (name : String) :
    (graph.index.renumbered move).find? name = other.index.find? name := by
  rw [NameIndex.find_renumbered]
  by_cases known : name ∈ namesOf declarations
  · have still := (permuted.map Declaration.name).mem_iff.mp known
    rw [NameIndex.find_numbered represents.numbers known, NameIndex.find_numbered others.numbers still,
      Option.map_some, others.identifier_carried carries known]
  · have unknown : name ∉ namesOf reordered := by
      rwa [← (permuted.map Declaration.name).mem_iff]
    rw [NameIndex.find_unknown represents.numbers known, NameIndex.find_unknown others.numbers unknown,
      Option.map_none]

theorem renumbered_same (represents : graph.Represents declarations)
    (permuted : declarations.Perm reordered) (others : other.Represents reordered)
    {move : TargetId → TargetId} (carries : Carries move declarations reordered) :
    (graph.renumbered move).Same other where
  targets := by
    have moved : graph.targets.map (Target.renumbered move) =
        declarations.map (shown (namesOf reordered)) := by
      rw [represents.targets_shown, List.map_map]
      apply List.map_congr_left
      intro declaration member
      exact represents.shown_carried others carries member
    apply others.well_formed.sorted_targets
    rw [moved, others.targets_shown]
    exact permuted.map _
  index := represents.index_carried permuted others carries
  state := represents.state.trans others.state.symm

theorem names_carry (represents : graph.Represents declarations)
    (permuted : declarations.Perm reordered) (others : other.Represents reordered) :
    Carries (followNames declarations (namesOf reordered)) declarations reordered := by
  intro position declaration declared
  have member := permuted.mem_iff.mp (List.mem_of_getElem? declared)
  rcases List.getElem?_of_mem member with ⟨later, place⟩
  have number := TargetId.of_position_index position (represents.position_below declared)
  have moved : followNames declarations (namesOf reordered) (.ofPosition position) =
      .ofPosition later := by
    simp only [followNames, number, declared, others.identifier_of_place place]
  rw [moved, TargetId.of_position_index later (others.position_below place), place]

end Represents

section

variable {declarations reordered : List Declaration} (permuted : declarations.Perm reordered)
include permuted

theorem build_permuted {graph : Graph} (built : (build declarations).outcome = .ok graph) :
    ∃ other, (build reordered).outcome = .ok other := by
  have represents := build_represents built
  have names := permuted.map Declaration.name
  apply build_succeeds
  · exact names.nodup_iff.mp represents.distinct
  · exact permuted.length_eq ▸ represents.fits
  · intro declaration member dependency among
    apply names.mem_iff.mp
    exact represents.resolved declaration (permuted.mem_iff.mpr member) dependency among

theorem build_permuted_kind (few : declarations.length < 0x100000000) {error other : GraphError}
    (failed : (build declarations).outcome = .error error)
    (again : (build reordered).outcome = .error other) : error.SameKind other := by
  have names := (permuted.map Declaration.name).nodup_iff
  have first := (build_verdict declarations).no_other_error few failed
  have second := (build_verdict reordered).no_other_error (permuted.length_eq ▸ few) again
  rcases first with ⟨repeats, _, _, same⟩ | ⟨distinct, _, _, _, same⟩
  · rcases second with ⟨_, _, _, different⟩ | ⟨distinct, _⟩
    · rw [same, different]
      exact .duplicate
    · exact absurd (names.mpr distinct) repeats
  · rcases second with ⟨repeats, _⟩ | ⟨_, _, _, _, different⟩
    · exact absurd (names.mp distinct) repeats
    · rw [same, different]
      exact .unresolved

end

/-- Whatever order the same declarations come in, they can be loaded or not. If they can, the targets of
each name depend on the same names in the same order, and so does the root, if there is one; the graphs
are the same but for the numbering, in which every identifier moves along with its declaration. If they
cannot, both loads fail with an error of one kind. -/
theorem order_only_numbers (graph : Graph) (declarations reordered : List Declaration)
    (unloaded : graph.state ≠ .loaded) (few : declarations.length < 0x100000000)
    (permuted : declarations.Perm reordered) :
    ((∃ loaded, (graph.load declarations).outcome = .ok loaded) ↔
      ∃ other, (graph.load reordered).outcome = .ok other) ∧
    (∀ loaded other, (graph.load declarations).outcome = .ok loaded →
      (graph.load reordered).outcome = .ok other →
      (∀ name, loaded.needs name = other.needs name) ∧
      loaded.topLevel.map (List.map Target.name) = other.topLevel.map (List.map Target.name) ∧
      (∃ move, Carries move declarations reordered) ∧
      ∀ move, Carries move declarations reordered → (loaded.renumbered move).Same other) ∧
    ∀ error other, (graph.load declarations).outcome = .error error →
      (graph.load reordered).outcome = .error other → error.SameKind other := by
  simp only [load_unloaded unloaded]
  constructor
  · constructor
    · intro loads
      rcases loads with ⟨loaded, built⟩
      exact build_permuted permuted built
    · intro loads
      rcases loads with ⟨other, built⟩
      exact build_permuted permuted.symm built
  constructor
  · intro loaded other built again
    have represents := build_represents built
    have others := build_represents again
    constructor
    · exact represents.needs_permuted permuted others
    constructor
    · exact represents.top_level_permuted permuted others
    constructor
    · exact ⟨_, represents.names_carry permuted others⟩
    · intro move carries
      exact represents.renumbered_same permuted others carries
  · intro error other failed again
    exact build_permuted_kind permuted few failed again

def forward : List Declaration := [⟨"a", ["b", "b"]⟩, ⟨rootName, ["b", "a"]⟩, ⟨"b", ["b"]⟩]

def backward : List Declaration := [⟨"b", ["b"]⟩, ⟨"a", ["b", "b"]⟩, ⟨rootName, ["b", "a"]⟩]

def doubled : List Declaration := [⟨"a", []⟩, ⟨"b", []⟩, ⟨"b", ["z"]⟩, ⟨"a", []⟩]

theorem forward_renumbered : empty.state ≠ .loaded ∧ forward.length < 0x100000000 ∧
    forward.Perm backward ∧
    (∃ loaded other, (empty.load forward).outcome = .ok loaded ∧
      (empty.load backward).outcome = .ok other ∧
      loaded.topLevel.map (List.map Target.name) = other.topLevel.map (List.map Target.name) ∧
      ∃ move, Carries move forward backward ∧ (loaded.renumbered move).Same other) ∧
    doubled.length < 0x100000000 ∧ doubled.Perm (doubled.rotate 2) ∧
    (empty.load doubled).outcome = .error (.duplicateTarget "b" (.ofPosition 1)) ∧
    (empty.load (doubled.rotate 2)).outcome = .error (.duplicateTarget "a" (.ofPosition 1)) ∧
    GraphError.SameKind (.duplicateTarget "b" (.ofPosition 1))
      (.duplicateTarget "a" (.ofPosition 1)) := by
  have unloaded : empty.state ≠ .loaded := by decide
  have few : forward.length < 0x100000000 := by decide
  have fewDoubled : doubled.length < 0x100000000 := by decide
  have permuted : forward.Perm backward := by decide
  have rotated : doubled.Perm (doubled.rotate 2) := by decide
  have first : (empty.load doubled).outcome = .error (.duplicateTarget "b" (.ofPosition 1)) := rfl
  have second : (empty.load (doubled.rotate 2)).outcome =
      .error (.duplicateTarget "a" (.ofPosition 1)) := rfl
  rcases order_only_numbers empty forward backward unloaded few permuted with ⟨_, renumbers, _⟩
  rcases order_only_numbers empty doubled (doubled.rotate 2) unloaded fewDoubled rotated with
    ⟨_, _, fails⟩
  rcases renumbers _ _ rfl rfl with ⟨_, top, ⟨move, carries⟩, same⟩
  have kind := fails _ _ first second
  exact ⟨unloaded, few, permuted, ⟨_, _, rfl, rfl, top, move, carries, same move carries⟩, fewDoubled,
    rotated, first, second, kind⟩

end Graph

end TargetGraph

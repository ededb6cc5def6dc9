import TargetGraph.Proofs.JsonViews

/-!
# Columns of listings

A listing has one entry for each target: its number, its name, and the names that it depends on. The number
takes up just the digits that it has, so that the names of two entries begin at the same column when their
numbers have equally many digits, and at different ones otherwise. Only numbers of at least four digits
stand as they would in a table that keeps four columns for them.
-/

namespace TargetGraph

set_option autoImplicit false

namespace Command

inductive Listed (graph : Graph) : Action → List Target → Prop where
  | all : Listed graph .targets graph.targets
  | top (targets : List Target) (given : graph.topLevel = some targets) : Listed graph .top targets

def entryBody (graph : Graph) (target : Target) : String :=
  target.name ++ " → " ++ dependencyText (graph.dependencyNames target)

def entryWith (number : String) (graph : Graph) (target : Target) : String :=
  "  " ++ number ++ " " ++ entryBody graph target

def entry (graph : Graph) (target : Target) : String :=
  entryWith (toString target.id.index) graph target

/-- Four columns wide, or more where it has more digits, and aligned to the right. -/
def alignedNumber (number : Nat) : String :=
  String.ofList ((toString number).toList.leftpad 4 ' ')

def alignedEntry (graph : Graph) (target : Target) : String :=
  entryWith (alignedNumber target.id.index) graph target

/-- The name of an entry begins at this column, where columns are counted from zero. -/
def NameBegins (graph : Graph) (target : Target) (line : String) (column : Nat) : Prop :=
  ∃ opening, line = opening ++ entryBody graph target ∧ opening.length = column

section

variable {graph : Graph} {action : Action} {targets : List Target} {target : Target}

theorem Listed.members (formed : graph.WellFormed) (listed : Listed graph action targets) :
    ∀ target ∈ targets, target ∈ graph.targets := by
  cases listed with
  | all => exact fun _ => id
  | top _ given => exact (top_level_listed formed given).members

theorem Answers.entries {coloured : Bool} {file : String} {printed : List String}
    (formed : graph.WellFormed) (listed : Listed graph action targets)
    (answers : Answers coloured file graph false action printed) :
    printed.tail = linesOf coloured graph targets := by
  cases listed with
  | all =>
      cases answers with
      | targets => rfl
  | top _ given =>
      cases answers with
      | top others top =>
          rw [top.unique formed] at given
          cases given
          rfl
      | noRoot none =>
          rw [none.no_top_level] at given
          cases given

theorem target_line_plain (below : target.id.index < 0xFFFFFFFF) :
    targetLine false target (graph.dependencyNames target) = entry graph target := by
  rw [entry, ← TargetId.display_below below]
  simp [targetLine, paint, entryWith, entryBody, toString, String.append_assoc]

theorem name_begins_iff (number : String) (graph : Graph) (target : Target) (column : Nat) :
    NameBegins graph target (entryWith number graph target) column ↔ column = number.length + 3 := by
  have width : ("  " ++ number ++ " ").length = number.length + 3 := by
    rw [String.length_append, String.length_append]
    have blanks : ("  ").length = 2 ∧ (" ").length = 1 := by decide
    omega
  constructor
  · intro begins
    rcases begins with ⟨opening, same, rfl⟩
    rw [entryWith, String.append_left_inj] at same
    rw [← same, width]
  · intro same
    exact ⟨"  " ++ number ++ " ", rfl, width.trans same.symm⟩

theorem names_aligned_iff (number other : String) (graph : Graph) (first second : Target) :
    (∃ column, NameBegins graph first (entryWith number graph first) column ∧
      NameBegins graph second (entryWith other graph second) column) ↔
        number.length = other.length := by
  simp only [name_begins_iff]
  constructor
  · intro aligned
    rcases aligned with ⟨column, here, there⟩
    omega
  · intro same
    exact ⟨number.length + 3, rfl, by rw [same]⟩

theorem digit_count (number : Nat) : 4 ≤ (toString number).length ↔ 1000 ≤ number := by
  have few : (Nat.toDigits 10 number).length ≤ 3 ↔ number < 1000 :=
    Nat.length_toDigits_le_iff (by decide) (by decide)
  rw [Nat.toString_eq_ofList_toDigits, String.length_ofList]
  omega

/-- Aligning leaves just the numbers of at least four digits as they are. -/
theorem aligned_number_iff (number : Nat) : toString number = alignedNumber number ↔ 1000 ≤ number := by
  rw [← digit_count, alignedNumber]
  constructor
  · intro same
    have width := congrArg String.length same
    rw [String.length_ofList, List.length_leftpad, String.length_toList] at width
    omega
  · intro wide
    have unpadded : (toString number).toList.leftpad 4 ' ' = (toString number).toList := by
      rw [List.leftpad, String.length_toList, Nat.sub_eq_zero_of_le wide]
      rfl
    rw [unpadded, String.ofList_toList]

theorem entry_aligned_iff (graph : Graph) (target : Target) :
    entry graph target = alignedEntry graph target ↔ 1000 ≤ target.id.index := by
  rw [entry, alignedEntry, entryWith, entryWith, String.append_left_inj, String.append_left_inj,
    String.append_right_inj, aligned_number_iff]

end

section

variable {files : Files} {environment : Environment} {arguments : List String} {action : Action}
  {options : Options} {graph : Graph} {targets : List Target}

theorem listing_printed (accepted : Request.ofArguments arguments = some (.run action options))
    (plain : environment.coloured = false) (words : options.json = false)
    (loaded : (Graph.ofPath files options.fileName).outcome = .ok graph) (formed : graph.WellFormed)
    (few : graph.size ≤ 0xFFFFFFFF) (listed : Listed graph action targets) :
    (run files environment arguments).code = 0 ∧
      (run files environment arguments).printed.tail = targets.map (entry graph) := by
  rcases loaded_answered environment accepted loaded with ⟨code, answers⟩ | ⟨_, reference, single⟩
  · rw [plain, words] at answers
    constructor
    · exact code
    · rw [answers.entries formed listed, linesOf]
      apply List.map_congr_left
      intro target among
      have inside := formed.inside_of_member (listed.members formed target among)
      exact target_line_plain (Nat.lt_of_lt_of_le inside few)
  · rw [single] at listed
    cases listed

/-- Without colours, a listing of a document that loads has one entry for each target that is listed: two
blanks, the number in just its digits, a blank, the name, an arrow, and the names that are declared as its
dependencies, in that order. So the name begins behind as many columns as the number has digits, and three
more, and two names begin at the same column only behind numbers with equally many digits. The entry is
the one with its number aligned in four columns if the number has at least four digits, and not otherwise. -/
theorem listing_columns (accepted : Request.ofArguments arguments = some (.run action options))
    (plain : environment.coloured = false) (words : options.json = false)
    (loaded : (Graph.ofPath files options.fileName).outcome = .ok graph)
    (listed : Listed graph action targets) :
    (run files environment arguments).code = 0 ∧
    (run files environment arguments).printed.tail = targets.map (entry graph) ∧
    (∃ document, (Document.ofPath files options.fileName).outcome = .ok document ∧
      ∀ target ∈ targets, document.declarations[target.id.index]? =
        some ⟨target.name, graph.dependencyNames target⟩) ∧
    (∀ target ∈ targets, ∀ column, NameBegins graph target (entry graph target) column ↔
      column = (toString target.id.index).length + 3) ∧
    (∀ first ∈ targets, ∀ second ∈ targets,
      (∃ column, NameBegins graph first (entry graph first) column ∧
        NameBegins graph second (entry graph second) column) ↔
          (toString first.id.index).length = (toString second.id.index).length) ∧
    ∀ target ∈ targets, entry graph target = alignedEntry graph target ↔ 1000 ≤ target.id.index := by
  rcases of_path_loaded loaded with ⟨document, read, represents⟩
  have formed := represents.well_formed
  rcases listing_printed accepted plain words loaded formed represents.few listed with
    ⟨code, entries⟩
  constructor
  · exact code
  constructor
  · exact entries
  constructor
  · refine ⟨document, read, ?_⟩
    intro target among
    exact declared_at represents (listed.members formed target among)
  constructor
  · intro target _ column
    exact name_begins_iff _ graph target column
  constructor
  · intro first _ second _
    exact names_aligned_iff _ _ graph first second
  · intro target _
    exact entry_aligned_iff graph target

end

/-- A root that lists the last targets of eleven, whose numbers are 10 and 9. -/
def elevenFiles : Files := fun _ =>
  .ok [.bytes (Yaml.octets
    "DOCUMENT: [j, i]\na: []\nb: []\nc: []\nd: []\ne: []\nf: []\ng: []\nh: []\ni: []\nj: []\n".toList)]

theorem eleven_loaded : ∃ graph, (Graph.ofPath elevenFiles "targets.yml").outcome = .ok graph ∧
    graph.size = 11 ∧ graph.topLevel = some [⟨⟨10⟩, "j", []⟩, ⟨⟨9⟩, "i", []⟩] := by
  have loads : (match (Graph.ofPath elevenFiles "targets.yml").outcome with
      | .ok graph => decide (graph.size = 11 ∧
          graph.topLevel = some [⟨⟨10⟩, "j", []⟩, ⟨⟨9⟩, "i", []⟩])
      | .error _ => false) = true := by
    decide +kernel
  split at loads
  · rename_i graph loaded
    exact ⟨graph, loaded, of_decide_eq_true loads⟩
  · cases loads

theorem eleven_columns :
    Request.ofArguments ["targets"] = some (.run .targets .none) ∧
    ∃ graph, (Graph.ofPath elevenFiles "targets.yml").outcome = .ok graph ∧ graph.size = 11 ∧
      (run elevenFiles ⟨none, false⟩ ["targets"]).printed.tail = graph.targets.map (entry graph) ∧
      ∀ first ∈ graph.targets, ∀ second ∈ graph.targets, first.id.index = 9 → second.id.index = 10 →
        ¬ ∃ column, NameBegins graph first (entry graph first) column ∧
          NameBegins graph second (entry graph second) column := by
  have accepted : Request.ofArguments ["targets"] = some (.run .targets .none) := by decide +kernel
  have plain : (Environment.mk none false).coloured = false := rfl
  rcases eleven_loaded with ⟨graph, loaded, size, _⟩
  rcases listing_columns accepted plain rfl loaded .all with ⟨_, entries, _, _, columns, _⟩
  refine ⟨accepted, graph, loaded, size, entries, ?_⟩
  intro first there second among nine ten
  rw [columns first there second among, nine, ten]
  decide +kernel

/-- Of the two entries that the root asks for, neither has its number aligned, and the names do not begin
at the same column. -/
theorem ragged_listing :
    Request.ofArguments ["top"] = some (.run .top .none) ∧
    (run elevenFiles ⟨none, false⟩ ["top"]).printed =
      ["✓ 2 top-level target(s)", "  10 j → (none)", "  9 i → (none)"] ∧
    ∃ graph first second, (Graph.ofPath elevenFiles "targets.yml").outcome = .ok graph ∧
      Listed graph .top [first, second] ∧ first.id.index = 10 ∧ second.id.index = 9 ∧
      (run elevenFiles ⟨none, false⟩ ["top"]).printed.tail ≠ [first, second].map (alignedEntry graph) ∧
      ¬ ∃ column, NameBegins graph first (entry graph first) column ∧
        NameBegins graph second (entry graph second) column := by
  have accepted : Request.ofArguments ["top"] = some (.run .top .none) := by decide +kernel
  have plain : (Environment.mk none false).coloured = false := rfl
  rcases eleven_loaded with ⟨graph, loaded, _, top⟩
  rcases of_path_represents loaded with ⟨declarations, represents⟩
  have entries := (listing_printed accepted plain rfl loaded represents.well_formed represents.few
    (.top _ top)).2
  refine ⟨accepted, by decide +kernel, graph, _, _, loaded, .top _ top, rfl, rfl, ?_, ?_⟩
  · intro aligned
    rw [entries] at aligned
    have wide := (entry_aligned_iff graph ⟨⟨10⟩, "j", []⟩).mp (List.cons.inj aligned).1
    exact absurd wide (by decide)
  · rw [entry, entry, names_aligned_iff]
    decide +kernel

end Command

end TargetGraph

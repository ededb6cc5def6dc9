import TargetGraph.Document.Shape
import TargetGraph.Proofs.Lists

/-!
# The shape of a document

An entry is well-shaped when it is how some declaration without empty names is written. The check
accepts exactly the lists of such entries, and what it makes of them can be read off the entries: no
string is changed, no entry is dropped and none is merged with another. Well-shaped entries in front
only shift the position from which the rest is counted.
-/

namespace TargetGraph

open Yaml (Value)

set_option autoImplicit false

def IsName : Value → Prop
  | .string name => name ≠ ""
  | _ => False

def IsNameList : Value → Prop
  | .sequence items => ∀ item ∈ items, IsName item
  | _ => False

def WellShaped (entry : Value × Value) : Prop := IsName entry.1 ∧ IsNameList entry.2

def keyFault (position : Nat) : Value → ShapeFault
  | .string _ => .emptyTarget position
  | found => .targetKind position found

def itemFault (target : String) (item : Nat) : Value → ShapeFault
  | .string _ => .emptyDependency target item
  | found => .dependencyKind target item found

namespace Declaration

def Named (declaration : Declaration) : Prop :=
  declaration.name ≠ "" ∧ ∀ dependency ∈ declaration.dependencies, dependency ≠ ""

def entry (declaration : Declaration) : Value × Value :=
  (.string declaration.name, .sequence (declaration.dependencies.map .string))

end Declaration

theorem is_name_iff (value : Value) : IsName value ↔ ∃ name, value = .string name ∧ name ≠ "" := by
  cases value <;> simp [IsName]

theorem names_of_items {items : List Value} (named : ∀ item ∈ items, IsName item) :
    ∃ names : List String, items = names.map .string ∧ ∀ name ∈ names, name ≠ "" := by
  induction items with
  | nil => exact ⟨[], rfl, by simp⟩
  | cons item items induction =>
      obtain ⟨name, rfl, head⟩ := (is_name_iff item).mp (named item (by simp))
      obtain ⟨names, rfl, tail⟩ := induction fun other member => named other (by simp [member])
      refine ⟨name :: names, rfl, ?_⟩
      intro other member
      rcases List.mem_cons.mp member with rfl | later
      · exact head
      · exact tail other later

theorem target_name_ok (position : Nat) {name : String} (named : name ≠ "") :
    targetName position (.string name) = .ok name := by
  rw [targetName, if_neg named]

theorem target_name_fault (position : Nat) {key : Value} (unnamed : ¬ IsName key) :
    targetName position key = .error (keyFault position key) := by
  cases key with
  | string name =>
      have blank : name = "" := Decidable.of_not_not unnamed
      rw [targetName, if_pos blank, keyFault]
  | _ => rfl

theorem dependency_names_fault (target : String) (item : Nat) {value : Value} (rest : List Value)
    (unnamed : ¬ IsName value) :
    dependencyNames target item (value :: rest) = .error (itemFault target item value) := by
  cases value with
  | string name =>
      have blank : name = "" := Decidable.of_not_not unnamed
      rw [dependencyNames, if_pos blank, itemFault]
  | _ => rfl

theorem dependency_names_append (target : String) (item : Nat) (names : List String)
    (rest : List Value) (named : ∀ name ∈ names, name ≠ "") :
    dependencyNames target item (names.map .string ++ rest) =
      (dependencyNames target (item + names.length) rest).map (names ++ ·) := by
  induction names generalizing item with
  | nil =>
      cases run : dependencyNames target item rest <;> simp [run, Except.map]
  | cons name names induction =>
      have head := named name (by simp)
      have later := induction (item + 1) fun other member => named other (by simp [member])
      rw [List.map_cons, List.cons_append, dependencyNames, if_neg head, later, List.length_cons,
        Nat.add_assoc, Nat.add_comm 1]
      cases dependencyNames target (item + (names.length + 1)) rest <;> rfl

theorem dependency_names_ok (target : String) (item : Nat) (names : List String)
    (named : ∀ name ∈ names, name ≠ "") :
    dependencyNames target item (names.map .string) = .ok names := by
  have run := dependency_names_append target item names [] named
  rw [List.append_nil] at run
  rw [run]
  exact congrArg Except.ok (List.append_nil names)

theorem of_entry_ok (position : Nat) {declaration : Declaration} (named : declaration.Named) :
    Declaration.ofEntry position declaration.entry.1 declaration.entry.2 = .ok declaration := by
  have name := target_name_ok position named.1
  have names := dependency_names_ok declaration.name 0 declaration.dependencies named.2
  simp only [Declaration.ofEntry, Declaration.entry, name, names, bind, Except.bind]

theorem of_entry_bad_key (position : Nat) {key : Value} (value : Value) (unnamed : ¬ IsName key) :
    Declaration.ofEntry position key value = .error (keyFault position key) := by
  have head := target_name_fault position unnamed
  simp only [Declaration.ofEntry, head, bind, Except.bind]

theorem of_entry_no_list (position : Nat) {name : String} {value : Value} (named : name ≠ "")
    (unlisted : ∀ items, value ≠ .sequence items) :
    Declaration.ofEntry position (.string name) value = .error (.notAList name value) := by
  have head := target_name_ok position named
  cases value with
  | sequence items => exact absurd rfl (unlisted items)
  | _ => simp only [Declaration.ofEntry, head, bind, Except.bind]

theorem of_entry_bad_item (position : Nat) {name : String} (names : List String) {value : Value}
    (rest : List Value) (named : name ≠ "") (good : ∀ other ∈ names, other ≠ "")
    (unnamed : ¬ IsName value) :
    Declaration.ofEntry position (.string name) (.sequence (names.map .string ++ value :: rest)) =
      .error (itemFault name names.length value) := by
  have head := target_name_ok position named
  have items := dependency_names_append name 0 names (value :: rest) good
  rw [dependency_names_fault name _ rest unnamed, Nat.zero_add] at items
  simp only [Declaration.ofEntry, head, items, Except.map, bind, Except.bind]

/-- What is said of an entry that stands at a position: the name of its target, once that is known, and
the words. The key is looked at before the value, and the value before its items. -/
inductive Reported (position : Nat) : Value × Value → Option String → String → Prop where
  | emptyKey (value : Value) :
      Reported position (.string "", value) none s!"entry {position} has an empty target name"
  | keyKind (key value : Value) (other : ∀ name, key ≠ .string name) :
      Reported position (key, value) none
        s!"entry {position} has {key.kind} as its target name, expected a string"
  | valueKind (name : String) (value : Value) (named : name ≠ "")
      (other : ∀ items, value ≠ .sequence items) :
      Reported position (.string name, value) (some name)
        s!"expected a list of dependency names, found {value.kind}"
  | emptyItem (name : String) (items : List Value) (item : Nat) (named : name ≠ "")
      (first : FirstFailing IsName items item (.string "")) :
      Reported position (.string name, .sequence items) (some name)
        s!"dependency {item} is an empty name"
  | itemKind (name : String) (items : List Value) (item : Nat) (found : Value) (named : name ≠ "")
      (first : FirstFailing IsName items item found) (other : ∀ name, found ≠ .string name) :
      Reported position (.string name, .sequence items) (some name)
        s!"dependency {item} is {found.kind}, expected a string"

theorem key_reported (position : Nat) {key : Value} (value : Value) (unnamed : ¬ IsName key) :
    Reported position (key, value) (keyFault position key).target? (keyFault position key).detail := by
  cases key with
  | string name =>
      have blank : name = "" := Decidable.of_not_not unnamed
      subst blank
      exact .emptyKey value
  | _ => exact .keyKind _ value (by simp)

theorem item_reported (position : Nat) {name : String} {items : List Value} {item : Nat}
    {found : Value} (named : name ≠ "") (first : FirstFailing IsName items item found) :
    Reported position (.string name, .sequence items) (itemFault name item found).target?
      (itemFault name item found).detail := by
  cases found with
  | string other =>
      have blank : other = "" := Decidable.of_not_not first.failing
      subst blank
      exact .emptyItem name items item named first
  | _ => exact .itemKind name items item _ named first (by simp)

theorem of_entry_reported (position : Nat) {key value : Value}
    (illShaped : ¬ WellShaped (key, value)) :
    ∃ fault, Declaration.ofEntry position key value = .error fault ∧
      Reported position (key, value) fault.target? fault.detail := by
  by_cases named : IsName key
  · obtain ⟨name, rfl, filled⟩ := (is_name_iff key).mp named
    have unlisted : ¬ IsNameList value := fun listed => illShaped ⟨named, listed⟩
    cases value with
    | sequence items =>
        rcases all_or_first_failing IsName items with all | ⟨before, item, rest, rfl, good, bad⟩
        · exact absurd all unlisted
        · have first := first_failing_behind rest good bad
          obtain ⟨names, rfl, others⟩ := names_of_items good
          rw [List.length_map] at first
          exact ⟨_, of_entry_bad_item position names rest filled others bad,
            item_reported position filled first⟩
    | _ => exact ⟨_, of_entry_no_list position filled (by simp),
        .valueKind name _ filled (by simp)⟩
  · exact ⟨_, of_entry_bad_key position value named, key_reported position value named⟩

theorem declaration_of_well_shaped {entry : Value × Value} (shaped : WellShaped entry) :
    ∃ declaration : Declaration, entry = declaration.entry ∧ declaration.Named := by
  obtain ⟨key, value⟩ := entry
  obtain ⟨name, rfl, named⟩ := (is_name_iff key).mp shaped.1
  cases value with
  | sequence items =>
      obtain ⟨dependencies, rfl, filled⟩ := names_of_items shaped.2
      exact ⟨⟨name, dependencies⟩, rfl, named, filled⟩
  | _ => exact absurd shaped.2 id

theorem declarations_of_well_shaped {entries : List (Value × Value)}
    (shaped : ∀ entry ∈ entries, WellShaped entry) :
    ∃ declarations : List Declaration, entries = declarations.map Declaration.entry ∧
      ∀ declaration ∈ declarations, declaration.Named := by
  induction entries with
  | nil => exact ⟨[], rfl, by simp⟩
  | cons entry entries induction =>
      obtain ⟨declaration, rfl, head⟩ := declaration_of_well_shaped (shaped entry (by simp))
      obtain ⟨declarations, rfl, tail⟩ := induction fun other member =>
        shaped other (by simp [member])
      refine ⟨declaration :: declarations, rfl, ?_⟩
      intro other member
      rcases List.mem_cons.mp member with rfl | later
      · exact head
      · exact tail other later

theorem declarations_from_append (position : Nat) (declarations : List Declaration)
    (rest : List (Value × Value)) (named : ∀ declaration ∈ declarations, declaration.Named) :
    declarationsFrom position (declarations.map Declaration.entry ++ rest) =
      (declarationsFrom (position + declarations.length) rest).map (declarations ++ ·) := by
  induction declarations generalizing position with
  | nil =>
      cases run : declarationsFrom position rest <;> simp [run, Except.map]
  | cons declaration declarations induction =>
      have head := of_entry_ok position (named declaration (by simp))
      have later := induction (position + 1) fun other member => named other (by simp [member])
      rw [List.map_cons, List.cons_append]
      change declarationsFrom position ((declaration.entry.1, declaration.entry.2) :: _) = _
      rw [declarationsFrom, head, later, List.length_cons, Nat.add_assoc, Nat.add_comm 1]
      cases declarationsFrom (position + (declarations.length + 1)) rest <;> rfl

theorem of_entries_ok (declarations : List Declaration)
    (named : ∀ declaration ∈ declarations, declaration.Named) :
    Document.ofEntries (declarations.map Declaration.entry) = .ok ⟨declarations⟩ := by
  have run := declarations_from_append 0 declarations [] named
  rw [List.append_nil] at run
  rw [Document.ofEntries, run]
  simp [declarationsFrom, Except.map]

/-- The fault of a document is that of its first ill-shaped entry. -/
theorem of_entries_first_fault {declarations : List Declaration} {key value : Value}
    (rest : List (Value × Value)) {fault : ShapeFault}
    (named : ∀ declaration ∈ declarations, declaration.Named)
    (refused : Declaration.ofEntry declarations.length key value = .error fault) :
    Document.ofEntries (declarations.map Declaration.entry ++ (key, value) :: rest) = .error fault := by
  rw [Document.ofEntries, declarations_from_append 0 declarations _ named, declarationsFrom,
    Nat.zero_add, refused]
  rfl

theorem of_entries_reported {entries : List (Value × Value)}
    (illShaped : ¬ ∀ entry ∈ entries, WellShaped entry) :
    ∃ fault position entry, Document.ofEntries entries = .error fault ∧
      FirstFailing WellShaped entries position entry ∧
      Reported position entry fault.target? fault.detail := by
  rcases all_or_first_failing WellShaped entries with all | ⟨before, entry, rest, rfl, good, bad⟩
  · exact absurd all illShaped
  · have first := first_failing_behind rest good bad
    obtain ⟨declarations, rfl, named⟩ := declarations_of_well_shaped good
    obtain ⟨key, value⟩ := entry
    rw [List.length_map] at first
    obtain ⟨fault, refused, reported⟩ := of_entry_reported declarations.length bad
    exact ⟨fault, _, _, of_entries_first_fault rest named refused, first, reported⟩

theorem Declaration.Named.well_shaped {declaration : Declaration} (named : declaration.Named) :
    WellShaped declaration.entry := by
  constructor
  · exact named.1
  · intro item member
    obtain ⟨dependency, depended, rfl⟩ := List.mem_map.mp member
    exact named.2 dependency depended

/-- A document that is accepted says what its entries say, and nothing else. -/
theorem of_entries_accepted {entries : List (Value × Value)} {document : Document}
    (accepted : Document.ofEntries entries = .ok document) :
    entries = document.declarations.map Declaration.entry ∧
      ∀ declaration ∈ document.declarations, declaration.Named := by
  by_cases shaped : ∀ entry ∈ entries, WellShaped entry
  · obtain ⟨declarations, rfl, named⟩ := declarations_of_well_shaped shaped
    rw [of_entries_ok declarations named, Except.ok.injEq] at accepted
    subst accepted
    exact ⟨rfl, named⟩
  · obtain ⟨fault, _, _, refused, _⟩ := of_entries_reported shaped
    rw [refused] at accepted
    cases accepted

/-- The check takes just the lists of well-shaped entries, and makes of each entry the declaration that
it says. Of any other list it reports the first entry that is ill-shaped, and of that entry the first
thing that is wrong. -/
theorem shape_check_exact (entries : List (Value × Value)) :
    ((∃ document, Document.ofEntries entries = .ok document) ↔
      ∀ entry ∈ entries, WellShaped entry) ∧
    (∀ document, Document.ofEntries entries = .ok document ↔
      entries = document.declarations.map Declaration.entry ∧
        ∀ declaration ∈ document.declarations, declaration.Named) ∧
    ((¬ ∀ entry ∈ entries, WellShaped entry) → ∃ fault position entry,
      Document.ofEntries entries = .error fault ∧
      FirstFailing WellShaped entries position entry ∧
      Reported position entry fault.target? fault.detail) := by
  constructor
  · constructor
    · rintro ⟨document, accepted⟩ entry member
      obtain ⟨rfl, named⟩ := of_entries_accepted accepted
      obtain ⟨declaration, declared, rfl⟩ := List.mem_map.mp member
      exact (named declaration declared).well_shaped
    · intro shaped
      obtain ⟨declarations, rfl, named⟩ := declarations_of_well_shaped shaped
      exact ⟨⟨declarations⟩, of_entries_ok declarations named⟩
  · constructor
    · intro document
      constructor
      · exact of_entries_accepted
      · rintro ⟨rfl, named⟩
        exact of_entries_ok document.declarations named
    · exact of_entries_reported

/-- Neither the second fault of the first entry nor the fault of the second entry is reported. -/
example : (match Document.ofEntries [(.string "a", .sequence [.string "b", .string "", .null]),
      (.null, .null)] with
    | .error fault => fault.target? == some "a" && fault.detail == "dependency 1 is an empty name"
    | .ok _ => false) = true := by
  decide

end TargetGraph

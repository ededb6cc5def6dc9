import Mathlib.Data.List.Nodup
import TargetGraph.Load
import TargetGraph.Proofs.Representation
import TargetGraph.Proofs.RootEntries
import TargetGraph.Proofs.Shape

/-!
# From a text to a graph

A text is read, its entries are checked for shape, their names are registered and their dependencies
resolved, each stage over the whole document before the next one begins. A fault of an earlier stage is
therefore reported whatever a later stage would find, wherever the two stand in the text. No stage
drops, merges or reorders entries, so that a graph shows its text's entries again, and a name that is
declared twice is seen by the stage that refuses it.
-/

namespace TargetGraph

open Yaml (Value FirstDocument keysOf SpelledTwice Yields)

set_option autoImplicit false

namespace Document

/-- What the reader makes of a text. A blank one is no document. -/
def firstOf (text : String) : FirstDocument :=
  if Text.isBlankText text.toList then .absent else .ofText text.toList

def entriesOf (text : String) : Except Yaml.Error (List (Value × Value)) := (firstOf text).entries

theorem of_text_outcome (text : String) :
    (ofText text).outcome = (entriesOf text).mapError .notYaml >>= fun entries =>
      (ofEntries entries).mapError .illShaped := by
  by_cases blank : Text.isBlankText text.toList
  · simp only [ofText, entriesOf, firstOf, if_pos blank]
    rfl
  · rw [ofText, entriesOf, firstOf, if_neg blank, if_neg blank, Traced.outcome_bind]
    change (Except.mapError _ (FirstDocument.ofText text.toList).entries >>= _) = _
    cases (FirstDocument.ofText text.toList).entries with
    | error error => rfl
    | ok entries =>
        change (Traced.ofExcept ((ofEntries entries).mapError DocumentError.illShaped) >>= _).outcome
          = (ofEntries entries).mapError DocumentError.illShaped
        cases (ofEntries entries).mapError DocumentError.illShaped <;> rfl

end Document

def AllDeclared (entries : List (Value × Value)) : Prop :=
  ∀ entry ∈ entries, ∀ items, entry.2 = .sequence items → ∀ item ∈ items, item ∈ keysOf entries

theorem keys_of_declarations (declarations : List Declaration) :
    keysOf (declarations.map Declaration.entry) = (namesOf declarations).map .string := by
  rw [keysOf, List.map_map, List.map_map]
  rfl

theorem string_injective : Function.Injective Value.string := fun _ _ same => Value.string.inj same

theorem keys_distinct_iff (declarations : List Declaration) :
    (keysOf (declarations.map Declaration.entry)).Nodup ↔ (namesOf declarations).Nodup := by
  rw [keys_of_declarations]
  exact List.nodup_map_iff string_injective

theorem all_declared_iff (declarations : List Declaration) :
    AllDeclared (declarations.map Declaration.entry) ↔
      ResolveIn (namesOf declarations) declarations := by
  have same (name : String) : Value.string name ∈ (namesOf declarations).map Value.string ↔
      name ∈ namesOf declarations := List.mem_map_of_injective string_injective
  rw [AllDeclared, keys_of_declarations]
  constructor
  · intro declared declaration member dependency needed
    have known := declared declaration.entry (List.mem_map_of_mem member) _ rfl (.string dependency)
      (List.mem_map_of_mem needed)
    exact (same dependency).mp known
  · intro resolved entry member items sequence item needed
    obtain ⟨declaration, declared, rfl⟩ := List.mem_map.mp member
    cases sequence
    obtain ⟨dependency, depended, rfl⟩ := List.mem_map.mp needed
    exact (same dependency).mpr (resolved declaration declared dependency depended)

namespace Graph

theorem of_text_outcome (text : String) :
    (ofText text).outcome = (Document.ofText text).outcome.mapError .document >>= fun document =>
      (build document.declarations).outcome.mapError .graph := by
  rw [ofText, ofReading, Traced.outcome_bind]
  rfl

theorem text_unread {text : String} {error : Yaml.Error}
    (unread : Document.entriesOf text = .error error) :
    (ofText text).outcome = .error (.document (.notYaml error)) := by
  rw [of_text_outcome, Document.of_text_outcome, unread]
  rfl

theorem text_read {text : String} {entries : List (Value × Value)}
    (read : Document.entriesOf text = .ok entries) :
    (ofText text).outcome =
      match Document.ofEntries entries with
      | .error fault => .error (.document (.illShaped fault))
      | .ok document => (build document.declarations).outcome.mapError .graph := by
  rw [of_text_outcome, Document.of_text_outcome, read]
  change (((Document.ofEntries entries).mapError DocumentError.illShaped).mapError
    LoadError.document >>= _) = _
  cases Document.ofEntries entries with
  | error fault => rfl
  | ok document => rfl

theorem text_ill_shaped {text : String} {entries : List (Value × Value)}
    (read : Document.entriesOf text = .ok entries)
    (illShaped : ∃ entry ∈ entries, ¬ WellShaped entry) :
    ∃ fault, (ofText text).outcome = .error (.document (.illShaped fault)) := by
  obtain ⟨entry, member, bad⟩ := illShaped
  obtain ⟨fault, _, _, refused, _⟩ := of_entries_reported fun shaped => bad (shaped entry member)
  exact ⟨fault, by rw [text_read read, refused]⟩

theorem text_well_shaped {text : String} {declarations : List Declaration}
    (read : Document.entriesOf text = .ok (declarations.map Declaration.entry))
    (named : ∀ declaration ∈ declarations, declaration.Named) :
    (ofText text).outcome = (build declarations).outcome.mapError .graph := by
  rw [text_read read, of_entries_ok declarations named]

/-- A graph that holds what entries say: one target for each of them, in the same order, and the same
items under each. -/
structure Shows (graph : Graph) (entries : List (Value × Value)) : Prop where
  state : graph.state = .loaded
  size : graph.size = entries.length
  keys : graph.names.map Value.string = keysOf entries
  restated : graph.restated.map (List.map Declaration.entry) = .ok entries
  named : ∀ name ∈ graph.names, name ≠ ""
  distinct : graph.names.Nodup

theorem Represents.shows {graph : Graph} {declarations : List Declaration}
    (represents : graph.Represents declarations)
    (named : ∀ declaration ∈ declarations, declaration.Named) :
    graph.Shows (declarations.map Declaration.entry) where
  state := represents.state
  size := by rw [represents.size_eq, List.length_map]
  keys := by rw [represents.names_eq, keys_of_declarations]
  restated := by
    rw [represents.restated_eq]
    rfl
  named := by
    rw [represents.names_eq]
    intro name member
    obtain ⟨declaration, declared, rfl⟩ := List.mem_map.mp member
    exact (named declaration declared).1
  distinct := by
    rw [represents.names_eq]
    exact represents.distinct

/-- A text that loads yields entries in good shape, and its graph shows them. -/
theorem text_loaded {text : String} {graph : Graph} (done : (ofText text).outcome = .ok graph) :
    ∃ entries, Document.entriesOf text = .ok entries ∧ graph.Shows entries := by
  cases read : Document.entriesOf text with
  | error error =>
      rw [text_unread read] at done
      cases done
  | ok entries =>
      by_cases shaped : ∀ entry ∈ entries, WellShaped entry
      · obtain ⟨declarations, rfl, named⟩ := declarations_of_well_shaped shaped
        rw [text_well_shaped read named] at done
        cases built : (build declarations).outcome with
        | error error =>
            rw [built] at done
            cases done
        | ok graph =>
            rw [built] at done
            cases done
            exact ⟨_, rfl, (build_represents built).shows named⟩
      · simp only [not_forall] at shaped
        obtain ⟨entry, member, bad⟩ := shaped
        obtain ⟨fault, refused⟩ := text_ill_shaped read ⟨entry, member, bad⟩
        rw [refused] at done
        cases done

theorem repeated_key_unloaded {text : String} {entries : List (Value × Value)}
    (read : Document.entriesOf text = .ok entries) (repeats : ¬ (keysOf entries).Nodup)
    (graph : Graph) : (ofText text).outcome ≠ .ok graph := by
  intro done
  obtain ⟨others, again, shows⟩ := text_loaded done
  rw [read] at again
  cases again
  apply repeats
  rw [← shows.keys]
  exact shows.distinct.map string_injective

/-- Well-shaped entries that all have an identifier: repeated keys come before undeclared items. -/
theorem text_in_range {text : String} {entries : List (Value × Value)}
    (read : Document.entriesOf text = .ok entries) (shaped : ∀ entry ∈ entries, WellShaped entry)
    (few : entries.length < 0x100000000) :
    (¬ (keysOf entries).Nodup →
      ∃ name first, (ofText text).outcome = .error (.graph (.duplicateTarget name first))) ∧
    ((keysOf entries).Nodup → ¬ AllDeclared entries →
      ∃ owner missing,
        (ofText text).outcome = .error (.graph (.unresolvedDependency owner missing))) ∧
    ((keysOf entries).Nodup → AllDeclared entries →
      ∃ graph, (ofText text).outcome = .ok graph ∧ graph.Shows entries) := by
  obtain ⟨declarations, rfl, named⟩ := declarations_of_well_shaped shaped
  have fits : declarations.length ≤ 0xFFFFFFFF := by
    rw [List.length_map] at few
    omega
  rw [keys_distinct_iff, all_declared_iff, text_well_shaped read named]
  refine ⟨?_, ?_, ?_⟩
  · intro repeats
    have whole : (namesOf declarations).take 0xFFFFFFFF = namesOf declarations :=
      List.take_of_length_le (by rwa [List.length_map])
    obtain ⟨name, first, refused⟩ := build_repeats (by rwa [whole])
    exact ⟨name, first, by rw [refused]; rfl⟩
  · intro distinct unresolved
    obtain ⟨owner, missing, refused⟩ := build_undeclared distinct fits unresolved
    exact ⟨owner, missing, by rw [refused]; rfl⟩
  · intro distinct resolved
    obtain ⟨index, _, built⟩ := build_resolved declarations distinct fits resolved
    have built := congrArg Traced.outcome built
    exact ⟨_, by rw [built]; rfl, (build_represents built).shows named⟩

theorem text_out_of_range {text : String} {entries : List (Value × Value)}
    (read : Document.entriesOf text = .ok entries) (shaped : ∀ entry ∈ entries, WellShaped entry)
    (many : 0x100000000 ≤ entries.length) :
    (¬ ((keysOf entries).take 0xFFFFFFFF).Nodup →
      ∃ name first, (ofText text).outcome = .error (.graph (.duplicateTarget name first))) ∧
    (((keysOf entries).take 0xFFFFFFFF).Nodup →
      (ofText text).outcome = .error (.graph (.tooManyTargets entries.length))) := by
  obtain ⟨declarations, rfl, named⟩ := declarations_of_well_shaped shaped
  rw [List.length_map] at many ⊢
  rw [keys_of_declarations, ← List.map_take, List.nodup_map_iff string_injective,
    text_well_shaped read named]
  constructor
  · intro repeats
    obtain ⟨name, first, refused⟩ := build_repeats repeats
    exact ⟨name, first, by rw [refused]; rfl⟩
  · intro distinct
    rw [build_overfull distinct (by omega)]
    rfl

/-- Unreadable text, ill-shaped entries, repeated keys and undeclared items are reported in this order,
and a text with none of them loads. Reading keeps all pairs of the root, so that a name that is spelled
twice in it never loads. -/
theorem text_loads_in_stages (text : String) :
    (∀ error, Document.entriesOf text = .error error →
      (ofText text).outcome = .error (.document (.notYaml error))) ∧
    (∀ entries, Document.entriesOf text = .ok entries →
      ((∃ entry ∈ entries, ¬ WellShaped entry) →
        ∃ fault, (ofText text).outcome = .error (.document (.illShaped fault))) ∧
      ((∀ entry ∈ entries, WellShaped entry) → entries.length < 0x100000000 →
        (¬ (keysOf entries).Nodup →
          ∃ name first, (ofText text).outcome = .error (.graph (.duplicateTarget name first))) ∧
        ((keysOf entries).Nodup → ¬ AllDeclared entries →
          ∃ owner missing,
            (ofText text).outcome = .error (.graph (.unresolvedDependency owner missing))) ∧
        ((keysOf entries).Nodup → AllDeclared entries →
          ∃ graph, (ofText text).outcome = .ok graph ∧ graph.Shows entries)) ∧
      ((∀ entry ∈ entries, WellShaped entry) → 0x100000000 ≤ entries.length →
        (¬ ((keysOf entries).take 0xFFFFFFFF).Nodup →
          ∃ name first, (ofText text).outcome = .error (.graph (.duplicateTarget name first))) ∧
        (((keysOf entries).take 0xFFFFFFFF).Nodup →
          (ofText text).outcome = .error (.graph (.tooManyTargets entries.length)))) ∧
      (¬ (keysOf entries).Nodup → ∀ graph, (ofText text).outcome ≠ .ok graph)) ∧
    ∀ head pairs ending, Document.firstOf text = .present (.mapping head pairs) ending →
      (∀ entries, Document.entriesOf text = .ok entries →
        List.Forall₂ (Yields (.ofRoot (.mapping head pairs))) pairs entries) ∧
      (SpelledTwice (.ofRoot (.mapping head pairs)) pairs →
        ∀ graph, (ofText text).outcome ≠ .ok graph) := by
  refine ⟨fun error unread => text_unread unread, ?_, ?_⟩
  · intro entries read
    exact ⟨text_ill_shaped read, text_in_range read, text_out_of_range read,
      repeated_key_unloaded read⟩
  · intro head pairs ending first
    have yielded (entries : List (Value × Value)) (read : Document.entriesOf text = .ok entries) :
        List.Forall₂ (Yields (.ofRoot (.mapping head pairs))) pairs entries := by
      rw [Document.entriesOf, first] at read
      exact Yaml.mapping_entries_yield read
    refine ⟨yielded, ?_⟩
    intro twice graph done
    obtain ⟨entries, read, _⟩ := text_loaded done
    have repeats := Yaml.spelled_twice_repeats (yielded entries read) twice
    exact repeated_key_unloaded read repeats graph done

/-- A name that is declared again, quoted and with a tag, comes before a dependency that is declared
nowhere. -/
example : (match (ofText "a: [b]\n!!str 'a': []\n").outcome with
    | .error (.graph (.duplicateTarget name first)) => name == "a" && first.index == 0
    | _ => false) = true := by
  decide +kernel

end Graph

end TargetGraph

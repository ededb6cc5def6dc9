import TargetGraph.Proofs.Pipeline
import TargetGraph.Proofs.PlainNodes

/-!
# Documents that are well-formed YAML

A text that is one document whose root is a mapping, without tags, anchors and aliases, not too deep and
without repeated keys below its root, is read to what its nodes mean, and an entry of the wrong shape is
reported as such. The one exception is a number that is too wide for a value: wherever it stands, the
whole text is then refused as if it were no YAML.
-/

namespace TargetGraph

open Yaml

set_option autoImplicit false

namespace Document

variable {text : String} {mark : Mark} {pairs : List (Node × Node)} {levels : Nat}

theorem too_wide_iff (regular : ∀ pair ∈ pairs, pair.1.Regular levels ∧ pair.2.Regular levels) :
    Node.entryMeanings? pairs = none ↔
      ∃ pair ∈ pairs, Node.TooWide pair.1 ∨ Node.TooWide pair.2 := by
  rw [Node.entry_meanings_none_iff]
  constructor
  · rintro ⟨pair, member, none⟩
    obtain ⟨key, value⟩ := regular pair member
    exact ⟨pair, member, none.imp key.meaning_none_iff.mp value.meaning_none_iff.mp⟩
  · rintro ⟨pair, member, wide⟩
    obtain ⟨key, value⟩ := regular pair member
    exact ⟨pair, member, wide.imp key.meaning_none_iff.mpr value.meaning_none_iff.mpr⟩

/-- Entries that were read are all declarations, or one of them is the first that is not. -/
theorem entries_outcome {entries : List (Value × Value)} (read : entriesOf text = .ok entries) :
    (∃ declarations : List Declaration, entries = declarations.map Declaration.entry ∧
      (∀ declaration ∈ declarations, declaration.Named) ∧
      (ofText text).outcome = .ok ⟨declarations⟩) ∨
    ∃ (before : List Declaration) (key value : Value) (rest : List (Value × Value))
      (fault : ShapeFault), entries = before.map Declaration.entry ++ (key, value) :: rest ∧
      (∀ declaration ∈ before, declaration.Named) ∧ ¬ WellShaped (key, value) ∧
      Declaration.ofEntry before.length key value = .error fault ∧
      (ofText text).outcome = .error (.illShaped fault) := by
  have outcome : (ofText text).outcome = (ofEntries entries).mapError .illShaped := by
    rw [of_text_outcome, read]
    rfl
  rcases all_or_first_failing WellShaped entries with all | ⟨first, ⟨key, value⟩, rest, rfl, good, bad⟩
  · obtain ⟨declarations, rfl, named⟩ := declarations_of_well_shaped all
    refine .inl ⟨declarations, rfl, named, ?_⟩
    rw [outcome, of_entries_ok declarations named]
    rfl
  · obtain ⟨before, rfl, named⟩ := declarations_of_well_shaped good
    obtain ⟨fault, refused, _⟩ := of_entry_reported before.length bad
    refine .inr ⟨before, key, value, rest, fault, rfl, named, bad, refused, ?_⟩
    rw [outcome, of_entries_first_fault rest named refused]
    rfl

/-- With a number that is too wide anywhere in it, a well-formed text is refused as no YAML. Without one
it is read: either it is the declarations that its entries say, or its first entry that says none is
reported. -/
theorem regular_text_outcome
    (first : firstOf text = .present (.mapping (.bare mark) pairs) .closed)
    (shallow : levels < depthLimit)
    (regular : ∀ pair ∈ pairs, pair.1.Regular levels ∧ pair.2.Regular levels) :
    ((∃ pair ∈ pairs, Node.TooWide pair.1 ∨ Node.TooWide pair.2) →
      ∃ value place path, isNarrow value = false ∧
        (ofText text).outcome = .error (.notYaml (tooWide value place path))) ∧
    ((∀ pair ∈ pairs, ¬ Node.TooWide pair.1 ∧ ¬ Node.TooWide pair.2) →
      ∃ entries, Node.entryMeanings? pairs = some entries ∧
        ((∃ declarations : List Declaration, entries = declarations.map Declaration.entry ∧
          (∀ declaration ∈ declarations, declaration.Named) ∧
          (ofText text).outcome = .ok ⟨declarations⟩) ∨
        ∃ (before : List Declaration) (key value : Value) (rest : List (Value × Value))
          (fault : ShapeFault), entries = before.map Declaration.entry ++ (key, value) :: rest ∧
          (∀ declaration ∈ before, declaration.Named) ∧ ¬ WellShaped (key, value) ∧
          Declaration.ofEntry before.length key value = .error fault ∧
          (ofText text).outcome = .error (.illShaped fault))) := by
  constructor
  · intro wide
    obtain ⟨value, place, path, wide, unread⟩ := FirstDocument.meaningless_entries shallow regular
      ((too_wide_iff regular).mpr wide)
    refine ⟨value, place, path, wide, ?_⟩
    rw [of_text_outcome, entriesOf, first, unread]
    rfl
  · intro narrow
    cases means : Node.entryMeanings? pairs with
    | none =>
        obtain ⟨pair, member, wide⟩ := (too_wide_iff regular).mp means
        exact absurd wide (not_or.mpr (narrow pair member))
    | some entries =>
        have read : entriesOf text = .ok entries := by
          rw [entriesOf, first]
          exact FirstDocument.regular_entries shallow regular means
        exact ⟨entries, rfl, entries_outcome read⟩

theorem first_of_tokens {text : String} {tokens : List Token}
    (shown : Text.isBlankText text.toList = false)
    (scanned : (TokenStream.ofText text.toList).tokens = tokens ∧
      (TokenStream.ofText text.toList).fault = none) :
    firstOf text = .ofTokens ⟨tokens, none⟩ := by
  rw [firstOf, shown, ← scanned.1, ← scanned.2]
  rfl

def deepNumber : String := "a: \x7bb: [18446744073709551616]\x7d\n"

theorem deep_number_unread : ∃ mark pairs,
    firstOf deepNumber = .present (.mapping (.bare mark) pairs) .closed ∧
    2 < depthLimit ∧ (∀ pair ∈ pairs, pair.1.Regular 2 ∧ pair.2.Regular 2) ∧
    (∃ pair ∈ pairs, Node.TooWide pair.1 ∨ Node.TooWide pair.2) ∧
    ∃ value place path, isNarrow value = false ∧
      (ofText deepNumber).outcome = .error (.notYaml (tooWide value place path)) := by
  let number : Node := .scalar (.bare ⟨0, 8, 8⟩) "18446744073709551616" .plain
  let list : Node := .sequence (.bare ⟨0, 7, 7⟩) [number]
  let inner : Node := .mapping (.bare ⟨0, 3, 3⟩) [(.scalar (.bare ⟨0, 4, 4⟩) "b" .plain, list)]
  have first : firstOf deepNumber = .present (.mapping (.bare .start)
      [(.scalar (.bare .start) "a" .plain, inner)]) .closed := by
    rw [first_of_tokens (by decide) (show _ = [
        ⟨.blockMappingStart, .start, .start⟩, ⟨.key, .start, .start⟩,
        ⟨.scalar "a" .plain, .start, ⟨0, 1, 1⟩⟩, ⟨.value, ⟨0, 1, 1⟩, ⟨0, 2, 2⟩⟩,
        ⟨.flowMappingStart, ⟨0, 3, 3⟩, ⟨0, 4, 4⟩⟩, ⟨.key, ⟨0, 4, 4⟩, ⟨0, 4, 4⟩⟩,
        ⟨.scalar "b" .plain, ⟨0, 4, 4⟩, ⟨0, 5, 5⟩⟩, ⟨.value, ⟨0, 5, 5⟩, ⟨0, 6, 6⟩⟩,
        ⟨.flowSequenceStart, ⟨0, 7, 7⟩, ⟨0, 8, 8⟩⟩,
        ⟨.scalar "18446744073709551616" .plain, ⟨0, 8, 8⟩, ⟨0, 28, 28⟩⟩,
        ⟨.flowSequenceEnd, ⟨0, 28, 28⟩, ⟨0, 29, 29⟩⟩, ⟨.flowMappingEnd, ⟨0, 29, 29⟩, ⟨0, 30, 30⟩⟩,
        ⟨.blockEnd, ⟨1, 0, 31⟩, ⟨1, 0, 31⟩⟩, ⟨.streamEnd, ⟨1, 0, 31⟩, ⟨1, 0, 31⟩⟩] ∧ _ by
      decide +kernel)]
    rfl
  have regular : inner.Regular 2 := by
    refine .mapping _ _ ?_ ?_ (List.pairwise_singleton _ _)
    · exact List.forall_mem_singleton.mpr (.scalar 1 _ _ _)
    · exact List.forall_mem_singleton.mpr
        (.sequence _ _ (List.forall_mem_singleton.mpr (.scalar 0 _ _ _)))
  have all : ∀ pair ∈ [((.scalar (.bare .start) "a" .plain, inner) : Node × Node)],
      pair.1.Regular 2 ∧ pair.2.Regular 2 :=
    List.forall_mem_singleton.mpr ⟨.scalar 2 _ _ _, regular⟩
  have wide : number.TooWide :=
    .scalar _ _ 18446744073709551616 (by decide +kernel) (by decide)
  have inside : ∃ pair ∈ [((.scalar (.bare .start) "a" .plain, inner) : Node × Node)],
      Node.TooWide pair.1 ∨ Node.TooWide pair.2 :=
    ⟨_, List.mem_singleton_self _,
      .inr (.value _ (List.mem_singleton_self _) (.item _ (List.mem_singleton_self _) wide))⟩
  exact ⟨_, _, first, by decide, all, inside,
    (regular_text_outcome first (by decide) all).1 inside⟩

def wideNumber : String := "a: 18446744073709551616\n"

/-- The text is well-formed, has no tags, anchors or aliases and its root is a mapping, but its entry is
not reported: the text is refused as no YAML. -/
theorem wide_number_unread : ∃ mark pairs,
    firstOf wideNumber = .present (.mapping (.bare mark) pairs) .closed ∧
    (∀ pair ∈ pairs, pair.1.Regular 0 ∧ pair.2.Regular 0) ∧
    ∃ error, (ofText wideNumber).outcome = .error (.notYaml error) := by
  have first : firstOf wideNumber = .present (.mapping (.bare .start)
      [(.scalar (.bare .start) "a" .plain,
        .scalar (.bare ⟨0, 3, 3⟩) "18446744073709551616" .plain)]) .closed := by
    rw [first_of_tokens (by decide) (show _ = [
        ⟨.blockMappingStart, .start, .start⟩, ⟨.key, .start, .start⟩,
        ⟨.scalar "a" .plain, .start, ⟨0, 1, 1⟩⟩, ⟨.value, ⟨0, 1, 1⟩, ⟨0, 2, 2⟩⟩,
        ⟨.scalar "18446744073709551616" .plain, ⟨0, 3, 3⟩, ⟨1, 0, 24⟩⟩,
        ⟨.blockEnd, ⟨1, 0, 24⟩, ⟨1, 0, 24⟩⟩, ⟨.streamEnd, ⟨1, 0, 24⟩, ⟨1, 0, 24⟩⟩] ∧ _ by
      decide +kernel)]
    rfl
  have unread : (match (ofText wideNumber).outcome with
      | .error (.notYaml _) => true
      | _ => false) = true := by
    decide +kernel
  refine ⟨_, _, first, List.forall_mem_singleton.mpr ⟨.scalar 0 _ _ _, .scalar 0 _ _ _⟩, ?_⟩
  split at unread
  · rename_i error same
    exact ⟨error, same⟩
  · cases unread

end Document

end TargetGraph

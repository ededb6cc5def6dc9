import TargetGraph.Proofs.NodeReading
import TargetGraph.Proofs.Pipeline
import TargetGraph.Proofs.PlainNodes

/-!
# Documents of names and lists

A text whose tokens give names to lists of names is read as the declarations that it spells, whether its
root is a flow mapping or a block mapping. Nothing is asked of a name but that its scalar is typed as the
string it was written as.
-/

namespace TargetGraph

open Yaml
open Yaml.Token (Kind)

set_option autoImplicit false

namespace Yaml

section

variable {style : ScalarStyle}

def KeptAs (style : ScalarStyle) (name : String) : Prop :=
  Datum.ofScalar none name style = .ok (.string name)

theorem Names.meaning {name : String} {node : Node} (kept : KeptAs style name)
    (names : Names style name node) : node.meaning? = some (.string name) := by
  obtain ⟨mark, rfl⟩ := names
  have kept : Datum.ofScalar none name style = .ok (.string name) := kept
  rw [Node.meaning?, kept]
  rfl

theorem Names.regular {name : String} {node : Node} (levels : Nat) (names : Names style name node) :
    node.Regular levels := by
  obtain ⟨mark, rfl⟩ := names
  exact .scalar levels mark name style

theorem names_meanings {names : List String} {nodes : List Node}
    (kept : ∀ name ∈ names, KeptAs style name) (all : List.Forall₂ (Names style) names nodes) :
    Node.meanings? nodes = some (names.map .string) := by
  induction all with
  | nil => rfl
  | @cons name node names nodes named rest induction =>
      have head := named.meaning (kept name (by simp))
      have tail := induction fun other member => kept other (by simp [member])
      rw [Node.meanings?, head, tail]
      rfl

theorem Lists.meaning {names : List String} {node : Node} (kept : ∀ name ∈ names, KeptAs style name)
    (lists : Lists style names node) :
    node.meaning? = some (.sequence (names.map .string)) := by
  obtain ⟨mark, items, rfl, all⟩ := lists
  rw [Node.meaning?, names_meanings kept all]
  rfl

theorem Lists.regular {names : List String} {node : Node} (lists : Lists style names node) :
    node.Regular 1 := by
  obtain ⟨mark, items, rfl, all⟩ := lists
  refine .sequence mark items fun item member => ?_
  obtain ⟨name, _, named⟩ := related_member all item member
  exact named.regular 0

variable {declarations : List Declaration} {pairs : List (Node × Node)}

theorem declares_meanings (kept : ∀ declaration ∈ declarations,
      ∀ name ∈ declaration.name :: declaration.dependencies, KeptAs style name)
    (all : List.Forall₂ (Declares style) declarations pairs) :
    Node.entryMeanings? pairs = some (declarations.map Declaration.entry) := by
  induction all with
  | nil => rfl
  | @cons declaration pair declarations pairs declares rest induction =>
      obtain ⟨key, value⟩ := pair
      have own := kept declaration (by simp)
      have keyed : key.meaning? = _ := declares.name.meaning (own _ (by simp))
      have valued : value.meaning? = _ :=
        declares.dependencies.meaning fun name member => own name (by simp [member])
      have tail := induction fun other member => kept other (by simp [member])
      rw [Node.entryMeanings?, keyed, valued, tail]
      rfl

theorem declares_regular (all : List.Forall₂ (Declares style) declarations pairs) :
    ∀ pair ∈ pairs, pair.1.Regular 1 ∧ pair.2.Regular 1 := by
  intro pair member
  obtain ⟨declaration, _, declares⟩ := related_member all pair member
  exact ⟨declares.name.regular 1, declares.dependencies.regular⟩

end

section

variable {stream : TokenStream} {style : ScalarStyle} {declarations : List Declaration}

def FirstDocument.Makes (document : FirstDocument) (style : ScalarStyle)
    (declarations : List Declaration) : Prop :=
  ∃ mark pairs, document = .present (.mapping (.bare mark) pairs) .closed ∧
    List.Forall₂ (Declares style) declarations pairs

theorem of_root_makes {reading : Reading Node} {mark : Mark}
    (reads : ReadsTo reading (fun node => ∃ pairs, node = .mapping (.bare mark) pairs ∧
      List.Forall₂ (Declares style) declarations pairs) [.streamEnd]) :
    (FirstDocument.ofRoot reading).Makes style declarations := by
  obtain ⟨node, input, rfl, ⟨pairs, rfl, all⟩, holds⟩ := reads
  obtain ⟨start, stop, tokens, shape, _⟩ := holds.cons
  refine ⟨mark, pairs, ?_, all⟩
  simp [FirstDocument.ofRoot, FirstDocument.ending, shape]

theorem flow_tokens_make (kinds : stream.tokens.map Token.kind =
      Scanner.Brackets.curly.kindsAround (entryKinds style) declarations ++ [.streamEnd]) :
    (FirstDocument.ofTokens stream).Makes style declarations := by
  have kinds : stream.tokens.map Token.kind = .flowMappingStart ::
      (groupKinds true (declarations.map (entryKinds style)) ++ [.flowMappingEnd, .streamEnd]) := by
    rw [kinds, Scanner.Brackets.kindsAround, ← group_kinds_first]
    simp [Scanner.Brackets.openingKind, Scanner.Brackets.closingKind]
  have enough := congrArg List.length kinds
  obtain ⟨⟨_, start, stop⟩, tokens, shape, rfl, rest⟩ := List.map_eq_cons_iff.mp kinds
  let input : Input := ⟨tokens, stream.fault.getD .contentExpected, defaultHandles, []⟩
  have entries : ReadsTo (readFlowEntries (3 * stream.tokens.length + 2) true input)
      (List.Forall₂ (Declares style) declarations) [.streamEnd] :=
    read_flow_entries true rest (by
      simp only [List.length_map, List.length_append, List.length_cons, List.length_nil] at enough
      omega)
  have read : FirstDocument.ofTokens stream = .ofRoot
      ((readFlowEntries (3 * stream.tokens.length + 2) true input).map (.mapping (.bare start))) := by
    simp [FirstDocument.ofTokens, shape, FirstDocument.fuelFor, readNode, Properties.read,
      Input.defineAny, Input.drop, NodeHead.bare, input]
  rw [read]
  exact of_root_makes (entries.map fun pairs all => ⟨pairs, rfl, all⟩)

theorem block_tokens_make (kinds : stream.tokens.map Token.kind = .blockMappingStart ::
      (declarations.flatMap (entryKinds style) ++ [.blockEnd, .streamEnd])) :
    (FirstDocument.ofTokens stream).Makes style declarations := by
  have enough := congrArg List.length kinds
  obtain ⟨⟨_, start, stop⟩, tokens, shape, rfl, rest⟩ := List.map_eq_cons_iff.mp kinds
  let input : Input := ⟨tokens, stream.fault.getD .contentExpected, defaultHandles, []⟩
  have entries : ReadsTo (readBlockEntries (3 * stream.tokens.length + 2) input)
      (List.Forall₂ (Declares style) declarations) [.streamEnd] :=
    read_block_entries rest (by
      simp only [List.length_map, List.length_append, List.length_cons, List.length_nil] at enough
      omega)
  have read : FirstDocument.ofTokens stream = .ofRoot
      ((readBlockEntries (3 * stream.tokens.length + 2) input).map (.mapping (.bare start))) := by
    simp [FirstDocument.ofTokens, shape, FirstDocument.fuelFor, readNode, Properties.read,
      Input.defineAny, Input.drop, NodeHead.bare, input]
  rw [read]
  exact of_root_makes (entries.map fun pairs all => ⟨pairs, rfl, all⟩)

end

end Yaml

namespace Document

/-- A text that makes declarations is read as these. -/
theorem of_text_makes {text : String} {style : ScalarStyle} {declarations : List Declaration}
    (makes : (firstOf text).Makes style declarations)
    (kept : ∀ declaration ∈ declarations,
      ∀ name ∈ declaration.name :: declaration.dependencies, KeptAs style name)
    (named : ∀ declaration ∈ declarations, declaration.Named) :
    (ofText text).outcome = .ok ⟨declarations⟩ := by
  obtain ⟨mark, pairs, first, all⟩ := makes
  have entries : entriesOf text = .ok (declarations.map Declaration.entry) := by
    rw [entriesOf, first]
    exact FirstDocument.regular_entries (by decide) (declares_regular all)
      (declares_meanings kept all)
  rw [of_text_outcome, entries]
  change (ofEntries (declarations.map Declaration.entry)).mapError DocumentError.illShaped = _
  rw [of_entries_ok declarations named]
  rfl

end Document

end TargetGraph

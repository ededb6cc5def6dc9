import Mathlib.Data.List.Forall2
import TargetGraph.Target
import TargetGraph.Yaml.FirstDocument
import TargetGraph.Proofs.FlowLists

/-!
# Nodes of names and lists

The nodes that the grammar makes of the tokens of a name, of a list of names, and of entries that give
each name a list, in a flow mapping and in a block mapping alike. Only the kinds of the tokens matter, so
that nothing is said of where the nodes stand.
-/

namespace TargetGraph.Yaml

open Token (Kind)
open Scanner (Brackets nameKinds)

set_option autoImplicit false

def Names (style : ScalarStyle) (name : String) (node : Node) : Prop :=
  ∃ mark, node = .scalar (.bare mark) name style

def Input.Holds (input : Input) (kinds : List Kind) : Prop := input.tokens.map Token.kind = kinds

/-- A rule has read what it was to read, and left the tokens behind that. -/
def ReadsTo {Result : Type} (reading : Reading Result) (wanted : Result → Prop) (kinds : List Kind) :
    Prop :=
  ∃ result input, reading = (result, some input) ∧ wanted result ∧ input.Holds kinds

theorem ReadsTo.and_then {First Result : Type} {reading : Reading First} {alone : First → Result}
    {next : First → Input → Reading Result} {wanted : First → Prop} {last : Result → Prop}
    {middle kinds : List Kind} (first : ReadsTo reading wanted middle)
    (rest : ∀ result, wanted result → ∀ input : Input, input.Holds middle →
      ReadsTo (next result input) last kinds) :
    ReadsTo (reading.andThen alone next) last kinds := by
  obtain ⟨result, input, rfl, good, holds⟩ := first
  exact rest result good input holds

theorem ReadsTo.map {First Result : Type} {reading : Reading First} {f : First → Result}
    {wanted : First → Prop} {last : Result → Prop} {kinds : List Kind}
    (first : ReadsTo reading wanted kinds) (good : ∀ result, wanted result → last (f result)) :
    ReadsTo (reading.map f) last kinds := by
  obtain ⟨result, input, rfl, right, holds⟩ := first
  exact ⟨f result, input, rfl, good result right, holds⟩

section

variable {input : Input} {kind : Kind} {kinds : List Kind}

theorem Input.Holds.cons (holds : input.Holds (kind :: kinds)) :
    ∃ start stop tokens, input.tokens = ⟨kind, start, stop⟩ :: tokens ∧
      ({ input with tokens } : Input).Holds kinds := by
  obtain ⟨token, tokens, shape, rfl, rest⟩ := List.map_eq_cons_iff.mp holds
  exact ⟨token.start, token.stop, tokens, shape, rest⟩

theorem Input.Holds.at_kind (holds : input.Holds (kind :: kinds)) (among : List Kind) :
    input.isAt among = among.contains kind := by
  obtain ⟨start, stop, tokens, shape, _⟩ := holds.cons
  simp [Input.isAt, Input.peek, shape]

theorem Input.Holds.drop (holds : input.Holds (kind :: kinds)) : input.drop.Holds kinds := by
  obtain ⟨start, stop, tokens, shape, rest⟩ := holds.cons
  simpa [Input.drop, shape] using rest

end

/-- Groups of tokens with a comma in front of each, or of each but the first. -/
def groupKinds (isFirst : Bool) : List (List Kind) → List Kind
  | [] => []
  | group :: rest => (if isFirst then [] else [.flowEntry]) ++ (group ++ groupKinds false rest)

theorem group_kinds_first (groups : List (List Kind)) :
    groupKinds true groups = [Kind.flowEntry].intercalate groups := by
  have later (group : List Kind) (rest : List (List Kind)) :
      groupKinds false (group :: rest) = .flowEntry :: groupKinds true (group :: rest) := rfl
  cases groups with
  | nil => rfl
  | cons group rest =>
      induction rest generalizing group with
      | nil => simp [groupKinds]
      | cons next rest induction =>
          rw [List.intercalate_cons_cons, ← induction next]
          simp [groupKinds]

section

variable {input : Input} {kinds : List Kind} {fuel : Nat} {place : Place} {style : ScalarStyle}

theorem read_name {name : String} (holds : input.Holds (.scalar name style :: kinds))
    (enough : 0 < fuel) : ReadsTo (readNode fuel place input) (Names style name) kinds := by
  obtain ⟨start, stop, tokens, shape, rest⟩ := holds.cons
  obtain ⟨fuel, rfl⟩ := Nat.exists_eq_add_one_of_ne_zero (Nat.ne_of_gt enough)
  refine ⟨_, { input with tokens }, ?_, ⟨start, rfl⟩, rest⟩
  simp [readNode, shape, Properties.read, Input.defineAny, Input.drop, NodeHead.bare]

/-- Where a group starts, in a flow collection of the given end: behind its comma, if it has one. -/
theorem at_group {kind : Kind} (isFirst : Bool) (close : Kind)
    (holds : input.Holds ((if isFirst then [] else [.flowEntry]) ++ kind :: kinds)) :
    (!isFirst && !input.isAt [.flowEntry, close]) = false ∧
      (if (!isFirst && input.isAt [.flowEntry]) = true then input.drop else input).Holds
        (kind :: kinds) := by
  cases isFirst with
  | true => exact ⟨rfl, holds⟩
  | false =>
      have comma : input.isAt [.flowEntry] = true := Input.Holds.at_kind holds _
      have either : input.isAt [.flowEntry, close] = true := Input.Holds.at_kind holds _
      rw [either, comma]
      exact ⟨rfl, Input.Holds.drop holds⟩

theorem read_items {names : List String} (isFirst : Bool)
    (holds : input.Holds
      (groupKinds isFirst (names.map (nameKinds style)) ++ .flowSequenceEnd :: kinds))
    (enough : (groupKinds isFirst (names.map (nameKinds style))).length + 1 < fuel) :
    ReadsTo (readFlowItems fuel isFirst input) (List.Forall₂ (Names style) names) kinds := by
  obtain ⟨fuel, rfl⟩ := Nat.exists_eq_add_one_of_ne_zero (Nat.ne_zero_of_lt enough)
  induction names generalizing isFirst input fuel with
  | nil =>
      obtain ⟨start, stop, tokens, shape, rest⟩ := Input.Holds.cons holds
      refine ⟨[], { input with tokens }, ?_, .nil, rest⟩
      simp [readFlowItems, Input.Holds.at_kind holds, shape]
  | cons name names induction =>
      simp only [List.map_cons, groupKinds, nameKinds, List.append_assoc, List.cons_append,
        List.nil_append, List.length_append, List.length_cons] at holds enough
      obtain ⟨accepted, there⟩ := at_group isFirst .flowSequenceEnd holds
      have item : ReadsTo (readNode fuel .flow _) (Names style name) _ := read_name there (by omega)
      obtain ⟨start, stop, tokens, shape, _⟩ := there.cons
      rw [readFlowItems]
      simp only [accepted, Bool.false_eq_true, if_false, shape]
      refine item.and_then fun node named input behind => ?_
      obtain ⟨fuel, rfl⟩ := Nat.exists_eq_add_one_of_ne_zero (by omega : fuel ≠ 0)
      exact (induction false behind fuel (by omega)).map fun nodes all => .cons named all

def listKinds (style : ScalarStyle) (names : List String) : List Kind :=
  Brackets.square.kindsAround (nameKinds style) names

theorem list_kinds_eq (names : List String) : listKinds style names =
    .flowSequenceStart :: (groupKinds true (names.map (nameKinds style)) ++ [.flowSequenceEnd]) := by
  rw [listKinds, Brackets.kindsAround, ← group_kinds_first]
  rfl

def Lists (style : ScalarStyle) (names : List String) (node : Node) : Prop :=
  ∃ mark items, node = .sequence (.bare mark) items ∧ List.Forall₂ (Names style) names items

theorem read_list {names : List String} (holds : input.Holds (listKinds style names ++ kinds))
    (enough : (listKinds style names).length < fuel) :
    ReadsTo (readNode fuel place input) (Lists style names) kinds := by
  rw [list_kinds_eq, List.length_cons, List.length_append] at enough
  rw [list_kinds_eq, List.cons_append, List.append_assoc] at holds
  obtain ⟨start, stop, tokens, shape, inside⟩ := holds.cons
  obtain ⟨fuel, rfl⟩ := Nat.exists_eq_add_one_of_ne_zero (Nat.ne_zero_of_lt enough)
  have items : ReadsTo (readFlowItems fuel true { input with tokens }) _ kinds :=
    read_items true inside (by simp at enough; omega)
  have unfolded : readNode (fuel + 1) place input =
      (readFlowItems fuel true { input with tokens }).map (.sequence (.bare start)) := by
    simp [readNode, shape, Properties.read, Input.defineAny, Input.drop, NodeHead.bare]
  rw [unfolded]
  exact items.map fun items all => ⟨start, items, rfl, all⟩

end

structure Declares (style : ScalarStyle) (declaration : Declaration) (pair : Node × Node) : Prop where
  name : Names style declaration.name pair.1
  dependencies : Lists style declaration.dependencies pair.2

def entryKinds (style : ScalarStyle) (declaration : Declaration) : List Kind :=
  .key :: .scalar declaration.name style :: .value :: listKinds style declaration.dependencies

section

variable {input : Input} {kinds : List Kind} {fuel : Nat} {style : ScalarStyle}
  {declarations : List Declaration}

theorem read_flow_value {names : List String} {close : Kind} (closing : close ≠ .flowSequenceStart)
    (holds : input.Holds (.value :: (listKinds style names ++ kinds)))
    (enough : (listKinds style names).length + 1 < fuel) :
    ReadsTo (readFlowValue fuel close input) (Lists style names) kinds := by
  obtain ⟨fuel, rfl⟩ := Nat.exists_eq_add_one_of_ne_zero (Nat.ne_zero_of_lt enough)
  obtain ⟨start, stop, tokens, shape, inside⟩ := holds.cons
  have given : ({ input with tokens } : Input).isAt [.flowEntry, close] = false := by
    rw [Input.Holds.at_kind inside]
    simpa [Brackets.openingKind] using closing.symm
  simp only [readFlowValue, shape, given, Bool.false_eq_true, if_false]
  exact read_list inside (by omega)

theorem read_block_value {names : List String}
    (holds : input.Holds (.value :: (listKinds style names ++ kinds)))
    (enough : (listKinds style names).length + 1 < fuel) :
    ReadsTo (readBlockValue fuel input) (Lists style names) kinds := by
  obtain ⟨fuel, rfl⟩ := Nat.exists_eq_add_one_of_ne_zero (Nat.ne_zero_of_lt enough)
  obtain ⟨start, stop, tokens, shape, inside⟩ := holds.cons
  have given : ({ input with tokens } : Input).isAt [.key, .value, .blockEnd] = false :=
    Input.Holds.at_kind inside _
  simp only [readBlockValue, shape, given, Bool.false_eq_true, if_false]
  exact read_list inside (by omega)

theorem read_flow_entries (isFirst : Bool)
    (holds : input.Holds
      (groupKinds isFirst (declarations.map (entryKinds style)) ++ .flowMappingEnd :: kinds))
    (enough : (groupKinds isFirst (declarations.map (entryKinds style))).length + 1 < fuel) :
    ReadsTo (readFlowEntries fuel isFirst input) (List.Forall₂ (Declares style) declarations)
      kinds := by
  obtain ⟨fuel, rfl⟩ := Nat.exists_eq_add_one_of_ne_zero (Nat.ne_zero_of_lt enough)
  induction declarations generalizing isFirst input fuel with
  | nil =>
      obtain ⟨start, stop, tokens, shape, rest⟩ := Input.Holds.cons holds
      refine ⟨[], { input with tokens }, ?_, .nil, rest⟩
      simp [readFlowEntries, Input.Holds.at_kind holds, shape]
  | cons declaration declarations induction =>
      simp only [List.map_cons, groupKinds, entryKinds, List.append_assoc, List.cons_append,
        List.length_append, List.length_cons] at holds enough
      obtain ⟨accepted, there⟩ := at_group isFirst .flowMappingEnd holds
      obtain ⟨start, stop, tokens, shape, inside⟩ := there.cons
      have keyed : ({ (if (!isFirst && input.isAt [.flowEntry]) = true then input.drop else input)
          with tokens } : Input).isAt [.value, .flowEntry, .flowMappingEnd] = false :=
        Input.Holds.at_kind inside _
      have key : ReadsTo (readNode fuel .flow _) (Names style declaration.name) _ :=
        read_name inside (by omega)
      rw [readFlowEntries]
      simp only [accepted, shape, keyed, Bool.false_eq_true, if_false]
      refine key.and_then fun node named input behind => ?_
      have value : ReadsTo (readFlowValue fuel .flowMappingEnd input)
          (Lists style declaration.dependencies) _ := read_flow_value nofun behind (by omega)
      refine value.and_then fun value listed input behind => ?_
      obtain ⟨fuel, rfl⟩ := Nat.exists_eq_add_one_of_ne_zero (by omega : fuel ≠ 0)
      exact (induction false behind fuel (by omega)).map fun pairs all => .cons ⟨named, listed⟩ all

theorem read_block_entries
    (holds : input.Holds (declarations.flatMap (entryKinds style) ++ .blockEnd :: kinds))
    (enough : (declarations.flatMap (entryKinds style)).length + 1 < fuel) :
    ReadsTo (readBlockEntries fuel input) (List.Forall₂ (Declares style) declarations) kinds := by
  obtain ⟨fuel, rfl⟩ := Nat.exists_eq_add_one_of_ne_zero (Nat.ne_zero_of_lt enough)
  induction declarations generalizing input fuel with
  | nil =>
      obtain ⟨start, stop, tokens, shape, rest⟩ := Input.Holds.cons holds
      refine ⟨[], { input with tokens }, ?_, .nil, rest⟩
      simp [readBlockEntries, shape]
  | cons declaration declarations induction =>
      simp only [List.flatMap_cons, entryKinds, List.append_assoc, List.cons_append,
        List.length_append, List.length_cons] at holds enough
      obtain ⟨start, stop, tokens, shape, inside⟩ := holds.cons
      have keyed : ({ input with tokens } : Input).isAt [.key, .value, .blockEnd] = false :=
        Input.Holds.at_kind inside _
      have key : ReadsTo (readNode fuel .blockMember _) (Names style declaration.name) _ :=
        read_name inside (by omega)
      rw [readBlockEntries]
      simp only [shape, keyed, Bool.false_eq_true, if_false]
      refine key.and_then fun node named input behind => ?_
      refine (read_block_value behind (by omega)).and_then fun value listed input behind => ?_
      obtain ⟨fuel, rfl⟩ := Nat.exists_eq_add_one_of_ne_zero (by omega : fuel ≠ 0)
      exact (induction behind fuel (by omega)).map fun pairs all => .cons ⟨named, listed⟩ all

end

end TargetGraph.Yaml

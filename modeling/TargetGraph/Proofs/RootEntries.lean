import Mathlib.Data.List.Forall2
import TargetGraph.Yaml.Entries

/-!
# The entries of a root mapping

Reading the root mapping gives one entry for each pair of nodes, in the order in which the pairs are
written. Nothing is said here about which keys are equal: two keys that spell the same name are two
entries with the same string, whatever style, tag or alias they are spelled with.
-/

namespace TargetGraph.Yaml

set_option autoImplicit false

theorem forming_bind_ok {First Result : Type} {first : Forming First}
    {next : First → Forming Result} {before after : Nat} {result : Result}
    (run : (first >>= next).run before = .ok (result, after)) :
    ∃ value middle, first.run before = .ok (value, middle) ∧
      (next value).run middle = .ok (result, after) := by
  rw [StateT.run_bind] at run
  cases head : first.run before with
  | error error =>
      rw [head] at run
      cases run
  | ok reached =>
      rw [head] at run
      exact ⟨reached.1, reached.2, rfl, run⟩

/-- What a node of the root mapping stands for, whatever aliases were followed before it. -/
def Stands (anchors : Anchors) (path : Path) (node : Node) (value : Value) : Prop :=
  ∃ before after, (form anchors (depthLimit - 1) false path node).run before = .ok (value, after)

def Yields (anchors : Anchors) (pair : Node × Node) (entry : Value × Value) : Prop :=
  Stands anchors .root pair.1 entry.1 ∧ Stands anchors (Path.root.ofKey pair.1) pair.2 entry.2

theorem root_entries_yield (anchors : Anchors) (pairs : List (Node × Node))
    {entries : List (Value × Value)} {before after : Nat}
    (run : (formRootEntries anchors pairs).run before = .ok (entries, after)) :
    List.Forall₂ (Yields anchors) pairs entries := by
  induction pairs generalizing entries before with
  | nil =>
      cases run
      exact .nil
  | cons pair pairs induction =>
      obtain ⟨key, value⟩ := pair
      rw [formRootEntries] at run
      obtain ⟨keyValue, middle, keyFormed, run⟩ := forming_bind_ok run
      obtain ⟨formed, later, valueFormed, run⟩ := forming_bind_ok run
      obtain ⟨others, last, rest, run⟩ := forming_bind_ok run
      cases run
      exact .cons ⟨⟨_, _, keyFormed⟩, ⟨_, _, valueFormed⟩⟩ (induction rest)

theorem mapping_entries_yield {head : NodeHead} {pairs : List (Node × Node)} {ending : Ending}
    {entries : List (Value × Value)}
    (read : (FirstDocument.present (.mapping head pairs) ending).entries = .ok entries) :
    List.Forall₂ (Yields (.ofRoot (.mapping head pairs))) pairs entries := by
  rw [FirstDocument.entries, rootEntries] at read
  split at read
  · cases read
  · cases run : (formRootEntries (.ofRoot (.mapping head pairs)) pairs).run 0 with
    | error error =>
        rw [run] at read
        cases read
    | ok formed =>
        rw [run] at read
        cases ending with
        | closed =>
            cases read
            exact root_entries_yield _ pairs run
        | followed => cases read
        | broken fault => cases read

/-- A node that spells a string: a scalar of whatever style and tag, or an alias of one. A scalar
under a local tag does not, since its value is a tagged one. -/
inductive Spells (anchors : Anchors) (name : String) : Node → Prop where
  | scalar (head : NodeHead) (text : String) (style : ScalarStyle)
      (plainly : head.tag.bind localTag? = none)
      (read : Datum.ofScalar head.tag text style = .ok (.string name)) :
      Spells anchors name (.scalar head text style)
  | repeats (slot : Nat) (head : NodeHead) (text : String) (style : ScalarStyle)
      (found : anchors.find? slot = some (.scalar head text style))
      (plainly : head.tag.bind localTag? = none)
      (read : Datum.ofScalar head.tag text style = .ok (.string name)) :
      Spells anchors name (.aliasOf slot)

theorem form_tagged_string (inner : Option Former) (path : Path) (head : NodeHead) (text : String)
    (style : ScalarStyle) {name : String} (plainly : head.tag.bind localTag? = none)
    (read : Datum.ofScalar head.tag text style = .ok (.string name)) :
    formTagged inner false path (.scalar head text style) = pure (.string name) := by
  have scalar : formScalar head head.tag text style path = pure (.string name) := by
    rw [formScalar, read]
    rfl
  simp [formTagged, Node.head?, NodeHead.effectiveTag, plainly, formContent, scalar]

theorem follow_alias_ok {anchors : Anchors} {slot before after : Nat} {node : Node}
    (run : (followAlias anchors slot).run before = .ok (node, after)) :
    anchors.find? slot = some node := by
  rw [followAlias] at run
  obtain ⟨count, _, _, run⟩ := forming_bind_ok run
  obtain ⟨_, _, _, run⟩ := forming_bind_ok run
  by_cases spent : anchors.limit < count + 1
  · rw [if_pos spent] at run
    obtain ⟨_, _, thrown, _⟩ := forming_bind_ok run
    cases thrown
  · rw [if_neg spent] at run
    cases target : anchors.find? slot with
    | none =>
        rw [target] at run
        cases run
    | some found =>
        rw [target] at run
        cases run
        rfl

theorem spelled_stands {anchors : Anchors} {path : Path} {node : Node} {name : String}
    {value : Value} (spelled : Spells anchors name node) (stands : Stands anchors path node value) :
    value = .string name := by
  obtain ⟨before, after, run⟩ := stands
  cases spelled with
  | scalar head text style plainly read =>
      have formed : form anchors (depthLimit - 1) false path (.scalar head text style) =
          pure (.string name) := form_tagged_string _ path head text style plainly read
      rw [formed] at run
      cases run
      rfl
  | repeats slot head text style found plainly read =>
      change (followAlias anchors slot >>= formTagged _ false path.repeated).run before = _ at run
      obtain ⟨target, middle, followed, run⟩ := forming_bind_ok run
      have same := (follow_alias_ok followed).symm.trans found
      cases same
      rw [form_tagged_string _ _ head text style plainly read] at run
      cases run
      rfl

def keysOf (entries : List (Value × Value)) : List Value := entries.map Prod.fst

def SpelledTwice (anchors : Anchors) (pairs : List (Node × Node)) : Prop :=
  ∃ first second : Nat, first < second ∧ ∃ one other name, pairs[first]? = some one ∧
    pairs[second]? = some other ∧ Spells anchors name one.1 ∧ Spells anchors name other.1

theorem spelled_key {anchors : Anchors} {pairs : List (Node × Node)}
    {entries : List (Value × Value)} (yielded : List.Forall₂ (Yields anchors) pairs entries)
    {position : Nat} {pair : Node × Node} {name : String} (placed : pairs[position]? = some pair)
    (spelled : Spells anchors name pair.1) : (keysOf entries)[position]? = some (.string name) := by
  induction yielded generalizing position with
  | nil => simp at placed
  | cons yields _ induction =>
      cases position with
      | zero =>
          cases placed
          exact congrArg some (spelled_stands spelled yields.1)
      | succ position => exact induction placed

theorem spelled_twice_repeats {anchors : Anchors} {pairs : List (Node × Node)}
    {entries : List (Value × Value)} (yielded : List.Forall₂ (Yields anchors) pairs entries)
    (twice : SpelledTwice anchors pairs) : ¬ (keysOf entries).Nodup := by
  intro distinct
  obtain ⟨first, second, before, one, other, name, onePlaced, otherPlaced, oneSpelled,
    otherSpelled⟩ := twice
  have early := spelled_key yielded onePlaced oneSpelled
  have late := spelled_key yielded otherPlaced otherSpelled
  have inside : first < (keysOf entries).length := (List.getElem?_eq_some_iff.mp early).1
  exact Nat.ne_of_lt before ((List.getElem?_inj inside distinct).mp (early.trans late.symm))

end TargetGraph.Yaml

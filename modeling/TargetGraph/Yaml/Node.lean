import TargetGraph.Yaml.Fault
import TargetGraph.Yaml.Token

/-!
The nodes of a YAML document. A text that breaks off still has a tree: what was read before the fault,
with the break as a leaf in the place where reading stopped.
-/
set_option autoImplicit false

namespace TargetGraph.Yaml

inductive Break where
  | fault (fault : Fault)
  | unknownAnchor (mark : Mark)
  | unread
deriving DecidableEq, Repr

structure NodeHead where
  mark : Mark
  tag : Option Octets
  anchor : Option Nat
deriving DecidableEq, Repr

def NodeHead.bare (mark : Mark) : NodeHead := ⟨mark, none, none⟩

/-- An alias names a slot; the last node with that slot is the one it repeats. -/
inductive Node where
  | scalar (head : NodeHead) (text : String) (style : ScalarStyle)
  | sequence (head : NodeHead) (items : List Node)
  | mapping (head : NodeHead) (entries : List (Node × Node))
  | aliasOf (slot : Nat)
  | broken (cause : Break)
deriving Repr

namespace Node

def absent (mark : Mark) : Node := .scalar (.bare mark) "" .plain

def unread : Node := .broken .unread

mutual

def isWhole : Node → Bool
  | scalar .. => true
  | aliasOf _ => true
  | broken _ => false
  | sequence _ items => areWhole items
  | mapping _ entries => entriesAreWhole entries

def areWhole : List Node → Bool
  | [] => true
  | item :: rest => isWhole item && areWhole rest

def entriesAreWhole : List (Node × Node) → Bool
  | [] => true
  | (key, value) :: rest => isWhole key && isWhole value && entriesAreWhole rest

end

mutual

/-- How many steps it takes to tell a node: one for each scalar and alias, one for the start of a
collection and one for its end. -/
def weight : Node → Nat
  | scalar .. => 1
  | aliasOf _ => 1
  | broken _ => 0
  | sequence _ items => 1 + weights items + if areWhole items then 1 else 0
  | mapping _ entries => 1 + entryWeights entries + if entriesAreWhole entries then 1 else 0

def weights : List Node → Nat
  | [] => 0
  | item :: rest => weight item + weights rest

def entryWeights : List (Node × Node) → Nat
  | [] => 0
  | (key, value) :: rest => weight key + weight value + entryWeights rest

end

def head? : Node → Option NodeHead
  | scalar head .. => some head
  | sequence head _ => some head
  | mapping head _ => some head
  | aliasOf _ => none
  | broken _ => none

def ownSlot (node : Node) : List (Nat × Node) :=
  match node.head?.bind NodeHead.anchor with
  | some slot => [(slot, node)]
  | none => []

mutual

def anchored : Node → List (Nat × Node)
  | scalar head text style => ownSlot (scalar head text style)
  | aliasOf _ => []
  | broken _ => []
  | sequence head items => ownSlot (sequence head items) ++ anchoredItems items
  | mapping head entries => ownSlot (mapping head entries) ++ anchoredEntries entries

def anchoredItems : List Node → List (Nat × Node)
  | [] => []
  | item :: rest => anchored item ++ anchoredItems rest

def anchoredEntries : List (Node × Node) → List (Nat × Node)
  | [] => []
  | (key, value) :: rest => anchored key ++ anchored value ++ anchoredEntries rest

end

end Node

end TargetGraph.Yaml

/-!
Declarations of targets, and the targets that a graph makes of them. A document whose shape has been
checked keeps two declarations of one name, because only a graph refuses them. A target's identifier is a
32-bit word that doubles as a position in the list of targets; the largest word is kept back and never
assigned.
-/
set_option autoImplicit false

namespace TargetGraph

structure Declaration where
  name : String
  dependencies : List String
deriving DecidableEq, Repr, Inhabited

structure Document where
  declarations : List Declaration
deriving DecidableEq, Repr, Inhabited

namespace Document

def empty : Document := ⟨[]⟩

def size (document : Document) : Nat := document.declarations.length

def isEmpty (document : Document) : Bool := document.declarations.isEmpty

def names (document : Document) : List String := document.declarations.map Declaration.name

end Document

/-- A target's number within its graph, counted from 0 in declaration order. -/
structure TargetId where
  raw : UInt32
deriving DecidableEq, Repr, Inhabited

namespace TargetId

/-- The identifier that no target ever has. -/
def unassigned : TargetId := ⟨0xFFFFFFFF⟩

/-- No identifier belongs to a position that would collide with `unassigned` or lie beyond it. -/
def ofIndex? (index : Nat) : Option TargetId :=
  if index < 0xFFFFFFFF then some ⟨UInt32.ofNat index⟩ else none

def index (id : TargetId) : Nat := id.raw.toNat

def isUnassigned (id : TargetId) : Bool := id = unassigned

def compare (left right : TargetId) : Ordering := Ord.compare left.raw.toNat right.raw.toNat

def display (id : TargetId) : String :=
  if id.isUnassigned then "<none>" else toString id.index

/-- The identifier that belongs to a position. Positions that `ofIndex?` accepts keep their number. -/
def ofPosition (position : Nat) : TargetId := ⟨UInt32.ofNat position⟩

theorem of_index_below (position : Nat) (below : position < 0xFFFFFFFF) :
    ofIndex? position = some (ofPosition position) := by
  rw [ofIndex?, if_pos below]
  rfl

theorem of_index_beyond (position : Nat) (beyond : 0xFFFFFFFF ≤ position) :
    ofIndex? position = none := by
  rw [ofIndex?, if_neg (Nat.not_lt.mpr beyond)]

theorem of_position_index (position : Nat) (below : position < 0xFFFFFFFF) :
    (ofPosition position).index = position := by
  have word : position < 0x100000000 := by omega
  simp only [ofPosition, index, UInt32.toNat_ofNat']
  exact Nat.mod_eq_of_lt word

theorem of_position_of_index (id : TargetId) : ofPosition id.index = id :=
  congrArg TargetId.mk UInt32.ofNat_toNat

theorem of_position_assigned (position : Nat) (below : position < 0xFFFFFFFF) :
    (ofPosition position).isUnassigned = false := by
  have number := of_position_index position below
  rw [isUnassigned, decide_eq_false_iff_not]
  intro same
  rw [same] at number
  have largest : unassigned.index = 0xFFFFFFFF := rfl
  omega

theorem assigned_below {id : TargetId} (below : id.index < 0xFFFFFFFF) : id.isUnassigned = false := by
  rw [← of_position_of_index id]
  exact of_position_assigned id.index below

theorem display_below {id : TargetId} (below : id.index < 0xFFFFFFFF) :
    id.display = toString id.index := by
  rw [display, assigned_below below]
  rfl

end TargetId

structure Target where
  id : TargetId
  name : String
  dependencies : List TargetId
deriving DecidableEq, Repr, Inhabited

end TargetGraph

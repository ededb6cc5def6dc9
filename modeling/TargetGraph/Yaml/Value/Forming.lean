import TargetGraph.Text.Utf8
import TargetGraph.Yaml.Error

/-!
Forming values from nodes. This follows the order in which the nodes were written, so that the first
thing wrong with a text is the one that is reported.
-/
set_option autoImplicit false

namespace TargetGraph.Yaml

/-- How many collections may enclose each other, the root included. -/
def depthLimit : Nat := 128

/-- How many aliases may be followed for each step of telling the document. -/
def aliasesPerStep : Nat := 100

structure Anchors where
  nodes : List (Nat × Node)
  limit : Nat
deriving Repr

namespace Anchors

def ofRoot (root : Node) : Anchors := ⟨root.anchored.reverse, aliasesPerStep * root.weight⟩

def find? (anchors : Anchors) (slot : Nat) : Option Node := anchors.nodes.lookup slot

end Anchors

abbrev Forming := StateT Nat (Except Error)

def Break.error : Break → Error
  | .fault cause => .malformed cause
  | .unknownAnchor mark => .unknownAnchor mark
  | .unread => .malformed .contentExpected

/-- The name that a local tag gives a value. A local tag starts with an exclamation mark, which is not
part of the name unless it is all there is. -/
def localTag? (tag : Octets) : Option String :=
  match tag with
  | 0x21 :: [] => some "!"
  | 0x21 :: name => (Text.Utf8.decode? name).map String.ofList
  | _ => none

def numbered (items : List Node) : List (Nat × Node) := (List.range items.length).zip items

def Path.ofKey (parent : Path) : Node → Path
  | .scalar _ text _ => .member parent text
  | _ => .unnamed parent

/-- A tag that was used up by an enclosing step is not looked at again. -/
def NodeHead.effectiveTag (head : NodeHead) (isTagged : Bool) : Option Octets :=
  if isTagged then none else head.tag

def followAlias (anchors : Anchors) (slot : Nat) : Forming Node := do
  let count ← get
  set (count + 1)
  if anchors.limit < count + 1 then throw .tooManyAliases
  match anchors.find? slot with
  | some node => pure node
  | none => throw (.malformed .contentExpected)

/-- Adds the entries of a mapping one after the other. A key is compared with those before it as soon
as it is formed, before its value is. -/
def formEntries (formKey formValue : Path → Node → Forming Value) (head : NodeHead) (path : Path) :
    List (Node × Node) → List (Value × Value) → Forming (List (Value × Value))
  | [], formed => pure formed
  | (key, value) :: rest, formed => do
    let keyValue ← formKey path key
    match formed.find? fun entry => entry.1.same keyValue with
    | some (first, _) => throw (.unsuitable (.repeatedKey first) head.mark path)
    | none =>
      let value ← formValue (path.ofKey key) value
      formEntries formKey formValue head path rest (formed ++ [(keyValue, value)])

def Datum.value? : Datum → Option Value
  | null => some .null
  | boolean value => some (.boolean value)
  | integer value => if isNarrow value then some (.number (.integer value)) else none
  | float value => some (.number (.float value))
  | string value => some (.string value)

def formScalar (head : NodeHead) (tag : Option Octets) (text : String) (style : ScalarStyle)
    (path : Path) : Forming Value :=
  let refuse (complaint : Complaint) : Forming Value :=
    throw (.unsuitable complaint head.mark path)
  match Datum.ofScalar tag text style with
  | .error type => refuse (.notOfType text type)
  | .ok datum =>
    match datum.value? with
    | some value => pure value
    | none => refuse (.wrongType (.datum datum) .anyValue)

/-- Forms the node below a collection: whether a tag of an enclosing step has been used up, the node's
path and the node. -/
abbrev Former := Bool → Path → Node → Forming Value

/-- Forms the content of a node whose local tag has been taken off. Without a former for what is inside
of collections there is no level left for them. -/
def formContent (inner : Option Former) (isTagged : Bool) (tag : Option Octets) (path : Path) :
    Node → Forming Value
  | .broken cause => throw cause.error
  | .aliasOf _ => throw (.malformed .contentExpected)
  | .scalar head text style => formScalar head tag text style path
  | .sequence head items =>
    match inner with
    | none => throw (.tooDeep head.mark)
    | some inner => do
      let values ← (numbered items).mapM fun (index, item) => inner false (.item path index) item
      pure (.sequence values)
  | .mapping head entries =>
    match inner with
    | none => throw (.tooDeep head.mark)
    | some inner => do
      let values ← formEntries (inner isTagged) (inner false) head path entries []
      pure (.mapping values)

def formTagged (inner : Option Former) (isTagged : Bool) (path : Path) (node : Node) :
    Forming Value := do
  let tag := node.head?.bind fun head => head.effectiveTag isTagged
  let name := tag.bind localTag?
  let isTagged := isTagged || name.isSome
  let tag := if isTagged then none else tag
  let value ← formContent inner isTagged tag path node
  pure ((name.map fun name => Value.tagged name value).getD value)

/-- Forms a node or what it is an alias of. An alias of an alias is not followed further. -/
def formStep (anchors : Anchors) (inner : Option Former) : Former
  | _, path, .aliasOf slot => do
    let target ← followAlias anchors slot
    formTagged inner false (.repeated path) target
  | isTagged, path, node => formTagged inner isTagged path node

/-- Forms a node's value, with so many levels of collections left below. The flag tells that a tag of
an enclosing step has been used up; then the node's own tag is not looked at, nor those of the keys
directly inside of it. -/
def form (anchors : Anchors) : Nat → Former
  | 0 => formStep anchors none
  | depth + 1 => formStep anchors (some (form anchors depth))

end TargetGraph.Yaml

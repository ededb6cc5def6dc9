import TargetGraph.Yaml.FirstDocument
import TargetGraph.Yaml.Value.Forming

/-!
The entries of a document whose root is a mapping. Entries of the root keep repeated keys, while a
mapping inside of it may not have two equal ones.
-/
set_option autoImplicit false

namespace TargetGraph.Yaml

def formRootEntries (anchors : Anchors) : List (Node × Node) → Forming (List (Value × Value))
  | [] => pure []
  | (key, value) :: rest => do
    let keyValue ← form anchors (depthLimit - 1) false .root key
    let value ← form anchors (depthLimit - 1) false (Path.root.ofKey key) value
    let entries ← formRootEntries anchors rest
    pure ((keyValue, value) :: entries)

/-- The entries of a root node. A root that is null has none, and no other scalar or list will do. -/
def rootEntries (root : Node) : Except Error (List (Value × Value)) :=
  let refuse (head : NodeHead) (complaint : Complaint) : Except Error (List (Value × Value)) :=
    .error (.unsuitable complaint head.mark .root)
  let isLocal (head : NodeHead) : Bool := (head.tag.bind localTag?).isSome
  match root with
  | .broken cause => .error cause.error
  | .aliasOf _ => .error (.malformed .contentExpected)
  | .scalar head text style =>
    if isLocal head then refuse head (.wrongType .tagged .document)
    else
      match Datum.ofScalar head.tag text style with
      | .ok .null => .ok []
      | .ok datum => refuse head (.wrongType (.datum datum) .document)
      | .error type => refuse head (.notOfType text type)
  | .sequence head _ =>
    refuse head (.wrongType (if isLocal head then .tagged else .sequence) .document)
  | .mapping head entries =>
    if isLocal head then refuse head (.wrongType .tagged .document)
    else ((formRootEntries (.ofRoot root) entries).run 0).map Prod.fst

/-- The entries of the only document of a stream. What is wrong inside the document is reported before
what is wrong behind it. A stream without a document has no entries. -/
def FirstDocument.entries : FirstDocument → Except Error (List (Value × Value))
  | .absent => .ok []
  | .present root ending => do
    let entries ← rootEntries root
    match ending with
    | .closed => .ok entries
    | .followed => .error .severalDocuments
    | .broken fault => .error (.malformed fault)

def entriesOfText (text : List Char) : Except Error (List (Value × Value)) :=
  (FirstDocument.ofText text).entries

end TargetGraph.Yaml

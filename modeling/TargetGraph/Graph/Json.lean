import TargetGraph.Graph.Query
import TargetGraph.Json.Read

/-!
The JSON views of documents, targets and graphs, with the members of each record in the order in
which the record lists them. The view of a graph can be read back: the records of its targets, each with
exactly the members that are written, and the declarations that such records come from.
-/
set_option autoImplicit false

namespace TargetGraph

def Declaration.toJson (declaration : Declaration) : Json :=
  .object [("name", .string declaration.name),
    ("dependencies", .array (declaration.dependencies.map .string))]

def Document.toJson (document : Document) : Json :=
  .object [("targets", .array (document.declarations.map Declaration.toJson))]

/-- An identifier is its number, the unassigned one included. -/
def TargetId.toJson (id : TargetId) : Json := .number id.index

def Target.toJson (target : Target) : Json :=
  .object [("id", target.id.toJson), ("name", .string target.name),
    ("dependencies", .array (target.dependencies.map TargetId.toJson))]

def targetsToJson (targets : List Target) : Json := .array (targets.map Target.toJson)

def Graph.toJson (graph : Graph) : Json := targetsToJson graph.targets

def TargetId.ofJson? : Json → Option TargetId
  | .number value => if value < 0x100000000 then some (ofPosition value) else none
  | _ => none

def Target.ofJson? : Json → Option Target
  | .object [("id", number), ("name", .string name), ("dependencies", .array numbers)] => do
    let id ← TargetId.ofJson? number
    let dependencies ← numbers.mapM TargetId.ofJson?
    some ⟨id, name, dependencies⟩
  | _ => none

def targetsOfJson? : Json → Option (List Target)
  | .array records => records.mapM Target.ofJson?
  | _ => none

def targetsOfText? (text : String) : Option (List Target) := do
  let records ← Json.read? text
  targetsOfJson? records

/-- The record that has an identifier gives its name to whatever depends on it. -/
def Target.declared? (records : List Target) (record : Target) : Option Declaration := do
  let dependencies ← record.dependencies.mapM fun id =>
    (records.find? fun other => other.id = id).map Target.name
  some ⟨record.name, dependencies⟩

def declarationsOf? (records : List Target) : Option (List Declaration) :=
  records.mapM (Target.declared? records)

end TargetGraph

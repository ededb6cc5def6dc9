import TargetGraph.Target
import TargetGraph.Yaml.Value

/-!
The shape of a target document: each entry has a string as its key and a list of strings as its value,
none of them empty. The first entry that is not so is reported, its key before its value and its value
before the items.
-/
set_option autoImplicit false

namespace TargetGraph

open Yaml (Value)

/-- What is wrong with an entry. Entries are counted from 0, and so are the items of a list. -/
inductive ShapeFault where
  | emptyTarget (entry : Nat)
  | targetKind (entry : Nat) (found : Value)
  | notAList (target : String) (found : Value)
  | emptyDependency (target : String) (item : Nat)
  | dependencyKind (target : String) (item : Nat) (found : Value)
deriving Repr

namespace ShapeFault

def target? : ShapeFault → Option String
  | emptyTarget _ => none
  | targetKind .. => none
  | notAList target _ => some target
  | emptyDependency target _ => some target
  | dependencyKind target .. => some target

def detail : ShapeFault → String
  | emptyTarget entry => s!"entry {entry} has an empty target name"
  | targetKind entry found =>
    s!"entry {entry} has {found.kind} as its target name, expected a string"
  | notAList _ found => s!"expected a list of dependency names, found {found.kind}"
  | emptyDependency _ item => s!"dependency {item} is an empty name"
  | dependencyKind _ item found => s!"dependency {item} is {found.kind}, expected a string"

end ShapeFault

def targetName (entry : Nat) : Value → Except ShapeFault String
  | .string name => if name = "" then .error (.emptyTarget entry) else .ok name
  | found => .error (.targetKind entry found)

def dependencyNames (target : String) : Nat → List Value → Except ShapeFault (List String)
  | _, [] => .ok []
  | item, .string name :: rest =>
    if name = "" then .error (.emptyDependency target item)
    else (dependencyNames target (item + 1) rest).map (name :: ·)
  | item, found :: _ => .error (.dependencyKind target item found)

def Declaration.ofEntry (entry : Nat) (key value : Value) : Except ShapeFault Declaration := do
  let name ← targetName entry key
  match value with
  | .sequence items => do
    let dependencies ← dependencyNames name 0 items
    .ok ⟨name, dependencies⟩
  | found => .error (.notAList name found)

def declarationsFrom : Nat → List (Value × Value) → Except ShapeFault (List Declaration)
  | _, [] => .ok []
  | entry, (key, value) :: rest => do
    let declaration ← Declaration.ofEntry entry key value
    let declarations ← declarationsFrom (entry + 1) rest
    .ok (declaration :: declarations)

def Document.ofEntries (entries : List (Value × Value)) : Except ShapeFault Document :=
  (declarationsFrom 0 entries).map Document.mk

end TargetGraph

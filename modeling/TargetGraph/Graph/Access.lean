import TargetGraph.Graph.Session

/-!
Queries as they reach into the list of targets. An identifier is followed without a check wherever it
comes from the name index or from an edge, and where an element is asked for. Following one that has no
target breaks the program off.
-/
set_option autoImplicit false

namespace TargetGraph

structure OutOfBounds where
  position : Nat
  length : Nat
deriving DecidableEq, Repr

/-- A computation that is broken off when it reaches outside of a list. -/
abbrev Access := Except OutOfBounds

namespace Graph

def access (graph : Graph) (id : TargetId) : Access Target :=
  match graph.target? id with
  | some target => .ok target
  | none => .error ⟨id.index, graph.size⟩

def accessAll (graph : Graph) (ids : List TargetId) : Access (List Target) := ids.mapM graph.access

def accessByName (graph : Graph) (name : String) : Access (Option Target) :=
  match graph.index.find? name with
  | some id => do
    let target ← graph.access id
    .ok (some target)
  | none => .ok none

/-- The owner is looked up with a check, its dependencies are not. -/
def accessDependencies (graph : Graph) (id : TargetId) : Access (Except GraphError (List Target)) :=
  match graph.targetById id with
  | .ok target => do
    let targets ← graph.accessAll target.dependencies
    .ok (.ok targets)
  | .error error => .ok (.error error)

def accessTopLevel (graph : Graph) : Access (Option (List Target)) :=
  match graph.targets.find? fun target => target.name = rootName with
  | some root => do
    let targets ← graph.accessAll root.dependencies
    .ok (some targets)
  | none => .ok none

def attempt (graph : Graph) : Operation → Access (Answer × Graph)
  | .ask (.targetByName name) => do
    let found ← graph.accessByName name
    .ok (.named found, graph)
  | .ask (.dependenciesOf id) => do
    let outcome ← graph.accessDependencies id
    .ok (.several outcome, graph)
  | .ask (.element id) => do
    let target ← graph.access id
    .ok (.element target, graph)
  | .ask .topLevel => do
    let found ← graph.accessTopLevel
    .ok (.listing found, graph)
  | operation => .ok (graph.perform operation)

end Graph

end TargetGraph

import TargetGraph.Graph

/-!
Reading a graph: by identifier, by name, along dependencies, and from the root that documents use
by convention.
-/
set_option autoImplicit false

namespace TargetGraph

/-- The name of the target whose dependencies are the top-level targets. -/
def rootName : String := "DOCUMENT"

namespace Graph

/-- The target at an identifier's position, without a check: `none` where there is no such target. -/
def target? (graph : Graph) (id : TargetId) : Option Target := graph.targets[id.index]?

def targetById (graph : Graph) (id : TargetId) : Except GraphError Target :=
  if id.isUnassigned then .error (.outOfRange id graph.size)
  else
    match graph.target? id with
    | some target => .ok target
    | none => .error (.outOfRange id graph.size)

def targetByName (graph : Graph) (name : String) : Option Target :=
  (graph.index.find? name).bind graph.target?

/-- The targets at the given identifiers, in that order. Identifiers stored in a loaded graph all
have one. -/
def resolve (graph : Graph) (ids : List TargetId) : List Target := ids.filterMap graph.target?

def dependenciesOf (graph : Graph) (id : TargetId) : Except GraphError (List Target) :=
  (graph.targetById id).map fun target => graph.resolve target.dependencies

/-- Absent when no target has the root's name, which is no error. -/
def topLevel (graph : Graph) : Option (List Target) :=
  (graph.targets.find? fun target => target.name = rootName).map fun root =>
    graph.resolve root.dependencies

def dependencyNames (graph : Graph) (target : Target) : List String :=
  (graph.resolve target.dependencies).map Target.name

end Graph

end TargetGraph

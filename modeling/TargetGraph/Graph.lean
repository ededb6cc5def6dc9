import TargetGraph.Log

/-!
The graph of a document's targets. Edges are identifiers, so targets may depend on later ones, on
themselves and on each other. A graph is filled once, by `load`; a load that fails leaves the graph
as it was.
-/
set_option autoImplicit false

namespace TargetGraph

structure NameIndex where
  pairs : List (String × TargetId)
deriving DecidableEq, Repr, Inhabited

namespace NameIndex

def empty : NameIndex := ⟨[]⟩

def find? (index : NameIndex) (name : String) : Option TargetId := index.pairs.lookup name

def insert (index : NameIndex) (name : String) (id : TargetId) : NameIndex :=
  ⟨(name, id) :: index.pairs⟩

theorem find?_empty (name : String) : empty.find? name = none := rfl

theorem find?_insert (index : NameIndex) (name other : String) (id : TargetId) :
    (index.insert name id).find? other = if other = name then some id else index.find? other := by
  by_cases same : other = name
  · simp [find?, insert, same]
  · simp [find?, insert, List.lookup_cons, same, beq_false_of_ne same]

end NameIndex

inductive GraphError where
  | duplicateTarget (name : String) (first : TargetId)
  | unresolvedDependency (target dependency : String)
  | outOfRange (id : TargetId) (size : Nat)
  | tooManyTargets (count : Nat)
  | alreadyLoaded
deriving DecidableEq, Repr

def GraphError.message : GraphError → String
  | duplicateTarget name first =>
    s!"target '{name}' is declared more than once (first declared with id {first.display})"
  | unresolvedDependency target dependency =>
    s!"target '{target}' depends on undeclared target '{dependency}'"
  | outOfRange id size => s!"target id {id.display} is out of range (graph has {size} targets)"
  | tooManyTargets count => s!"too many targets: {count} exceeds the id space"
  | alreadyLoaded => "graph is already loaded"

inductive GraphState where
  | empty | loaded
deriving DecidableEq, Repr, Inhabited

def GraphState.name : GraphState → String
  | empty => "empty"
  | loaded => "loaded"

structure Graph where
  targets : List Target
  index : NameIndex
  state : GraphState
deriving DecidableEq, Repr, Inhabited

namespace Graph

def empty : Graph := ⟨[], .empty, .empty⟩

def size (graph : Graph) : Nat := graph.targets.length

def isEmpty (graph : Graph) : Bool := graph.targets.isEmpty

def names (graph : Graph) : List String := graph.targets.map Target.name

/-- Gives each declared name the next identifier. Stops at the first name that is taken. The
total is what a document too long for the identifiers is reported with. -/
def registerFrom (total : Nat) : Nat → NameIndex → List Declaration →
    Except GraphError (List Target × NameIndex)
  | _, index, [] => .ok ([], index)
  | position, index, declaration :: rest =>
    match TargetId.ofIndex? position with
    | none => .error (.tooManyTargets total)
    | some id =>
      match index.find? declaration.name with
      | some first => .error (.duplicateTarget declaration.name first)
      | none =>
        match registerFrom total (position + 1) (index.insert declaration.name id) rest with
        | .error error => .error error
        | .ok (targets, index) => .ok (⟨id, declaration.name, []⟩ :: targets, index)

def register (declarations : List Declaration) : Except GraphError (List Target × NameIndex) :=
  registerFrom declarations.length 0 .empty declarations

def resolveNames (index : NameIndex) (owner : String) :
    List String → Traced GraphError (List TargetId)
  | [] => .ok []
  | dependency :: rest =>
    match index.find? dependency with
    | none => .fail (.unresolvedDependency owner dependency)
    | some id => do
      Traced.emit (.resolved owner dependency id)
      let ids ← resolveNames index owner rest
      .ok (id :: ids)

def connect (index : NameIndex) : List (Target × Declaration) → Traced GraphError (List Target)
  | [] => .ok []
  | (target, declaration) :: rest => do
    let dependencies ← resolveNames index declaration.name declaration.dependencies
    let targets ← connect index rest
    .ok ({ target with dependencies } :: targets)

def edgeCount (targets : List Target) : Nat :=
  targets.foldl (fun count target => count + target.dependencies.length) 0

/-- Registers all names before it resolves any, so that declaration order does not restrict what a
target may depend on. -/
def build (declarations : List Declaration) : Traced GraphError Graph := do
  let (registered, index) ← Traced.ofExcept (register declarations)
  Traced.emit (.registered registered.length)
  let targets ← connect index (registered.zip declarations)
  Traced.emit (.connected (edgeCount targets))
  .ok ⟨targets, index, .loaded⟩

def load (graph : Graph) (declarations : List Declaration) : Traced GraphError Graph :=
  match graph.state with
  | .loaded => .fail .alreadyLoaded
  | .empty => build declarations

def ofDocument (document : Document) : Traced GraphError Graph :=
  empty.load document.declarations

end Graph

end TargetGraph

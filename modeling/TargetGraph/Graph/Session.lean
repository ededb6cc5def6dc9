import TargetGraph.Graph.Json

/-!
What can be done with one graph over its life: loads, which change it, and queries, which do not. A load
works on the graph itself. It writes the fields one after the other, so that a failure keeps whatever was
written before it.
-/
set_option autoImplicit false

namespace TargetGraph

inductive Query where
  | targetById (id : TargetId)
  | targetByName (name : String)
  | dependenciesOf (id : TargetId)
  | element (id : TargetId)
  | topLevel
  | allTargets
  | names
  | size
  | isEmpty
  | state
  | compactJson
  | prettyJson
deriving Repr

inductive Operation where
  | load (declarations : List Declaration)
  | ask (query : Query)
deriving Repr

/-- What an operation answers. An element that is not there is no error but a broken program. -/
inductive Answer where
  | loading (outcome : Except GraphError Unit)
  | lookup (outcome : Except GraphError Target)
  | named (found : Option Target)
  | element (found : Option Target)
  | several (outcome : Except GraphError (List Target))
  | listing (found : Option (List Target))
  | names (names : List String)
  | count (value : Nat)
  | flag (value : Bool)
  | lifecycle (state : GraphState)
  | text (text : String)

namespace Graph

def answer (graph : Graph) : Query → Answer
  | .targetById id => .lookup (graph.targetById id)
  | .targetByName name => .named (graph.targetByName name)
  | .dependenciesOf id => .several (graph.dependenciesOf id)
  | .element id => .element (graph.target? id)
  | .topLevel => .listing graph.topLevel
  | .allTargets => .listing graph.targets
  | .names => .names graph.names
  | .size => .count graph.size
  | .isEmpty => .flag graph.isEmpty
  | .state => .lifecycle graph.state
  | .compactJson => .text graph.toJson.compact
  | .prettyJson => .text graph.toJson.pretty

/-- A change of one graph that may break off. What it has written by then stays. -/
abbrev Change := ExceptT GraphError (StateM Graph)

def Change.on {α : Type} (change : Change α) (graph : Graph) : Except GraphError α × Graph :=
  change.run.run graph

/-- Both passes work on values of their own; the graph is written last. -/
def loadInPlace (declarations : List Declaration) : Change Unit := do
  let graph ← get
  if graph.state = .loaded then throw .alreadyLoaded
  let (registered, index) ← MonadExcept.ofExcept (register declarations)
  let targets ← MonadExcept.ofExcept (connect index (registered.zip declarations)).outcome
  modify fun graph => { graph with targets }
  modify fun graph => { graph with index }
  modify fun graph => { graph with state := .loaded }

def perform (graph : Graph) : Operation → Answer × Graph
  | .load declarations =>
    let (outcome, after) := Change.on (loadInPlace declarations) graph
    (.loading outcome, after)
  | .ask query => (graph.answer query, graph)

def run : Graph → List Operation → List Answer × Graph
  | graph, [] => ([], graph)
  | graph, operation :: rest =>
    let (answer, next) := graph.perform operation
    let (answers, last) := next.run rest
    (answer :: answers, last)

end Graph

end TargetGraph

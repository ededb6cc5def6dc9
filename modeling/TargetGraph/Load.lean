import TargetGraph.Document.Read
import TargetGraph.Graph

/-!
From a source to a graph in one step: the document is read, and the graph is built from it.
-/
set_option autoImplicit false

namespace TargetGraph

inductive LoadError where
  | document (error : DocumentError)
  | graph (error : GraphError)
deriving Repr

namespace LoadError

/-- A load says nothing of its own. -/
def message : LoadError → String
  | document error => error.message
  | graph error => error.message

def cause? : LoadError → Option String
  | document error => error.cause?
  | graph _ => none

end LoadError

namespace Graph

def ofReading (reading : Traced DocumentError Document) : Traced LoadError Graph := do
  let document ← reading.mapError .document
  (ofDocument document).mapError .graph

def ofText (text : String) : Traced LoadError Graph := ofReading (Document.ofText text)

def ofStream (stream : ByteStream) : Traced LoadError Graph := ofReading (Document.ofStream stream)

def ofPath (files : Files) (path : String) : Traced LoadError Graph :=
  ofReading (Document.ofPath files path)

end Graph

end TargetGraph

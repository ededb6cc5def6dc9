import TargetGraph.Graph.Query
import TargetGraph.Load

/-!
What a command can do while it runs: write to its two outputs, one line at a time, and stop. What was
written before a stop stays written.
-/
set_option autoImplicit false

namespace TargetGraph.Command

inductive Failure where
  | load (file : String) (error : LoadError)
  | noSuchTarget (reference : String)
deriving Repr

namespace Failure

def chain : Failure → List String
  | load file error =>
    [s!"Failed to load target document: {file}", error.message] ++ error.cause?.toList
  | noSuchTarget reference => [s!"No target with id or name '{reference}'"]

def message (failure : Failure) : String := ": ".intercalate failure.chain

end Failure

/-- A command stops when it fails, and when it takes an element that is not there. -/
inductive Stop where
  | failed (failure : Failure)
  | panicked
deriving Repr

structure Console where
  output : List String
  errors : List String
deriving DecidableEq, Repr

namespace Console

def blank : Console := ⟨[], []⟩

def printed (console : Console) (lines : List String) : Console :=
  { console with output := console.output ++ lines }

def reported (console : Console) (lines : List String) : Console :=
  { console with errors := console.errors ++ lines }

end Console

abbrev Session := ExceptT Stop (StateM Console)

namespace Session

def on {Result : Type} (session : Session Result) (console : Console) : Except Stop Result × Console :=
  session.run.run console

def print (line : String) : Session Unit := modify fun console => console.printed [line]

def report (line : String) : Session Unit := modify fun console => console.reported [line]

def fail {Result : Type} (failure : Failure) : Session Result := throw (.failed failure)

def record (verbosity : Log.Verbosity) (event : Log.Event) : Session Unit :=
  if verbosity.admits event.level then report event.line else pure ()

def loading {Result : Type} (verbosity : Log.Verbosity) (file : String)
    (load : Traced LoadError Result) : Session Result := do
  load.events.forM (record verbosity)
  match load.outcome with
  | .ok result => pure result
  | .error error => fail (.load file error)

/-- The target at an identifier's position, which is taken without a check. -/
def element (graph : Graph) (id : TargetId) : Session Target :=
  match graph.target? id with
  | some target => pure target
  | none => throw .panicked

end Session

end TargetGraph.Command

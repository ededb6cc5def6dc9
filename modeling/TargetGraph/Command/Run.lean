import TargetGraph.Command.Arguments
import TargetGraph.Command.Report

/-!
Running a command on the files at hand. The outcome is a value: the exit code and what was written.
-/
set_option autoImplicit false

namespace TargetGraph.Command

structure Environment where
  verbosity : Option Log.Verbosity
  coloured : Bool
deriving DecidableEq, Repr

namespace Environment

/-- The environment decides how much is logged; where it says nothing, the option does. -/
def effectiveVerbosity (environment : Environment) (options : Options) : Log.Verbosity :=
  environment.verbosity.getD (.upTo (if options.verbose then .debug else .warn))

end Environment

def loadGraph (files : Files) (verbosity : Log.Verbosity) (file : String) : Session Graph := do
  let graph ← Session.loading verbosity file (Graph.ofPath files file)
  Session.record verbosity (.loaded graph.size)
  pure graph

def perform (files : Files) (environment : Environment) (action : Action) (options : Options) :
    Session Unit := do
  let file := options.fileName
  let graph ← loadGraph files (environment.effectiveVerbosity options) file
  match action with
  | .targets => Session.listTargets environment.coloured options.json file graph
  | .top => Session.listTop environment.coloured options.json file graph
  | .show reference => Session.showTarget environment.coloured options.json reference graph

/-- What a run of the program comes to: its exit code and the lines on its two outputs. A mistake in the
use of the arguments and a panic have no words here. -/
structure Outcome where
  code : Nat
  printed : List String
  reported : List String
deriving DecidableEq, Repr

namespace Outcome

def lines (texts : List String) : String := String.join (texts.map fun text => text ++ "\n")

def standardOutput (outcome : Outcome) : String := lines outcome.printed

def standardError (outcome : Outcome) : String := lines outcome.reported

end Outcome

def versionText : String := "bgraph 0.1.0"

def panicCode : Nat := 101

def finish (coloured : Bool) : Except Stop Unit × Console → Outcome
  | (.ok (), console) => ⟨0, console.output, console.errors⟩
  | (.error (.failed failure), console) =>
    let console := console.reported [errorLine coloured failure.message]
    ⟨1, console.output, console.errors⟩
  | (.error .panicked, console) => ⟨panicCode, console.output, console.errors⟩

def runAction (files : Files) (environment : Environment) (action : Action)
    (options : Options) : Outcome :=
  finish environment.coloured ((perform files environment action options).on .blank)

def run (files : Files) (environment : Environment) (arguments : List String) :
    Outcome :=
  match Request.ofArguments arguments with
  | none => ⟨2, [], []⟩
  | some .version => ⟨0, [versionText], []⟩
  | some (.run action options) => runAction files environment action options

end TargetGraph.Command

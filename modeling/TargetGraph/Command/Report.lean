import TargetGraph.Command.Console
import TargetGraph.Graph.Json
import TargetGraph.Number

/-!
What the commands print: lists of targets, single targets, and errors, with colours or without. The
targets behind identifiers are taken while a list is being printed.
-/
set_option autoImplicit false

namespace TargetGraph.Command

inductive Style where
  | red | green | blue | bold | dimmed
deriving DecidableEq, Repr

namespace Style

def codes : Style → Nat × Nat
  | red => (31, 39)
  | green => (32, 39)
  | blue => (34, 39)
  | bold => (1, 0)
  | dimmed => (2, 0)

end Style

def paint (coloured : Bool) (style : Style) (text : String) : String :=
  if coloured then
    let (on, off) := style.codes
    s!"\x1b[{on}m{text}\x1b[{off}m"
  else text

def successLine (coloured : Bool) (message : String) : String :=
  paint coloured .green "✓" ++ " " ++ message

def infoLine (coloured : Bool) (message : String) : String :=
  paint coloured .blue "•" ++ " " ++ message

def errorLine (coloured : Bool) (message : String) : String :=
  paint coloured .red "✗" ++ " " ++ paint coloured .red message

def detailLine (coloured : Bool) (label content : String) : String :=
  s!"  {paint coloured .dimmed label}: {content}"

def dependencyText (names : List String) : String :=
  if names.isEmpty then "(none)" else ", ".intercalate names

def targetLine (coloured : Bool) (target : Target) (dependencies : List String) : String :=
  let id := paint coloured .dimmed target.id.display
  let name := paint coloured .bold target.name
  s!"  {id} {name} → {dependencyText dependencies}"

def targetsHeading (coloured : Bool) (file : String) (count : Nat) : String :=
  successLine coloured s!"{count} target(s) in {file}"

def topHeading (coloured : Bool) (count : Nat) : String :=
  successLine coloured s!"{count} top-level target(s)"

def noRootLine (coloured : Bool) (file : String) : String :=
  infoLine coloured s!"No {rootName} target in {file}"

def targetLines (coloured : Bool) (target : Target) (dependencies : List String) : List String :=
  [successLine coloured s!"Target {target.name}",
    detailLine coloured "Id" target.id.display,
    detailLine coloured "Dependencies" (dependencyText dependencies)]

/-- The record of one target, its members in alphabetical order. -/
def targetJson (target : Target) (dependencies : List String) : Json :=
  .object [("dependencies", .array (target.dependencies.map TargetId.toJson)),
    ("dependency_names", .array (dependencies.map .string)),
    ("id", target.id.toJson), ("name", .string target.name)]

def topJson (top : Option (List Target)) : Json := (top.map targetsToJson).getD .null

namespace Session

def dependencyNames (graph : Graph) (target : Target) : Session (List String) := do
  let dependencies ← target.dependencies.mapM (element graph)
  pure (dependencies.map Target.name)

def topLevel (graph : Graph) : Session (Option (List Target)) :=
  match graph.targets.find? fun target => target.name = rootName with
  | some root => do
    let targets ← root.dependencies.mapM (element graph)
    pure (some targets)
  | none => pure none

def printJson (value : Json) : Session Unit := print value.pretty

def printTarget (coloured : Bool) (graph : Graph) (target : Target) : Session Unit := do
  let names ← dependencyNames graph target
  print (targetLine coloured target names)

def listTargets (coloured json : Bool) (file : String) (graph : Graph) : Session Unit :=
  if json then printJson graph.toJson
  else do
    print (targetsHeading coloured file graph.size)
    graph.targets.forM (printTarget coloured graph)

def listTop (coloured json : Bool) (file : String) (graph : Graph) : Session Unit := do
  let top ← topLevel graph
  if json then printJson (topJson top)
  else
    match top with
    | some targets =>
      print (topHeading coloured targets.length)
      targets.forM (printTarget coloured graph)
    | none => print (noRootLine coloured file)

end Session

/-- The number that a reference reads as: digits, perhaps after one plus sign, of at most 32 bits. -/
def referenceId? (reference : String) : Option TargetId :=
  let digits :=
    match reference.toList with
    | '+' :: rest => rest
    | text => text
  (Digits.read? 10 digits).bind fun value =>
    if value < UInt32.size then some ⟨UInt32.ofNat value⟩ else none

namespace Session

def targetByName (graph : Graph) (name : String) : Session (Option Target) :=
  match graph.index.find? name with
  | some id => do
    let target ← element graph id
    pure (some target)
  | none => pure none

def foundOrFail (reference : String) : Option Target → Session Target
  | some target => pure target
  | none => fail (.noSuchTarget reference)

/-- A reference is an identifier if it reads as one that is in range, and a name otherwise. -/
def findTarget (graph : Graph) (reference : String) : Session Target :=
  match (referenceId? reference).map graph.targetById with
  | some (.ok target) => pure target
  | _ => targetByName graph reference >>= foundOrFail reference

def showTarget (coloured json : Bool) (reference : String) (graph : Graph) : Session Unit := do
  let target ← findTarget graph reference
  let names ← dependencyNames graph target
  if json then printJson (targetJson target names)
  else (targetLines coloured target names).forM print

end Session

end TargetGraph.Command

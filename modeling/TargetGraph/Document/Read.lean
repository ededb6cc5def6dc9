import TargetGraph.Document.Shape
import TargetGraph.Log
import TargetGraph.Source.ByteStream
import TargetGraph.Yaml.Entries

/-!
Reading a document from a text, from a stream of bytes or from a path. All ways come down to a text;
one that is blank is an empty document. White space is what has the Unicode property White_Space.
-/
set_option autoImplicit false

namespace TargetGraph

namespace Text

def isBlank (c : Char) : Bool :=
  let code := c.toNat
  decide (0x09 ≤ code ∧ code ≤ 0x0D) || code == 0x20 || code == 0x85 || code == 0xA0 ||
    code == 0x1680 || decide (0x2000 ≤ code ∧ code ≤ 0x200A) || code == 0x2028 ||
    code == 0x2029 || code == 0x202F || code == 0x205F || code == 0x3000

/-- A text that trimming on both sides leaves empty. -/
def isBlankText (text : List Char) : Bool := text.all isBlank

end Text

inductive DocumentError where
  | notFound (path : String)
  | unreadable (failure : ReadFailure)
  | notYaml (error : Yaml.Error)
  | illShaped (fault : ShapeFault)
deriving Repr

namespace DocumentError

def shapeMessage (target : Option String) (detail : String) : String :=
  match target with
  | some target => s!"invalid entry for target '{target}': {detail}"
  | none => s!"invalid document: {detail}"

def notFoundMessage (path : String) : String := s!"document not found: {path}"

def message : DocumentError → String
  | notFound path => notFoundMessage path
  | unreadable failure => s!"failed to read document: {failure.message}"
  | notYaml error => s!"failed to parse document: {error.message}"
  | illShaped fault => shapeMessage fault.target? fault.detail

def cause? : DocumentError → Option String
  | unreadable failure => some failure.message
  | notYaml error => some error.message
  | _ => none

end DocumentError

namespace Document

/-- A blank text is not looked at further, and leaves no record. -/
def ofText (text : String) : Traced DocumentError Document :=
  if Text.isBlankText text.toList then .ok .empty
  else do
    let entries ← Traced.ofExcept ((Yaml.entriesOfText text.toList).mapError .notYaml)
    let document ← Traced.ofExcept ((ofEntries entries).mapError .illShaped)
    Traced.emit (.parsed document.size)
    .ok document

def ofStream (stream : ByteStream) : Traced DocumentError Document :=
  match stream.readToEnd with
  | .error failure => .fail (.unreadable failure)
  | .ok bytes =>
    match Text.Utf8.decode? bytes with
    | none => .fail (.unreadable .notUtf8)
    | some text => ofText (String.ofList text)

/-- Reading begins, and is recorded, once the path has been opened. -/
def ofPath (files : Files) (path : String) : Traced DocumentError Document :=
  match files path with
  | .error .notFound => .fail (.notFound path)
  | .error (.failed failure) => .fail (.unreadable failure)
  | .ok stream => do
    Traced.emit (.reading path)
    ofStream stream

end Document

end TargetGraph

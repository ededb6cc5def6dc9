import TargetGraph.Yaml.Node.Grammar

/-!
The first document of a stream. Only one document is wanted, but what stands behind it matters: it has
to be the end of the stream.
-/
set_option autoImplicit false

namespace TargetGraph.Yaml

/-- What stands behind a document's root: nothing more, something more, or a fault that keeps the
document from being closed. -/
inductive Ending where
  | closed
  | followed
  | broken (fault : Fault)
deriving DecidableEq, Repr

inductive FirstDocument where
  | absent
  | present (root : Node) (ending : Ending)
deriving Repr

def defaultHandles : List (Octets × Octets) :=
  [(octets ['!'], octets ['!']), (octets ['!', '!'], octets "tag:yaml.org,2002:".toList)]

/-- Reads the directives of a document. One version and one meaning of each handle may be given. -/
def readDirectives : List Token → Bool → List (Octets × Octets) →
    Except Fault (List (Octets × Octets) × List Token)
  | ⟨.versionDirective major minor, _, _⟩ :: tokens, versionGiven, handles =>
    if versionGiven then .error .repeatedDirective
    else if major = 1 ∧ (minor = 1 ∨ minor = 2) then readDirectives tokens true handles
    else .error .unsupportedVersion
  | ⟨.tagDirective handle replacement, _, _⟩ :: tokens, versionGiven, handles =>
    if (handles.lookup handle).isSome then .error .repeatedDirective
    else readDirectives tokens versionGiven (handles ++ [(handle, replacement)])
  | tokens, _, handles => .ok (handles, tokens)

namespace FirstDocument

/-- What follows a root node. Nothing shows the end of a document but the token behind it; after that
only ends of documents may come before the end of the stream. -/
def ending (input : Input) : Ending :=
  match input.tokens with
  | [] => .broken input.fault
  | tokens =>
    match tokens.dropWhile fun token => token.kind == .documentEnd with
    | ⟨.streamEnd, _, _⟩ :: _ => .closed
    | _ => .followed

def ofRoot (root : Reading Node) : FirstDocument :=
  match root with
  | (root, some input) => .present root (ending input)
  | (root, none) => .present root .closed

def ofFault (fault : Fault) : FirstDocument := .present (.broken (.fault fault)) .closed

/-- Enough for all rules, each of which takes a token in at most three steps. -/
def fuelFor (tokens : List Token) : Nat := 3 * tokens.length + 3

def readExplicit (tokens : List Token) (fault : Fault) : FirstDocument :=
  match readDirectives tokens false [] with
  | .error fault => ofFault fault
  | .ok (handles, tokens) =>
    let input : Input := ⟨tokens, fault, handles ++ defaultHandles, []⟩
    match tokens with
    | [] => ofFault fault
    | ⟨.documentStart, _, _⟩ :: _ =>
      let input := input.drop
      let isLeftOut (kind : Token.Kind) : Bool :=
        match kind with
        | .versionDirective .. | .tagDirective .. | .documentStart | .documentEnd | .streamEnd => true
        | _ => false
      if input.peek.any isLeftOut then ofRoot (.absentHere input)
      else ofRoot (readNode (fuelFor tokens) .block input)
    | _ => ofFault .documentStartExpected

def ofTokens (stream : TokenStream) : FirstDocument :=
  let fault := stream.fault.getD .contentExpected
  match stream.tokens with
  | [] => ofFault fault
  | token :: _ =>
    match token.kind with
    | .streamEnd => .absent
    | .versionDirective .. | .tagDirective .. | .documentStart => readExplicit stream.tokens fault
    | _ => ofRoot (readNode (fuelFor stream.tokens) .block ⟨stream.tokens, fault, defaultHandles, []⟩)

def ofText (text : List Char) : FirstDocument := ofTokens (.ofText text)

end FirstDocument

end TargetGraph.Yaml

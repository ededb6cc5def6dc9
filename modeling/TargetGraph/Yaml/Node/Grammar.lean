import TargetGraph.Yaml.Node
import TargetGraph.Yaml.Token.Scanner

/-!
The grammar by which tokens form nodes. Each rule returns what it read together with the input left,
or with none where reading stopped; then the last thing read ends in a break.
-/
set_option autoImplicit false

namespace TargetGraph.Yaml

/-- The tokens left, why they end early, the tag handles in force and the anchors met. An anchor's
slot is the number of names that were known before it. -/
structure Input where
  tokens : List Token
  fault : Fault
  handles : List (Octets × Octets)
  anchors : List (String × Nat)
deriving Repr

namespace Input

def peek (input : Input) : Option Token.Kind := input.tokens.head?.map Token.kind

def drop (input : Input) : Input := { input with tokens := input.tokens.tail }

def isAt (input : Input) (kinds : List Token.Kind) : Bool :=
  input.peek.any kinds.contains

def refusal (input : Input) (fault : Fault) : Break :=
  .fault (if input.tokens.isEmpty then input.fault else fault)

/-- Gives a name its slot. A name that is given again takes a new slot. -/
def define (input : Input) (name : String) : Nat × Input :=
  let slot := input.anchors.length
  let others := input.anchors.filter fun anchor => anchor.1 != name
  (slot, { input with anchors := (name, slot) :: others })

def defineAny (input : Input) : Option String → Option Nat × Input
  | some name => let (slot, input) := input.define name; (some slot, input)
  | none => (none, input)

end Input

abbrev Reading (α : Type) := α × Option Input

namespace Reading

def broken {α : Type} (input : Input) (fault : Fault) (wrap : Node → α) : Reading α :=
  (wrap (.broken (input.refusal fault)), none)

def absentHere (input : Input) : Reading Node :=
  match input.tokens with
  | token :: _ => (.absent token.start, some input)
  | [] => broken input .contentExpected id

def andThen {α β : Type} (first : Reading α) (alone : α → β) (next : α → Input → Reading β) :
    Reading β :=
  match first with
  | (value, none) => (alone value, none)
  | (value, some input) => next value input

def map {α β : Type} (f : α → β) (reading : Reading α) : Reading β := (f reading.1, reading.2)

end Reading

/-- The tag that a handle and a suffix spell. Without a handle the suffix is the whole tag. -/
def resolveTag (handles : List (Octets × Octets)) (handle suffix : Octets) : Option Octets :=
  if handle.isEmpty then some suffix
  else (handles.lookup handle).map fun replacement => replacement ++ suffix

structure Properties where
  mark : Option Mark
  anchor : Option String
  tag : Option (Octets × Octets)

namespace Properties

def read (input : Input) : Properties × Input :=
  match input.tokens with
  | ⟨.anchor name, mark, _⟩ :: ⟨.tag handle suffix, _, _⟩ :: tokens =>
    (⟨some mark, some name, some (handle, suffix)⟩, { input with tokens })
  | ⟨.anchor name, mark, _⟩ :: tokens => (⟨some mark, some name, none⟩, { input with tokens })
  | ⟨.tag handle suffix, mark, _⟩ :: ⟨.anchor name, _, _⟩ :: tokens =>
    (⟨some mark, some name, some (handle, suffix)⟩, { input with tokens })
  | ⟨.tag handle suffix, mark, _⟩ :: tokens =>
    (⟨some mark, none, some (handle, suffix)⟩, { input with tokens })
  | _ => (⟨none, none, none⟩, input)

def isEmpty (properties : Properties) : Bool := properties.mark.isNone

end Properties

/-- Where a node may stand: in a flow collection, in a block, or as a key or value of a block mapping,
where a list needs no deeper indentation. -/
inductive Place where
  | flow
  | block
  | blockMember
deriving DecidableEq, Repr

mutual

def readNode : Nat → Place → Input → Reading Node
  | 0, _, input => .broken input .contentExpected id
  | fuel + 1, place, input =>
    match input.tokens with
    | ⟨.aliasOf name, mark, _⟩ :: tokens =>
      match input.anchors.lookup name with
      | some slot => (.aliasOf slot, some { input with tokens })
      | none => (.broken (.unknownAnchor mark), none)
    | _ =>
      let (properties, input) := Properties.read input
      match input.tokens with
      | [] => .broken input .contentExpected id
      | token :: _ =>
        let tag := properties.tag.map fun (handle, suffix) =>
          resolveTag input.handles handle suffix
        if tag == some none then (.broken (.fault .undeclaredHandle), none)
        else
          let (slot, input) := input.defineAny properties.anchor
          let head : NodeHead := ⟨properties.mark.getD token.start, tag.join, slot⟩
          let inner := input.drop
          match token.kind, place with
          | .scalar text style, _ => (.scalar head text style, some inner)
          | .blockEntry, .blockMember => (readIndentless fuel input).map (.sequence head)
          | .flowSequenceStart, _ => (readFlowItems fuel true inner).map (.sequence head)
          | .flowMappingStart, _ => (readFlowEntries fuel true inner).map (.mapping head)
          | .blockSequenceStart, .block => (readBlockItems fuel inner).map (.sequence head)
          | .blockSequenceStart, .blockMember => (readBlockItems fuel inner).map (.sequence head)
          | .blockMappingStart, .block => (readBlockEntries fuel inner).map (.mapping head)
          | .blockMappingStart, .blockMember => (readBlockEntries fuel inner).map (.mapping head)
          | _, _ =>
            if properties.isEmpty then .broken input .contentExpected id
            else (.scalar head "" .plain, some input)

def readBlockItems : Nat → Input → Reading (List Node)
  | 0, input => .broken input .blockEntryExpected fun node => [node]
  | fuel + 1, input =>
    match input.tokens with
    | ⟨.blockEntry, _, stop⟩ :: tokens =>
      let input := { input with tokens }
      let item : Reading Node :=
        if input.isAt [.blockEntry, .blockEnd] then (.absent stop, some input)
        else readNode fuel .block input
      item.andThen (fun item => [item]) fun item input =>
        (readBlockItems fuel input).map (item :: ·)
    | ⟨.blockEnd, _, _⟩ :: tokens => ([], some { input with tokens })
    | _ => .broken input .blockEntryExpected fun node => [node]

/-- Reads the entries of a list that stands at its mapping's own indentation. Any other token ends
it. -/
def readIndentless : Nat → Input → Reading (List Node)
  | 0, input => .broken input .blockEntryExpected fun node => [node]
  | fuel + 1, input =>
    match input.tokens with
    | ⟨.blockEntry, _, stop⟩ :: tokens =>
      let input := { input with tokens }
      let item : Reading Node :=
        if input.isAt [.blockEntry, .key, .value, .blockEnd] then (.absent stop, some input)
        else readNode fuel .block input
      item.andThen (fun item => [item]) fun item input =>
        (readIndentless fuel input).map (item :: ·)
    | [] => .broken input .blockEntryExpected fun node => [node]
    | _ => ([], some input)

def readBlockEntries : Nat → Input → Reading (List (Node × Node))
  | 0, input => .broken input .blockKeyExpected fun node => [(node, .unread)]
  | fuel + 1, input =>
    match input.tokens with
    | ⟨.key, _, stop⟩ :: tokens =>
      let input := { input with tokens }
      let key : Reading Node :=
        if input.isAt [.key, .value, .blockEnd] then (.absent stop, some input)
        else readNode fuel .blockMember input
      key.andThen (fun key => [(key, .unread)]) fun key input =>
        (readBlockValue fuel input).andThen (fun value => [(key, value)]) fun value input =>
          (readBlockEntries fuel input).map ((key, value) :: ·)
    | ⟨.blockEnd, _, _⟩ :: tokens => ([], some { input with tokens })
    | _ => .broken input .blockKeyExpected fun node => [(node, .unread)]

def readBlockValue : Nat → Input → Reading Node
  | 0, input => .broken input .contentExpected id
  | fuel + 1, input =>
    match input.tokens with
    | ⟨.value, _, stop⟩ :: tokens =>
      let input := { input with tokens }
      if input.isAt [.key, .value, .blockEnd] then (.absent stop, some input)
      else readNode fuel .blockMember input
    | _ => .absentHere input

/-- Reads the entries of a flow list up to its end. All but the first follow a comma, and the end may
follow one too. A key mark makes an entry a mapping of one pair. -/
def readFlowItems : Nat → Bool → Input → Reading (List Node)
  | 0, _, input => .broken input .flowSeparatorExpected fun node => [node]
  | fuel + 1, isFirst, input =>
    if !isFirst && !input.isAt [.flowEntry, .flowSequenceEnd] then
      .broken input .flowSeparatorExpected fun node => [node]
    else
      let input := if !isFirst && input.isAt [.flowEntry] then input.drop else input
      match input.tokens with
      | ⟨.flowSequenceEnd, _, _⟩ :: tokens => ([], some { input with tokens })
      | ⟨.key, start, _⟩ :: tokens =>
        let pair := (readPair fuel { input with tokens }).map fun pair =>
          Node.mapping (.bare start) [pair]
        pair.andThen (fun item => [item]) fun item input =>
          (readFlowItems fuel false input).map (item :: ·)
      | _ =>
        (readNode fuel .flow input).andThen (fun item => [item]) fun item input =>
          (readFlowItems fuel false input).map (item :: ·)

/-- Reads a pair in a flow list from behind its key mark. A token that ends the pair before its key has
begun is passed over. -/
def readPair : Nat → Input → Reading (Node × Node)
  | 0, input => .broken input .contentExpected fun node => (node, .unread)
  | fuel + 1, input =>
    let key : Reading Node :=
      match input.tokens with
      | token :: tokens =>
        if input.isAt [.value, .flowEntry, .flowSequenceEnd] then
          (.absent token.stop, some { input with tokens })
        else readNode fuel .flow input
      | [] => .broken input .contentExpected id
    key.andThen (fun key => (key, .unread)) fun key input =>
      (readFlowValue fuel .flowSequenceEnd input).map fun value => (key, value)

def readFlowValue : Nat → Token.Kind → Input → Reading Node
  | 0, _, input => .broken input .contentExpected id
  | fuel + 1, close, input =>
    match input.tokens with
    | ⟨.value, _, _⟩ :: tokens =>
      let input := { input with tokens }
      if input.isAt [.flowEntry, close] then .absentHere input else readNode fuel .flow input
    | _ => .absentHere input

/-- Reads the entries of a flow mapping up to its end. All but the first follow a comma, and the end
may follow one too. A node without a key mark is a key whose value is left out. -/
def readFlowEntries : Nat → Bool → Input → Reading (List (Node × Node))
  | 0, _, input => .broken input .flowSeparatorExpected fun node => [(node, .unread)]
  | fuel + 1, isFirst, input =>
    if !isFirst && !input.isAt [.flowEntry, .flowMappingEnd] then
      .broken input .flowSeparatorExpected fun node => [(node, .unread)]
    else
      let input := if !isFirst && input.isAt [.flowEntry] then input.drop else input
      match input.tokens with
      | ⟨.flowMappingEnd, _, _⟩ :: tokens => ([], some { input with tokens })
      | ⟨.key, _, _⟩ :: tokens =>
        let input := { input with tokens }
        let key : Reading Node :=
          if input.isAt [.value, .flowEntry, .flowMappingEnd] then .absentHere input
          else readNode fuel .flow input
        key.andThen (fun key => [(key, .unread)]) fun key input =>
          (readFlowValue fuel .flowMappingEnd input).andThen (fun value => [(key, value)])
            fun value input => (readFlowEntries fuel false input).map ((key, value) :: ·)
      | _ =>
        (readNode fuel .flow input).andThen (fun key => [(key, .unread)]) fun key input =>
          (Reading.absentHere input).andThen (fun value => [(key, value)]) fun value input =>
            (readFlowEntries fuel false input).map ((key, value) :: ·)

end

end TargetGraph.Yaml

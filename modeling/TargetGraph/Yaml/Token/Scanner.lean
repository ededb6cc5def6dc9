import TargetGraph.Yaml.Directive
import TargetGraph.Yaml.Scalar.Block
import TargetGraph.Yaml.Scalar.Plain
import TargetGraph.Yaml.Scalar.Quoted

/-!
The state of a text that is being cut into tokens. Indentation opens and closes block collections.
Whether a node is a key shows only at the colon behind it, so the place of a possible key is kept and
the key token is put there later; until then the tokens from that place on are not final.
-/
set_option autoImplicit false

namespace TargetGraph.Yaml

/-- A place where a key may have started: how many tokens come before it, and where it stands. A key
at its collection's indentation has to be one. -/
structure PossibleKey where
  position : Nat
  mark : Mark
  required : Bool
deriving DecidableEq, Repr

namespace PossibleKey

/-- A key ends on the line it starts on and is at most this many bytes long. -/
def lengthLimit : Nat := 1024

def isStale (key : PossibleKey) (mark : Mark) : Bool :=
  decide (key.mark.line < mark.line) || decide (key.mark.offset + lengthLimit < mark.offset)

end PossibleKey

/-- The tokens so far are kept backwards. One possible key is kept for each flow collection that is
open, innermost first, and one for the block around them. -/
structure Scanner where
  cursor : Cursor
  tokens : List Token
  key : Option PossibleKey
  outerKeys : List (Option PossibleKey)
  indents : List Nat
  keyAllowed : Bool
deriving Repr

namespace Scanner

def start (text : List Char) : Scanner := ⟨⟨text, .start⟩, [], none, [], [], true⟩

def inFlow (scanner : Scanner) : Bool := !scanner.outerKeys.isEmpty

def mark (scanner : Scanner) : Mark := scanner.cursor.mark

def possibleKeys (scanner : Scanner) : List PossibleKey :=
  (scanner.key :: scanner.outerKeys).filterMap id

/-- Tokens before every possible key's place; later ones may still be preceded by a key. -/
def settled (scanner : Scanner) : List Token :=
  let tokens := scanner.tokens.reverse
  match (scanner.possibleKeys.map PossibleKey.position).min? with
  | none => tokens
  | some position => tokens.take position

def emit (scanner : Scanner) (kind : Token.Kind) (cursor : Cursor) : Scanner :=
  { scanner with tokens := ⟨kind, scanner.mark, cursor.mark⟩ :: scanner.tokens, cursor }

def emitHere (scanner : Scanner) (kind : Token.Kind) : Scanner :=
  scanner.emit kind scanner.cursor

def insertAt (scanner : Scanner) (position : Nat) (inserted : List Token) : Scanner :=
  let later := scanner.tokens.length - position
  { scanner with
    tokens := scanner.tokens.take later ++ inserted.reverse ++ scanner.tokens.drop later }

def dropStaleKeys (scanner : Scanner) : Except Fault Scanner :=
  let isStale (key : PossibleKey) : Bool := key.isStale scanner.mark
  let isLost (key : Option PossibleKey) : Bool := key.any fun key => key.required && isStale key
  let keep (key : Option PossibleKey) : Option PossibleKey := key.filter fun key => !isStale key
  if isLost scanner.key || scanner.outerKeys.any isLost then .error .keyWithoutColon
  else .ok { scanner with key := keep scanner.key, outerKeys := scanner.outerKeys.map keep }

def dropKey (scanner : Scanner) : Except Fault Scanner :=
  if scanner.key.any PossibleKey.required then .error .keyWithoutColon
  else .ok { scanner with key := none }

def saveKey (scanner : Scanner) : Except Fault Scanner :=
  if scanner.keyAllowed then do
    let required := !scanner.inFlow && scanner.indents.head? == some scanner.mark.column
    let scanner ← scanner.dropKey
    .ok { scanner with key := some ⟨scanner.tokens.length, scanner.mark, required⟩ }
  else .ok scanner

def isDeeper (scanner : Scanner) (column : Nat) : Bool :=
  !scanner.inFlow && scanner.indents.head?.all fun indent => decide (indent < column)

def openBlock (scanner : Scanner) (kind : Token.Kind) : Scanner :=
  if scanner.isDeeper scanner.mark.column then
    { scanner.emitHere kind with indents := scanner.mark.column :: scanner.indents }
  else scanner

/-- Closes the block collections that are indented deeper than a column; all of them for no column. -/
def closeBlocks (scanner : Scanner) (column : Option Nat) : Scanner :=
  if scanner.inFlow then scanner
  else
    let isOpen (indent : Nat) : Bool := column.all fun column => decide (column < indent)
    let closed := scanner.indents.takeWhile isOpen
    { scanner with
      tokens := closed.map (fun _ => ⟨.blockEnd, scanner.mark, scanner.mark⟩) ++ scanner.tokens
      indents := scanner.indents.drop closed.length }

/-- What precedes a token: whitespace, comments and line breaks. Outside of flow collections a key may
start on each new line, and a tab is no indentation. -/
def skipToToken (inFlow : Bool) : List Char → Mark → Bool → Bool → Cursor × Bool
  | [], mark, keyAllowed, _ => (⟨[], mark⟩, keyAllowed)
  | c :: rest, mark, keyAllowed, inComment =>
    if isBreak c then skipToToken inFlow rest (mark.after c) (keyAllowed || !inFlow) false
    else if inComment || c == ' ' || (c == '\t' && (inFlow || !keyAllowed)) ||
        (c == byteOrderMark && mark == .start) then
      skipToToken inFlow rest (mark.after c) keyAllowed inComment
    else if c == '#' then skipToToken inFlow rest (mark.after c) keyAllowed true
    else (⟨c :: rest, mark⟩, keyAllowed)

def skipToNext (scanner : Scanner) : Scanner :=
  let (cursor, keyAllowed) :=
    skipToToken scanner.inFlow scanner.cursor.rest scanner.mark scanner.keyAllowed false
  { scanner with cursor, keyAllowed }

def emitWide (scanner : Scanner) (kind : Token.Kind) (width : Nat) : Scanner :=
  scanner.emit kind ⟨scanner.cursor.rest.drop width, scanner.mark.shift width⟩

/-- The end of the text closes every block. It counts as the start of a line of its own. -/
def endStream (scanner : Scanner) : Except Fault Scanner := do
  let mark := scanner.mark
  let mark := if mark.column = 0 then mark else mark.nextLine
  let scanner := { scanner with cursor := { scanner.cursor with mark } }
  let scanner ← (scanner.closeBlocks none).dropKey
  .ok ({ scanner with keyAllowed := false }.emitHere .streamEnd)

def directive (scanner : Scanner) : Except Fault Scanner := do
  let scanner ← (scanner.closeBlocks none).dropKey
  let (kind, stop, next) ← scanDirective scanner.cursor.next
  .ok { { scanner with keyAllowed := false }.emit kind stop with cursor := next }

def documentMark (scanner : Scanner) (kind : Token.Kind) : Except Fault Scanner := do
  let scanner ← (scanner.closeBlocks none).dropKey
  .ok ({ scanner with keyAllowed := false }.emitWide kind 3)

def openFlow (scanner : Scanner) (kind : Token.Kind) : Except Fault Scanner := do
  let scanner ← scanner.saveKey
  let scanner := scanner.emitWide kind 1
  .ok { scanner with
    key := none, outerKeys := scanner.key :: scanner.outerKeys, keyAllowed := true }

def closeFlow (scanner : Scanner) (kind : Token.Kind) : Except Fault Scanner := do
  let scanner ← scanner.dropKey
  let scanner := { scanner.emitWide kind 1 with keyAllowed := false }
  match scanner.outerKeys with
  | [] => .ok scanner
  | key :: outerKeys => .ok { scanner with key, outerKeys }

def flowEntry (scanner : Scanner) : Except Fault Scanner := do
  let scanner ← scanner.dropKey
  .ok { scanner.emitWide .flowEntry 1 with keyAllowed := true }

/-- A hyphen inside a flow collection becomes a token all the same; no rule accepts it there. -/
def blockEntry (scanner : Scanner) : Except Fault Scanner :=
  if !scanner.inFlow && !scanner.keyAllowed then .error .misplacedEntry
  else do
    let scanner ← (scanner.openBlock .blockSequenceStart).dropKey
    .ok { scanner.emitWide .blockEntry 1 with keyAllowed := true }

def explicitKey (scanner : Scanner) : Except Fault Scanner :=
  if !scanner.inFlow && !scanner.keyAllowed then .error .misplacedKey
  else do
    let scanner ← (scanner.openBlock .blockMappingStart).dropKey
    .ok { scanner.emitWide .key 1 with keyAllowed := !scanner.inFlow }

/-- A colon turns the possible key in front of it into a key, and opens a block mapping at that key's
column unless one is open there. Without a possible key the colon belongs to an explicit key, or to
none at all. -/
def value (scanner : Scanner) : Except Fault Scanner :=
  match scanner.key with
  | some key =>
    let keyToken : Token := ⟨.key, key.mark, key.mark⟩
    let scanner :=
      if scanner.isDeeper key.mark.column then
        { scanner.insertAt key.position [⟨.blockMappingStart, key.mark, key.mark⟩, keyToken] with
          indents := key.mark.column :: scanner.indents }
      else scanner.insertAt key.position [keyToken]
    .ok ({ scanner with key := none, keyAllowed := false }.emitWide .value 1)
  | none =>
    if !scanner.inFlow && !scanner.keyAllowed then .error .misplacedValue
    else
      let scanner := scanner.openBlock .blockMappingStart
      .ok { scanner.emitWide .value 1 with keyAllowed := !scanner.inFlow }

def scanName (cursor : Cursor) : Except Fault (String × Cursor) :=
  let (name, cursor) := cursor.take isWordChar
  let isEnd := atBlankOrEnd cursor.rest ||
    cursor.rest.head?.any fun c => "?:,]\x7d%@\x60".toList.contains c
  if name.isEmpty || !isEnd then .error .badAnchor else .ok (String.ofList name, cursor)

def nodePart (scanner : Scanner) (read : Cursor → Except Fault (Token.Kind × Cursor)) :
    Except Fault Scanner := do
  let scanner ← scanner.saveKey
  let (kind, cursor) ← read scanner.cursor
  .ok ({ scanner with keyAllowed := false }.emit kind cursor)

def aliasOf (scanner : Scanner) : Except Fault Scanner :=
  scanner.nodePart fun cursor =>
    (scanName cursor.next).map fun (name, cursor) => (.aliasOf name, cursor)

def anchor (scanner : Scanner) : Except Fault Scanner :=
  scanner.nodePart fun cursor =>
    (scanName cursor.next).map fun (name, cursor) => (.anchor name, cursor)

def tag (scanner : Scanner) : Except Fault Scanner := scanner.nodePart (scanTag scanner.inFlow)

def scalarToken (style : ScalarStyle) (scanned : ScannedScalar) : Token.Kind × Cursor :=
  (.scalar (String.ofList scanned.text) style, scanned.cursor)

def singleQuoted (scanner : Scanner) : Except Fault Scanner :=
  scanner.nodePart fun cursor =>
    (scanSingleQuoted cursor.next.rest cursor.next.mark .none []).map (scalarToken .singleQuoted)

def doubleQuoted (scanner : Scanner) : Except Fault Scanner :=
  scanner.nodePart fun cursor =>
    (scanDoubleQuoted cursor.next.rest cursor.next.mark .text .none []).map
      (scalarToken .doubleQuoted)

/-- Behind a plain scalar that was ended by a line break a new key may start. -/
def plain (scanner : Scanner) : Except Fault Scanner := do
  let scanner ← scanner.saveKey
  let column := (scanner.indents.head?.map (· + 1)).getD 0
  let scanned ← scanPlain scanner.inFlow column scanner.cursor.rest scanner.mark .none []
  .ok ({ scanner with keyAllowed := scanned.brokeLine }.emit
    (.scalar (String.ofList scanned.text) .plain) scanned.cursor)

def blockScalar (scanner : Scanner) (style : ScalarStyle) : Except Fault Scanner := do
  let scanner ← scanner.dropKey
  let scanned ← scanBlock (style == .folded) scanner.indents.head? scanner.cursor.next
  .ok ({ scanner with keyAllowed := true }.emit
    (.scalar (String.ofList scanned.text) style) scanned.cursor)

def startsPlain (inFlow : Bool) : List Char → Bool
  | [] => false
  | c :: rest =>
    if c == '-' then !rest.head?.any isBlank
    else if c == '?' || c == ':' then !inFlow && !atBlankOrEnd rest
    else !isBlank c && !isBreak c && !",[]\x7b\x7d#&*!|>'\"%@\x60".toList.contains c

/-- Goes to where the next token starts. What that place rules out is settled there: keys that are too
far behind, and blocks that are indented deeper. -/
def prepare (scanner : Scanner) : Except Fault Scanner := do
  let scanner ← scanner.skipToNext.dropStaleKeys
  .ok (scanner.closeBlocks (some scanner.mark.column))

def dispatch (scanner : Scanner) : Except Fault Scanner :=
  match scanner.cursor.rest with
  | [] => scanner.endStream
  | c :: rest =>
    let lineStart := scanner.mark.column == 0
    let separated := scanner.inFlow || atBlankOrEnd rest
    if lineStart && c == '%' then scanner.directive
    else if lineStart && c == '-' && atDocumentMark (c :: rest) then
      scanner.documentMark .documentStart
    else if lineStart && c == '.' && atDocumentMark (c :: rest) then
      scanner.documentMark .documentEnd
    else if c == '[' then scanner.openFlow .flowSequenceStart
    else if c == '{' then scanner.openFlow .flowMappingStart
    else if c == ']' then scanner.closeFlow .flowSequenceEnd
    else if c == '}' then scanner.closeFlow .flowMappingEnd
    else if c == ',' then scanner.flowEntry
    else if c == '-' && atBlankOrEnd rest then scanner.blockEntry
    else if c == '?' && separated then scanner.explicitKey
    else if c == ':' && separated then scanner.value
    else if c == '*' then scanner.aliasOf
    else if c == '&' then scanner.anchor
    else if c == '!' then scanner.tag
    else if c == '|' && !scanner.inFlow then scanner.blockScalar .literal
    else if c == '>' && !scanner.inFlow then scanner.blockScalar .folded
    else if c == '\x27' then scanner.singleQuoted
    else if c == '\x22' then scanner.doubleQuoted
    else if startsPlain scanner.inFlow (c :: rest) then scanner.plain
    else .error .strayCharacter

def fetch (scanner : Scanner) : Except Fault Scanner := scanner.prepare >>= dispatch

end Scanner

/-- The tokens of a text. Where the text is at fault, these are the tokens that are final before the
fault is met, and the fault. -/
structure TokenStream where
  tokens : List Token
  fault : Option Fault
deriving Repr

namespace Scanner

/-- Fetches tokens until the end of the stream. Every token but the last takes up some text, so that
the text's length bounds their number. -/
def run : Nat → Scanner → TokenStream
  | 0, scanner => ⟨scanner.settled, none⟩
  | fuel + 1, scanner =>
    match scanner.fetch >>= dropStaleKeys with
    | .error fault => ⟨scanner.settled, some fault⟩
    | .ok next =>
      if next.tokens.head?.any fun token => token.kind == .streamEnd then ⟨next.settled, none⟩
      else run fuel next

end Scanner

/-- A forbidden character anywhere hides all the tokens before it, where a scanner that looks ahead only so
far could meet another fault first. The text is refused in either case, and only the message differs. -/
def TokenStream.ofText (text : List Char) : TokenStream :=
  if text.all isAllowed then
    let text := unifyBreaks text
    Scanner.run (text.length + 1) (.start text)
  else ⟨[], some .forbiddenCharacter⟩

end TargetGraph.Yaml

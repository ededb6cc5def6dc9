import TargetGraph.Number
import TargetGraph.Yaml.Scalar.Plain

/-!
Block scalars: literal ones keep their line breaks, folded ones join lines of equal indentation. The
indentation is given in the header or taken from the first lines.
-/
set_option autoImplicit false

namespace TargetGraph.Yaml

inductive Chomping where
  | strip | clip | keep
deriving DecidableEq, Repr

structure BlockHeader where
  chomping : Chomping
  increment : Option Nat
deriving DecidableEq, Repr

def chomping? : Char → Option Chomping
  | '-' => some .strip
  | '+' => some .keep
  | _ => none

def increment? (c : Char) : Option Nat := Digits.digit? 10 c

/-- Chomping and increment may stand in either order, and each may be absent. An increment of 0 is no
indentation and is refused. -/
def scanBlockHeader (cursor : Cursor) : Except Fault (BlockHeader × Cursor) :=
  let (chomping, increment, cursor) : Option Chomping × Option Nat × Cursor :=
    match cursor.rest with
    | [] => (none, none, cursor)
    | first :: rest =>
      match chomping? first, increment? first with
      | some chomping, _ =>
        match rest.head?.bind increment? with
        | some increment => (some chomping, some increment, cursor.next.next)
        | none => (some chomping, none, cursor.next)
      | none, some increment =>
        match rest.head?.bind chomping? with
        | some chomping => (some chomping, some increment, cursor.next.next)
        | none => (none, some increment, cursor.next)
      | none, none => (none, none, cursor)
  let cursor := cursor.skipLineTail
  if increment = some 0 || !atLineEnd cursor.rest then .error .badBlockHeader
  else .ok (⟨chomping.getD .clip, increment⟩, cursor.next)

inductive BlockMode where
  | lineStart
  | line
deriving DecidableEq, Repr

/-- What is known of a block scalar so far. The text is kept backwards, without the break that ended
the last line and the empty lines after it. -/
structure BlockProgress where
  indent : Option Nat
  widest : Nat
  ended : Option Char
  empties : List Char
  indented : Bool
  text : List Char
deriving DecidableEq, Repr

namespace BlockProgress

/-- The text in front of a line that starts with the given character. Between two lines of a folded
scalar that start with no blank, a lone LF becomes a space. -/
def startLine (folded : Bool) (progress : BlockProgress) (c : Char) : BlockProgress :=
  let folds := folded && progress.ended == some '\n' && !progress.indented && !isBlank c
  let joint :=
    if folds then if progress.empties.isEmpty then [' '] else []
    else progress.ended.toList
  { progress with
    ended := none
    empties := []
    indented := isBlank c
    text := c :: (progress.empties.reverse ++ joint.reverse ++ progress.text) }

def finish (chomping : Chomping) (progress : BlockProgress) : List Char :=
  progress.text.reverse ++
    match chomping with
    | .strip => []
    | .clip => progress.ended.toList
    | .keep => progress.ended.toList ++ progress.empties

end BlockProgress

/-- Reads the lines after a block scalar's header. The indentation of the first lines counts only as
far as it reaches the given least column. -/
def scanBlockLines (folded : Bool) (chomping : Chomping) (least : Nat) :
    List Char → Mark → BlockMode → BlockProgress → Except Fault ScannedScalar
  | [], mark, _, progress => .ok ⟨progress.finish chomping, ⟨[], mark⟩⟩
  | c :: rest, mark, .lineStart, progress =>
    let before := progress.indent.all fun indent => decide (mark.column < indent)
    if before && c == ' ' then
      scanBlockLines folded chomping least rest (mark.after c) .lineStart progress
    else if before && c == '\t' then .error .tabInIndentation
    else
      let progress := { progress with widest := max progress.widest mark.column }
      if isBreak c then
        scanBlockLines folded chomping least rest (mark.after c) .lineStart
          { progress with empties := progress.empties ++ [c] }
      else
        let indent := progress.indent.getD (max progress.widest least)
        let progress := { progress with indent := some indent }
        if mark.column = indent then
          scanBlockLines folded chomping least rest (mark.after c) .line
            (progress.startLine folded c)
        else .ok ⟨progress.finish chomping, ⟨c :: rest, mark⟩⟩
  | c :: rest, mark, .line, progress =>
    if isBreak c then
      scanBlockLines folded chomping least rest (mark.after c) .lineStart
        { progress with ended := some c }
    else
      scanBlockLines folded chomping least rest (mark.after c) .line
        { progress with text := c :: progress.text }

/-- Reads a block scalar from behind its indicator. The parent is the indentation of the block
collection around it, if any. -/
def scanBlock (folded : Bool) (parent : Option Nat) (cursor : Cursor) :
    Except Fault ScannedScalar := do
  let (header, cursor) ← scanBlockHeader cursor
  let indent := header.increment.map fun increment => parent.getD 0 + increment
  let least := max ((parent.map (· + 1)).getD 0) 1
  scanBlockLines folded header.chomping least cursor.rest cursor.mark .lineStart
    ⟨indent, 0, none, [], false, []⟩

end TargetGraph.Yaml

import TargetGraph.Yaml.Tag

/-!
Directives: lines that start with a percent sign and say which version a document follows, or what
a tag handle stands for.
-/
set_option autoImplicit false

namespace TargetGraph.Yaml

def scanVersionNumber (cursor : Cursor) : Except Fault (Nat × Cursor) :=
  let (digits, cursor) := cursor.take Digits.isDecimal
  match Digits.read? 10 digits with
  | some value => if digits.length ≤ 9 then .ok (value, cursor) else .error .badDirective
  | none => .error .badDirective

def scanVersion (cursor : Cursor) : Except Fault (Token.Kind × Cursor) := do
  let (major, cursor) ← scanVersionNumber cursor
  match cursor.rest with
  | '.' :: _ =>
    let (minor, cursor) ← scanVersionNumber cursor.next
    .ok (.versionDirective major minor, cursor)
  | _ => .error .badDirective

/-- A declared handle is one exclamation mark, or a word or nothing between two. -/
def scanHandleMeaning (cursor : Cursor) : Except Fault (Token.Kind × Cursor) := do
  let (handle, cursor) ← scanHandle cursor
  if handle ≠ ['!'] && handle.getLast? ≠ some '!' then .error .badDirective
  else if !cursor.rest.head?.any isBlank then .error .badDirective
  else
    let cursor := cursor.skipBlanks
    let (replacement, cursor) ← scanTagChars true cursor.rest cursor.mark 0
    if replacement.isEmpty || !atBlankOrEnd cursor.rest then .error .badDirective
    else .ok (.tagDirective (octets handle) (beforeZero replacement), cursor)

/-- Reads a directive line from behind its percent sign. The cursor that is returned first is where
the directive ends, the second where the next line starts. -/
def scanDirective (cursor : Cursor) : Except Fault (Token.Kind × Cursor × Cursor) := do
  let (name, cursor) := cursor.take isWordChar
  let parameters := cursor.skipBlanks
  let (kind, stop) ←
    if !atBlankOrEnd cursor.rest then .error .badDirective
    else if name = "YAML".toList then scanVersion parameters
    else if name = "TAG".toList then scanHandleMeaning parameters
    else .error .badDirective
  let tail := stop.skipLineTail
  if atLineEnd tail.rest then .ok (kind, stop, tail.next) else .error .badDirective

end TargetGraph.Yaml

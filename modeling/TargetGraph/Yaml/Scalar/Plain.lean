import TargetGraph.Yaml.Fault
import TargetGraph.Yaml.Token

/-!
White space inside a scalar that may run over several lines, and plain scalars. Blanks on one line are
kept; a line break becomes a space, and of several breaks all but the first are kept, while blanks around
breaks are dropped. Plain scalars end before a comment, before a colon that a blank follows, before the
brackets and commas of an enclosing flow collection, and, outside of those, where a line is not indented
deeper than the collection around them.
-/
set_option autoImplicit false

namespace TargetGraph.Yaml

/-- The white space since the last character of a scalar. The first break is apart from the later
ones, and absent when it was escaped. -/
inductive Gap where
  | blanks (blanks : List Char)
  | breaks (first : Option Char) (later : List Char)
deriving DecidableEq, Repr

namespace Gap

def none : Gap := blanks []

def push (gap : Gap) (c : Char) : Gap :=
  match gap with
  | blanks held => if isBreak c then breaks (some c) [] else blanks (held ++ [c])
  | breaks first later => if isBreak c then breaks first (later ++ [c]) else breaks first later

def hasBreak : Gap → Bool
  | blanks _ => false
  | breaks .. => true

/-- What the white space contributes when more text follows it. A first break that is LF is folded. -/
def fold : Gap → List Char
  | blanks held => held
  | breaks (some '\n') [] => [' ']
  | breaks (some '\n') later => later
  | breaks first later => first.toList ++ later

end Gap

structure ScannedScalar where
  text : List Char
  cursor : Cursor
deriving DecidableEq, Repr

def isFlowIndicator (c : Char) : Bool :=
  c == ',' || c == '[' || c == ']' || c == '{' || c == '}'

def endsPlain (inFlow : Bool) : List Char → Bool
  | [] => true
  | c :: rest => (c == ':' && atBlankOrEnd rest) || (inFlow && isFlowIndicator c)

def colonBeforeIndicator : List Char → Bool
  | ':' :: c :: _ => isFlowIndicator c || c == '?'
  | _ => false

structure ScannedPlain where
  text : List Char
  cursor : Cursor
  brokeLine : Bool
deriving DecidableEq, Repr

/-- Reads a plain scalar whose later lines must reach the given column when it is outside of flow
collections. The text so far is kept backwards. -/
def scanPlain (inFlow : Bool) (column : Nat) :
    List Char → Mark → Gap → List Char → Except Fault ScannedPlain
  | [], mark, gap, text => .ok ⟨text.reverse, ⟨[], mark⟩, gap.hasBreak⟩
  | c :: rest, mark, gap, text =>
    let stop : ScannedPlain := ⟨text.reverse, ⟨c :: rest, mark⟩, gap.hasBreak⟩
    if isBlank c || isBreak c then
      if gap.hasBreak && c == '\t' && decide (mark.column < column) then .error .tabInIndentation
      else scanPlain inFlow column rest (mark.after c) (gap.push c) text
    else if gap != .none && ((!inFlow && decide (mark.column < column)) || c == '#' ||
        (mark.column == 0 && atDocumentMark (c :: rest))) then .ok stop
    else if inFlow && colonBeforeIndicator (c :: rest) then .error .colonInPlainScalar
    else if endsPlain inFlow (c :: rest) then .ok stop
    else scanPlain inFlow column rest (mark.after c) .none (c :: (gap.fold.reverse ++ text))

end TargetGraph.Yaml

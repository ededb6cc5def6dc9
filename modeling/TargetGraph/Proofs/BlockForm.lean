import TargetGraph.Proofs.NamedEntries
import TargetGraph.Proofs.PlainNames

/-!
# Documents in block form

Declarations that are written one on a line, a name and a list between brackets, are read back as they
were, with any empty lines and comments around them. From the start of one line to the start of the next
the scanner is at the margin and has read the tokens of the declarations so far.
-/

namespace TargetGraph

open Yaml
open Yaml.Scanner (Brackets)
open Yaml.Token (Kind)

set_option autoImplicit false

inductive Line where
  | empty
  | comment (words : List Char)
  | entry (declaration : Declaration)

namespace Line

/-- An entry has one blank behind the colon and behind each comma. -/
def text : Line → List Char
  | empty => []
  | comment words => '#' :: words
  | entry declaration => declaration.name.toList ++
      ':' :: ' ' :: Brackets.square.around String.toList 1 declaration.dependencies

def declaration? : Line → Option Declaration
  | entry declaration => some declaration
  | _ => none

end Line

/-- Lines one below the other. If the last one is empty, the text ends with a line break. -/
def linesText (lines : List Line) : List Char := ['\n'].intercalate (lines.map Line.text)

/-- All names are words that stand for themselves without quotes, and the declared one is short enough to
be followed by a colon. -/
structure Declaration.Plain (declaration : Declaration) : Prop where
  words : ∀ name ∈ declaration.name :: declaration.dependencies,
    IsWord name ∧ isTypedWord name = false
  short : declaration.name.length ≤ 1000

def Line.Plain : Line → Prop
  | .empty => True
  | .comment words => ∀ c ∈ words, IsPrintable c
  | .entry declaration => declaration.Plain

namespace Yaml.Scanner

theorem skip_words (words : List Char) (printable : ∀ c ∈ words, IsPrintable c) (text : List Char)
    (mark : Mark) (allowed : Bool) :
    skipToToken false (words ++ text) mark allowed true =
      skipToToken false text (mark.shift words.length) allowed true := by
  induction words generalizing mark with
  | nil => rfl
  | cons c words induction =>
      have own := printable c (by simp)
      have later := induction (fun other member => printable other (by simp [member])) (mark.shift 1)
      rw [List.cons_append, skipToToken, Mark.after_printable mark own, printable_no_break own]
      simp only [Bool.true_or, Bool.false_eq_true, if_false, if_true, later, Mark.shift_shift,
        List.length_cons, Nat.add_comm]

def IsFiller (before : List Char) : Prop :=
  before = [] ∨ ∃ words, before = '#' :: words ∧ ∀ c ∈ words, IsPrintable c

theorem skip_filler {before : List Char} (filler : IsFiller before) (text : List Char) (mark : Mark)
    (allowed : Bool) : ∃ inComment, skipToToken false (before ++ text) mark allowed false =
      skipToToken false text (mark.shift before.length) allowed inComment := by
  rcases filler with rfl | ⟨words, rfl, printable⟩
  · exact ⟨false, rfl⟩
  · refine ⟨true, ?_⟩
    have passed := skip_words words printable text (mark.shift 1) allowed
    rw [List.cons_append, skipToToken, Mark.after_printable mark (by decide : IsPrintable '#')]
    simpa [isBreak, byteOrderMark, Mark.shift_shift, Nat.add_comm] using passed

theorem skip_break (text : List Char) (mark : Mark) (allowed inComment : Bool) :
    skipToToken false ('\n' :: text) mark allowed inComment =
      skipToToken false text (mark.after '\n') true false := by
  simp [skipToToken, isBreak]

section

variable {scanner : Scanner} {text : List Char} {kinds : List Kind} {indents : List Nat}
  {allowed : Bool}

theorem At.passed_over (at_ : scanner.At text kinds 0 indents allowed) (cursor : Cursor) (free : Bool)
    (same : skipToToken false text scanner.mark allowed false =
      skipToToken false cursor.rest cursor.mark free false)
    (shorter : cursor.rest.length ≤ text.length) :
    ∃ later, scanner.Leads later ∧ later.At cursor.rest kinds 0 indents free ∧
      later.mark = cursor.mark := by
  let later : Scanner := { scanner with cursor, keyAllowed := free }
  have outside : scanner.inFlow = false := at_.in_flow
  have still : later.inFlow = false := outside
  have skipped : scanner.skipToNext = later.skipToNext := by
    rw [skipToNext, skipToNext, at_.text, at_.allowed, outside, still, same]
    rfl
  have fetched : scanner.fetch = later.fetch := by rw [fetch, fetch, prepare, prepare, skipped]
  exact ⟨later, leads_of_skip fetched rfl (by rw [at_.text]; exact shorter),
    ⟨rfl, at_.kinds, at_.depth, at_.indents, at_.margin, rfl, at_.optional⟩, rfl⟩

structure AtLine (scanner : Scanner) (text : List Char) (kinds : List Kind) (indents : List Nat) :
    Prop where
  state : scanner.At text kinds 0 indents true
  margin : scanner.mark.column = 0

theorem At.line_left {before : List Char} (filler : IsFiller before)
    (at_ : scanner.At (before ++ '\n' :: text) kinds 0 indents allowed) :
    ∃ later, scanner.Leads later ∧ later.AtLine text kinds indents := by
  obtain ⟨inComment, passed⟩ := skip_filler filler ('\n' :: text) scanner.mark allowed
  rw [skip_break] at passed
  have shorter : text.length ≤ (before ++ '\n' :: text).length := by
    rw [List.length_append, List.length_cons]
    omega
  obtain ⟨later, leads, there, mark⟩ := at_.passed_over
    ⟨text, (scanner.mark.shift before.length).after '\n'⟩ true passed shorter
  exact ⟨later, leads, there, by rw [mark]; rfl⟩

theorem At.text_left (filler : IsFiller text) (at_ : scanner.At text kinds 0 indents allowed) :
    ∃ later, scanner.Leads later ∧ later.At [] kinds 0 indents allowed := by
  obtain ⟨inComment, passed⟩ := skip_filler filler [] scanner.mark allowed
  rw [List.append_nil] at passed
  obtain ⟨later, leads, there, _⟩ := at_.passed_over ⟨[], scanner.mark.shift text.length⟩ allowed passed
    (Nat.zero_le _)
  exact ⟨later, leads, there⟩

end

def rootKinds : List Declaration → List Kind
  | [] => []
  | declaration :: rest => .blockMappingStart :: (declaration :: rest).flatMap (entryKinds .plain)

def rootIndents : List Declaration → List Nat
  | [] => []
  | _ :: _ => [0]

theorem root_kinds_append (declarations : List Declaration) (declaration : Declaration) :
    rootKinds (declarations ++ [declaration]) = rootKinds declarations ++
      ((if rootIndents declarations = [] then [.blockMappingStart] else []) ++
        entryKinds .plain declaration) := by
  cases declarations <;> simp [rootKinds, rootIndents]

theorem root_indents_append (declarations : List Declaration) (declaration : Declaration) :
    rootIndents (declarations ++ [declaration]) = [0] := by
  cases declarations <;> rfl

section

variable {scanner : Scanner} {text : List Char} {declarations : List Declaration}
  {declaration : Declaration}

/-- A name, a colon and a list. The first entry opens the mapping at the margin. -/
theorem AtLine.entry_read (plain : declaration.Plain)
    (line : scanner.AtLine ((Line.entry declaration).text ++ text) (rootKinds declarations).reverse
      (rootIndents declarations)) :
    ∃ later, scanner.Leads later ∧
      later.At text (rootKinds (declarations ++ [declaration])).reverse 0
        (rootIndents (declarations ++ [declaration])) false := by
  have words := plain.words
  have width : declaration.name.toList.length ≤ PossibleKey.lengthLimit :=
    Nat.le_trans plain.short (by decide)
  have at_ : scanner.At (List.replicate 0 ' ' ++ (declaration.name.toList ++ ':' ::
      (' ' :: (Brackets.square.around String.toList 1 declaration.dependencies ++ text))))
      (rootKinds declarations).reverse 0 (rootIndents declarations) true := by
    simpa [Line.text] using line.state
  obtain ⟨named, early, awaits⟩ := at_.key_read
    (word_reads (words _ (by simp)).1 (stops_at_colon _)) width
  rw [Mark.shift_zero, line.margin] at awaits
  have opens :
      (decide (0 = 0) && (rootIndents declarations).head?.all fun indent => decide (indent < 0)) =
        decide (rootIndents declarations = []) := by
    cases declarations <;> rfl
  obtain ⟨keyed, middle, there⟩ := awaits.colon_read (fun _ => rfl) opens (fun _ => rfl)
  obtain ⟨listed, late, reached⟩ := there.list_read 1 fun name member text ends =>
    word_reads (words name (by simp [member])).1 (stops_at_item_end ends)
  refine ⟨listed, early.trans (middle.trans late), ?_⟩
  rw [root_kinds_append, root_indents_append]
  cases declarations <;> simpa [rootKinds, rootIndents, entryKinds, listKinds] using reached

variable {line : Line} {lines : List Line}

theorem AtLine.line_followed (plain : line.Plain)
    (start : scanner.AtLine (line.text ++ '\n' :: text) (rootKinds declarations).reverse
      (rootIndents declarations)) :
    ∃ later, scanner.Leads later ∧
      later.AtLine text (rootKinds (declarations ++ line.declaration?.toList)).reverse
        (rootIndents (declarations ++ line.declaration?.toList)) := by
  cases line with
  | empty =>
      simp only [Line.declaration?, Option.toList_none, List.append_nil]
      exact start.state.line_left (.inl rfl)
  | comment words =>
      simp only [Line.declaration?, Option.toList_none, List.append_nil]
      exact start.state.line_left (.inr ⟨words, rfl, plain⟩)
  | entry declaration =>
      obtain ⟨read, early, there⟩ := start.entry_read plain
      obtain ⟨later, late, next⟩ := At.line_left (.inl rfl) there
      exact ⟨later, early.trans late, next⟩

theorem AtLine.line_ended (plain : line.Plain)
    (start : scanner.AtLine line.text (rootKinds declarations).reverse (rootIndents declarations)) :
    ∃ later allowed, scanner.Leads later ∧
      later.At [] (rootKinds (declarations ++ line.declaration?.toList)).reverse 0
        (rootIndents (declarations ++ line.declaration?.toList)) allowed := by
  cases line with
  | empty =>
      simp only [Line.declaration?, Option.toList_none, List.append_nil]
      obtain ⟨later, leads, there⟩ := start.state.text_left (.inl rfl)
      exact ⟨later, _, leads, there⟩
  | comment words =>
      simp only [Line.declaration?, Option.toList_none, List.append_nil]
      obtain ⟨later, leads, there⟩ := start.state.text_left (.inr ⟨words, rfl, plain⟩)
      exact ⟨later, _, leads, there⟩
  | entry declaration =>
      rw [← List.append_nil (Line.entry declaration).text] at start
      obtain ⟨later, leads, there⟩ := start.entry_read plain
      exact ⟨later, _, leads, there⟩

/-- Reading a document line by line adds the declarations of the lines to those before. -/
theorem AtLine.lines_read (plain : ∀ member ∈ line :: lines, member.Plain)
    (start : scanner.AtLine (linesText (line :: lines)) (rootKinds declarations).reverse
      (rootIndents declarations)) :
    ∃ later allowed, scanner.Leads later ∧
      later.At [] (rootKinds (declarations ++ (line :: lines).filterMap Line.declaration?)).reverse 0
        (rootIndents (declarations ++ (line :: lines).filterMap Line.declaration?)) allowed := by
  have own (line : Line) (lines : List Line) : (line :: lines).filterMap Line.declaration? =
      line.declaration?.toList ++ lines.filterMap Line.declaration? := by
    cases made : line.declaration? <;> simp [made]
  induction lines generalizing line declarations scanner with
  | nil =>
      rw [own, List.filterMap_nil, List.append_nil]
      exact AtLine.line_ended (plain line (by simp)) (by simpa [linesText] using start)
  | cons next lines induction =>
      have first : scanner.AtLine (line.text ++ '\n' :: linesText (next :: lines))
          (rootKinds declarations).reverse (rootIndents declarations) := by
        simpa [linesText] using start
      obtain ⟨middle, early, there⟩ := first.line_followed (plain line (by simp))
      obtain ⟨later, allowed, late, ended⟩ := induction
        (fun member among => plain member (by simp [List.mem_cons.mp among])) there
      rw [own, ← List.append_assoc]
      exact ⟨later, allowed, early.trans late, ended⟩

end

end Yaml.Scanner

open Yaml.Scanner (rootKinds rootIndents)

theorem word_printable {name : String} (word : IsWord name) : ∀ c ∈ name.toList, IsPrintable c :=
  fun c member => (word_char_inside (List.all_eq_true.mp word.2 c member)).1

theorem line_printable {line : Line} (plain : line.Plain) : ∀ c ∈ line.text, IsPrintable c := by
  cases line with
  | empty => nofun
  | comment words =>
      simp only [Line.text, List.mem_cons]
      rintro c (rfl | member)
      · decide
      · exact plain c member
  | entry declaration =>
      have words := fun name member => word_printable (plain.words name member).1
      simp only [Line.text, List.mem_append, List.mem_cons]
      rintro c (name | rfl | rfl | list)
      · exact words _ (by simp) c name
      · decide
      · decide
      · exact Brackets.around_printable _ (fun name among => words name (by simp [among])) c list

section

variable {lines : List Line}

theorem lines_printable (plain : ∀ line ∈ lines, line.Plain) :
    ∀ c ∈ linesText lines, IsPrintable c ∨ c = '\n' := by
  apply intercalate_forall
  · simp
  · intro part member c inside
    obtain ⟨line, among, rfl⟩ := List.mem_map.mp member
    exact .inl (line_printable (plain line among) c inside)

theorem lines_shown {declaration : Declaration} (member : Line.entry declaration ∈ lines) :
    Text.isBlankText (linesText lines) = false := by
  have colon : ':' ∈ linesText lines :=
    mem_intercalate (List.mem_map_of_mem member) (by simp [Line.text])
  rw [Text.isBlankText, List.all_eq_false]
  exact ⟨':', colon, by decide⟩

theorem lines_tokens (plain : ∀ line ∈ lines, line.Plain) :
    (TokenStream.ofText (linesText lines)).tokens.map Token.kind =
      rootKinds (lines.filterMap Line.declaration?) ++
        (List.replicate (rootIndents (lines.filterMap Line.declaration?)).length .blockEnd ++
          [.streamEnd]) := by
  rw [of_text_printable _ (lines_printable plain)]
  cases lines with
  | nil => rfl
  | cons line lines =>
      have start : (Scanner.start (linesText (line :: lines))).AtLine (linesText (line :: lines))
          (rootKinds []).reverse (rootIndents []) := ⟨Scanner.start_at _, rfl⟩
      obtain ⟨later, allowed, leads, there⟩ := start.lines_read plain
      have tokens := leads.ended there
      rwa [List.nil_append, List.reverse_reverse] at tokens

end

namespace Document

theorem no_entries_read {text : String}
    (tokens : (TokenStream.ofText text.toList).tokens.map Token.kind = [.streamEnd]) :
    (ofText text).outcome = .ok ⟨[]⟩ := by
  obtain ⟨token, rest, shape, ends, _⟩ := List.map_eq_cons_iff.mp tokens
  have absent : FirstDocument.ofText text.toList = .absent := by
    simp [FirstDocument.ofText, FirstDocument.ofTokens, shape, ends]
  have first : firstOf text = .absent := by
    rw [firstOf, absent, ite_self]
  rw [of_text_outcome, entriesOf, first]
  rfl

theorem block_text_read {lines : List Line} (plain : ∀ line ∈ lines, line.Plain) :
    (ofText (String.ofList (linesText lines))).outcome =
      .ok ⟨lines.filterMap Line.declaration?⟩ := by
  have tokens := lines_tokens plain
  have declared : ∀ declaration ∈ lines.filterMap Line.declaration?, declaration.Plain ∧
      Line.entry declaration ∈ lines := by
    intro declaration member
    obtain ⟨line, among, made⟩ := List.mem_filterMap.mp member
    cases line with
    | entry other =>
        cases made
        exact ⟨plain _ among, among⟩
    | _ => cases made
  generalize made : lines.filterMap Line.declaration? = declarations at tokens declared
  cases declarations with
  | nil =>
      apply no_entries_read
      rw [String.toList_ofList]
      exact tokens
  | cons declaration rest =>
      have makes : (firstOf (String.ofList (linesText lines))).Makes .plain (declaration :: rest) := by
        rw [firstOf, String.toList_ofList, lines_shown (declared declaration (by simp)).2]
        exact block_tokens_make tokens
      apply of_text_makes makes
      · intro other member name among
        obtain ⟨word, free⟩ := (declared other member).1.words name among
        exact congrArg Except.ok (word_kept word free)
      · intro other member
        have words := fun name among => ((declared other member).1.words name among).1.filled
        exact ⟨words _ (by simp), fun name among => words name (by simp [among])⟩

end Document

namespace Graph

/-- Declarations that are written one on a line are read back, whatever empty lines and comments stand
around them, and the text makes the graph that the declarations make, or fails as they do. -/
theorem block_form_reads_back (declarations : List Declaration) (lines : List Line)
    (made : lines.filterMap Line.declaration? = declarations)
    (plain : ∀ declaration ∈ declarations, declaration.Plain)
    (comments : ∀ words, Line.comment words ∈ lines → ∀ c ∈ words, IsPrintable c) :
    (Document.ofText (String.ofList (linesText lines))).outcome = .ok ⟨declarations⟩ ∧
      (ofText (String.ofList (linesText lines))).outcome =
        (ofDocument ⟨declarations⟩).outcome.mapError .graph := by
  have all : ∀ line ∈ lines, line.Plain := by
    intro line among
    cases line with
    | empty => exact trivial
    | comment words => exact comments words among
    | entry declaration =>
        exact plain declaration (made ▸ List.mem_filterMap.mpr ⟨_, among, rfl⟩)
  have read := Document.block_text_read all
  rw [made] at read
  refine ⟨read, ?_⟩
  rw [of_text_outcome, read]
  rfl

/-- Comments in front of, between and behind two entries, one of which depends on itself, and an empty
line at the end. -/
def commented : List Line :=
  [.comment " first".toList, .empty, .entry ⟨"App", ["e5", "App"]⟩, .comment [], .entry ⟨"e5", []⟩,
    .comment "[".toList, .empty]

theorem commented_reads_back :
    String.ofList (linesText commented) = "# first\n\nApp: [e5, App]\n#\ne5: []\n#[\n" ∧
    (∀ declaration ∈ commented.filterMap Line.declaration?, declaration.Plain) ∧
    (∀ words, Line.comment words ∈ commented → ∀ c ∈ words, IsPrintable c) ∧
    (Document.ofText (String.ofList (linesText commented))).outcome =
      .ok ⟨[⟨"App", ["e5", "App"]⟩, ⟨"e5", []⟩]⟩ ∧
    (ofText (String.ofList (linesText commented))).outcome =
      (ofDocument ⟨[⟨"App", ["e5", "App"]⟩, ⟨"e5", []⟩]⟩).outcome.mapError .graph := by
  have words : ∀ declaration ∈ commented.filterMap Line.declaration?,
      ∀ name ∈ declaration.name :: declaration.dependencies, IsWord name ∧ isTypedWord name = false := by
    decide
  have short : ∀ declaration ∈ commented.filterMap Line.declaration?,
      declaration.name.length ≤ 1000 := by decide
  have plain : ∀ declaration ∈ commented.filterMap Line.declaration?, declaration.Plain :=
    fun declaration declared => ⟨words declaration declared, short declaration declared⟩
  have comments : ∀ words, Line.comment words ∈ commented → ∀ c ∈ words, IsPrintable c := by
    simp [commented, IsPrintable]
  obtain ⟨read, same⟩ := block_form_reads_back _ commented rfl plain comments
  exact ⟨by decide +kernel, plain, comments, read, same⟩

end Graph

end TargetGraph

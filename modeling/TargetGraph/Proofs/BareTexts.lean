import TargetGraph.Proofs.BlockForm

/-!
# Texts without content

Lines with nothing on them but blanks and comments make an empty document. If there is no comment the
text is blank and not looked at; otherwise the scanner passes over it, and it stops at a tab in front of
a comment or on an empty line, because a key might start there and a tab is no indentation.
-/

namespace TargetGraph

open Yaml
open Yaml.Scanner (IsFiller)

set_option autoImplicit false

/-- A line without content: blanks, and there may be a comment behind them. -/
structure BareLine where
  blanks : List Char
  comment : Option (List Char)
  blank : ∀ c ∈ blanks, c = ' ' ∨ c = '\t'
  printable : ∀ words, comment = some words → ∀ c ∈ words, IsPrintable c

inductive LineEnd where
  | lf
  | crlf

def LineEnd.text : LineEnd → List Char
  | lf => ['\n']
  | crlf => ['\x0d', '\n']

theorem LineEnd.unified (ending : LineEnd) (rest : List Char) :
    unifyBreaks (ending.text ++ rest) = '\n' :: unifyBreaks rest := by
  cases ending with
  | lf =>
      apply unify_breaks_append ['\n'] rest
      simp
  | crlf =>
      change unifyBreaks ('\x0d' :: '\n' :: rest) = _
      simp [unifyBreaks]

/-- Lines one below the other. The last one has no end; it is empty if the text ends with a line end. -/
inductive BareText where
  | last (line : BareLine)
  | above (line : BareLine) (ending : LineEnd) (below : BareText)

namespace BareLine

variable (line : BareLine)

def remark : List Char :=
  match line.comment with
  | none => []
  | some words => '#' :: words

def text : List Char := line.blanks ++ line.remark

def commented : Bool := line.comment.isSome

def tabbed : Bool := line.blanks.contains '\t'

theorem remark_filler : IsFiller line.remark := by
  unfold remark
  cases comment : line.comment with
  | none => exact .inl rfl
  | some words => exact .inr ⟨words, rfl, line.printable words comment⟩

theorem remark_printable : ∀ c ∈ line.remark, IsPrintable c := by
  rcases line.remark_filler with empty | ⟨words, same, printable⟩
  · rw [empty]
    nofun
  · rw [same]
    intro c member
    rcases List.mem_cons.mp member with rfl | among
    · decide
    · exact printable c among

theorem characters : ∀ c ∈ line.text, IsPrintable c ∨ c = '\t' := by
  intro c member
  rcases List.mem_append.mp member with blank | remark
  · rcases line.blank c blank with rfl | rfl
    · exact .inl (by decide)
    · exact .inr rfl
  · exact .inl (line.remark_printable c remark)

theorem unified (rest : List Char) : unifyBreaks (line.text ++ rest) = line.text ++ unifyBreaks rest := by
  apply unify_breaks_append
  intro c member
  rcases line.characters c member with ⟨low, high⟩ | rfl
  · constructor <;> rintro rfl <;> revert low high <;> decide
  · decide

theorem blank_iff : Text.isBlankText line.text = !line.commented := by
  have blanks : line.blanks.all Text.isBlank = true := by
    rw [List.all_eq_true]
    intro c member
    rcases line.blank c member with rfl | rfl
    · decide
    · decide
  unfold Text.isBlankText text
  rw [List.all_append, blanks, Bool.true_and, remark, commented]
  cases line.comment with
  | none => rfl
  | some words => rfl

end BareLine

namespace BareText

def lines : BareText → List BareLine
  | last line => [line]
  | above line _ below => line :: below.lines

def text : BareText → List Char
  | last line => line.text
  | above line ending below => line.text ++ (ending.text ++ below.text)

def unifiedText : BareText → List Char
  | last line => line.text
  | above line _ below => line.text ++ '\n' :: below.unifiedText

def string (text : BareText) : String := String.ofList text.text

def commented (text : BareText) : Bool := text.lines.any BareLine.commented

def tabbed (text : BareText) : Bool := text.lines.any BareLine.tabbed

@[simp] theorem commented_last (line : BareLine) : (last line).commented = line.commented := by
  simp [commented, lines]

@[simp] theorem commented_above (line : BareLine) (ending : LineEnd) (below : BareText) :
    (above line ending below).commented = (line.commented || below.commented) := rfl

@[simp] theorem tabbed_last (line : BareLine) : (last line).tabbed = line.tabbed := by
  simp [tabbed, lines]

@[simp] theorem tabbed_above (line : BareLine) (ending : LineEnd) (below : BareText) :
    (above line ending below).tabbed = (line.tabbed || below.tabbed) := rfl

theorem unified (text : BareText) : unifyBreaks text.text = text.unifiedText := by
  induction text with
  | last line =>
      have own := line.unified []
      rwa [List.append_nil, unifyBreaks, List.append_nil] at own
  | above line ending below induction =>
      rw [text, line.unified, ending.unified, induction, unifiedText]

theorem blank_iff (text : BareText) : Text.isBlankText text.text = !text.commented := by
  induction text with
  | last line =>
      rw [commented_last]
      exact line.blank_iff
  | above line ending below induction =>
      have ends : ending.text.all Text.isBlank = true := by
        cases ending with
        | lf => decide
        | crlf => decide
      have own := line.blank_iff
      unfold Text.isBlankText at own induction ⊢
      rw [text, List.all_append, List.all_append, own, ends, induction, Bool.true_and,
        commented_above, Bool.not_or]

theorem allowed (text : BareText) : text.text.all isAllowed = true := by
  have line_allowed (line : BareLine) : line.text.all isAllowed = true := by
    rw [List.all_eq_true]
    intro c member
    rcases line.characters c member with printable | rfl
    · exact printable_allowed printable
    · decide
  induction text with
  | last line => exact line_allowed line
  | above line ending below induction =>
      have ends : ending.text.all isAllowed = true := by
        cases ending with
        | lf => decide
        | crlf => decide
      rw [text, List.all_append, List.all_append, line_allowed, ends, induction]
      rfl

end BareText

namespace Yaml.Scanner

variable {blanks : List Char} (text : List Char) (mark : Mark)

theorem skip_space : skipToToken false (' ' :: text) mark true false =
    skipToToken false text (mark.after ' ') true false := by
  simp [skipToToken, isBreak]

theorem skip_tab : skipToToken false ('\t' :: text) mark true false = (⟨'\t' :: text, mark⟩, true) := by
  simp [skipToToken, isBreak, byteOrderMark]

theorem skip_spaces (blank : ∀ c ∈ blanks, c = ' ' ∨ c = '\t') (tabless : '\t' ∉ blanks) :
    ∃ later, skipToToken false (blanks ++ text) mark true false =
      skipToToken false text later true false := by
  induction blanks generalizing mark with
  | nil => exact ⟨mark, rfl⟩
  | cons c blanks induction =>
      rcases blank c (by simp) with rfl | rfl
      · rw [List.cons_append, skip_space]
        apply induction
        · exact fun other member => blank other (by simp [member])
        · exact fun member => tabless (by simp [member])
      · exact absurd (by simp) tabless

theorem skip_stopped (blank : ∀ c ∈ blanks, c = ' ' ∨ c = '\t') (tab : '\t' ∈ blanks) :
    ∃ rest later, skipToToken false (blanks ++ text) mark true false =
      (⟨'\t' :: rest, later⟩, true) := by
  induction blanks generalizing mark with
  | nil => cases tab
  | cons c blanks induction =>
      rcases blank c (by simp) with rfl | rfl
      · rw [List.cons_append, skip_space]
        apply induction
        · exact fun other member => blank other (by simp [member])
        · simpa using tab
      · exact ⟨blanks ++ text, mark, skip_tab _ mark⟩

theorem skip_line {line : BareLine} (tabless : line.tabbed = false) :
    ∃ later inComment, skipToToken false (line.text ++ text) mark true false =
      skipToToken false text later true inComment := by
  have free : '\t' ∉ line.blanks := by simpa [BareLine.tabbed] using tabless
  rcases skip_spaces (line.remark ++ text) mark line.blank free with ⟨behind, passed⟩
  rcases skip_filler line.remark_filler text behind true with ⟨inComment, left⟩
  rw [BareLine.text, List.append_assoc, passed, left]
  exact ⟨_, inComment, rfl⟩

theorem skip_line_stopped {line : BareLine} (tabbed : line.tabbed = true) :
    ∃ rest later, skipToToken false (line.text ++ text) mark true false =
      (⟨'\t' :: rest, later⟩, true) := by
  have tab : '\t' ∈ line.blanks := by simpa [BareLine.tabbed] using tabbed
  rw [BareLine.text, List.append_assoc]
  exact skip_stopped _ _ line.blank tab

/-- Each line is left at its end, where a key may start again. -/
theorem skip_bare {bare : BareText} (tabless : bare.tabbed = false) :
    ∃ later, skipToToken false bare.unifiedText mark true false = (⟨[], later⟩, true) := by
  induction bare generalizing mark with
  | last line =>
      have own : line.tabbed = false := by simpa using tabless
      rcases skip_line [] mark own with ⟨later, inComment, passed⟩
      rw [List.append_nil] at passed
      exact ⟨later, passed⟩
  | above line ending below induction =>
      have parts : line.tabbed = false ∧ below.tabbed = false := by simpa using tabless
      rcases skip_line ('\n' :: below.unifiedText) mark parts.1 with
        ⟨later, inComment, passed⟩
      rw [BareText.unifiedText, passed, skip_break]
      exact induction _ parts.2

theorem skip_bare_stopped {bare : BareText} (tabbed : bare.tabbed = true) :
    ∃ rest later, skipToToken false bare.unifiedText mark true false =
      (⟨'\t' :: rest, later⟩, true) := by
  induction bare generalizing mark with
  | last line =>
      have own : line.tabbed = true := by simpa using tabbed
      have stopped := skip_line_stopped [] mark own
      rwa [List.append_nil] at stopped
  | above line ending below induction =>
      rw [BareText.unifiedText]
      cases own : line.tabbed with
      | true => exact skip_line_stopped _ mark own
      | false =>
          have further : below.tabbed = true := by simpa [own] using tabbed
          rcases skip_line ('\n' :: below.unifiedText) mark own with
            ⟨later, inComment, passed⟩
          rw [passed, skip_break]
          exact induction _ further

theorem tab_stray {text rest : List Char} {mark : Mark}
    (stopped : skipToToken false text .start true false = (⟨'\t' :: rest, mark⟩, true)) :
    (start text).fetch = .error .strayCharacter := by
  have reached : skipToToken (start text).inFlow (start text).cursor.rest (start text).mark
      (start text).keyAllowed false = (⟨'\t' :: rest, mark⟩, true) := stopped
  have skipped : (start text).skipToNext = { start text with cursor := ⟨'\t' :: rest, mark⟩ } := by
    rw [skipToNext, reached]
    rfl
  have prepared : (start text).prepare = .ok { start text with cursor := ⟨'\t' :: rest, mark⟩ } := by
    rw [prepare, skipped]
    rfl
  rw [fetch, prepared]
  simp [bind, Except.bind, dispatch, startsPlain, isBlank]

end Yaml.Scanner

section

variable {text : BareText}

theorem tabless_tokens (tabless : text.tabbed = false) :
    (TokenStream.ofText text.text).tokens.map Token.kind = [.streamEnd] := by
  rw [TokenStream.ofText, if_pos text.allowed, text.unified]
  rcases Scanner.skip_bare .start tabless with ⟨mark, passed⟩
  rcases (Scanner.start_at text.unifiedText).passed_over ⟨[], mark⟩ true passed (Nat.zero_le _) with
    ⟨later, leads, ended, _⟩
  exact leads.ended ended

theorem tabbed_tokens (tabbed : text.tabbed = true) :
    TokenStream.ofText text.text = ⟨[], some .strayCharacter⟩ := by
  rw [TokenStream.ofText, if_pos text.allowed, text.unified]
  rcases Scanner.skip_bare_stopped .start tabbed with ⟨rest, mark, stopped⟩
  change Scanner.run (text.unifiedText.length + 1) (.start text.unifiedText) = _
  rw [Scanner.run, Scanner.tab_stray stopped]
  rfl

end

namespace Document

def strayTab : DocumentError := .notYaml (.malformed .strayCharacter)

theorem bare_outcome (text : BareText) : (ofText text.string).outcome =
    if text.commented && text.tabbed then .error strayTab else .ok .empty := by
  have characters : text.string.toList = text.text := String.toList_ofList
  cases commented : text.commented with
  | false =>
      have blank : Text.isBlankText text.string.toList = true := by
        rw [characters, text.blank_iff, commented]
        rfl
      rw [ofText, if_pos blank]
      rfl
  | true =>
      cases tabbed : text.tabbed with
      | false =>
          apply no_entries_read
          rw [characters]
          exact tabless_tokens tabbed
      | true =>
          have shown : Text.isBlankText text.string.toList = false := by
            rw [characters, text.blank_iff, commented]
            rfl
          have first : firstOf text.string = FirstDocument.ofFault .strayCharacter := by
            rw [firstOf, shown, characters, FirstDocument.ofText, tabbed_tokens tabbed]
            rfl
          rw [of_text_outcome, entriesOf, first]
          rfl

theorem braces_outcome : (ofText "\x7b\x7d").outcome = .ok .empty := rfl

end Document

namespace Graph

def vacant : Graph := ⟨[], .empty, .loaded⟩

theorem empty_outcome {text : String} (read : (Document.ofText text).outcome = .ok .empty) :
    (ofText text).outcome = .ok vacant := by
  rw [of_text_outcome, read]
  rfl

theorem refused_outcome {text : String} {error : DocumentError}
    (refused : (Document.ofText text).outcome = .error error) :
    (ofText text).outcome = .error (.document error) := by
  rw [of_text_outcome, refused]
  rfl

/-- A text of blank lines and comments is an empty document, and makes the graph that two braces make,
unless it has both a comment and a tab that is in none: then it is refused as no YAML. -/
theorem bare_text_loads (text : BareText) :
    ∃ graph, (Document.ofText "\x7b\x7d").outcome = .ok .empty ∧ (ofText "\x7b\x7d").outcome = .ok graph ∧
      graph.state = .loaded ∧ graph.size = 0 ∧ graph.topLevel = none ∧
      if text.commented && text.tabbed then
        (Document.ofText text.string).outcome = .error Document.strayTab ∧
          (ofText text.string).outcome = .error (.document Document.strayTab)
      else
        (Document.ofText text.string).outcome = .ok .empty ∧ (ofText text.string).outcome = .ok graph := by
  have braces := empty_outcome Document.braces_outcome
  refine ⟨vacant, Document.braces_outcome, braces, rfl, rfl, rfl, ?_⟩
  have outcome := Document.bare_outcome text
  split
  · rename_i stray
    rw [if_pos stray] at outcome
    exact ⟨outcome, refused_outcome outcome⟩
  · rename_i clear
    rw [if_neg clear] at outcome
    exact ⟨outcome, empty_outcome outcome⟩

def tabbedNote : BareText :=
  .above ⟨['\t'], some " note".toList, by simp, by simp [IsPrintable]⟩ .lf (.last ⟨[], none, nofun, nofun⟩)

theorem tabbed_note_refused : tabbedNote.string = "\t# note\n" ∧
    (Document.ofText "\t# note\n").outcome = .error (.notYaml (.malformed .strayCharacter)) ∧
    (ofText "\t# note\n").outcome = .error (.document (.notYaml (.malformed .strayCharacter))) ∧
    ¬ ∀ text : BareText, (Document.ofText text.string).outcome = .ok .empty := by
  have text : tabbedNote.string = "\t# note\n" := rfl
  have refused : (Document.ofText "\t# note\n").outcome =
      .error (.notYaml (.malformed .strayCharacter)) := by
    have outcome := Document.bare_outcome tabbedNote
    rwa [text] at outcome
  refine ⟨text, refused, refused_outcome refused, ?_⟩
  intro always
  have read := always tabbedNote
  rw [text, refused] at read
  cases read

end Graph

end TargetGraph

import TargetGraph.Proofs.JsonWriting
import TargetGraph.Proofs.NamedEntries
import TargetGraph.Proofs.QuotedNames

/-!
# Documents written as JSON

Declarations that are written as one JSON object without spaces are read back as they were. Keys may
repeat and lists may be empty. What a name is spelled with does not matter, since a name in quotes is
never taken for anything but a string.
-/

namespace TargetGraph

open Yaml
open Yaml.Scanner (Brackets)
open Yaml.Token (Kind)

set_option autoImplicit false

namespace Declaration

def jsonMember (declaration : Declaration) : String × Json :=
  (declaration.name, .array (declaration.dependencies.map .string))

def memberText (declaration : Declaration) : List Char :=
  Json.quote declaration.name ++ ':' :: Brackets.square.around Json.quote 0 declaration.dependencies

/-- All names are spelled with characters that can be written and read back, and the declared one, as
it is written, is short enough to be followed by a colon. -/
structure Quotable (declaration : Declaration) : Prop where
  escapable : ∀ name ∈ declaration.name :: declaration.dependencies,
    ∀ c ∈ name.toList, IsEscapable c
  short : (Json.escape declaration.name.toList).length ≤ 1000

end Declaration

/-- Declarations as one JSON object. A name that is declared again is a key again. -/
def Json.ofDeclarations (declarations : List Declaration) : Json :=
  .object (declarations.map Declaration.jsonMember)

theorem compact_names (names : List String) :
    (Json.array (names.map .string)).compactChars = Brackets.square.around Json.quote 0 names := by
  rw [Json.compact_array, List.map_map]
  rfl

theorem compact_declarations (declarations : List Declaration) :
    (Json.ofDeclarations declarations).compactChars =
      Brackets.curly.around Declaration.memberText 0 declarations := by
  have one (declaration : Declaration) :
      Json.compactMember declaration.jsonMember = declaration.memberText := by
    rw [Json.compactMember, Declaration.jsonMember, compact_names]
    rfl
  have each : (Json.compactMember ∘ Declaration.jsonMember) = Declaration.memberText := funext one
  rw [Json.ofDeclarations, Json.compact_object, List.map_map, each]
  rfl

theorem quote_printable {name : String} (escapable : ∀ c ∈ name.toList, IsEscapable c) :
    ∀ c ∈ Json.quote name, IsPrintable c := by
  simp only [Json.quote, List.mem_cons, List.mem_append, List.not_mem_nil, or_false]
  rintro c (rfl | inner | rfl)
  · decide
  · exact escape_printable escapable c inner
  · decide

section

variable {declarations : List Declaration}

theorem json_printable (quotable : ∀ declaration ∈ declarations, declaration.Quotable) :
    ∀ c ∈ (Json.ofDeclarations declarations).compactChars, IsPrintable c := by
  rw [compact_declarations]
  apply Brackets.around_printable
  intro declaration declared
  have escapable := (quotable declaration declared).escapable
  simp only [Declaration.memberText, List.mem_append, List.mem_cons]
  rintro c (name | rfl | list)
  · exact quote_printable (escapable _ (by simp)) c name
  · decide
  · have inside (name : String) (among : name ∈ declaration.dependencies) :=
      quote_printable (escapable name (by simp [among]))
    exact Brackets.around_printable _ inside c list

theorem Yaml.Scanner.At.member_read {declaration : Declaration} (quotable : declaration.Quotable)
    {scanner : Scanner} {text : List Char} {kinds : List Kind} {depth blanks : Nat} {indents : List Nat}
    (at_ : scanner.At (List.replicate blanks ' ' ++ (declaration.memberText ++ text)) kinds (depth + 1)
      indents true) :
    ∃ later, scanner.Leads later ∧
      later.At text ((entryKinds .doubleQuoted declaration).reverse ++ kinds) (depth + 1) indents
        false := by
  simp only [Declaration.memberText, List.append_assoc, List.cons_append] at at_
  have width : (Json.quote declaration.name).length ≤ PossibleKey.lengthLimit := by
    have short := quotable.short
    simp only [Json.quote, List.length_cons, List.length_append, List.length_nil,
      PossibleKey.lengthLimit]
    omega
  obtain ⟨named, early, awaits⟩ := at_.key_read
    (Scanner.quoted_reads _ (quotable.escapable _ (by simp)) _ _) width
  obtain ⟨keyed, middle, there⟩ := awaits.flow_colon_read
  obtain ⟨listed, late, reached⟩ := there.list_read 0 fun name member text _ =>
    Scanner.quoted_reads name (quotable.escapable name (by simp [member])) true text
  refine ⟨listed, early.trans (middle.trans late), ?_⟩
  simpa [entryKinds, listKinds] using reached

theorem json_tokens (quotable : ∀ declaration ∈ declarations, declaration.Quotable) :
    (TokenStream.ofText (Json.ofDeclarations declarations).compactChars).tokens.map Token.kind =
      Brackets.curly.kindsAround (entryKinds .doubleQuoted) declarations ++ [.streamEnd] := by
  rw [of_text_printable _ fun c member => .inl (json_printable quotable c member)]
  have start := Scanner.start_at (Json.ofDeclarations declarations).compactChars
  have spelled : (Json.ofDeclarations declarations).compactChars = List.replicate 0 ' ' ++
      (Brackets.curly.around Declaration.memberText 0 declarations ++ []) := by
    simp [compact_declarations]
  have whole := { start with text := start.text.trans spelled }
  obtain ⟨later, leads, there⟩ := whole.collection_read .curly (fun _ => .inr rfl)
    fun declaration declared _ _ _ _ _ at_ => at_.member_read (quotable declaration declared)
  have tokens := leads.ended there
  rwa [List.append_nil, List.reverse_reverse] at tokens

end

namespace Document

/-- Declarations that are written as JSON are read back. -/
theorem json_reads_back (declarations : List Declaration)
    (named : ∀ declaration ∈ declarations, declaration.Named)
    (quotable : ∀ declaration ∈ declarations, declaration.Quotable) :
    (ofText (Json.ofDeclarations declarations).compact).outcome = .ok ⟨declarations⟩ := by
  have shown : Text.isBlankText (Json.ofDeclarations declarations).compactChars = false := rfl
  have first : firstOf (Json.ofDeclarations declarations).compact =
      .ofTokens (.ofText (Json.ofDeclarations declarations).compactChars) := by
    rw [firstOf, Json.compact, String.toList_ofList, shown]
    rfl
  have makes : (firstOf (Json.ofDeclarations declarations).compact).Makes .doubleQuoted declarations := by
    rw [first]
    exact flow_tokens_make (json_tokens quotable)
  exact of_text_makes makes (fun _ _ _ _ => rfl) named

/-- Names that would be a number, null or a comment if they were not in quotes, and names with blanks at
their ends, quotes, controls and the marks of lists and mappings. One of them is declared twice. -/
def awkward : List Declaration :=
  [⟨"5", ["null", " a ", "#"]⟩, ⟨"\x22\\: ,", ["\t", "\x01", "[]\x7b\x7d"]⟩, ⟨"5", []⟩]

theorem awkward_reads_back : (∀ declaration ∈ awkward, declaration.Named) ∧
    (∀ declaration ∈ awkward, declaration.Quotable) ∧
    (Json.ofDeclarations awkward).compact =
      "\x7b\"5\":[\"null\",\" a \",\"#\"]," ++
        "\"\\\"\\\\: ,\":[\"\\t\",\"\\u0001\",\"[]\x7b\x7d\"]," ++ "\"5\":[]\x7d" ∧
    (ofText (Json.ofDeclarations awkward).compact).outcome = .ok ⟨awkward⟩ := by
  have named : ∀ declaration ∈ awkward, declaration.Named := by
    simp [awkward, Declaration.Named]
  have escapable : ∀ declaration ∈ awkward, ∀ name ∈ declaration.name :: declaration.dependencies,
      ∀ c ∈ name.toList, IsEscapable c := by
    simp [awkward, IsEscapable]
  have short : ∀ declaration ∈ awkward, (Json.escape declaration.name.toList).length ≤ 1000 := by
    decide +kernel
  have quotable : ∀ declaration ∈ awkward, declaration.Quotable := fun declaration declared =>
    ⟨escapable declaration declared, short declaration declared⟩
  exact ⟨named, quotable, by decide +kernel, json_reads_back awkward named quotable⟩

end Document

end TargetGraph

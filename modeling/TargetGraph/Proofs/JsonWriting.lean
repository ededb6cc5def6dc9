import TargetGraph.Proofs.JsonGrammar
import TargetGraph.Proofs.Numerals

/-!
# Written JSON

Both written forms of a value are texts of it. The compact one has no blanks outside its strings, and
is what is left of the other one without them.
-/

namespace TargetGraph.Json

set_option autoImplicit false

def memberParts (member : String × Json) : List Token :=
  .string member.1 :: .colon :: tokens member.2

def compactMember (member : String × Json) : List Char :=
  quote member.1 ++ ':' :: compactChars member.2

def prettyItem (level : Nat) (item : Json) : List Char := lineBreak level ++ prettyChars level item

def prettyMember (level : Nat) (member : String × Json) : List Char :=
  lineBreak level ++ (quote member.1 ++ ':' :: ' ' :: prettyChars level member.2)

theorem tokens_array (items : List Json) : (array items).tokens =
    .openList :: ([Token.comma].intercalate (items.map tokens) ++ [.closeList]) := by
  rw [tokens, separated_eq_intercalate [.comma] itemTokens tokens rfl (fun _ => rfl)
    fun _ _ _ => rfl]

theorem tokens_object (members : List (String × Json)) : (object members).tokens =
    .openObject :: ([Token.comma].intercalate (members.map memberParts) ++ [.closeObject]) := by
  rw [tokens, separated_eq_intercalate [.comma] memberTokens memberParts rfl (fun _ => rfl)
    fun _ _ _ => rfl]

theorem compact_array (items : List Json) : (array items).compactChars =
    '[' :: ([','].intercalate (items.map compactChars) ++ [']']) := by
  rw [compactChars, separated_eq_intercalate [','] compactItems compactChars rfl (fun _ => rfl)
    fun _ _ _ => rfl]

theorem compact_object (members : List (String × Json)) : (object members).compactChars =
    '\x7b' :: ([','].intercalate (members.map compactMember) ++ ['\x7d']) := by
  rw [compactChars, separated_eq_intercalate [','] compactMembers compactMember rfl (fun _ => rfl)]
  intro member next rest
  simp [compactMembers, compactMember]

theorem pretty_array {level : Nat} {items : List Json} (some : items ≠ []) :
    (array items).prettyChars level =
      '[' :: ([','].intercalate (items.map (prettyItem (level + 1))) ++ (lineBreak level ++ [']'])) := by
  cases items with
  | nil => exact absurd rfl some
  | cons item items =>
      rw [prettyChars, separated_eq_intercalate [','] (prettyItems (level + 1)) (prettyItem (level + 1))
        rfl (fun _ => rfl) fun _ _ _ => rfl, List.append_assoc]

theorem pretty_object {level : Nat} {members : List (String × Json)} (some : members ≠ []) :
    (object members).prettyChars level =
      '\x7b' :: ([','].intercalate (members.map (prettyMember (level + 1))) ++
        (lineBreak level ++ ['\x7d'])) := by
  cases members with
  | nil => exact absurd rfl some
  | cons member members =>
      rw [prettyChars, separated_eq_intercalate [','] (prettyMembers (level + 1))
        (prettyMember (level + 1)) rfl, List.append_assoc]
      · intro member
        simp [prettyMembers, prettyMember]
      · intro member next rest
        simp [prettyMembers, prettyMember]

theorem line_break_blank (level : Nat) : ∀ c ∈ lineBreak level, isBlank c = true := by
  simp [lineBreak, isBlank]

theorem Written.enclosed {gap : Char → Prop} (opened closed : Token) {tokens : List Token}
    {text ending : List Char} (openMark : opened.isNumber = false) (closeMark : Ended ending)
    (inside : Written gap tokens text) (closing : Written gap [closed] ending) :
    Written gap (opened :: (tokens ++ [closed])) (opened.written ++ (text ++ ending)) :=
  .cons opened openMark (inside.append closing closeMark)

theorem compact_written (gap : Char → Prop) (value : Json) :
    Written gap value.tokens value.compactChars := by
  induction value using nested_induction with
  | null => exact .single .null
  | number value => exact .single (.number value)
  | string text => exact .single (.string text)
  | array items each =>
      rw [tokens_array, compact_array]
      exact .enclosed .openList .closeList rfl (by simp [Ended]) (.separated each)
        (.single .closeList)
  | object members each =>
      have inside : ∀ member ∈ members, Written gap (memberParts member) (compactMember member) := by
        intro member among
        apply Written.cons (.string member.1) rfl
        exact .cons .colon rfl (each member among)
      rw [tokens_object, compact_object]
      exact .enclosed .openObject .closeObject rfl (by simp [Ended]) (.separated inside)
        (.single .closeObject)

theorem pretty_written (level : Nat) (value : Json) :
    Written (isBlank ·) value.tokens (value.prettyChars level) := by
  induction value using nested_induction generalizing level with
  | null => exact .single .null
  | number value => exact .single (.number value)
  | string text => exact .single (.string text)
  | array items each =>
      by_cases none : items = []
      · subst none
        exact .enclosed .openList .closeList rfl (by simp [Ended]) .nil (.single .closeList)
      have inside : ∀ item ∈ items,
          Written (isBlank ·) item.tokens (prettyItem (level + 1) item) := by
        intro item among
        exact .blanks (line_break_blank _) (each item among _)
      rw [tokens_array, pretty_array none]
      apply Written.enclosed .openList .closeList rfl (by simp [Ended, lineBreak]) (.separated inside)
      exact .blanks (line_break_blank level) (Written.single .closeList)
  | object members each =>
      by_cases none : members = []
      · subst none
        exact .enclosed .openObject .closeObject rfl (by simp [Ended]) .nil (.single .closeObject)
      have inside : ∀ member ∈ members,
          Written (isBlank ·) (memberParts member) (prettyMember (level + 1) member) := by
        intro member among
        apply LaidOut.blanks (line_break_blank _)
        apply Written.cons (.string member.1) rfl
        apply Written.cons .colon rfl
        exact .gap rfl (each member among _)
      rw [tokens_object, pretty_object none]
      apply Written.enclosed .openObject .closeObject rfl (by simp [Ended, lineBreak])
        (.separated inside)
      exact .blanks (line_break_blank level) (Written.single .closeObject)

/-- What is written here is spelled in one of the ways that the grammar allows. -/
theorem Written.spelled {gap : Char → Prop} {tokens : List Token} {text : List Char}
    (written : Written gap tokens text) : LaidOut gap Token.Spelled tokens text :=
  written.imp (fun _ between => between) fun token part same => by
    rw [same]
    exact token.written_spelled

theorem compact_is_text (value : Json) : value.IsText value.compact := by
  rw [IsText, compact, String.toList_ofList]
  exact (compact_written _ value).spelled

theorem pretty_is_text (value : Json) : value.IsText value.pretty := by
  rw [IsText, pretty, String.toList_ofList]
  exact (pretty_written 0 value).spelled

/-- Where a character stands: between quotes or not, and behind a backslash between them. -/
inductive Side where
  | outside
  | inside
  | escaped

def squeezeFrom : Side → List Char → List Char
  | _, [] => []
  | .outside, c :: rest =>
    if isBlank c then squeezeFrom .outside rest
    else c :: squeezeFrom (if c = '\x22' then .inside else .outside) rest
  | .inside, c :: rest =>
    c :: squeezeFrom (if c = '\x22' then .outside else if c = '\\' then .escaped else .inside) rest
  | .escaped, c :: rest => c :: squeezeFrom .inside rest

/-- A text without the blanks that stand outside its strings. -/
def squeeze (text : String) : String := String.ofList (squeezeFrom .outside text.toList)

theorem squeeze_solid {c : Char} (solid : isBlank c = false) (quoteless : c ≠ '\x22')
    (rest : List Char) : squeezeFrom .outside (c :: rest) = c :: squeezeFrom .outside rest := by
  rw [squeezeFrom, solid, if_neg Bool.false_ne_true, if_neg quoteless]

theorem digit_solid {c : Char} (decimal : c.isDigit) : isBlank c = false ∧ c ≠ '\x22' := by
  have other (d : Char) (letter : d.isDigit = false) : c ≠ d := by
    intro same
    rw [same, letter] at decimal
    exact Bool.false_ne_true decimal
  simp [isBlank, other]

theorem squeeze_digits {digits : List Char} (decimal : ∀ c ∈ digits, c.isDigit) (rest : List Char) :
    squeezeFrom .outside (digits ++ rest) = digits ++ squeezeFrom .outside rest := by
  induction digits with
  | nil => rfl
  | cons c digits induction =>
      rw [List.forall_mem_cons] at decimal
      rcases digit_solid decimal.1 with ⟨solid, quoteless⟩
      rw [List.cons_append, squeeze_solid solid quoteless, induction decimal.2, List.cons_append]

theorem squeeze_inside {c : Char} (quoteless : c ≠ '\x22') (slashless : c ≠ '\\')
    (rest : List Char) : squeezeFrom .inside (c :: rest) = c :: squeezeFrom .inside rest := by
  rw [squeezeFrom, if_neg quoteless, if_neg slashless]

theorem hex_digit_inside : ∀ digit < 16, hexDigit digit ≠ '\x22' ∧ hexDigit digit ≠ '\\' := by decide

theorem squeeze_char (c : Char) (rest : List Char) :
    squeezeFrom .inside (escapeChar c ++ rest) = escapeChar c ++ squeezeFrom .inside rest := by
  have form := escape_char_form c
  generalize escapeChar c = written at form
  cases form with
  | letter letter known => rfl
  | code control =>
      have high := hex_digit_inside (c.toNat / 16) (by omega)
      have low := hex_digit_inside (c.toNat % 16) (by omega)
      have digits := squeeze_inside high.1 high.2 (hexDigit (c.toNat % 16) :: rest)
      rw [squeeze_inside low.1 low.2] at digits
      simp only [List.cons_append, List.nil_append]
      rw [← digits]
      rfl
  | bare visible quoteless slashless => exact squeeze_inside quoteless slashless rest

/-- The closing quote is the first one that does not stand behind a backslash. -/
theorem squeeze_quote (text : String) (rest : List Char) :
    squeezeFrom .outside (quote text ++ rest) = quote text ++ squeezeFrom .outside rest := by
  have inside (text : List Char) : squeezeFrom .inside (escape text ++ '\x22' :: rest) =
      escape text ++ '\x22' :: squeezeFrom .outside rest := by
    induction text with
    | nil => rfl
    | cons c text induction =>
        rw [escape, List.flatMap_cons, List.append_assoc, squeeze_char, ← escape, induction,
          List.append_assoc]
  simp only [quote, List.cons_append, List.append_assoc, List.nil_append]
  rw [← inside]
  rfl

theorem squeeze_token (token : Token) (rest : List Char) :
    squeezeFrom .outside (token.written ++ rest) = token.written ++ squeezeFrom .outside rest := by
  cases token with
  | number value => exact squeeze_digits (Digits.written_digits value) rest
  | string text => exact squeeze_quote text rest
  | _ => rfl

theorem Written.squeezed {tokens : List Token} {text : List Char}
    (written : Written (isBlank ·) tokens text) :
    squeezeFrom .outside text = tokens.flatMap Token.written := by
  induction written with
  | nil => rfl
  | gap between _ induction => rw [squeezeFrom, if_pos between, induction]
  | token own _ _ induction => rw [own, squeeze_token, induction, List.flatMap_cons]

theorem Written.dense {tokens : List Token} {text : List Char}
    (written : Written (fun _ => False) tokens text) : text = tokens.flatMap Token.written := by
  induction written with
  | nil => rfl
  | gap between => exact between.elim
  | token own _ _ induction => rw [own, List.flatMap_cons, ← induction]

theorem pretty_squeezed (value : Json) : squeeze value.pretty = value.compact := by
  have left := (pretty_written 0 value).squeezed
  have whole := (compact_written (fun _ => False) value).dense
  rw [squeeze, pretty, String.toList_ofList, left, compact, ← whole]

end TargetGraph.Json

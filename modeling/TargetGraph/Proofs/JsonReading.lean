import TargetGraph.Proofs.JsonWriting

/-!
# JSON read back

Every text of a value is read as that value, in whichever way it is spelled and laid out. The characters
of a token lead from one place between tokens to the next, and the tokens of a value lead from a place
where one is awaited to the place behind it, whatever is open around it.
-/

namespace TargetGraph.Json

set_option autoImplicit false

section

variable {place next : Place} {c : Char} {found : List Token}

theorem tokens_from_step (known : place.step c = some (found, next)) (rest : List Char) :
    tokensFrom place (c :: rest) = (tokensFrom next rest).map (found ++ ·) := by
  simp only [tokensFrom, known, Option.bind_eq_bind, Option.bind_some]
  cases tokensFrom next rest with
  | none => rfl
  | some later => rfl

theorem tokens_from_quiet (known : place.step c = some ([], next)) (rest : List Char) :
    tokensFrom place (c :: rest) = tokensFrom next rest := by
  rw [tokens_from_step known]
  exact Option.map_id_apply

end

theorem mark_step {c : Char} {token : Token} (known : mark? c = some token) :
    Place.step .between c = some ([token], .between) := by
  unfold mark? at known
  split at known <;> cases known <;> rfl

theorem digit_step : ∀ digit < 10,
    Place.step .between (Nat.digitChar digit) = some ([], .digits digit) := by
  decide

theorem digit_known : ∀ digit < 10, Digits.digit? 10 (Nat.digitChar digit) = some digit := by decide

theorem digits_read (value : Nat) (rest : List Char) :
    tokensFrom .between (Digits.write value ++ rest) = tokensFrom (.digits value) rest := by
  induction value using Nat.strongRecOn generalizing rest with
  | ind value induction =>
      by_cases small : value < 10
      · rw [Digits.write, Nat.toDigits_of_lt_base small]
        exact tokens_from_quiet (digit_step value small) rest
      -- What stands before the last digit is the tenth part, which is read first and is not 0.
      · have last := digit_known (value % 10) (Nat.mod_lt _ (by decide))
        have started : value / 10 ≠ 0 := by omega
        have count : value / 10 * 10 + value % 10 = value := Nat.div_add_mod' value 10
        have step : Place.step (.digits (value / 10)) (Nat.digitChar (value % 10)) =
            some ([], .digits value) := by
          rw [Place.step, last]
          simp only [if_neg started, count]
        rw [Digits.write, Nat.toDigits_of_base_le (by decide) (Nat.le_of_not_lt small),
          List.append_assoc, ← Digits.write, induction _ (by omega)]
        exact tokens_from_quiet step rest

theorem number_read (value : Nat) {rest : List Char} (ended : Ended rest) :
    tokensFrom (.digits value) rest = (tokensFrom .between rest).map (.number value :: ·) := by
  cases rest with
  | nil => rfl
  | cons c rest =>
      have other := Digits.no_decimal_digit (ended c rfl)
      -- The character that ends the number is read as it would be between two tokens.
      simp only [tokensFrom, Place.step, other]
      cases Place.start c with
      | none => rfl
      | some step =>
          simp only [Option.map_some, Option.bind_eq_bind, Option.bind_some]
          cases tokensFrom step.2 rest with
          | none => rfl
          | some later => rfl

theorem code_read {digits : List Char} {c : Char} {value : Nat} (some : digits ≠ [])
    (counted : digits.foldlM (fun value c => (Digits.digit? 16 c).map fun digit => value * 16 + digit)
      value = .some c.toNat) (read rest : List Char) :
    tokensFrom (.code digits.length value read) (digits ++ rest) =
      tokensFrom (.text (c :: read)) rest := by
  induction digits generalizing value with
  | nil => exact absurd rfl some
  | cons first digits induction =>
      rw [List.foldlM_cons] at counted
      cases known : Digits.digit? 16 first with
      | none => simp [known] at counted
      | some digit =>
          simp only [known, Option.map_some, Option.bind_eq_bind, Option.bind_some] at counted
          cases digits with
          | nil =>
              have same : value * 16 + digit = c.toNat := by simpa using counted
              have valid : c.toNat.isValidChar := c.valid
              have step : Place.step (.code 1 value read) first = .some ([], .text (c :: read)) := by
                simp [Place.step, known, same, valid, Char.ofNat_toNat]
              exact tokens_from_quiet step rest
          | cons second digits =>
              have step : Place.step (.code (digits.length + 2) value read) first =
                  .some ([], .code (digits.length + 1) (value * 16 + digit) read) := by
                simp [Place.step, known]
              rw [List.cons_append, List.length_cons, List.length_cons, tokens_from_quiet step]
              exact induction (by simp) counted

theorem Spells.read {c : Char} {part : List Char} (spells : Spells c part) (read rest : List Char) :
    tokensFrom (.text read) (part ++ rest) = tokensFrom (.text (c :: read)) rest := by
  have slash : Place.step (.text read) '\\' = some ([], .escape read) := rfl
  cases spells with
  | bare visible quoteless slashless =>
      have step : Place.step (.text read) c = some ([], .text (c :: read)) := by
        rw [Place.step, if_neg quoteless, if_neg slashless, if_neg (Nat.not_lt.mpr visible)]
      exact tokens_from_quiet step rest
  | letter letter known =>
      have other : letter ≠ 'u' := by
        intro same
        subst same
        cases known
      have step : Place.step (.escape read) letter = some ([], .text (c :: read)) := by
        rw [Place.step, if_neg other, known, Option.map_some]
      exact (tokens_from_quiet slash _).trans (tokens_from_quiet step rest)
  | code digits four value =>
      have some : digits ≠ [] := by
        intro none
        simp [none] at four
      have marker : Place.step (.escape read) 'u' = .some ([], .code 4 0 read) := rfl
      rw [Digits.read?, List.isEmpty_eq_false_iff.mpr some, if_neg Bool.false_ne_true] at value
      rw [List.cons_append, List.cons_append, tokens_from_quiet slash, tokens_from_quiet marker, ← four]
      exact code_read some value read rest

theorem text_read {text : List Char} {parts : List (List Char)}
    (each : List.Forall₂ Spells text parts) (read rest : List Char) :
    tokensFrom (.text read) (parts.flatten ++ '\x22' :: rest) =
      (tokensFrom .between rest).map (.string (String.ofList (read.reverse ++ text)) :: ·) := by
  induction each generalizing read with
  | nil =>
      have step : Place.step (.text read) '\x22' =
          some ([.string (String.ofList read.reverse)], .between) := rfl
      rw [List.append_nil]
      exact tokens_from_step step rest
  | @cons c part text parts own _ induction =>
      rw [List.flatten_cons, List.append_assoc, own.read, induction, List.reverse_cons,
        List.append_assoc]
      rfl

theorem Token.Spelled.read {token : Token} {part rest : List Char} (spelled : token.Spelled part)
    (apart : token.isNumber = true → Ended rest) :
    tokensFrom .between (part ++ rest) = (tokensFrom .between rest).map (token :: ·) := by
  cases spelled with
  | mark c token known => exact tokens_from_step (mark_step known) rest
  | null =>
      have first : Place.step .between 'n' = some ([], .word 'u' ['l', 'l']) := rfl
      have second : Place.step (.word 'u' ['l', 'l']) 'u' = some ([], .word 'l' ['l']) := rfl
      have third : Place.step (.word 'l' ['l']) 'l' = some ([], .word 'l' []) := rfl
      have last : Place.step (.word 'l' []) 'l' = some ([.null], .between) := rfl
      simp only [List.cons_append, List.nil_append]
      rw [tokens_from_quiet first, tokens_from_quiet second, tokens_from_quiet third]
      exact tokens_from_step last rest
  | number value => rw [digits_read, number_read value (apart rfl)]
  | string text parts each =>
      have quote : Place.step .between '\x22' = some ([], .text []) := rfl
      have whole := text_read each [] rest
      rw [List.reverse_nil, List.nil_append, String.ofList_toList] at whole
      rw [List.cons_append, List.append_assoc, tokens_from_quiet quote]
      exact whole

theorem LaidOut.read {tokens : List Token} {text : List Char}
    (laid : LaidOut (isBlank ·) Token.Spelled tokens text) :
    tokensFrom .between text = some tokens := by
  induction laid with
  | nil => rfl
  | @gap c tokens text between _ induction =>
      have step : Place.step .between c = some ([], .between) := by
        rw [Place.step, Place.start, if_pos between]
      rw [tokens_from_quiet step, induction]
  | token own apart _ induction => rw [own.read apart, induction, Option.map_some]

/-- The tokens of a value lead behind it, whatever is open around it. -/
def IsBuilt (value : Json) : Prop := ∀ (frames : List Frame) (rest : List Token),
  (value.tokens ++ rest).foldlM Building.step ⟨.value, frames⟩ =
    rest.foldlM Building.step ⟨.behind value, frames⟩

section

variable (frames : List Frame) (rest : List Token)

theorem build_step {state next : Building} {token : Token} (known : state.step token = some next) :
    (token :: rest).foldlM Building.step state = rest.foldlM Building.step next := by
  rw [List.foldlM_cons, known]
  rfl

theorem member_built {member : String × Json} (own : IsBuilt member.2)
    (read : List (String × Json)) :
    (memberParts member ++ rest).foldlM Building.step ⟨.key, .object read :: frames⟩ =
      rest.foldlM Building.step ⟨.behind member.2, .member read member.1 :: frames⟩ := by
  have key : Building.step ⟨.key, .object read :: frames⟩ (.string member.1) =
      some ⟨.colon, .member read member.1 :: frames⟩ := rfl
  have colon : Building.step ⟨.colon, .member read member.1 :: frames⟩ .colon =
      some ⟨.value, .member read member.1 :: frames⟩ := rfl
  rw [memberParts, List.cons_append, List.cons_append, build_step _ key, build_step _ colon, own]

end

/-- Items with commas in between, up to what closes them. Each of them leads from a place that depends on
those before it to the place behind it; they are kept with the last one first. -/
theorem separated_built {Item : Type} (parts : Item → List Token) (closing : Token)
    (start : List Item → Building) (behind : Item → List Item → Building)
    (done : List Item → Building) {items : List Item}
    (each : ∀ item ∈ items, ∀ read rest, (parts item ++ rest).foldlM Building.step (start read) =
      rest.foldlM Building.step (behind item read))
    (comma : ∀ item read, (behind item read).step .comma = some (start (item :: read)))
    (close : ∀ item read, (behind item read).step closing = some (done (item :: read)))
    (present : items ≠ []) (read : List Item) (rest : List Token) :
    ([Token.comma].intercalate (items.map parts) ++ closing :: rest).foldlM Building.step
        (start read) =
      rest.foldlM Building.step (done (items.reverse ++ read)) := by
  cases items with
  | nil => exact absurd rfl present
  | cons item items =>
      induction items generalizing item read with
      | nil =>
          rw [List.map_singleton, List.intercalate_singleton, each item (by simp),
            build_step _ (close item read)]
          rfl
      | cons next items induction =>
          have later := induction (item :: read) next
            (fun other among => each other (List.mem_cons_of_mem _ among)) (by simp)
          have order : (item :: next :: items).reverse ++ read =
              (next :: items).reverse ++ item :: read := by simp
          rw [List.map_cons, List.map_cons, List.intercalate_cons_cons, List.append_assoc,
            List.append_assoc, each item (by simp), List.singleton_append,
            build_step _ (comma item read), ← List.map_cons, later, order]

theorem built (value : Json) : IsBuilt value := by
  induction value using nested_induction with
  | null => exact fun _ rest => build_step rest rfl
  | number value => exact fun _ rest => build_step rest rfl
  | string text => exact fun _ rest => build_step rest rfl
  | array items each =>
      intro frames rest
      have opening : Building.step ⟨.value, frames⟩ .openList =
          some ⟨.value, .list [] :: frames⟩ := rfl
      rw [tokens_array, List.cons_append, build_step _ opening, List.append_assoc]
      by_cases none : items = []
      · subst none
        exact build_step rest rfl
      have inside := separated_built tokens .closeList (fun read => ⟨.value, .list read :: frames⟩)
        (fun item read => ⟨.behind item, .list read :: frames⟩)
        (fun read => ⟨.behind (.array read.reverse), frames⟩)
        (fun item among read => each item among _) (fun _ _ => rfl) (fun _ _ => rfl) none [] rest
      simp only [List.append_nil, List.reverse_reverse] at inside
      exact inside
  | object members each =>
      intro frames rest
      have opening : Building.step ⟨.value, frames⟩ .openObject =
          some ⟨.key, .object [] :: frames⟩ := rfl
      rw [tokens_object, List.cons_append, build_step _ opening, List.append_assoc]
      by_cases none : members = []
      · subst none
        exact build_step rest rfl
      have inside := separated_built memberParts .closeObject
        (fun read => ⟨.key, .object read :: frames⟩)
        (fun member read => ⟨.behind member.2, .member read member.1 :: frames⟩)
        (fun read => ⟨.behind (.object read.reverse), frames⟩)
        (fun member among read rest => member_built frames rest (each member among) read)
        (fun _ _ => rfl) (fun _ _ => rfl) none [] rest
      simp only [List.append_nil, List.reverse_reverse] at inside
      exact inside

/-- A text is read as the value that it means, and so means no other one. -/
theorem IsText.read {value : Json} {text : String} (means : value.IsText text) :
    read? text = some value := by
  have whole := built value [] []
  rw [List.append_nil] at whole
  rw [read?, LaidOut.read means]
  change ofTokens? value.tokens = some value
  rw [ofTokens?, whole]
  rfl

example : read? "[ 10,\n\"\\u00E9\\/\" ]" = some (.array [.number 10, .string "é/"]) := by rfl

example : read? "[1,]" = none ∧ read? "[01]" = none ∧ read? "\"\t\"" = none := by decide +kernel

end TargetGraph.Json

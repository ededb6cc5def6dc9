import TargetGraph.Proofs.FlowTokens
import TargetGraph.Proofs.Lists

/-!
# Lists between brackets

The tokens of anything that commas separate inside a flow collection, and of a list of names. Blanks may
stand behind the commas. What is separated is left open, so that names, lists and whole entries of a flow
mapping are all covered. At the end of a text the tokens are complete.
-/

namespace TargetGraph.Yaml.Scanner

open Token (Kind)

set_option autoImplicit false

inductive Brackets where
  | square
  | curly

namespace Brackets

def opening : Brackets → Char
  | square => '['
  | curly => '{'

def closing : Brackets → Char
  | square => ']'
  | curly => '}'

def openingKind : Brackets → Kind
  | square => .flowSequenceStart
  | curly => .flowMappingStart

def closingKind : Brackets → Kind
  | square => .flowSequenceEnd
  | curly => .flowMappingEnd

def around {Item : Type} (brackets : Brackets) (written : Item → List Char) (blanks : Nat)
    (items : List Item) : List Char :=
  brackets.opening ::
    ((',' :: List.replicate blanks ' ').intercalate (items.map written) ++ [brackets.closing])

def kindsAround {Item : Type} (brackets : Brackets) (tokens : Item → List Kind)
    (items : List Item) : List Kind :=
  brackets.openingKind :: ([Kind.flowEntry].intercalate (items.map tokens) ++ [brackets.closingKind])

theorem around_printable {Item : Type} (brackets : Brackets) {written : Item → List Char}
    {blanks : Nat} {items : List Item} (inside : ∀ item ∈ items, ∀ c ∈ written item, IsPrintable c) :
    ∀ c ∈ brackets.around written blanks items, IsPrintable c := by
  have middle :
      ∀ c ∈ (',' :: List.replicate blanks ' ').intercalate (items.map written), IsPrintable c :=
    intercalate_forall (by simp [IsPrintable]) (by simpa using inside)
  simp only [around, List.mem_cons, List.mem_append, List.not_mem_nil, or_false]
  rintro c (rfl | inner | rfl)
  · cases brackets <;> decide
  · exact middle c inner
  · cases brackets <;> decide

theorem opening_solid (brackets : Brackets) : IsSolid brackets.opening := by
  cases brackets <;> decide

theorem closing_solid (brackets : Brackets) : IsSolid brackets.closing := by
  cases brackets <;> decide

theorem dispatch_opening (brackets : Brackets) {scanner : Scanner} {text : List Char}
    (here : scanner.cursor.rest = brackets.opening :: text) :
    scanner.dispatch = scanner.openFlow brackets.openingKind := by
  cases brackets <;> rw [dispatch, here] <;> simp [opening, openingKind]

theorem dispatch_closing (brackets : Brackets) {scanner : Scanner} {text : List Char}
    (here : scanner.cursor.rest = brackets.closing :: text) :
    scanner.dispatch = scanner.closeFlow brackets.closingKind := by
  cases brackets <;> rw [dispatch, here] <;> simp [closing, closingKind]

end Brackets

section

variable {scanner : Scanner} {text : List Char} {kinds : List Kind} {depth : Nat}
  {indents : List Nat} {allowed : Bool} {blanks : Nat}

theorem shorter_behind {before : List Char} {c : Char}
    (here : scanner.cursor.rest = before ++ c :: text) : text.length < scanner.cursor.rest.length := by
  rw [here, List.length_append, List.length_cons]
  omega

theorem At.shorter {c : Char} (at_ : scanner.At (c :: text) kinds depth indents allowed) :
    text.length < scanner.cursor.rest.length := by
  rw [at_.text]
  exact Nat.lt_succ_self _

theorem At.opened (brackets : Brackets) (free : allowed = true → depth ≠ 0 ∨ indents = [])
    (at_ : scanner.At (List.replicate blanks ' ' ++ brackets.opening :: text) kinds depth indents
      allowed) :
    ∃ later, scanner.Leads later ∧
      later.At text (brackets.openingKind :: kinds) (depth + 1) indents true := by
  obtain ⟨prepared, ready, there, _⟩ := at_.prepare_ok brackets.opening_solid
  obtain ⟨next, read, reached⟩ := there.open_flow_ok free brackets.openingKind
  exact At.reached ready ((brackets.dispatch_opening there.text).trans read) reached
    (by cases brackets <;> nofun) (shorter_behind at_.text)

theorem At.closed (brackets : Brackets)
    (at_ : scanner.At (brackets.closing :: text) kinds (depth + 1) indents allowed) :
    ∃ later, scanner.Leads later ∧
      later.At text (brackets.closingKind :: kinds) depth indents false := by
  obtain ⟨prepared, ready, there⟩ := at_.prepare_here brackets.closing_solid
  obtain ⟨next, read, reached⟩ := there.close_flow_ok brackets.closingKind
  exact At.reached ready ((brackets.dispatch_closing there.text).trans read) reached
    (by cases brackets <;> nofun) at_.shorter

theorem At.comma_read (at_ : scanner.At (',' :: text) kinds depth indents allowed) :
    ∃ later, scanner.Leads later ∧ later.At text (.flowEntry :: kinds) depth indents true := by
  obtain ⟨prepared, ready, there⟩ := at_.prepare_here (by decide)
  obtain ⟨next, read, reached⟩ := there.flow_entry_ok
  have dispatched : prepared.dispatch = .ok next := by
    rw [← read, dispatch, there.text]
    simp
  exact At.reached ready dispatched reached (by simp) at_.shorter

end

def EndsItem (text : List Char) : Prop := ∃ c rest, text = c :: rest ∧ isFlowIndicator c = true

section

variable {Item : Type} (written : Item → List Char) (tokens : Item → List Kind) {blanks depth : Nat}
  {indents : List Nat}

/-- Items that are each read up to their end are also read one after the other. -/
theorem separated_read (item : Item) (items : List Item)
    (one : ∀ member ∈ item :: items, ∀ (before : Nat) (text : List Char), EndsItem text →
      ∀ (scanner : Scanner) (kinds : List Kind),
        scanner.At (List.replicate before ' ' ++ (written member ++ text)) kinds (depth + 1) indents
          true →
        ∃ later, scanner.Leads later ∧
          later.At text ((tokens member).reverse ++ kinds) (depth + 1) indents false)
    {text : List Char} (ends : EndsItem text) (scanner : Scanner) (kinds : List Kind) (before : Nat)
    (at_ : scanner.At (List.replicate before ' ' ++
        ((',' :: List.replicate blanks ' ').intercalate ((item :: items).map written) ++ text))
      kinds (depth + 1) indents true) :
    ∃ later, scanner.Leads later ∧
      later.At text (([Kind.flowEntry].intercalate ((item :: items).map tokens)).reverse ++ kinds)
        (depth + 1) indents false := by
  induction items generalizing item scanner kinds before with
  | nil =>
      simp only [List.map_cons, List.map_nil, List.intercalate_singleton] at at_ ⊢
      exact one item (by simp) before text ends scanner kinds at_
  | cons next items induction =>
      simp only [List.map_cons, List.intercalate_cons_cons, List.append_assoc,
        List.cons_append] at at_ ⊢
      obtain ⟨behind, early, there⟩ := one item (by simp) before _ ⟨',', _, rfl, rfl⟩ scanner kinds at_
      obtain ⟨comma, middle, passed⟩ := there.comma_read
      obtain ⟨later, late, reached⟩ := induction next
        (fun member among => one member (by simp [List.mem_cons.mp among]))
        comma _ blanks (by simpa using passed)
      refine ⟨later, early.trans (middle.trans late), ?_⟩
      simpa using reached

end

theorem At.collection_read {Item : Type} (brackets : Brackets) {written : Item → List Char}
    {tokens : Item → List Kind} {items : List Item} {scanner : Scanner} {text : List Char}
    {kinds : List Kind} {depth before blanks : Nat} {indents : List Nat} {allowed : Bool}
    (free : allowed = true → depth ≠ 0 ∨ indents = [])
    (at_ : scanner.At (List.replicate before ' ' ++ (brackets.around written blanks items ++ text)) kinds
      depth indents allowed)
    (one : ∀ member ∈ items, ∀ (before : Nat) (text : List Char), EndsItem text →
      ∀ (scanner : Scanner) (kinds : List Kind),
        scanner.At (List.replicate before ' ' ++ (written member ++ text)) kinds (depth + 1) indents
          true →
        ∃ later, scanner.Leads later ∧
          later.At text ((tokens member).reverse ++ kinds) (depth + 1) indents false) :
    ∃ later, scanner.Leads later ∧
      later.At text ((brackets.kindsAround tokens items).reverse ++ kinds) depth indents false := by
  simp only [Brackets.around, List.cons_append, List.append_assoc, List.nil_append] at at_
  obtain ⟨first, opening, inside⟩ := at_.opened brackets free
  cases items with
  | nil =>
      obtain ⟨last, closing, behind⟩ := inside.closed brackets
      refine ⟨last, opening.trans closing, ?_⟩
      simpa [Brackets.kindsAround] using behind
  | cons item items =>
      have ends : EndsItem (brackets.closing :: text) :=
        ⟨_, text, rfl, by cases brackets <;> rfl⟩
      obtain ⟨full, reading, there⟩ :=
        separated_read written tokens item items one ends first _ 0 inside
      obtain ⟨last, closing, behind⟩ := there.closed brackets
      refine ⟨last, opening.trans (reading.trans closing), ?_⟩
      simpa [Brackets.kindsAround] using behind

def nameKinds (style : ScalarStyle) (name : String) : List Kind := [.scalar name style]

theorem At.list_read (before : Nat) {scanner : Scanner} {text : List Char} {kinds : List Kind}
    {depth blanks : Nat} {indents : List Nat} {spell : String → List Char} {style : ScalarStyle}
    {names : List String}
    (at_ : scanner.At (List.replicate before ' ' ++ (Brackets.square.around spell blanks names ++ text))
      kinds depth indents false)
    (reads : ∀ name ∈ names, ∀ text, EndsItem text → ReadsAs (spell name) name style true text) :
    ∃ later, scanner.Leads later ∧
      later.At text ((Brackets.square.kindsAround (nameKinds style) names).reverse ++ kinds) depth
        indents false := by
  refine at_.collection_read .square (by simp) fun name member before text ends scanner kinds at_ => ?_
  exact at_.item_read (reads name member text ends)

section

variable {scanner : Scanner} {kinds : List Kind} {indents : List Nat} {allowed : Bool}

theorem close_all_blocks (outside : scanner.outerKeys = []) :
    scanner.closeBlocks none =
      { scanner with
        tokens :=
          scanner.indents.map (fun _ => ⟨.blockEnd, scanner.mark, scanner.mark⟩) ++ scanner.tokens
        indents := [] } := by
  have closed : (scanner.indents.takeWhile fun _ => true) = scanner.indents := by
    induction scanner.indents with
    | nil => rfl
    | cons indent rest induction => rw [List.takeWhile_cons_of_pos rfl, induction]
  have flow : scanner.inFlow = false := by rw [inFlow, outside]; rfl
  rw [closeBlocks, flow]
  simp only [Option.all_none, closed, List.drop_length, Bool.false_eq_true, if_false]

/-- The last token, with the blocks that it closes in front of it. -/
theorem At.end_stream_ok (at_ : scanner.At [] kinds 0 indents allowed) :
    ∃ next, scanner.endStream = .ok next ∧ next.key = none ∧ next.outerKeys = [] ∧
      next.tokens.map Token.kind =
        .streamEnd :: (List.replicate indents.length .blockEnd ++ kinds) := by
  have outside : scanner.outerKeys = [] := List.length_eq_zero_iff.mp at_.depth
  let mark := if scanner.mark.column = 0 then scanner.mark else scanner.mark.nextLine
  let moved : Scanner := { scanner with cursor := { scanner.cursor with mark } }
  have closed : moved.closeBlocks none = _ := close_all_blocks outside
  have dropped : (moved.closeBlocks none).dropKey =
      .ok { moved.closeBlocks none with key := none } := by
    apply drop_key_ok
    intro held same
    rw [closed] at same
    exact at_.optional held ((possible_key_iff scanner held).mpr (.inl same))
  have done : scanner.endStream = .ok (({ moved.closeBlocks none with
      key := none, keyAllowed := false } : Scanner).emitHere .streamEnd) := by
    change (moved.closeBlocks none).dropKey >>= _ = _
    rw [dropped]
    rfl
  refine ⟨_, done, rfl, ?_, ?_⟩
  · rw [closed]
    exact outside
  · rw [closed, ← at_.kinds, ← at_.indents]
    change Kind.streamEnd :: List.map Token.kind (List.map _ scanner.indents ++ scanner.tokens) = _
    rw [List.map_append, List.map_map]
    exact congrArg (fun ends => Kind.streamEnd :: (ends ++ _)) List.map_const

theorem At.ended (at_ : scanner.At [] kinds 0 indents allowed) {fuel : Nat} (enough : 0 < fuel) :
    (run fuel scanner).fault = none ∧
      (run fuel scanner).tokens.map Token.kind =
        kinds.reverse ++ (List.replicate indents.length .blockEnd ++ [.streamEnd]) := by
  have skipped : scanner.skipToNext = scanner := by
    rw [skipToNext, at_.text, skipToToken, ← at_.text]
    rfl
  have ready : scanner.prepare = .ok scanner.forgetStale := by
    rw [prepare, skipped, at_.drop_stale_keys]
    exact congrArg Except.ok (close_blocks_margin at_.forget_stale.margin _)
  obtain ⟨next, done, key, outside, tokens⟩ := at_.forget_stale.end_stream_ok
  have read : scanner.forgetStale.dispatch = .ok next := by
    rw [dispatch, at_.forget_stale.text]
    exact done
  have keyless : next.possibleKeys = [] := by
    rw [possibleKeys, key, outside]
    rfl
  have kept : next.dropStaleKeys = .ok next.forgetStale := drop_stale_keys_ok (by simp [keyless])
  have settled : next.forgetStale.settled = next.tokens.reverse := by
    have none : next.forgetStale.possibleKeys = [] :=
      List.eq_nil_iff_forall_not_mem.mpr fun held possible => by
        simpa [keyless] using forget_stale_possible possible
    rw [Scanner.settled, none]
    rfl
  have last : (next.forgetStale.tokens.head?.any fun token => token.kind == .streamEnd) = true := by
    obtain ⟨token, rest, shape, ends, _⟩ := List.map_eq_cons_iff.mp tokens
    change (next.tokens.head?.any _) = true
    rw [shape]
    simp [ends]
  cases fuel with
  | zero => exact absurd enough (Nat.not_lt_zero _)
  | succ fuel =>
      have fetched : scanner.fetch >>= dropStaleKeys = .ok next.forgetStale := by
        rw [fetch_ok ready read]
        exact kept
      rw [run, fetched]
      simp only [last, if_true, settled]
      refine ⟨trivial, ?_⟩
      rw [List.map_reverse, tokens]
      simp

theorem Leads.ended {first : Scanner} (leads : first.Leads scanner)
    (at_ : scanner.At [] kinds 0 indents allowed) :
    (run (first.cursor.rest.length + 1) first).tokens.map Token.kind =
      kinds.reverse ++ (List.replicate indents.length .blockEnd ++ [.streamEnd]) := by
  obtain ⟨left, enough, same⟩ := leads _ (Nat.lt_succ_self _)
  rw [same]
  exact (at_.ended (Nat.zero_lt_of_lt enough)).2

end

end TargetGraph.Yaml.Scanner

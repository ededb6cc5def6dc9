import TargetGraph.Proofs.Scanning

/-!
# Tokens of flow collections

What the scanner makes of brackets, commas, colons and scalars, each from one state to the next. How a
scalar is written is left open: it is enough that it is read as one token.
-/

namespace TargetGraph.Yaml.Scanner

open Token (Kind)

set_option autoImplicit false

section

variable {scanner prepared next : Scanner} {text : List Char} {kinds : List Kind} {depth : Nat}
  {indents : List Nat} {allowed : Bool} {blanks : Nat} {c : Char} {kind : Kind}

/-- Going to the next token passes over blanks and changes nothing else that is known. -/
theorem At.prepare_ok (solid : IsSolid c)
    (at_ : scanner.At (List.replicate blanks ' ' ++ c :: text) kinds depth indents allowed) :
    ∃ prepared, scanner.prepare = .ok prepared ∧
      prepared.At (c :: text) kinds depth indents allowed ∧
      prepared.mark = scanner.mark.shift blanks := by
  have skipped : scanner.skipToNext =
      { scanner with cursor := ⟨c :: text, scanner.mark.shift blanks⟩ } := by
    rw [skipToNext, at_.text, skip_to_token_solid solid]
  have moved : ({ scanner with
      cursor := ⟨c :: text, scanner.mark.shift blanks⟩ } : Scanner).At (c :: text) kinds depth
        indents allowed :=
    ⟨rfl, at_.kinds, at_.depth, at_.indents, at_.margin, at_.allowed, at_.optional⟩
  refine ⟨_, ?_, moved.forget_stale, rfl⟩
  rw [prepare, skipped, moved.drop_stale_keys]
  exact congrArg Except.ok (close_blocks_margin moved.forget_stale.margin _)

theorem At.prepare_here (solid : IsSolid c)
    (at_ : scanner.At (c :: text) kinds depth indents allowed) :
    ∃ prepared, scanner.prepare = .ok prepared ∧
      prepared.At (c :: text) kinds depth indents allowed := by
  have blankless : scanner.At (List.replicate 0 ' ' ++ c :: text) kinds depth indents allowed := at_
  obtain ⟨prepared, ready, there, _⟩ := blankless.prepare_ok solid
  exact ⟨prepared, ready, there⟩

theorem fetch_ok (ready : scanner.prepare = .ok prepared) (read : prepared.dispatch = .ok next) :
    scanner.fetch = .ok next := by
  rw [fetch, ready]
  exact read

theorem not_ended {token : Token} {tokens : List Token} (head : next.tokens = token :: tokens)
    (going : token.kind ≠ .streamEnd) :
    (next.tokens.head?.any fun token => token.kind == .streamEnd) = false := by
  rw [head]
  exact beq_false_of_ne going

theorem At.reached (ready : scanner.prepare = .ok prepared) (read : prepared.dispatch = .ok next)
    (there : next.At text (kind :: kinds) depth indents allowed) (going : kind ≠ .streamEnd)
    (shorter : text.length < scanner.cursor.rest.length) :
    ∃ later, scanner.Leads later ∧ later.At text (kind :: kinds) depth indents allowed := by
  obtain ⟨token, tokens, head, rfl, _⟩ := List.map_eq_cons_iff.mp there.kinds
  have fetched : scanner.fetch >>= dropStaleKeys = .ok next.forgetStale := by
    rw [fetch_ok ready read]
    exact there.drop_stale_keys
  have same : next.forgetStale.tokens = token :: tokens := head
  have further : next.forgetStale.cursor.rest.length < scanner.cursor.rest.length := by
    rw [there.forget_stale.text]
    exact shorter
  exact ⟨_, leads_of_fetch fetched (not_ended same going) further,
    there.forget_stale⟩

def keyHere (scanner : Scanner) : PossibleKey :=
  ⟨scanner.tokens.length, scanner.mark,
    !scanner.inFlow && scanner.indents.head? == some scanner.mark.column⟩

theorem At.save_key (at_ : scanner.At text kinds depth indents true) :
    scanner.saveKey = .ok { scanner with key := some scanner.keyHere } := by
  rw [saveKey, if_pos at_.allowed, at_.drop_key]
  rfl

/-- Only where a block is open outside of flow collections can a key be required. -/
theorem At.key_here_optional (at_ : scanner.At text kinds depth indents allowed)
    (free : depth ≠ 0 ∨ indents = []) : scanner.keyHere.required = false := by
  rcases free with inside | outside
  · simp [keyHere, at_.in_flow, inside]
  · simp [keyHere, at_.indents, outside]

theorem At.save_key_ok (at_ : scanner.At text kinds depth indents allowed)
    (free : allowed = true → depth ≠ 0 ∨ indents = []) :
    ∃ saved, scanner.saveKey = .ok saved ∧ saved.At text kinds depth indents allowed := by
  cases allowed with
  | false => exact ⟨scanner, by rw [saveKey, at_.allowed]; rfl, at_⟩
  | true =>
      refine ⟨_, at_.save_key, at_.text, at_.kinds, at_.depth, at_.indents, at_.margin, at_.allowed,
        at_.optional_behind ?_ rfl⟩
      rintro key ⟨⟩
      exact at_.key_here_optional (free rfl)

theorem At.open_flow_ok (at_ : scanner.At (c :: text) kinds depth indents allowed)
    (free : allowed = true → depth ≠ 0 ∨ indents = []) (kind : Kind) :
    ∃ next, scanner.openFlow kind = .ok next ∧
      next.At text (kind :: kinds) (depth + 1) indents true := by
  obtain ⟨saved, done, there⟩ := at_.save_key_ok free
  have opened : scanner.openFlow kind = .ok { saved.emitWide kind 1 with
      key := none, outerKeys := saved.key :: saved.outerKeys, keyAllowed := true } := by
    rw [openFlow, done]
    rfl
  refine ⟨_, opened, congrArg (List.drop 1) there.text, congrArg (kind :: ·) there.kinds,
    congrArg (· + 1) there.depth, there.indents, there.margin, rfl, ?_⟩
  intro key possible
  rcases (possible_key_iff _ key).mp possible with own | outer
  · cases own
  · apply there.optional key
    rw [possible_key_iff]
    exact (List.mem_cons.mp outer).imp_left Eq.symm

theorem close_flow_eq {key : Option PossibleKey} {outer : List (Option PossibleKey)}
    (dropped : scanner.dropKey = .ok { scanner with key := none })
    (shape : scanner.outerKeys = key :: outer) (kind : Kind) :
    scanner.closeFlow kind = .ok { scanner.emitWide kind 1 with
      key, outerKeys := outer, keyAllowed := false } := by
  rcases scanner with ⟨cursor, tokens, own, outerKeys, indents, allowed⟩
  cases shape
  rw [closeFlow, dropped]
  rfl

theorem At.close_flow_ok (at_ : scanner.At (c :: text) kinds (depth + 1) indents allowed)
    (kind : Kind) : ∃ next, scanner.closeFlow kind = .ok next ∧
      next.At text (kind :: kinds) depth indents false := by
  obtain ⟨key, outer, shape⟩ := List.exists_cons_of_length_eq_add_one at_.depth
  have depth : outer.length + 1 = depth + 1 := by rw [← at_.depth, shape, List.length_cons]
  refine ⟨_, close_flow_eq at_.drop_key shape kind, congrArg (List.drop 1) at_.text,
    congrArg (kind :: ·) at_.kinds, Nat.succ.inj depth, at_.indents, at_.margin, rfl, ?_⟩
  intro held possible
  apply at_.optional held
  rw [possible_key_iff, shape]
  refine .inr (List.mem_cons.mpr ?_)
  exact ((possible_key_iff _ held).mp possible).imp_left Eq.symm

theorem At.flow_entry_ok (at_ : scanner.At (c :: text) kinds depth indents allowed) :
    ∃ next, scanner.flowEntry = .ok next ∧ next.At text (.flowEntry :: kinds) depth indents true := by
  have passed : scanner.flowEntry = .ok { scanner.emitWide .flowEntry 1 with
      key := none, keyAllowed := true } := by
    rw [flowEntry, at_.drop_key]
    rfl
  refine ⟨_, passed, congrArg (List.drop 1) at_.text, congrArg (Kind.flowEntry :: ·) at_.kinds,
    at_.depth, at_.indents, at_.margin, rfl, at_.optional_behind (fun _ => nofun) rfl⟩

def passScalar (scanner : Scanner) (name : String) (style : ScalarStyle) (text : List Char)
    (width : Nat) : Scanner :=
  { scanner with
    cursor := ⟨text, scanner.mark.shift width⟩
    tokens := ⟨.scalar name style, scanner.mark, scanner.mark.shift width⟩ :: scanner.tokens
    key := some scanner.keyHere
    keyAllowed := false }

/-- In front of some text, a name that is written like this is read as one scalar. -/
structure ReadsAs (written : List Char) (name : String) (style : ScalarStyle) (inFlow : Bool)
    (text : List Char) : Prop where
  solid : ∃ c rest, written = c :: rest ∧ IsSolid c
  read : ∀ scanner : Scanner, scanner.cursor.rest = written ++ text → scanner.inFlow = inFlow →
    scanner.saveKey = .ok { scanner with key := some scanner.keyHere } →
    scanner.dispatch = .ok (scanner.passScalar name style text written.length)

variable {written : List Char} {name : String} {style : ScalarStyle}

theorem At.pass_scalar (at_ : scanner.At (written ++ text) kinds depth indents true)
    (free : depth ≠ 0 ∨ indents = []) :
    (scanner.passScalar name style text written.length).At text (.scalar name style :: kinds) depth
      indents false := by
  refine ⟨rfl, congrArg (Kind.scalar name style :: ·) at_.kinds, at_.depth, at_.indents, at_.margin,
    rfl, at_.optional_behind ?_ rfl⟩
  rintro key ⟨⟩
  exact at_.key_here_optional free

/-- A name in a flow collection, which may or may not turn out to be a key. -/
theorem At.item_read (reads : ReadsAs written name style true text)
    (at_ : scanner.At (List.replicate blanks ' ' ++ (written ++ text)) kinds (depth + 1) indents true) :
    ∃ later, scanner.Leads later ∧
      later.At text (.scalar name style :: kinds) (depth + 1) indents false := by
  obtain ⟨c, rest, rfl, solid⟩ := reads.solid
  obtain ⟨prepared, ready, there, _⟩ := at_.prepare_ok solid
  have inside : prepared.inFlow = true := by rw [there.in_flow]; rfl
  have read := reads.read prepared there.text inside there.save_key
  have shorter : text.length < scanner.cursor.rest.length := by
    rw [at_.text, List.length_append, List.length_append, List.length_cons]
    omega
  exact At.reached ready read (there.pass_scalar (.inl (Nat.succ_ne_zero depth))) nofun shorter

/-- A state behind a name that may still turn out to be a key, as a colon comes next. -/
structure Awaits (scanner : Scanner) (text : List Char) (kind : Kind) (kinds : List Kind)
    (depth : Nat) (indents : List Nat) (column : Nat) : Prop where
  text : scanner.cursor.rest = ':' :: text
  kinds : scanner.tokens.map Token.kind = kind :: kinds
  depth : scanner.outerKeys.length = depth
  indents : scanner.indents = indents
  margin : ∀ indent ∈ scanner.indents, indent = 0
  key : ∃ key, scanner.key = some key ∧ key.position + 1 = scanner.tokens.length ∧
    key.mark.column = column ∧ key.isStale scanner.mark = false
  optional : ∀ key, some key ∈ scanner.outerKeys → key.required = false

theorem Awaits.drop_stale_keys {column : Nat}
    (awaits : scanner.Awaits text kind kinds depth indents column) :
    scanner.dropStaleKeys = .ok scanner.forgetStale := by
  obtain ⟨own, held, _, _, fresh⟩ := awaits.key
  apply drop_stale_keys_ok
  intro key possible required
  rcases (possible_key_iff scanner key).mp possible with same | outer
  · rw [held] at same
    cases same
    exact fresh
  · rw [awaits.optional key outer] at required
    cases required

theorem Awaits.forget_stale {column : Nat}
    (awaits : scanner.Awaits text kind kinds depth indents column) :
    scanner.forgetStale.Awaits text kind kinds depth indents column := by
  obtain ⟨own, held, place, stands, fresh⟩ := awaits.key
  refine ⟨awaits.text, awaits.kinds, ?_, awaits.indents, awaits.margin,
    ⟨own, ?_, place, stands, fresh⟩, ?_⟩
  · rw [← awaits.depth]
    exact List.length_map _
  · change scanner.key.filter _ = some own
    rw [held, Option.filter_some, if_pos (by simp [fresh])]
  · intro key member
    obtain ⟨other, outer, same⟩ := List.mem_map.mp member
    obtain ⟨rfl, _⟩ := Option.filter_eq_some_iff.mp same
    exact awaits.optional key outer

theorem key_fresh (key : PossibleKey) {width : Nat} (short : width ≤ PossibleKey.lengthLimit) :
    key.isStale (key.mark.shift width) = false := by
  simpa [PossibleKey.isStale, Mark.shift] using short

/-- A name that a colon follows closely enough is remembered as a possible key. -/
theorem At.key_read
    (at_ : scanner.At (List.replicate blanks ' ' ++ (written ++ ':' :: text)) kinds depth indents true)
    (reads : ReadsAs written name style (!decide (depth = 0)) (':' :: text))
    (short : written.length ≤ PossibleKey.lengthLimit) :
    ∃ later, scanner.Leads later ∧
      later.Awaits text (.scalar name style) kinds depth indents (scanner.mark.shift blanks).column := by
  obtain ⟨c, rest, rfl, solid⟩ := reads.solid
  obtain ⟨prepared, ready, there, stands⟩ := at_.prepare_ok solid
  have read := reads.read prepared there.text there.in_flow there.save_key
  have awaits : (prepared.passScalar name style (':' :: text) (c :: rest).length).Awaits text
      (.scalar name style) kinds depth indents (scanner.mark.shift blanks).column := by
    refine ⟨rfl, congrArg (Kind.scalar name style :: ·) there.kinds, there.depth, there.indents,
      there.margin, ⟨_, rfl, rfl, congrArg Mark.column stands, key_fresh _ short⟩, ?_⟩
    intro key outer
    exact there.optional key ((possible_key_iff prepared key).mpr (.inr outer))
  have fetched : scanner.fetch >>= dropStaleKeys =
      .ok (prepared.passScalar name style (':' :: text) (c :: rest).length).forgetStale := by
    rw [fetch_ok ready read]
    exact awaits.drop_stale_keys
  refine ⟨_, leads_of_fetch fetched (not_ended rfl nofun) ?_, awaits.forget_stale⟩
  rw [awaits.forget_stale.text, at_.text, List.length_append, List.length_append, List.length_cons,
    List.length_cons]
  omega

theorem dispatch_colon (colon : scanner.cursor.rest = ':' :: text)
    (separated : (scanner.inFlow || atBlankOrEnd text) = true) :
    scanner.dispatch = scanner.value := by
  rw [dispatch, colon]
  simp [separated]

theorem insert_behind_last {token : Token} {tokens : List Token} {position : Nat}
    (shape : scanner.tokens = token :: tokens) (place : position + 1 = scanner.tokens.length)
    (inserted : List Token) : scanner.insertAt position inserted =
      { scanner with tokens := token :: (inserted.reverse ++ tokens) } := by
  have last : scanner.tokens.length - position = 1 := by omega
  rw [insertAt, last, shape]
  rfl

/-- With its colon a possible key becomes a key, and a block is opened where none is at its column. -/
theorem Awaits.value_ok {column : Nat} {opened : Bool}
    (awaits : scanner.Awaits text kind kinds depth indents column)
    (deeper : scanner.isDeeper column = opened) (margin : opened = true → column = 0) :
    ∃ next, scanner.value = .ok next ∧
      next.At text (.value :: kind :: .key :: ((if opened then [.blockMappingStart] else []) ++ kinds))
        depth (if opened then column :: indents else indents) false := by
  obtain ⟨key, held, place, rfl, _⟩ := awaits.key
  obtain ⟨token, tokens, shape, rfl, rfl⟩ := List.map_eq_cons_iff.mp awaits.kinds
  let keyToken (kind : Kind) : Token := ⟨kind, key.mark, key.mark⟩
  let inserted : List Token := (if opened then [keyToken .blockMappingStart] else []) ++ [keyToken .key]
  have done : scanner.value = .ok (({ scanner with
      tokens := token :: (inserted.reverse ++ tokens)
      indents := if opened then key.mark.column :: scanner.indents else scanner.indents
      key := none, keyAllowed := false } : Scanner).emitWide .value 1) := by
    cases opened <;>
      simp only [value, held, deeper, insert_behind_last shape place, inserted, keyToken] <;> rfl
  refine ⟨_, done, congrArg (List.drop 1) awaits.text, ?_, awaits.depth, ?_, ?_, rfl, ?_⟩
  · cases opened <;> rfl
  · rw [← awaits.indents]
    rfl
  · intro indent member
    cases opened with
    | false => exact awaits.margin indent member
    | true =>
        rcases List.mem_cons.mp member with rfl | outer
        · exact margin rfl
        · exact awaits.margin indent outer
  · intro other possible
    rcases (possible_key_iff _ other).mp possible with own | outer
    · cases own
    · exact awaits.optional other outer

theorem Awaits.colon_read {column : Nat} {opened : Bool}
    (awaits : scanner.Awaits text kind kinds depth indents column)
    (separated : depth = 0 → atBlankOrEnd text = true)
    (deeper : (decide (depth = 0) && indents.head?.all fun indent => decide (indent < column)) = opened)
    (margin : opened = true → column = 0) :
    ∃ later, scanner.Leads later ∧
      later.At text (.value :: kind :: .key :: ((if opened then [.blockMappingStart] else []) ++ kinds))
        depth (if opened then column :: indents else indents) false := by
  have solid : IsSolid ':' := by decide
  have skipped : scanner.skipToNext = scanner := by
    have passed := skip_to_token_solid solid scanner.inFlow 0 text scanner.mark scanner.keyAllowed
    rw [List.replicate_zero, List.nil_append, ← awaits.text] at passed
    rw [skipToNext, passed]
    rfl
  have ready : scanner.prepare = .ok scanner.forgetStale := by
    rw [prepare, skipped, awaits.drop_stale_keys]
    exact congrArg Except.ok (close_blocks_margin awaits.forget_stale.margin _)
  have there := awaits.forget_stale
  have inFlow : scanner.forgetStale.inFlow = !decide (depth = 0) := by
    rw [inFlow, ← there.depth]
    cases scanner.forgetStale.outerKeys <;> simp
  have separated : (scanner.forgetStale.inFlow || atBlankOrEnd text) = true := by
    rw [inFlow]
    by_cases outside : depth = 0 <;> simp [outside, separated]
  have same : scanner.forgetStale.isDeeper column = opened := by
    rw [isDeeper, inFlow, there.indents, ← deeper, Bool.not_not]
  obtain ⟨next, read, reached⟩ := there.value_ok same margin
  refine At.reached ready ((dispatch_colon there.text separated).trans read) reached (by simp) ?_
  rw [awaits.text, List.length_cons]
  exact Nat.lt_succ_self _

/-- Inside a flow collection a colon opens no block, and needs no blank behind it. -/
theorem Awaits.flow_colon_read {column : Nat}
    (awaits : scanner.Awaits text kind kinds (depth + 1) indents column) :
    ∃ later, scanner.Leads later ∧
      later.At text (.value :: kind :: .key :: kinds) (depth + 1) indents false :=
  awaits.colon_read nofun (by simp) (nofun : false = true → column = 0)

end

end TargetGraph.Yaml.Scanner

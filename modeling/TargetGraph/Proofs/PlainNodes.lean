import TargetGraph.Proofs.RootEntries

/-!
# Nodes without tags, anchors and aliases

What such a node means can be said by recursion on the node alone. Forming values gives just this
meaning, as long as there are levels enough and no mapping below the root repeats a key. It fails for one
reason only: a number that is too wide for a value.
-/

namespace TargetGraph.Yaml

set_option autoImplicit false

namespace Node

mutual

/-- What a node means that has neither tags nor aliases, unless a value cannot hold one of its numbers. -/
def meaning? : Node → Option Value
  | scalar _ text style => (Datum.ofScalar none text style).toOption.bind Datum.value?
  | sequence _ items => (meanings? items).map .sequence
  | mapping _ entries => (entryMeanings? entries).map .mapping
  | aliasOf _ => none
  | broken _ => none

def meanings? : List Node → Option (List Value)
  | [] => some []
  | item :: rest => (meaning? item).bind fun value => (meanings? rest).map (value :: ·)

def entryMeanings? : List (Node × Node) → Option (List (Value × Value))
  | [] => some []
  | (key, value) :: rest =>
    (meaning? key).bind fun keyValue => (meaning? value).bind fun value =>
      (entryMeanings? rest).map ((keyValue, value) :: ·)

end

def Differ (earlier later : Node) : Prop :=
  ∀ first second, earlier.meaning? = some first → later.meaning? = some second →
    first.same second = false

/-- A node of at most so many levels of collections that was read to its end, has no tag, anchor or alias,
and in no mapping the same key twice. -/
inductive Regular : Nat → Node → Prop where
  | scalar (levels : Nat) (mark : Mark) (text : String) (style : ScalarStyle) :
      Regular levels (.scalar (.bare mark) text style)
  | sequence {levels : Nat} (mark : Mark) (items : List Node)
      (each : ∀ item ∈ items, Regular levels item) :
      Regular (levels + 1) (.sequence (.bare mark) items)
  | mapping {levels : Nat} (mark : Mark) (entries : List (Node × Node))
      (keys : ∀ entry ∈ entries, Regular levels entry.1)
      (values : ∀ entry ∈ entries, Regular levels entry.2)
      (differ : entries.Pairwise fun earlier later => Differ earlier.1 later.1) :
      Regular (levels + 1) (.mapping (.bare mark) entries)

/-- A node with a number in it that is written as an integer and needs more than 64 bits. -/
inductive TooWide : Node → Prop where
  | scalar (head : NodeHead) (text : String) (value : Int)
      (read : Datum.ofPlain text = .integer value) (wide : isNarrow value = false) :
      TooWide (.scalar head text .plain)
  | item (head : NodeHead) {items : List Node} {item : Node} (member : item ∈ items)
      (wide : TooWide item) : TooWide (.sequence head items)
  | key (head : NodeHead) {entries : List (Node × Node)} {entry : Node × Node}
      (member : entry ∈ entries) (wide : TooWide entry.1) : TooWide (.mapping head entries)
  | value (head : NodeHead) {entries : List (Node × Node)} {entry : Node × Node}
      (member : entry ∈ entries) (wide : TooWide entry.2) : TooWide (.mapping head entries)

theorem meanings_none_iff (items : List Node) :
    meanings? items = none ↔ ∃ item ∈ items, item.meaning? = none := by
  induction items with
  | nil => simp [meanings?]
  | cons item items induction =>
      cases head : item.meaning? <;> simp [meanings?, head, induction]

theorem entry_meanings_none_iff (entries : List (Node × Node)) :
    entryMeanings? entries = none ↔
      ∃ entry ∈ entries, entry.1.meaning? = none ∨ entry.2.meaning? = none := by
  induction entries with
  | nil => simp [entryMeanings?]
  | cons entry entries induction =>
      obtain ⟨key, value⟩ := entry
      cases first : key.meaning? <;> cases second : value.meaning? <;>
        simp [entryMeanings?, first, second, induction]

/-- Only a plain scalar stands for a number, and only one that is too wide stands for nothing. -/
theorem scalar_meaning_none_iff (head : NodeHead) (text : String) (style : ScalarStyle) :
    (scalar head text style).meaning? = none ↔
      style = .plain ∧ ∃ value, Datum.ofPlain text = .integer value ∧ isNarrow value = false := by
  by_cases plain : style = .plain
  · cases datum : Datum.ofPlain text with
    | integer value =>
        cases narrow : isNarrow value <;>
          simp [meaning?, Datum.ofScalar, plain, datum, Except.toOption, Datum.value?, narrow]
    | _ => simp [meaning?, Datum.ofScalar, plain, datum, Except.toOption, Datum.value?]
  · simp [meaning?, Datum.ofScalar, plain, Except.toOption, Datum.value?]

theorem Regular.meaning_none_iff {levels : Nat} {node : Node} (regular : Regular levels node) :
    node.meaning? = none ↔ TooWide node := by
  induction regular with
  | scalar levels mark text style =>
      rw [scalar_meaning_none_iff]
      constructor
      · rintro ⟨rfl, value, read, wide⟩
        exact .scalar _ text value read wide
      · rintro ⟨_, _, value, read, wide⟩
        exact ⟨rfl, value, read, wide⟩
  | sequence mark items each induction =>
      rw [meaning?, Option.map_eq_none_iff, meanings_none_iff]
      constructor
      · rintro ⟨item, member, none⟩
        exact .item _ member ((induction item member).mp none)
      · rintro (⟨⟩ | ⟨_, member, wide⟩)
        exact ⟨_, member, (induction _ member).mpr wide⟩
  | mapping mark entries keys values differ keyInduction valueInduction =>
      rw [meaning?, Option.map_eq_none_iff, entry_meanings_none_iff]
      constructor
      · rintro ⟨entry, member, none | none⟩
        · exact .key _ member ((keyInduction entry member).mp none)
        · exact .value _ member ((valueInduction entry member).mp none)
      · intro wide
        cases wide with
        | key _ member wide => exact ⟨_, member, .inl ((keyInduction _ member).mpr wide)⟩
        | value _ member wide => exact ⟨_, member, .inr ((valueInduction _ member).mpr wide)⟩

end Node

def tooWide (value : Int) (mark : Mark) (path : Path) : Error :=
  .unsuitable (.wrongType (.datum (.integer value)) .anyValue) mark path

/-- Forming succeeds with a meaning, or fails for want of one. No alias is followed in either case. -/
inductive Forms {Result : Type} (run : Forming Result) : Option Result → Prop where
  | formed (result : Result) (done : run = pure result) : Forms run (some result)
  | refused (value : Int) (mark : Mark) (path : Path) (wide : isNarrow value = false)
      (failed : run = throw (tooWide value mark path)) : Forms run none

theorem forming_throw_bind {First Result : Type} (error : Error) (next : First → Forming Result) :
    ((throw error : Forming First) >>= next) = throw error := rfl

theorem Forms.bind {First Result : Type} {first : Forming First} {meaning : Option First}
    {next : First → Forming Result} {follow : First → Option Result} (head : Forms first meaning)
    (tail : ∀ value, meaning = some value → Forms (next value) (follow value)) :
    Forms (first >>= next) (meaning.bind follow) := by
  cases head with
  | formed result done =>
      rw [done, pure_bind]
      exact tail result rfl
  | refused value mark path wide failed =>
      exact .refused value mark path wide (by rw [failed, forming_throw_bind])

theorem Forms.map {First Result : Type} {first : Forming First} {meaning : Option First}
    (f : First → Result) (head : Forms first meaning) :
    Forms (first >>= fun value => pure (f value)) (meaning.map f) := by
  rw [Option.map_eq_bind]
  exact head.bind fun value _ => .formed (f value) rfl

theorem form_scalar_forms (mark : Mark) (text : String) (style : ScalarStyle) (path : Path) :
    Forms (formScalar (.bare mark) none text style path)
      (Node.scalar (.bare mark) text style).meaning? := by
  cases datum : Datum.ofScalar none text style with
  | error type => cases datum
  | ok meant =>
      cases value : meant.value? with
      | some formed =>
          have means : (Node.scalar (.bare mark) text style).meaning? = some formed := by
            simp [Node.meaning?, datum, Except.toOption, value]
          rw [means]
          refine .formed formed ?_
          simp only [formScalar, datum, value]
      | none =>
          have means : (Node.scalar (.bare mark) text style).meaning? = none := by
            simp [Node.meaning?, datum, Except.toOption, value]
          rw [means]
          cases meant with
          | integer number =>
              have wide : isNarrow number = false := by
                by_contra narrow
                simp [Datum.value?, narrow] at value
              refine .refused number mark path wide ?_
              simp only [formScalar, datum, value]
              rfl
          | _ => cases value

theorem form_step_bare (anchors : Anchors) (inner : Option Former) (path : Path) (node : Node)
    {mark : Mark} (bare : node.head? = some (.bare mark)) :
    formStep anchors inner false path node = formContent inner false none path node := by
  have tagged : formTagged inner false path node = formContent inner false none path node := by
    rw [formTagged, bare]
    exact bind_pure _
  cases node with
  | aliasOf slot => cases bare
  | _ => exact tagged

section

variable (inner : Former)

theorem form_items_forms (path : Path) (items : List Node) (places : List (Nat × Node))
    (placed : places.map Prod.snd = items)
    (each : ∀ item ∈ items, ∀ path, Forms (inner false path item) item.meaning?) :
    Forms (places.mapM fun (index, item) => inner false (.item path index) item)
      (Node.meanings? items) := by
  induction places generalizing items with
  | nil =>
      subst placed
      exact .formed [] rfl
  | cons place places induction =>
      subst placed
      rw [List.mapM_cons, List.map_cons, Node.meanings?]
      refine (each place.2 (by simp) _).bind fun value _ => ?_
      refine (induction _ rfl fun item member => each item (by simp [member])).map (value :: ·)

/-- A key is refused that has the meaning of an earlier one, whether or not it stands next to it. -/
theorem form_entries_forms (head : NodeHead) (path : Path) (entries : List (Node × Node))
    (formed : List (Value × Value))
    (each : ∀ entry ∈ entries, ∀ path, Forms (inner false path entry.1) entry.1.meaning? ∧
      Forms (inner false path entry.2) entry.2.meaning?)
    (differ : entries.Pairwise fun earlier later => Node.Differ earlier.1 later.1)
    (fresh : ∀ earlier ∈ formed, ∀ entry ∈ entries, ∀ value, entry.1.meaning? = some value →
      earlier.1.same value = false) :
    Forms (formEntries (inner false) (inner false) head path entries formed)
      ((Node.entryMeanings? entries).map (formed ++ ·)) := by
  induction entries generalizing formed with
  | nil =>
      rw [Node.entryMeanings?, Option.map_some, List.append_nil]
      exact .formed formed rfl
  | cons entry entries induction =>
      obtain ⟨key, value⟩ := entry
      obtain ⟨others, rest⟩ := List.pairwise_cons.mp differ
      have own := each (key, value) (by simp)
      rw [formEntries, Node.entryMeanings?, Option.map_bind]
      refine (own path).1.bind fun keyValue means => ?_
      have unseen : (formed.find? fun entry => entry.1.same keyValue) = none := by
        rw [List.find?_eq_none]
        intro earlier member
        rw [fresh earlier member (key, value) (by simp) keyValue means]
        exact Bool.false_ne_true
      simp only [unseen, Function.comp_def, Option.map_bind]
      refine (own _).2.bind fun formedValue _ => ?_
      have later := induction (formed ++ [(keyValue, formedValue)])
        (fun entry member => each entry (by simp [member])) rest ?_
      · rw [Option.map_map]
        simpa [Function.comp_def] using later
      · intro earlier member entry among second meaning
        rcases List.mem_append.mp member with before | last
        · exact fresh earlier before entry (by simp [among]) second meaning
        · rw [List.mem_singleton.mp last]
          exact others entry among keyValue second means meaning

end

/-- With levels enough, a regular node is formed to what it means. -/
theorem form_forms (anchors : Anchors) {levels : Nat} {node : Node} (regular : node.Regular levels)
    {depth : Nat} (enough : levels ≤ depth) (path : Path) :
    Forms (form anchors depth false path node) node.meaning? := by
  induction regular generalizing depth path with
  | scalar levels mark text style =>
      cases depth with
      | zero =>
          rw [form, form_step_bare anchors none path _ rfl]
          exact form_scalar_forms mark text style path
      | succ depth =>
          rw [form, form_step_bare anchors _ path _ rfl]
          exact form_scalar_forms mark text style path
  | @sequence levels mark items each induction =>
      obtain ⟨depth, rfl⟩ := Nat.exists_eq_add_one_of_ne_zero (Nat.ne_zero_of_lt enough)
      have below : levels ≤ depth := Nat.le_of_succ_le_succ enough
      have placed : (numbered items).map Prod.snd = items :=
        List.map_snd_zip (Nat.le_of_eq (List.length_range).symm)
      rw [form, form_step_bare anchors _ path _ rfl, Node.meaning?]
      exact (form_items_forms (form anchors depth) path items (numbered items) placed
        fun item member path => induction item member below path).map Value.sequence
  | @mapping levels mark entries keys values differ keyInduction valueInduction =>
      obtain ⟨depth, rfl⟩ := Nat.exists_eq_add_one_of_ne_zero (Nat.ne_zero_of_lt enough)
      have below : levels ≤ depth := Nat.le_of_succ_le_succ enough
      have formed := form_entries_forms (form anchors depth) (.bare mark) path entries []
        (fun entry member path => ⟨keyInduction entry member below path,
          valueInduction entry member below path⟩) differ nofun
      simp only [List.nil_append, Option.map_id'] at formed
      rw [form, form_step_bare anchors _ path _ rfl, Node.meaning?]
      exact formed.map Value.mapping

/-- The entries of the root may repeat a key. -/
theorem form_root_entries_forms (anchors : Anchors) {levels : Nat} (shallow : levels < depthLimit)
    (pairs : List (Node × Node))
    (regular : ∀ pair ∈ pairs, pair.1.Regular levels ∧ pair.2.Regular levels) :
    Forms (formRootEntries anchors pairs) (Node.entryMeanings? pairs) := by
  have enough : levels ≤ depthLimit - 1 := Nat.le_sub_one_of_lt shallow
  induction pairs with
  | nil => exact .formed [] rfl
  | cons pair pairs induction =>
      obtain ⟨key, value⟩ := pair
      have own := regular (key, value) (by simp)
      rw [formRootEntries, Node.entryMeanings?]
      refine (form_forms anchors own.1 enough .root).bind fun keyValue _ => ?_
      refine (form_forms anchors own.2 enough _).bind fun formed _ => ?_
      have later := induction fun other member => regular other (by simp [member])
      exact later.map ((keyValue, formed) :: ·)

namespace FirstDocument

variable {levels : Nat} {mark : Mark} {pairs : List (Node × Node)}

theorem bare_mapping_entries (mark : Mark) (pairs : List (Node × Node)) :
    (present (.mapping (.bare mark) pairs) .closed).entries =
      ((formRootEntries (.ofRoot (.mapping (.bare mark) pairs)) pairs).run 0).map Prod.fst := by
  change ((formRootEntries _ pairs).run 0).map Prod.fst >>= Except.ok = _
  cases ((formRootEntries (.ofRoot (.mapping (.bare mark) pairs)) pairs).run 0).map Prod.fst <;> rfl

theorem regular_entries (shallow : levels < depthLimit)
    (regular : ∀ pair ∈ pairs, pair.1.Regular levels ∧ pair.2.Regular levels)
    {entries : List (Value × Value)} (means : Node.entryMeanings? pairs = some entries) :
    (present (.mapping (.bare mark) pairs) .closed).entries = .ok entries := by
  have forms := form_root_entries_forms (.ofRoot (.mapping (.bare mark) pairs)) shallow pairs regular
  rw [means] at forms
  cases forms with
  | formed _ done =>
      rw [bare_mapping_entries, done]
      rfl

/-- Regular pairs of nodes without a meaning are refused for the first number that is too wide. -/
theorem meaningless_entries (shallow : levels < depthLimit)
    (regular : ∀ pair ∈ pairs, pair.1.Regular levels ∧ pair.2.Regular levels)
    (meaningless : Node.entryMeanings? pairs = none) :
    ∃ value place path, isNarrow value = false ∧
      (present (.mapping (.bare mark) pairs) .closed).entries =
        .error (tooWide value place path) := by
  have forms := form_root_entries_forms (.ofRoot (.mapping (.bare mark) pairs)) shallow pairs regular
  rw [meaningless] at forms
  cases forms with
  | refused value place path wide failed =>
      refine ⟨value, place, path, wide, ?_⟩
      rw [bare_mapping_entries, failed]
      rfl

end FirstDocument

end TargetGraph.Yaml

import Mathlib.Data.List.Forall2

/-!
# Passes over a list

A pass that stops at the first failure either gets through, or splits its list at that failure. What is
put together from parts has the items of the parts and of the separator, and no others.
-/

namespace TargetGraph

set_option autoImplicit false

theorem all_or_first_failing {Item : Type} (wanted : Item → Prop) (items : List Item) :
    (∀ item ∈ items, wanted item) ∨
      ∃ before item after, items = before ++ item :: after ∧
        (∀ other ∈ before, wanted other) ∧ ¬ wanted item := by
  induction items with
  | nil => exact Or.inl (by simp)
  | cons item items induction =>
      by_cases good : wanted item
      · rcases induction with all | ⟨before, bad, after, split, all, failing⟩
        · exact Or.inl (by simpa using ⟨good, all⟩)
        · exact Or.inr ⟨item :: before, bad, after, by rw [split, List.cons_append],
            by simpa using ⟨good, all⟩, failing⟩
      · exact Or.inr ⟨[], item, items, rfl, by simp, good⟩

/-- The first item of which something does not hold, with its position, counted from 0. -/
structure FirstFailing {Item : Type} (wanted : Item → Prop) (items : List Item) (position : Nat)
    (item : Item) : Prop where
  place : items[position]? = some item
  failing : ¬ wanted item
  before : ∀ other ∈ items.take position, wanted other

theorem first_failing_behind {Item : Type} {wanted : Item → Prop} {before : List Item} {item : Item}
    (after : List Item) (all : ∀ other ∈ before, wanted other) (failing : ¬ wanted item) :
    FirstFailing wanted (before ++ item :: after) before.length item where
  place := by
    rw [List.getElem?_append_right (Nat.le_refl _), Nat.sub_self]
    rfl
  failing := failing
  before := by
    rw [List.take_left]
    exact all

theorem map_m_pure {Item Result : Type} {m : Type → Type} [Monad m] [LawfulMonad m]
    {f : Item → m Result} {items : List Item} {results : List Result}
    (each : List.Forall₂ (fun item result => f item = pure result) items results) :
    items.mapM f = pure results := by
  induction each with
  | nil => exact List.mapM_nil
  | cons own _ induction => rw [List.mapM_cons, own, induction, pure_bind, pure_bind]

theorem map_m_ok {Item Result Failure : Type} (f : Item → Except Failure Result)
    (g : Item → Result) (items : List Item) (each : ∀ item ∈ items, f item = .ok (g item)) :
    items.mapM f = .ok (items.map g) :=
  map_m_pure (List.forall₂_map_right_iff.mpr (List.forall₂_same.mpr each))

/-- Every member of a list that was made item by item comes from one of the items. -/
theorem related_member {Item Result : Type} {made : Item → Result → Prop} {items : List Item}
    {results : List Result} (all : List.Forall₂ made items results) :
    ∀ result ∈ results, ∃ item ∈ items, made item result := by
  induction all with
  | nil => nofun
  | @cons item result items results own rest induction =>
      intro other member
      rcases List.mem_cons.mp member with rfl | later
      · exact ⟨item, by simp, own⟩
      · obtain ⟨source, among, same⟩ := induction other later
        exact ⟨source, by simp [among], same⟩

theorem find_eq_of_iff {Item : Type} {items : List Item} {wanted : Item → Bool} {found : Option Item}
    (only : ∀ item, found = some item ↔ item ∈ items ∧ wanted item = true) :
    items.find? wanted = found := by
  cases first : items.find? wanted with
  | some item =>
      exact ((only item).mpr ⟨List.mem_of_find?_eq_some first, List.find?_some first⟩).symm
  | none =>
      cases given : found with
      | none => rfl
      | some item =>
          have own := (only item).mp given
          exact absurd own.2 (List.find?_eq_none.mp first item own.1)

/-- A writer that puts a separator between its items writes what the items are, with that in between. -/
theorem separated_eq_intercalate {Item Part : Type} (separator : List Part)
    (write : List Item → List Part) (one : Item → List Part) (none : write [] = [])
    (single : ∀ item, write [item] = one item)
    (more : ∀ item next rest,
      write (item :: next :: rest) = one item ++ (separator ++ write (next :: rest)))
    (items : List Item) : write items = separator.intercalate (items.map one) := by
  cases items with
  | nil => exact none
  | cons item items =>
      induction items generalizing item with
      | nil => simpa using single item
      | cons next items induction =>
          rw [more, induction next]
          simp

section

variable {Item : Type} {separator : List Item} {parts : List (List Item)}

theorem mem_intercalate {part : List Item} {item : Item} (among : part ∈ parts) (inside : item ∈ part) :
    item ∈ separator.intercalate parts := by
  cases parts with
  | nil => cases among
  | cons first parts =>
      induction parts generalizing first with
      | nil =>
          rw [List.intercalate_singleton]
          exact List.mem_singleton.mp among ▸ inside
      | cons next parts induction =>
          rw [List.intercalate_cons_cons, List.append_assoc]
          rcases List.mem_cons.mp among with rfl | later
          · exact List.mem_append_left _ inside
          · exact List.mem_append_right _ (List.mem_append_right _ (induction next later))

theorem intercalate_forall {wanted : Item → Prop} (between : ∀ item ∈ separator, wanted item)
    (inside : ∀ part ∈ parts, ∀ item ∈ part, wanted item) :
    ∀ item ∈ separator.intercalate parts, wanted item := by
  cases parts with
  | nil => nofun
  | cons part parts =>
      induction parts generalizing part with
      | nil => simpa using inside
      | cons next parts induction =>
          have later := induction next fun other member =>
            inside other (by simp [List.mem_cons.mp member])
          rw [List.intercalate_cons_cons]
          simp only [List.mem_append]
          rintro item ((own | middle) | rest)
          · exact inside part (by simp) item own
          · exact between item middle
          · exact later item rest

end

end TargetGraph

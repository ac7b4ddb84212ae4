import Mathlib.Data.List.Basic

/-!
# Nested searches

A loop that tries the elements of a list one after the other, changes a state while it does, and
leaves at the first element that settles the search: `goto found` in the middle of a loop body.
Loops inside each other that are left in this way are one search in the list of all their innermost
elements (`search_flatMap`, `search_map`, `search_filter`).

What an element settles may depend on the state.  Where it does not, the search stops at the first
element that is not missed, in the state that the elements before it have made of the first one
(`search_first`).
-/

namespace Search

variable {α β σ : Type}

/-- What trying an element comes to. -/
inductive Verdict where
  | miss
  | found
  /-- The program has failed. -/
  | crash
deriving DecidableEq, Repr

/-- The loop. -/
def search (f : α → σ → Verdict × σ) : List α → σ → Verdict × σ
  | [], s => (.miss, s)
  | a :: as, s =>
      match f a s with
      | (.miss, s') => search f as s'
      | (.found, s') => (.found, s')
      | (.crash, s') => (.crash, s')

variable {f : α → σ → Verdict × σ} {s s' : σ} {a : α} {as bs : List α}

@[simp] theorem search_nil : search f [] s = (.miss, s) := rfl

theorem search_cons_miss (h : f a s = (.miss, s')) : search f (a :: as) s = search f as s' := by
  simp only [search, h]

theorem search_cons_settled (h : (f a s).1 ≠ .miss) : search f (a :: as) s = f a s := by
  rcases hf : f a s with ⟨v, t⟩
  cases v with
  | miss => exact absurd (congrArg Prod.fst hf) h
  | found | crash => simp only [search, hf]

/-- A search in two lists goes on in the second one if it has missed in the first one. -/
theorem search_append_miss (h : search f as s = (.miss, s')) :
    search f (as ++ bs) s = search f bs s' := by
  induction as generalizing s with
  | nil => rw [List.nil_append, (Prod.mk.inj h).2]
  | cons a as ih =>
      rcases hf : f a s with ⟨v, t⟩
      cases v with
      | miss =>
          rw [search_cons_miss hf] at h
          rw [List.cons_append, search_cons_miss hf, ih h]
      | found | crash => simp [search, hf] at h

theorem search_append_settled (h : (search f as s).1 ≠ .miss) :
    search f (as ++ bs) s = search f as s := by
  induction as generalizing s with
  | nil => exact absurd rfl h
  | cons a as ih =>
      rcases hf : f a s with ⟨v, t⟩
      cases v with
      | miss =>
          rw [search_cons_miss hf] at h
          rw [List.cons_append, search_cons_miss hf, search_cons_miss hf, ih h]
      | found | crash => simp only [List.cons_append, search, hf]

/-- Two loops inside each other. -/
theorem search_flatMap {f : β → σ → Verdict × σ} (g : α → List β) (as : List α) (s : σ) :
    search f (as.flatMap g) s = search (fun a => search f (g a)) as s := by
  induction as generalizing s with
  | nil => rfl
  | cons a as ih =>
      rw [List.flatMap_cons]
      by_cases hmiss : (search f (g a) s).1 = .miss
      · have hpair : search f (g a) s = (.miss, (search f (g a) s).2) := Prod.ext hmiss rfl
        rw [search_append_miss hpair, ih]
        exact (search_cons_miss (f := fun a => search f (g a)) hpair).symm
      · rw [search_append_settled hmiss]
        exact (search_cons_settled (f := fun a => search f (g a)) hmiss).symm

theorem search_map {f : β → σ → Verdict × σ} (g : α → β) (as : List α) (s : σ) :
    search f (as.map g) s = search (fun a => f (g a)) as s := by
  induction as generalizing s with
  | nil => rfl
  | cons a as ih =>
      simp only [List.map_cons, search, ih]

/-- A loop body that skips some elements. -/
theorem search_filter (p : α → Bool) (as : List α) (s : σ) :
    search f (as.filter p) s = search (fun a s => if p a then f a s else (.miss, s)) as s := by
  induction as generalizing s with
  | nil => rfl
  | cons a as ih =>
      cases hp : p a with
      | true =>
          rw [List.filter_cons_of_pos hp]
          simp only [search, hp, if_true, ih]
      | false =>
          rw [List.filter_cons_of_neg (by rw [hp]; exact Bool.false_ne_true),
            search_cons_miss (by rw [hp]; rfl), ih]

/-- The verdict on an element does not depend on the state. -/
structure Decided (f : α → σ → Verdict × σ) (verdict : α → Verdict) (after : α → σ → σ) : Prop where
  eq : ∀ a s, f a s = (verdict a, after a s)

variable {verdict : α → Verdict} {after : α → σ → σ}

/-- All elements are missed. -/
theorem search_all_miss (h : Decided f verdict after) (hmiss : ∀ a ∈ as, verdict a = .miss) :
    search f as s = (.miss, as.foldl (fun s a => after a s) s) := by
  induction as generalizing s with
  | nil => rfl
  | cons a as ih =>
      have hhead : f a s = (.miss, after a s) := by
        rw [h.eq, hmiss a List.mem_cons_self]
      rw [search_cons_miss hhead, ih fun b hb => hmiss b (List.mem_cons_of_mem a hb)]
      rfl

/-- The first element that is not missed settles the search. -/
theorem search_first (h : Decided f verdict after) (hmiss : ∀ b ∈ as, verdict b = .miss)
    (hsettled : verdict a ≠ .miss) :
    search f (as ++ a :: bs) s = (verdict a, after a (as.foldl (fun s b => after b s) s)) := by
  rw [search_append_miss (search_all_miss h hmiss)]
  rw [search_cons_settled (by rw [h.eq]; exact hsettled), h.eq]

/-- A list is missed as a whole, or has a first element that is not. -/
theorem all_miss_or_first (verdict : α → Verdict) (as : List α) :
    (∀ a ∈ as, verdict a = .miss) ∨
      ∃ before a behind, as = before ++ a :: behind ∧ (∀ b ∈ before, verdict b = .miss) ∧
        verdict a ≠ .miss := by
  induction as with
  | nil => exact .inl fun a ha => absurd ha List.not_mem_nil
  | cons a as ih =>
      by_cases ha : verdict a = .miss
      · rcases ih with hall | ⟨before, b, behind, rfl, hbefore, hb⟩
        · exact .inl (List.forall_mem_cons.mpr ⟨ha, hall⟩)
        · exact .inr ⟨a :: before, b, behind, rfl, List.forall_mem_cons.mpr ⟨ha, hbefore⟩, hb⟩
      · exact .inr ⟨[], a, as, rfl, fun b hb => absurd hb List.not_mem_nil, ha⟩

/-! ## The only element -/

/-- If all elements with a result have the same one, it is found. -/
theorem findSome?_of_unique {g : α → Option β} {b : β} (ha : a ∈ as) (hb : g a = some b)
    (hunique : ∀ a' ∈ as, ∀ b', g a' = some b' → b' = b) : as.findSome? g = some b := by
  cases hfound : as.findSome? g with
  | none =>
      have hnone := List.findSome?_eq_none_iff.mp hfound a ha
      cases hb.symm.trans hnone
  | some b' =>
      obtain ⟨a', ha', hb'⟩ := List.exists_of_findSome?_eq_some hfound
      rw [hunique a' ha' b' hb']

theorem find?_of_unique {p : α → Bool} (ha : a ∈ as) (hp : p a = true)
    (hunique : ∀ a' ∈ as, p a' = true → a' = a) : as.find? p = some a := by
  cases hfound : as.find? p with
  | none => exact absurd hp (List.find?_eq_none.mp hfound a ha)
  | some a' => rw [hunique a' (List.mem_of_find?_eq_some hfound) (List.find?_some hfound)]

end Search

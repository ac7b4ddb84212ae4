import Mathlib.Algebra.BigOperators.Group.Multiset.Basic
import ZsaSdk.Lib.Ledger
import ZsaSdk.Lib.Table

/-!
# Objects that share handles

A class whose objects hold a handle, or none, and own a reference to it.  A copy takes a reference,
a move takes the handle away from the other object, and an object that is assigned to, reset or
destroyed releases what it held.

`apply` says what becomes of the objects and which references are taken and released, in order.
`play` carries these calls out on the references that are owned: a reference is taken only to a
handle that is owned, and only an owned one is released.  For every operation the calls can be
carried out, from the handles of the objects before it to those after it (`play_apply`).
-/

namespace SharedHandles

open Ledger (held)

/-- A call that the class makes. -/
inductive Call (α : Type) where
  | reference (a : α)
  | release (a : α)
deriving DecidableEq, Repr

/-- The objects; one that has been destroyed leaves a hole. -/
abbrev Objects (α : Type) := List (Option (Option α))

/-- What can be done with objects of the class. -/
inductive Operation where
  /-- An object without a handle. -/
  | defaultConstruct
  | copyConstruct (other : Nat)
  | moveConstruct (other : Nat)
  | copyAssign (this other : Nat)
  | moveAssign (this other : Nat)
  | reset (this : Nat)
  | destroy (this : Nat)
deriving DecidableEq, Repr

/-- The objects that the operation is about. -/
def Operation.objects : Operation → List Nat
  | .defaultConstruct => []
  | .copyConstruct other | .moveConstruct other => [other]
  | .copyAssign this other | .moveAssign this other => [this, other]
  | .reset this | .destroy this => [this]

section

variable {α : Type}

def referenceOf (p : Option α) : List (Call α) := p.toList.map .reference

def releaseOf (p : Option α) : List (Call α) := p.toList.map .release

/-- A new object with a handle, whose reference it owns from now on. -/
def construct (objects : Objects α) (p : Option α) : Objects α := objects ++ [some p]

/-- What an operation does, if its objects are there. -/
def apply (objects : Objects α) : Operation → Option (Objects α × List (Call α))
  | .defaultConstruct => some (construct objects none, [])
  | .copyConstruct other =>
      (Table.lookup objects other).map fun p => (construct objects p, referenceOf p)
  | .moveConstruct other =>
      (Table.lookup objects other).map fun p => (construct (objects.set other (some none)) p, [])
  | .copyAssign this other =>
      (Table.lookup objects this).bind fun p => (Table.lookup objects other).map fun q =>
        if this = other then (objects, [])
        else (objects.set this (some q), releaseOf p ++ referenceOf q)
  | .moveAssign this other =>
      (Table.lookup objects this).bind fun p => (Table.lookup objects other).map fun q =>
        if this = other then (objects, [])
        else ((objects.set this (some q)).set other (some none), releaseOf p)
  | .reset this =>
      (Table.lookup objects this).map fun p => (objects.set this (some none), releaseOf p)
  | .destroy this =>
      (Table.lookup objects this).map fun p => (objects.set this none, releaseOf p)

/-- The references that an entry of the table stands for. -/
def owned (o : Option (Option α)) : Multiset α := held o.join

/-- The references that the objects own. -/
def references (objects : Objects α) : Multiset α := Table.total owned objects

variable {objects : Objects α} {i j : Nat} {p q : Option α}

theorem references_construct (objects : Objects α) (p : Option α) :
    references (construct objects p) = held p + references objects :=
  Table.total_append owned objects (some p)

/-- The references of the other objects. -/
theorem references_set (h : Table.lookup objects i = some p) :
    ∃ m, references objects = held p + m ∧
      ∀ o, references (objects.set i o) = owned o + m :=
  Table.total_set owned (Table.getElem?_of_lookup h)

/-- The references of the others, when two objects are looked at. -/
theorem references_set_set (hi : Table.lookup objects i = some p)
    (hj : Table.lookup objects j = some q) (hne : i ≠ j) :
    ∃ m, references objects = held p + (held q + m) ∧
      (∀ o, references (objects.set i o) = owned o + (held q + m)) ∧
      ∀ o o', references ((objects.set i o).set j o') = owned o + (owned o' + m) := by
  obtain ⟨n, hn, hset⟩ := references_set hi
  -- The other object is found in the table without the first one.
  have hj' : Table.lookup (objects.set i none) j = some q := by
    rw [Table.lookup_set_ne hne]
    exact hj
  obtain ⟨m, hm, -⟩ := references_set hj'
  have hnm : n = held q + m := by
    rw [hset none] at hm
    exact (zero_add n).symm.trans hm
  refine ⟨m, by rw [hn, hnm], fun o => by rw [hset o, hnm], fun o o' => ?_⟩
  have hj'' : Table.lookup (objects.set i o) j = some q := by
    rw [Table.lookup_set_ne hne]
    exact hj
  obtain ⟨m', hm', hset'⟩ := references_set hj''
  rw [hset o, hnm, add_left_comm] at hm'
  rw [hset' o', add_left_comm, ← add_left_cancel hm']

/-- An operation on objects that are there can be carried out. -/
theorem apply_isSome {op : Operation} (h : ∀ i ∈ op.objects, (Table.lookup objects i).isSome) :
    ∃ objects' cs, apply objects op = some (objects', cs) := by
  have hfound : ∀ i ∈ op.objects, ∃ p, Table.lookup objects i = some p :=
    fun i hi => Option.isSome_iff_exists.mp (h i hi)
  cases op with
  | defaultConstruct => exact ⟨_, _, rfl⟩
  | copyConstruct i | moveConstruct i | reset i | destroy i =>
      obtain ⟨p, hp⟩ := hfound i List.mem_cons_self
      exact ⟨_, _, by rw [apply, hp, Option.map_some]⟩
  | copyAssign i j | moveAssign i j =>
      obtain ⟨p, hp⟩ := hfound i List.mem_cons_self
      obtain ⟨q, hq⟩ := hfound j (List.mem_cons_of_mem i List.mem_cons_self)
      exact ⟨_, _, by rw [apply, hp, Option.bind_some, hq, Option.map_some]⟩

/-- An object that is there stays there when another one changes, or it itself. -/
theorem isSome_set (h : (Table.lookup objects j).isSome) (i : Nat) (p : Option α) :
    (Table.lookup (objects.set i (some p)) j).isSome := by
  by_cases hij : i = j
  · subst hij
    obtain ⟨q, hq⟩ := Option.isSome_iff_exists.mp h
    rw [Table.lookup_set_self hq]
    rfl
  · rw [Table.lookup_set_ne hij]
    exact h

theorem isSome_construct (h : (Table.lookup objects j).isSome) (p : Option α) :
    (Table.lookup (construct objects p) j).isSome := by
  obtain ⟨q, hq⟩ := Option.isSome_iff_exists.mp h
  rw [construct, Table.lookup_append_ne (Nat.ne_of_lt (Table.lt_of_lookup hq))]
  exact h

/-- Only `destroy` ends the life of an object. -/
theorem isSome_apply {op : Operation} {objects' : Objects α} {cs : List (Call α)}
    (h : apply objects op = some (objects', cs)) (hop : op ≠ .destroy j)
    (hj : (Table.lookup objects j).isSome) : (Table.lookup objects' j).isSome := by
  cases op with
  | defaultConstruct =>
      cases h
      exact isSome_construct hj none
  | copyConstruct other =>
      obtain ⟨p, hp, heq⟩ := Option.map_eq_some_iff.mp h
      cases heq
      exact isSome_construct hj p
  | moveConstruct other =>
      obtain ⟨p, hp, heq⟩ := Option.map_eq_some_iff.mp h
      cases heq
      exact isSome_construct (isSome_set hj other none) p
  | copyAssign this other =>
      obtain ⟨p, hp, hrest⟩ := Option.bind_eq_some_iff.mp h
      obtain ⟨q, hq, heq⟩ := Option.map_eq_some_iff.mp hrest
      split at heq
      · cases heq
        exact hj
      · cases heq
        exact isSome_set hj this q
  | moveAssign this other =>
      obtain ⟨p, hp, hrest⟩ := Option.bind_eq_some_iff.mp h
      obtain ⟨q, hq, heq⟩ := Option.map_eq_some_iff.mp hrest
      split at heq
      · cases heq
        exact hj
      · cases heq
        exact isSome_set (isSome_set hj this q) other none
  | reset this =>
      obtain ⟨p, hp, heq⟩ := Option.map_eq_some_iff.mp h
      cases heq
      exact isSome_set hj this none
  | destroy this =>
      obtain ⟨p, hp, heq⟩ := Option.map_eq_some_iff.mp h
      cases heq
      rw [Table.lookup_set_ne fun heq => hop (congrArg Operation.destroy heq)]
      exact hj

/-- If every object has been destroyed or holds no handle, no reference is owned. -/
theorem references_eq_zero (h : ∀ o ∈ objects, o.join = none) : references objects = 0 := by
  refine List.sum_eq_zero fun m hm => ?_
  obtain ⟨o, ho, rfl⟩ := List.mem_map.mp hm
  rw [owned, h o ho]
  rfl

end

variable {α : Type} [DecidableEq α]

/-- Carry out one call on the references that are owned. -/
def post : Call α → Multiset α → Option (Multiset α)
  | .reference a, m => if a ∈ m then some (a ::ₘ m) else none
  | .release a, m => if a ∈ m then some (m.erase a) else none

/-- Carry out calls. -/
def play : List (Call α) → Multiset α → Option (Multiset α)
  | [], m => some m
  | c :: cs, m => (post c m).bind (play cs)

theorem play_append (cs cs' : List (Call α)) : ∀ m : Multiset α,
    play (cs ++ cs') m = (play cs m).bind (play cs') := by
  induction cs with
  | nil => exact fun m => rfl
  | cons c cs ih =>
      intro m
      rw [List.cons_append, play, play]
      cases post c m with
      | none => rfl
      | some m' => exact ih m'

theorem play_releaseOf (p : Option α) (m : Multiset α) :
    play (releaseOf p) (held p + m) = some m := by
  cases p with
  | none => exact congrArg some (zero_add m)
  | some a =>
      simp [releaseOf, play, post]

/-- A reference is taken to a handle that another object owns. -/
theorem play_referenceOf (p : Option α) (m : Multiset α) :
    play (referenceOf p) (held p + m) = some (held p + (held p + m)) := by
  cases p with
  | none => simp [referenceOf, play]
  | some a => simp [referenceOf, play, post, Multiset.singleton_add]

variable {objects objects' : Objects α} {cs : List (Call α)}

/-- The calls of an operation lead from the references of the objects before it to those of the
objects after it. -/
theorem play_apply {op : Operation} (h : apply objects op = some (objects', cs)) :
    play cs (references objects) = some (references objects') := by
  cases op with
  | defaultConstruct =>
      cases h
      rw [references_construct]
      exact congrArg some (zero_add _).symm
  | copyConstruct other =>
      obtain ⟨p, hp, heq⟩ := Option.map_eq_some_iff.mp h
      cases heq
      obtain ⟨m, hm, -⟩ := references_set hp
      rw [references_construct, hm]
      exact play_referenceOf p m
  | moveConstruct other =>
      obtain ⟨p, hp, heq⟩ := Option.map_eq_some_iff.mp h
      cases heq
      obtain ⟨m, hm, hset⟩ := references_set hp
      rw [references_construct, hset, hm]
      exact congrArg (fun n => some (held p + n)) (zero_add m).symm
  | copyAssign this other =>
      obtain ⟨p, hp, hrest⟩ := Option.bind_eq_some_iff.mp h
      obtain ⟨q, hq, heq⟩ := Option.map_eq_some_iff.mp hrest
      split at heq
      · cases heq
        rfl
      next hne =>
        cases heq
        obtain ⟨m, hm, hset, -⟩ := references_set_set hp hq hne
        rw [hset, hm, play_append, play_releaseOf, Option.bind_some, play_referenceOf]
        rfl
  | moveAssign this other =>
      obtain ⟨p, hp, hrest⟩ := Option.bind_eq_some_iff.mp h
      obtain ⟨q, hq, heq⟩ := Option.map_eq_some_iff.mp hrest
      split at heq
      · cases heq
        rfl
      next hne =>
        cases heq
        obtain ⟨m, hm, -, hset⟩ := references_set_set hp hq hne
        rw [hset, hm, play_releaseOf]
        exact congrArg (fun n => some (held q + n)) (zero_add m).symm
  | reset this | destroy this =>
      obtain ⟨p, hp, heq⟩ := Option.map_eq_some_iff.mp h
      cases heq
      obtain ⟨m, hm, hset⟩ := references_set hp
      rw [hset, hm, play_releaseOf]
      exact congrArg some (zero_add m).symm

end SharedHandles

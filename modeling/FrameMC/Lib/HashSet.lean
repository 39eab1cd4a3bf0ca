import Mathlib.Data.Finset.Dedup
import Mathlib.Data.Finset.Erase
import Mathlib.Data.Finset.SDiff
import Mathlib.Data.List.Nodup
import Mathlib.Data.List.Perm.Basic

/-!
# Hash sets

A set without duplicates whose iteration order is not fixed: every set comes
with its own hasher, here any rearrangement of the elements.
-/

/-- A rearrangement of the elements of any set. -/
structure Hasher (α : Type) where
  order : List α → List α
  perm : ∀ l, (order l).Perm l

/-- A hash set: its elements, each once, and the hasher that orders them. -/
structure HashSet (α : Type) where
  elems : List α
  nodup : elems.Nodup
  hasher : Hasher α

namespace HashSet

variable {α : Type}

instance : Membership α (HashSet α) where
  mem s a := a ∈ s.elems

theorem mem_def {a : α} {s : HashSet α} : a ∈ s ↔ a ∈ s.elems := Iff.rfl

def new (hasher : Hasher α) : HashSet α where
  elems := []
  nodup := List.nodup_nil
  hasher := hasher

variable [DecidableEq α]

def insert (a : α) (s : HashSet α) : HashSet α where
  elems := if a ∈ s.elems then s.elems else a :: s.elems
  nodup := by
    split
    · exact s.nodup
    · next h => exact List.nodup_cons.mpr ⟨h, s.nodup⟩
  hasher := s.hasher

def remove (a : α) (s : HashSet α) : HashSet α where
  elems := s.elems.filter (· ≠ a)
  nodup := s.nodup.filter _
  hasher := s.hasher

omit [DecidableEq α] in
/-- What is left after `drain`. -/
def clear (s : HashSet α) : HashSet α := new s.hasher

omit [DecidableEq α] in
/-- The elements in the order they are iterated in. -/
def iter (s : HashSet α) : List α := s.hasher.order s.elems

@[simp] theorem mem_insert {a b : α} {s : HashSet α} : b ∈ s.insert a ↔ b = a ∨ b ∈ s := by
  simp only [mem_def, insert]
  split
  · next h =>
    constructor
    · exact Or.inr
    · rintro (rfl | hb)
      · exact h
      · exact hb
  · rw [List.mem_cons]

@[simp] theorem mem_remove {a b : α} {s : HashSet α} : b ∈ s.remove a ↔ b ∈ s ∧ b ≠ a := by
  simp [mem_def, remove]

omit [DecidableEq α] in
@[simp] theorem not_mem_new {a : α} {hasher : Hasher α} : a ∉ new hasher := by
  simp [mem_def, new]

omit [DecidableEq α] in
@[simp] theorem not_mem_clear {a : α} {s : HashSet α} : a ∉ s.clear := not_mem_new

omit [DecidableEq α] in
@[simp] theorem mem_iter {a : α} {s : HashSet α} : a ∈ s.iter ↔ a ∈ s := (s.hasher.perm s.elems).mem_iff

/-! ## As finite sets -/

def toFinset (s : HashSet α) : Finset α := s.elems.toFinset

@[simp] theorem mem_toFinset {a : α} {s : HashSet α} : a ∈ s.toFinset ↔ a ∈ s := List.mem_toFinset

@[simp] theorem toFinset_new (hasher : Hasher α) : (new hasher).toFinset = ∅ := rfl

@[simp] theorem toFinset_clear (s : HashSet α) : s.clear.toFinset = ∅ := rfl

@[simp] theorem toFinset_insert (a : α) (s : HashSet α) : (s.insert a).toFinset = Insert.insert a s.toFinset := by
  ext b
  simp

@[simp] theorem toFinset_remove (a : α) (s : HashSet α) : (s.remove a).toFinset = s.toFinset.erase a := by
  ext b
  simp [and_comm]

/-- Erasing what is iterated over leaves nothing. -/
theorem foldl_erase_iter (s : HashSet α) : s.iter.foldl Finset.erase s.toFinset = ∅ := by
  have hfold : ∀ (l : List α) (t : Finset α), l.foldl Finset.erase t = t \ l.toFinset := by
    intro l
    induction l with
    | nil => simp
    | cons a l ih =>
      intro t
      rw [List.foldl_cons, ih]
      ext b
      simp only [Finset.mem_sdiff, Finset.mem_erase, List.mem_toFinset, List.mem_cons, not_or]
      tauto
  rw [hfold, Finset.sdiff_eq_empty_iff_subset]
  intro a ha
  rwa [List.mem_toFinset, mem_iter, ← mem_toFinset]

end HashSet

import Mathlib.Data.List.Induction
import Mathlib.Data.List.Nodup

/-!
# Tables with keys

A list of rows with a key each. `put` replaces the row of a key where it
stands, and appends the row of a new key. After any number of puts there is one
row for every key, in the order in which the keys came first, and it is the
last one that was put (`putAll_eq`).
-/

/-- Pushing what a list does not have yet leaves it with the first mentions. -/
theorem foldl_push {α : Type} [BEq α] [LawfulBEq α] (xs seen : List α) :
    xs.foldl (fun results s => if results.contains s then results else results ++ [s]) seen =
      seen ++ (xs.filter fun s => !seen.contains s).eraseDups := by
  induction xs generalizing seen with
  | nil => simp
  | cons x xs ih =>
    rw [List.foldl_cons, ih]
    by_cases hseen : seen.contains x = true
    · rw [if_pos hseen, List.filter_cons_of_neg (by simpa using hseen)]
    · have hfilter : (xs.filter fun s => !(seen ++ [x]).contains s) =
          (xs.filter fun s => !seen.contains s).filter fun s => !s == x := by
        rw [List.filter_filter]
        refine List.filter_congr fun s _ => ?_
        rw [List.contains_append, Bool.not_or, Bool.and_comm, List.contains_cons, List.contains_nil, Bool.or_false]
      rw [if_neg hseen, List.filter_cons_of_pos (by simpa using hseen), List.eraseDups_cons, hfilter, List.append_assoc,
        List.singleton_append]

namespace KeyedTable

variable {κ α : Type} [DecidableEq κ] (key : α → κ)

def put (x : α) : List α → List α
  | [] => [x]
  | y :: ys => if key y = key x then x :: ys else y :: put x ys

def putAll (xs rows : List α) : List α := xs.foldl (fun rows x => put key x rows) rows

/-- The row of a key. -/
def row (k : κ) (rows : List α) : Option α := rows.find? fun x => key x = k

variable {key}

theorem putAll_append (xs ys rows : List α) : putAll key (xs ++ ys) rows = putAll key ys (putAll key xs rows) :=
  List.foldl_append

/-- A new key comes last, and the others stay where they are. -/
theorem keys_put (x : α) (rows : List α) :
    (put key x rows).map key = if (rows.map key).contains (key x) then rows.map key else rows.map key ++ [key x] := by
  induction rows with
  | nil => rfl
  | cons y rows ih =>
    rw [put, List.map_cons, List.contains_cons]
    by_cases hkey : key y = key x
    · rw [if_pos hkey, List.map_cons, hkey, beq_self_eq_true, Bool.true_or, if_pos rfl]
    · have hne : (key x == key y) = false := beq_false_of_ne fun h => hkey h.symm
      rw [if_neg hkey, List.map_cons, ih, hne, Bool.false_or]
      split <;> rfl

theorem keys_putAll (xs rows : List α) :
    (putAll key xs rows).map key = (xs.map key).foldl
      (fun results k => if results.contains k then results else results ++ [k]) (rows.map key) := by
  induction xs generalizing rows with
  | nil => rfl
  | cons x xs ih =>
    rw [putAll, List.foldl_cons, ← putAll, ih, keys_put]
    rfl

/-- The keys in the order in which they came first. -/
theorem keys_putAll_nil (xs : List α) : (putAll key xs []).map key = (xs.map key).eraseDups := by
  have hfresh : ((xs.map key).filter fun k => !([] : List κ).contains k) = xs.map key :=
    List.filter_eq_self.mpr fun _ _ => rfl
  rw [keys_putAll, List.map_nil, foldl_push, hfresh, List.nil_append]

theorem row_put (x : α) (k : κ) (rows : List α) :
    row key k (put key x rows) = if key x = k then some x else row key k rows := by
  induction rows with
  | nil =>
    rw [put, row, List.find?_singleton]
    simp [row]
  | cons y rows ih =>
    rw [put]
    by_cases hkey : key y = key x
    · rw [if_pos hkey, row, List.find?_cons, row, List.find?_cons, hkey]
      by_cases hk : key x = k <;> simp [hk]
    · rw [if_neg hkey, row, List.find?_cons, row, List.find?_cons, ← row, ← row, ih]
      by_cases hk : key y = k
      · subst hk
        simp [Ne.symm hkey]
      · simp [hk]

theorem row_filter_ne (j k : κ) (rows : List α) :
    row key k (rows.filter fun x => key x ≠ j) = if j = k then none else row key k rows := by
  induction rows with
  | nil => simp [row]
  | cons x rows ih =>
    by_cases hx : key x = j
    · rw [List.filter_cons_of_neg (by simpa using hx), ih, row, row, List.find?_cons, hx]
      by_cases hk : j = k <;> simp [hk]
    · rw [List.filter_cons_of_pos (by simpa using hx), row, List.find?_cons, ← row, ih, row, row, List.find?_cons]
      by_cases hk : key x = k
      · have hne : j ≠ k := fun h => hx (hk.trans h.symm)
        simp [hk, hne]
      · simp [hk]

/-- The row of a key is the last that was put for it. -/
theorem row_putAll (xs rows : List α) (k : κ) :
    row key k (putAll key xs rows) = (row key k xs.reverse).or (row key k rows) := by
  induction xs using List.reverseRecOn generalizing rows with
  | nil => rfl
  | append_singleton xs x ih =>
    rw [putAll_append, putAll, List.foldl_cons, List.foldl_nil, row_put, ih, List.reverse_append, List.reverse_singleton,
      List.singleton_append]
    by_cases hk : key x = k <;> simp [row, hk]

/-- Rows of different keys, put one after the other, are all there. -/
theorem row_putAll_of_mem {x : α} {xs : List α} (hxs : (xs.map key).Nodup) (hx : x ∈ xs) (rows : List α) :
    row key (key x) (putAll key xs rows) = some x := by
  have hrow : row key (key x) xs.reverse = some x := by
    induction xs with
    | nil => cases hx
    | cons y ys ih =>
      rw [List.map_cons, List.nodup_cons] at hxs
      rw [row, List.reverse_cons, List.find?_append, ← row]
      rcases List.mem_cons.mp hx with rfl | hx
      · have hnone : row key (key x) ys.reverse = none := by
          rw [row, List.find?_eq_none]
          intro z hz heq
          exact hxs.1 (List.mem_map.mpr ⟨z, List.mem_reverse.mp hz, of_decide_eq_true heq⟩)
        rw [hnone]
        simp
      · rw [ih hxs.2 hx]
        rfl
  rw [row_putAll, hrow]
  rfl

/-- A table without duplicates is read off its keys and its rows. -/
theorem eq_filterMap_row {rows : List α} (hrows : (rows.map key).Nodup) :
    rows = (rows.map key).filterMap fun k => row key k rows := by
  induction rows with
  | nil => rfl
  | cons x rows ih =>
    rw [List.map_cons, List.nodup_cons] at hrows
    have hself : row key (key x) (x :: rows) = some x := by simp [row]
    have hrest : ((rows.map key).filterMap fun k => row key k (x :: rows)) =
        (rows.map key).filterMap fun k => row key k rows := by
      refine List.filterMap_congr fun k hk => ?_
      have hne : key x ≠ k := fun h => hrows.1 (h ▸ hk)
      simp [row, hne]
    rw [List.map_cons, List.filterMap_cons, hself]
    dsimp only
    rw [hrest, ← ih hrows.2]

/-- No key comes twice. -/
theorem nodup_putAll (xs : List α) {rows : List α} (hrows : (rows.map key).Nodup) :
    ((putAll key xs rows).map key).Nodup := by
  induction xs generalizing rows with
  | nil => exact hrows
  | cons x xs ih =>
    refine ih ?_
    rw [keys_put]
    split
    · exact hrows
    · next hnew =>
      have hfresh : key x ∉ rows.map key := by rwa [List.contains_iff_mem] at hnew
      exact List.nodup_append.mpr ⟨hrows, List.nodup_singleton _, fun k hk k' hk' heq => hfresh (by
        rw [List.mem_singleton.mp hk'] at heq
        exact heq ▸ hk)⟩

/-- What any number of puts leaves. -/
theorem putAll_eq (xs : List α) :
    putAll key xs [] = (xs.map key).eraseDups.filterMap fun k => row key k xs.reverse := by
  have hnodup : ((putAll key xs []).map key).Nodup := nodup_putAll xs List.nodup_nil
  rw [eq_filterMap_row hnodup, keys_putAll_nil]
  refine List.filterMap_congr fun k _ => ?_
  rw [row_putAll]
  exact Option.or_none

end KeyedTable

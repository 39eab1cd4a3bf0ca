import Mathlib.Data.List.Induction
import Mathlib.Tactic.Ring

/-!
# Big-endian digits

The number a list of digits stands for, the most significant one first, and
its text: without the zeros in front, the digits are `Nat.toDigits` of the
number (`dropWhile_digitChar`), so a number's text is its own (`toDigits_inj`).
-/

namespace Radix

variable {base : Nat}

/-- The number the digits stand for. -/
def value (base : Nat) (digits : List Nat) : Nat := digits.foldl (fun n d => n * base + d) 0

@[simp] theorem value_nil : value base [] = 0 := rfl

@[simp] theorem value_singleton (d : Nat) : value base [d] = d := by
  simp only [value, List.foldl_cons, List.foldl_nil, Nat.zero_mul, Nat.zero_add]

theorem value_append_singleton (ds : List Nat) (d : Nat) : value base (ds ++ [d]) = value base ds * base + d := by
  simp only [value, List.foldl_append, List.foldl_cons, List.foldl_nil]

theorem value_append (ds es : List Nat) : value base (ds ++ es) = value base ds * base ^ es.length + value base es := by
  induction es using List.reverseRecOn with
  | nil => simp
  | append_singleton es e ih =>
    rw [← List.append_assoc, value_append_singleton, ih, value_append_singleton, List.length_append,
      List.length_singleton, Nat.pow_succ]
    ring

theorem value_cons (d : Nat) (ds : List Nat) : value base (d :: ds) = d * base ^ ds.length + value base ds := by
  rw [← List.singleton_append, value_append, value_singleton]

theorem value_lt {ds : List Nat} (h : ∀ d ∈ ds, d < base) : value base ds < base ^ ds.length := by
  induction ds with
  | nil => simp
  | cons d ds ih =>
    obtain ⟨hd, hds⟩ := List.forall_mem_cons.mp h
    have := ih hds
    have hle : (d + 1) * base ^ ds.length ≤ base * base ^ ds.length := Nat.mul_le_mul_right _ hd
    rw [value_cons, List.length_cons, Nat.pow_succ, Nat.mul_comm _ base]
    rw [Nat.add_mul, Nat.one_mul] at hle
    omega

/-- Digits of one length are told apart by their number. -/
theorem value_inj {ds es : List Nat} (hd : ∀ d ∈ ds, d < base) (he : ∀ e ∈ es, e < base)
    (hlen : ds.length = es.length) (h : value base ds = value base es) : ds = es := by
  induction ds generalizing es with
  | nil => exact (List.length_eq_zero_iff.mp hlen.symm).symm
  | cons d ds ih =>
    cases es with
    | nil => cases hlen
    | cons e es =>
      obtain ⟨-, hds⟩ := List.forall_mem_cons.mp hd
      obtain ⟨-, hes⟩ := List.forall_mem_cons.mp he
      have hlen' : ds.length = es.length := Nat.succ.inj hlen
      have hlow := value_lt hds
      have hlow' := value_lt hes
      rw [value_cons, value_cons, hlen'] at h
      rw [hlen'] at hlow
      have hdiv : d = e := by
        have hpos : 0 < base ^ es.length := Nat.zero_lt_of_lt hlow
        have e₁ := Nat.add_mul_div_right (value base ds) d hpos
        have e₂ := Nat.add_mul_div_right (value base es) e hpos
        rw [Nat.div_eq_of_lt hlow, Nat.zero_add, Nat.add_comm] at e₁
        rw [Nat.div_eq_of_lt hlow', Nat.zero_add, Nat.add_comm] at e₂
        rw [← e₁, h, e₂]
      subst hdiv
      rw [ih hds hes hlen' (Nat.add_left_cancel h)]

/-! ## Texts -/

theorem digitChar_eq_zero_iff {d : Nat} (h : d < 16) : Nat.digitChar d = '0' ↔ d = 0 := by
  have all : ∀ i : Fin 16, Nat.digitChar i.val = '0' ↔ i.val = 0 := by decide
  exact all ⟨d, h⟩

/-- Digits without the zeros in front are the number's text; zero has none left. -/
theorem dropWhile_digitChar {ds : List Nat} (hbase : 1 < base) (hsmall : base ≤ 16) (h : ∀ d ∈ ds, d < base) :
    (ds.map Nat.digitChar).dropWhile (· == '0') = if value base ds = 0 then [] else Nat.toDigits base (value base ds) := by
  induction ds using List.reverseRecOn with
  | nil => rfl
  | append_singleton ds d ih =>
    have hds : ∀ e ∈ ds, e < base := fun e he => h e (List.mem_append_left _ he)
    have hd : d < base := h d (by simp)
    have hzero := digitChar_eq_zero_iff (d := d) (by omega)
    have ih := ih hds
    rw [List.map_append, List.map_singleton, List.dropWhile_append, ih, value_append_singleton]
    by_cases hv : value base ds = 0
    · rw [if_pos hv, hv, Nat.zero_mul, Nat.zero_add]
      by_cases hd0 : d = 0
      · simp [hd0, Nat.digitChar]
      · have hne : (Nat.digitChar d == '0') = false := by
          rw [beq_eq_false_iff_ne]
          exact fun e => hd0 (hzero.mp e)
        simp [hne, hd0, Nat.toDigits_of_lt_base hd]
    · have hpos : 0 < value base ds := Nat.pos_of_ne_zero hv
      have hbig : value base ds * base + d ≠ 0 := by
        have := Nat.mul_pos hpos (Nat.zero_lt_of_lt hbase)
        omega
      rw [if_neg hv, if_neg hbig, Nat.mul_comm, ← Nat.toDigits_append_toDigits hbase hpos hd,
        Nat.toDigits_of_lt_base hd]
      simp

/-- A number's text is made of the digits of that number. -/
theorem toDigits_eq_map (hbase : 1 < base) (n : Nat) :
    ∃ ds, Nat.toDigits base n = ds.map Nat.digitChar ∧ (∀ d ∈ ds, d < base) ∧ value base ds = n := by
  induction n using Nat.strongRecOn with
  | ind n ih =>
    by_cases hn : n < base
    · refine ⟨[n], Nat.toDigits_of_lt_base hn, ?_, value_singleton n⟩
      simpa using hn
    · have hpos : 0 < n := by omega
      obtain ⟨ds, htext, hds, hvalue⟩ := ih (n / base) (Nat.div_lt_self hpos hbase)
      refine ⟨ds ++ [n % base], ?_, ?_, ?_⟩
      · rw [Nat.toDigits_of_base_le hbase (by omega), htext, List.map_append, List.map_singleton]
      · intro d hd
        rcases List.mem_append.mp hd with hd | hd
        · exact hds d hd
        · rw [List.mem_singleton.mp hd]
          exact Nat.mod_lt n (by omega)
      · rw [value_append_singleton, hvalue, Nat.mul_comm, Nat.div_add_mod]

theorem digitChar_inj {d e : Nat} (hd : d < 16) (he : e < 16) (h : Nat.digitChar d = Nat.digitChar e) : d = e := by
  have all : ∀ i j : Fin 16, Nat.digitChar i.val = Nat.digitChar j.val → i.val = j.val := by decide
  exact all ⟨d, hd⟩ ⟨e, he⟩ h

theorem map_digitChar_inj {ds es : List Nat} (hd : ∀ d ∈ ds, d < 16) (he : ∀ e ∈ es, e < 16)
    (h : ds.map Nat.digitChar = es.map Nat.digitChar) : ds = es := by
  induction ds generalizing es with
  | nil => exact (List.map_eq_nil_iff.mp h.symm).symm
  | cons d ds ih =>
    cases es with
    | nil => cases h
    | cons e es =>
      obtain ⟨hd, hds⟩ := List.forall_mem_cons.mp hd
      obtain ⟨he, hes⟩ := List.forall_mem_cons.mp he
      obtain ⟨hhead, htail⟩ := List.cons.inj h
      rw [digitChar_inj hd he hhead, ih hds hes htail]

theorem toDigits_inj (hbase : 1 < base) (hsmall : base ≤ 16) {m n : Nat}
    (h : Nat.toDigits base m = Nat.toDigits base n) : m = n := by
  obtain ⟨ds, hds, hdlt, rfl⟩ := toDigits_eq_map hbase m
  obtain ⟨es, hes, helt, rfl⟩ := toDigits_eq_map hbase n
  rw [hds, hes] at h
  rw [map_digitChar_inj (fun d hd => Nat.lt_of_lt_of_le (hdlt d hd) hsmall)
    (fun e he => Nat.lt_of_lt_of_le (helt e he) hsmall) h]

end Radix

import Mathlib.Algebra.BigOperators.Fin
import Mathlib.Data.List.Basic
import Mathlib.Tactic.Linarith
import Mathlib.Tactic.Ring

/-!
# Base-128 groups

Little-endian base-128 numbers: seven payload bits a byte, the top bit set on
every byte but the last. `Groups u n` says that the bytes `u` are one such
number, in any padding, with value `n`; `encode n` is the shortest. The codes
are prefix-free (`Groups.append_inj`), so a reader needs no length.

`scan` reads a number of bounded length from the start of a string; loops that
add up or split off the groups are its and `encode`'s instances (`AddsUp.scan`,
`encode_of_loop`). Then comes the bit arithmetic of one byte and of one step of
such a loop, in the shapes masks and shifts produce, and with it the form of
what `scan` reads (`Terminated`).
-/

namespace Leb128

/-- The bytes of one base-128 number, and its value. -/
inductive Groups : List UInt8 → Nat → Prop where
  | last {b : UInt8} : b.toNat < 128 → Groups [b] b.toNat
  | more {b : UInt8} {u : List UInt8} {n : Nat} :
      128 ≤ b.toNat → Groups u n → Groups (b :: u) (b.toNat % 128 + 128 * n)

theorem Groups.length_pos {u : List UInt8} {n : Nat} (h : Groups u n) : 0 < u.length := by
  cases h <;> simp

/-- Seven bits a byte. -/
theorem Groups.lt_pow {u : List UInt8} {n : Nat} (h : Groups u n) : n < 128 ^ u.length := by
  induction h with
  | last hb => simpa using hb
  | more hb _ ih =>
    rw [List.length_cons, Nat.pow_succ]
    omega

/-- How a string starts with a number: its first byte is the whole of it, or the rest follows. -/
theorem Groups.starts_cons {b : UInt8} {buf rest u : List UInt8} {n : Nat} (h : Groups u n)
    (e : b :: buf = u ++ rest) :
    (b.toNat < 128 ∧ u = [b] ∧ n = b.toNat ∧ buf = rest) ∨
      (128 ≤ b.toNat ∧ ∃ v k, u = b :: v ∧ n = b.toNat % 128 + 128 * k ∧ Groups v k ∧ buf = v ++ rest) := by
  cases h with
  | last hb =>
    obtain ⟨rfl, rfl⟩ := List.cons.inj e
    exact .inl ⟨hb, rfl, rfl, rfl⟩
  | more hb hv =>
    obtain ⟨rfl, hbuf⟩ := List.cons.inj e
    exact .inr ⟨hb, _, _, rfl, rfl, hv, hbuf⟩

/-- No number's bytes are the start of another's. -/
theorem Groups.append_inj {u v r s : List UInt8} {n k : Nat} (hu : Groups u n) (hv : Groups v k)
    (e : u ++ r = v ++ s) : u = v ∧ n = k ∧ r = s := by
  induction hu generalizing v k with
  | last hb =>
    rcases hv.starts_cons e with ⟨-, rfl, rfl, hrest⟩ | ⟨hb', -⟩
    · exact ⟨rfl, rfl, hrest⟩
    · omega
  | more hb _ ih =>
    rcases hv.starts_cons e with ⟨hb', -⟩ | ⟨-, v', k', rfl, rfl, hv', hrest⟩
    · omega
    · obtain ⟨rfl, rfl, rfl⟩ := ih hv' hrest
      exact ⟨rfl, rfl, rfl⟩

/-- The shortest encoding. -/
def encode (n : Nat) : List UInt8 :=
  if n < 128 then [UInt8.ofNat n] else UInt8.ofNat (n % 128 + 128) :: encode (n / 128)

theorem encode_of_lt {n : Nat} (h : n < 128) : encode n = [UInt8.ofNat n] := by
  rw [encode, if_pos h]

theorem encode_of_ge {n : Nat} (h : 128 ≤ n) :
    encode n = UInt8.ofNat (n % 128 + 128) :: encode (n / 128) := by
  rw [encode, if_neg (by omega)]

theorem encode_groups (n : Nat) : Groups (encode n) n := by
  induction n using Nat.strongRecOn with
  | ind n ih =>
    by_cases h : n < 128
    · have e : (UInt8.ofNat n).toNat = n := by simp; omega
      rw [encode_of_lt h]
      simpa only [e] using Groups.last (b := UInt8.ofNat n) (by omega)
    · have e : (UInt8.ofNat (n % 128 + 128)).toNat = n % 128 + 128 := by simp; omega
      have := Groups.more (b := UInt8.ofNat (n % 128 + 128)) (by omega) (ih (n / 128) (by omega))
      rw [encode_of_ge (by omega)]
      rw [e] at this
      rwa [show (n % 128 + 128) % 128 + 128 * (n / 128) = n by omega] at this

/-- `k` bytes are enough below `128 ^ k`. -/
theorem encode_length_le {k n : Nat} (hk : 0 < k) (h : n < 128 ^ k) : (encode n).length ≤ k := by
  induction k generalizing n with
  | zero => omega
  | succ k ih =>
    by_cases hn : n < 128
    · rw [encode_of_lt hn]; simp
    · rw [encode_of_ge (by omega), List.length_cons]
      have hk' : 0 < k := by
        rcases Nat.eq_zero_or_pos k with rfl | h'
        · simp at h; omega
        · exact h'
      have : n / 128 < 128 ^ k := by
        rw [Nat.div_lt_iff_lt_mul (by decide), ← Nat.pow_succ]; exact h
      have := ih hk' this
      omega

/-- `encode` is the shortest of a number's encodings. -/
theorem Groups.encode_length_le {u : List UInt8} {n : Nat} (h : Groups u n) :
    (encode n).length ≤ u.length :=
  Leb128.encode_length_le h.length_pos h.lt_pow

theorem encode_length_pos (n : Nat) : 0 < (encode n).length := (encode_groups n).length_pos

/-- Numbers of one length are told apart by their values. -/
theorem Groups.eq_of_length {u v : List UInt8} {n : Nat} (hu : Groups u n) (hv : Groups v n)
    (hlen : u.length = v.length) : u = v := by
  induction u generalizing v n with
  | nil => cases hu
  | cons b u ih =>
    cases hu with
    | last hb =>
      generalize hn : b.toNat = n at hv
      cases hv with
      | last hb' => rw [UInt8.toNat_inj.mp hn]
      | more _ hv' =>
        have := hv'.length_pos
        simp only [List.length_cons, List.length_nil] at hlen
        omega
    | @more _ _ m hb hu' =>
      generalize hn : b.toNat % 128 + 128 * m = n at hv
      cases hv with
      | last hb' =>
        have := hu'.length_pos
        simp only [List.length_cons, List.length_nil] at hlen
        omega
      | @more b' v' m' hb' hv' =>
        have hlt := b.toNat_lt
        have hlt' := b'.toNat_lt
        obtain rfl : b = b' := UInt8.toNat_inj.mp (by omega)
        obtain rfl : m = m' := by omega
        rw [ih hu' hv' (by simpa using hlen)]

/-- A number as long as its shortest encoding is that encoding. -/
theorem Groups.eq_encode {u : List UInt8} {n : Nat} (h : Groups u n) (hlen : u.length = (encode n).length) :
    u = encode n :=
  h.eq_of_length (encode_groups n) hlen

/-- The top bit is set before the last byte, and clear there. -/
theorem Groups.getD_lt_iff {u : List UInt8} {n i : Nat} (h : Groups u n) (hi : i < u.length) :
    (u.getD i 0).toNat < 128 ↔ i + 1 = u.length := by
  induction h generalizing i with
  | @last b hb =>
    obtain rfl : i = 0 := by simpa using hi
    simpa using hb
  | @more b u n hb hu ih =>
    cases i with
    | zero =>
      have := hu.length_pos
      simp only [List.getD_cons_zero, List.length_cons]
      omega
    | succ i =>
      simp only [List.getD_cons_succ, List.length_cons, Nat.add_right_cancel_iff]
      apply ih
      simpa using hi

/-- Only zero's shortest encoding ends in a zero byte. -/
theorem encode_last_eq_zero {n : Nat} (h : (encode n).getD ((encode n).length - 1) 0 = 0) : n = 0 := by
  induction n using Nat.strongRecOn with
  | ind n ih =>
    by_cases hn : n < 128
    · rw [encode_of_lt hn] at h
      have hz := congrArg UInt8.toNat h
      simp only [List.length_singleton, Nat.sub_self, List.getD_cons_zero, UInt8.toNat_ofNat', UInt8.toNat_zero] at hz
      omega
    · have hpos := encode_length_pos (n / 128)
      rw [encode_of_ge (by omega), List.length_cons, Nat.add_sub_cancel] at h
      obtain ⟨k, hk⟩ : ∃ k, (encode (n / 128)).length = k + 1 := ⟨_, (Nat.sub_add_cancel hpos).symm⟩
      rw [hk, List.getD_cons_succ] at h
      have := ih (n / 128) (by omega) (by rw [hk, Nat.add_sub_cancel]; exact h)
      omega

/-- A loop that writes groups of seven bits until seven are left. -/
theorem encode_of_loop {σ : Type} {loop : Nat → σ → List UInt8} {toNat : σ → Nat} {shift : σ → σ}
    (hshift : ∀ t, toNat (shift t) = toNat t / 128)
    (hloop : ∀ fuel t, loop (fuel + 1) t =
      if toNat t < 128 then [UInt8.ofNat (toNat t)]
      else UInt8.ofNat (toNat t % 128 + 128) :: loop fuel (shift t)) (fuel : Nat) :
    ∀ t, toNat t < 128 ^ (fuel + 1) → loop (fuel + 1) t = encode (toNat t) := by
  induction fuel with
  | zero =>
    intro t ht
    have hlt : toNat t < 128 := by omega
    rw [hloop, if_pos hlt, encode_of_lt hlt]
  | succ fuel ih =>
    intro t ht
    rw [hloop]
    by_cases hlt : toNat t < 128
    · rw [if_pos hlt, encode_of_lt hlt]
    · have hsmall : toNat (shift t) < 128 ^ (fuel + 1) := by
        rw [hshift, Nat.div_lt_iff_lt_mul (by decide), ← Nat.pow_succ]
        exact ht
      rw [if_neg hlt, encode_of_ge (by omega), ih (shift t) hsmall, hshift]

/-! ## Reading -/

/-- What reading a number from the start of a string comes to. -/
inductive Scan where
  | value (n : Nat) (rest : List UInt8)
  | ended
  | overflow (rest : List UInt8)

/-- Read a number of at most `left` bytes, the last of which must be below `top`. -/
def scan (top : Nat) : Nat → List UInt8 → Scan
  | 0, bs => .overflow bs
  | _ + 1, [] => .ended
  | left + 1, b :: bs =>
    if left = 0 ∧ top ≤ b.toNat then .overflow bs
    else if b.toNat < 128 then .value b.toNat bs
    else match scan top left bs with
      | .value n rest => .value (b.toNat % 128 + 128 * n) rest
      | .ended => .ended
      | .overflow rest => .overflow rest

theorem not_starts_nil {rest u : List UInt8} {n : Nat} (h : Groups u n) : ([] : List UInt8) ≠ u ++ rest := by
  intro e
  obtain ⟨rfl, -⟩ := List.append_eq_nil_iff.mp e.symm
  cases h

/-- What the first byte has to do with it. -/
theorem scan_cons_value_iff {top left n : Nat} {b : UInt8} {bs rest : List UInt8} :
    scan top (left + 1) (b :: bs) = .value n rest ↔
      ¬ (left = 0 ∧ top ≤ b.toNat) ∧ ((b.toNat < 128 ∧ n = b.toNat ∧ bs = rest) ∨
        (128 ≤ b.toNat ∧ ∃ k, n = b.toNat % 128 + 128 * k ∧ scan top left bs = .value k rest)) := by
  rw [scan]
  by_cases hover : left = 0 ∧ top ≤ b.toNat
  · rw [if_pos hover]
    exact iff_of_false nofun fun h => h.1 hover
  · rw [if_neg hover, and_iff_right hover]
    by_cases hb : b.toNat < 128
    · rw [if_pos hb, Scan.value.injEq]
      constructor
      · rintro ⟨rfl, rfl⟩
        exact .inl ⟨hb, rfl, rfl⟩
      · rintro (⟨-, rfl, rfl⟩ | ⟨hge, -⟩)
        · exact ⟨rfl, rfl⟩
        · exact absurd hb (Nat.not_lt.mpr hge)
    · rw [if_neg hb]
      cases scan top left bs with
      | value k rest' =>
        simp only [Scan.value.injEq]
        constructor
        · rintro ⟨rfl, rfl⟩
          exact .inr ⟨Nat.le_of_not_lt hb, k, rfl, rfl, rfl⟩
        · rintro (⟨hlt, -⟩ | ⟨-, k', rfl, rfl, rfl⟩)
          · exact absurd hlt hb
          · exact ⟨rfl, rfl⟩
      | ended =>
        refine iff_of_false nofun ?_
        rintro (⟨hlt, -⟩ | ⟨-, k, -, h⟩)
        · exact hb hlt
        · cases h
      | overflow rest' =>
        refine iff_of_false nofun ?_
        rintro (⟨hlt, -⟩ | ⟨-, k, -, h⟩)
        · exact hb hlt
        · cases h

/-- A string is read as a number exactly when it starts with the number's groups. -/
theorem scan_value_iff {top left n : Nat} {bs rest : List UInt8} (hpos : 0 < top) (htop : top ≤ 128) :
    scan top (left + 1) bs = .value n rest ↔
      ∃ u, bs = u ++ rest ∧ u.length ≤ left + 1 ∧ Groups u n ∧ n < 128 ^ left * top := by
  induction left generalizing bs n with
  | zero =>
    cases bs with
    | nil => exact iff_of_false nofun fun ⟨u, e, _, hg, _⟩ => not_starts_nil hg e
    | cons b bs =>
      rw [scan_cons_value_iff]
      constructor
      · rintro ⟨hover, ⟨hlt, rfl, rfl⟩ | ⟨hge, -⟩⟩
        · exact ⟨[b], rfl, Nat.le_refl _, .last hlt, by omega⟩
        · omega
      · rintro ⟨u, e, hl, hg, hn⟩
        rcases hg.starts_cons e with ⟨hlt, rfl, rfl, rfl⟩ | ⟨-, v, k, rfl, -, hv, -⟩
        · exact ⟨by omega, .inl ⟨hlt, rfl, rfl⟩⟩
        · have := hv.length_pos
          rw [List.length_cons] at hl
          omega
  | succ left ih =>
    have hpow : 128 ^ (left + 1) * top = 128 * (128 ^ left * top) := by ring
    have hone : 0 < 128 ^ left * top := Nat.mul_pos (Nat.pow_pos (by decide)) hpos
    cases bs with
    | nil => exact iff_of_false nofun fun ⟨u, e, _, hg, _⟩ => not_starts_nil hg e
    | cons b bs =>
      rw [scan_cons_value_iff, hpow]
      constructor
      · rintro ⟨-, ⟨hlt, rfl, rfl⟩ | ⟨hge, k, rfl, hscan⟩⟩
        · exact ⟨[b], rfl, by simp, .last hlt, by omega⟩
        · obtain ⟨u, rfl, hl, hg, hk⟩ := ih.mp hscan
          refine ⟨b :: u, rfl, ?_, .more hge hg, by omega⟩
          rw [List.length_cons]
          omega
      · rintro ⟨u, e, hl, hg, hn⟩
        refine ⟨by omega, ?_⟩
        rcases hg.starts_cons e with ⟨hlt, -, rfl, rfl⟩ | ⟨hge, v, k, rfl, rfl, hv, hrest⟩
        · exact .inl ⟨hlt, rfl, rfl⟩
        · rw [List.length_cons] at hl
          exact .inr ⟨hge, k, rfl, ih.mpr ⟨v, hrest, by omega, hv, by omega⟩⟩

/-- What is read is the start of the string, and no longer than it may be. -/
theorem scan_rest {top left : Nat} (bs : List UInt8) :
    match scan top left bs with
    | .value _ rest | .overflow rest => ∃ used, bs = used ++ rest ∧ used.length ≤ left
    | .ended => bs.length < left := by
  induction left generalizing bs with
  | zero => exact ⟨[], rfl, Nat.le_refl _⟩
  | succ left ih =>
    cases bs with
    | nil => exact Nat.succ_pos left
    | cons b bs =>
      have ih := ih bs
      rw [scan]
      split_ifs
      · exact ⟨[b], rfl, Nat.succ_le_succ (Nat.zero_le left)⟩
      · exact ⟨[b], rfl, Nat.succ_le_succ (Nat.zero_le left)⟩
      · cases hscan : scan top left bs with
        | value n rest =>
          rw [hscan] at ih
          obtain ⟨used, rfl, hl⟩ := ih
          exact ⟨b :: used, rfl, Nat.succ_le_succ hl⟩
        | overflow rest =>
          rw [hscan] at ih
          obtain ⟨used, rfl, hl⟩ := ih
          exact ⟨b :: used, rfl, Nat.succ_le_succ hl⟩
        | ended =>
          rw [hscan] at ih
          exact Nat.succ_lt_succ ih

section ScanLoop

variable {ρ : Type} (width top : Nat) (loop : Nat → Nat → List UInt8 → ρ) (value : Nat → List UInt8 → ρ) (ended : ρ)
  (overflow : List UInt8 → ρ)

/-- A loop that adds up the groups of a number, one byte at a time: after `k`
bytes of the `width` it may have, and with what they have added up to. -/
structure AddsUp : Prop where
  ends : ∀ k acc, k < width → loop k acc [] = ended
  step : ∀ k acc b bs, k < width → acc < 2 ^ (7 * k) → loop k acc (b :: bs) =
    if k + 1 = width ∧ top ≤ b.toNat then overflow bs
    else if b.toNat < 128 then value (acc + 2 ^ (7 * k) * b.toNat) bs
    else loop (k + 1) (acc + 2 ^ (7 * k) * (b.toNat % 128)) bs

variable {width top loop value ended overflow}

theorem AddsUp.scan_from (h : AddsUp width top loop value ended overflow) (htop : top ≤ 128) (bs : List UInt8) :
    ∀ k acc, k < width → acc < 2 ^ (7 * k) → loop k acc bs = match scan top (width - k) bs with
      | .value n rest => value (acc + 2 ^ (7 * k) * n) rest
      | .ended => ended
      | .overflow rest => overflow rest := by
  induction bs with
  | nil =>
    intro k acc hk _
    obtain ⟨left, hleft⟩ : ∃ left, width - k = left + 1 := ⟨width - k - 1, by omega⟩
    rw [h.ends k acc hk, hleft]
    rfl
  | cons b bs ih =>
    intro k acc hk hacc
    obtain ⟨left, hleft⟩ : ∃ left, width - k = left + 1 := ⟨width - k - 1, by omega⟩
    have hlast : left = 0 ↔ k + 1 = width := by omega
    rw [h.step k acc b bs hk hacc, hleft, scan]
    simp only [hlast]
    by_cases hover : k + 1 = width ∧ top ≤ b.toNat
    · rw [if_pos hover, if_pos hover]
    · rw [if_neg hover, if_neg hover]
      by_cases hb : b.toNat < 128
      · rw [if_pos hb, if_pos hb]
      · have hpow : 2 ^ (7 * (k + 1)) = 2 ^ (7 * k) * 128 := by
          rw [show 7 * (k + 1) = 7 * k + 7 by ring, Nat.pow_add]
        have hbound : acc + 2 ^ (7 * k) * (b.toNat % 128) < 2 ^ (7 * (k + 1)) := by
          have := Nat.mod_lt b.toNat (by decide : 128 > 0)
          rw [hpow]
          nlinarith
        have hnext : width - (k + 1) = left := by omega
        rw [if_neg hb, if_neg hb, ih (k + 1) _ (by omega) hbound, hnext, hpow]
        cases scan top left bs with
        | value n rest =>
          simp only
          congr 1
          ring
        | ended => rfl
        | overflow rest => rfl

/-- Such a loop reads what `scan` reads. -/
theorem AddsUp.scan (h : AddsUp width top loop value ended overflow) (htop : top ≤ 128) (hwidth : 0 < width)
    (bs : List UInt8) : loop 0 0 bs = match Leb128.scan top width bs with
      | .value n rest => value n rest
      | .ended => ended
      | .overflow rest => overflow rest := by
  rw [h.scan_from htop bs 0 0 hwidth (by decide)]
  simp only [Nat.mul_zero, Nat.pow_zero, Nat.one_mul, Nat.zero_add, Nat.sub_zero]

end ScanLoop

/-! ## One byte, one step -/

section Bits

theorem cont_clear_iff (b : UInt8) : (b &&& 0x80) = 0 ↔ b.toNat < 128 := by
  have h : ∀ i : Fin 256, (UInt8.ofNat i.val &&& 0x80) = 0 ↔ i.val < 128 := by decide +kernel
  have := h ⟨b.toNat, b.toNat_lt⟩
  simpa using this

theorem high_clear_iff (b : UInt8) : (b &&& 0xF0) = 0 ↔ b.toNat < 16 := by
  have h : ∀ i : Fin 256, (UInt8.ofNat i.val &&& 0xF0) = 0 ↔ i.val < 16 := by decide +kernel
  have := h ⟨b.toNat, b.toNat_lt⟩
  simpa using this

theorem upper_clear_iff (b : UInt8) : (b &&& 0xFE) = 0 ↔ b.toNat < 2 := by
  have h : ∀ i : Fin 256, (UInt8.ofNat i.val &&& 0xFE) = 0 ↔ i.val < 2 := by decide +kernel
  have := h ⟨b.toNat, b.toNat_lt⟩
  simpa using this

theorem payload_toNat (b : UInt8) : (b &&& 0x7F).toNat = b.toNat % 128 := by
  rw [UInt8.toNat_and]
  exact Nat.and_two_pow_sub_one_eq_mod b.toNat 7

/-- Or-ing a number into the bits above an accumulator adds it there. -/
theorem or_shiftLeft {a s x : Nat} (ha : a < 2 ^ s) : a ||| x <<< s = a + 2 ^ s * x := by
  rw [Nat.or_comm, Nat.shiftLeft_eq, Nat.mul_comm x, ← Nat.two_pow_add_eq_or_of_lt ha, Nat.add_comm]

/-- The same where bits are lost at the top. -/
theorem or_shiftLeft_mod {a s x w : Nat} (hs : s ≤ w) (ha : a < 2 ^ s) :
    a ||| x <<< s % 2 ^ w = (a + 2 ^ s * x) % 2 ^ w := by
  obtain ⟨r, rfl⟩ := Nat.exists_eq_add_of_le hs
  have hpow : 2 ^ (s + r) = 2 ^ s * 2 ^ r := Nat.pow_add 2 s r
  have hlow : x <<< s % 2 ^ (s + r) = (x % 2 ^ r) <<< s := by
    rw [Nat.shiftLeft_eq, Nat.shiftLeft_eq, hpow, Nat.mul_comm x, Nat.mul_mod_mul_left, Nat.mul_comm]
  have hsum : (a + 2 ^ s * x) % 2 ^ (s + r) = a + 2 ^ s * (x % 2 ^ r) := by
    rw [hpow, Nat.mod_mul, Nat.add_mul_mod_self_left, Nat.mod_eq_of_lt ha, Nat.add_mul_div_left _ _ (Nat.two_pow_pos s),
      Nat.div_eq_of_lt ha, Nat.zero_add]
  rw [hlow, hsum, or_shiftLeft ha]

theorem low7_toNat {w : Nat} (hw : 7 ≤ w) (t : BitVec w) : (t &&& 127#w).toNat = t.toNat % 128 := by
  have hmask : (127#w).toNat = 2 ^ 7 - 1 := by
    rw [BitVec.toNat_ofNat]
    exact Nat.mod_eq_of_lt (lt_of_lt_of_le (by decide) (Nat.pow_le_pow_right (by decide) hw))
  rw [BitVec.toNat_and, hmask, Nat.and_two_pow_sub_one_eq_mod]

theorem rest_clear_iff {w : Nat} (hw : 7 ≤ w) (t : BitVec w) : t &&& ~~~127#w = 0#w ↔ t.toNat < 128 := by
  have hsplit : t = (t &&& ~~~127#w) ||| (t &&& 127#w) := by
    rw [← BitVec.and_or_distrib_left, BitVec.or_comm, BitVec.or_not_self, BitVec.and_allOnes]
  constructor
  · intro h
    rw [h, BitVec.zero_or] at hsplit
    have e := congrArg BitVec.toNat hsplit
    rw [low7_toNat hw] at e
    omega
  · intro h
    have e : t &&& 127#w = t := BitVec.eq_of_toNat_eq (by rw [low7_toNat hw, Nat.mod_eq_of_lt h])
    rw [← e, BitVec.and_assoc, BitVec.and_not_self]
    simp

end Bits

/-! ## The form of a number -/

/-- Bytes with the continuation bit, fewer than `width`, and one without it; the
last that there may be is no more than `largest`. -/
def Terminated (width : Nat) (largest : UInt8) (u : List UInt8) : Prop :=
  ∃ front last, u = front ++ [last] ∧ front.length < width ∧ (∀ b ∈ front, b &&& 0x80 ≠ 0) ∧ last &&& 0x80 = 0 ∧
    (front.length + 1 = width → last ≤ largest)

/-- The sum of the seven-bit groups, the lowest first. -/
def groupSum (u : List UInt8) : Nat := ∑ i : Fin u.length, (u[i] &&& 0x7F).toNat * 2 ^ (7 * i.val)

example : groupSum [0x80, 0x01] = 128 := by decide

theorem groupSum_cons (b : UInt8) (u : List UInt8) : groupSum (b :: u) = b.toNat % 128 + 128 * groupSum u := by
  have hfirst : ((b :: u)[(0 : Fin (u.length + 1))] &&& 0x7F).toNat * 2 ^ (7 * 0) = b.toNat % 128 := by
    rw [Nat.mul_zero, Nat.pow_zero, Nat.mul_one]
    exact payload_toNat b
  have hnext (i : Fin u.length) : ((b :: u)[i.succ] &&& 0x7F).toNat * 2 ^ (7 * i.succ.val) =
      128 * ((u[i] &&& 0x7F).toNat * 2 ^ (7 * i.val)) := by
    have hbyte : (b :: u)[i.succ] = u[i] := rfl
    have hpow : 2 ^ (7 * i.succ.val) = 128 * 2 ^ (7 * i.val) := by
      rw [Fin.val_succ, Nat.mul_succ, Nat.pow_add, Nat.mul_comm]
    rw [hbyte, hpow, Nat.mul_left_comm]
  rw [groupSum, groupSum, Finset.mul_sum]
  refine (Fin.sum_univ_succ _).trans ?_
  exact congrArg₂ (· + ·) hfirst (Finset.sum_congr rfl fun i _ => hnext i)

theorem terminated_cons {left : Nat} {largest b : UInt8} {u : List UInt8} :
    Terminated (left + 1) largest (b :: u) ↔
      (u = [] ∧ b.toNat < 128 ∧ (left = 0 → b ≤ largest)) ∨ (128 ≤ b.toNat ∧ Terminated left largest u) := by
  constructor
  · rintro ⟨front, last, e, hlen, hfront, hlast, htop⟩
    cases front with
    | nil =>
      obtain ⟨rfl, rfl⟩ := List.cons.inj e
      exact .inl ⟨rfl, (cont_clear_iff b).mp hlast, fun h => htop (congrArg (· + 1) h.symm)⟩
    | cons c front =>
      obtain ⟨rfl, rfl⟩ := List.cons.inj e
      rw [List.forall_mem_cons] at hfront
      have hcont := mt (cont_clear_iff b).mpr hfront.1
      refine .inr ⟨Nat.le_of_not_lt hcont, front, last, rfl, Nat.lt_of_succ_lt_succ hlen, hfront.2, hlast, ?_⟩
      exact fun h => htop (congrArg (· + 1) h)
  · rintro (⟨rfl, hb, htop⟩ | ⟨hb, front, last, rfl, hlen, hfront, hlast, htop⟩)
    · exact ⟨[], b, rfl, Nat.succ_pos left, nofun, (cont_clear_iff b).mpr hb, fun h => htop (Nat.succ.inj h).symm⟩
    · refine ⟨b :: front, last, rfl, Nat.succ_lt_succ hlen, ?_, hlast, fun h => htop (Nat.succ.inj h)⟩
      rw [List.forall_mem_cons]
      exact ⟨fun h => absurd ((cont_clear_iff b).mp h) (Nat.not_lt.mpr hb), hfront⟩

theorem not_terminated_nil {width : Nat} {largest : UInt8} : ¬ Terminated width largest [] := by
  rintro ⟨front, last, e, -⟩
  exact List.append_ne_nil_of_right_ne_nil front (List.cons_ne_nil last []) e.symm

theorem Terminated.width_pos {width : Nat} {largest : UInt8} {u : List UInt8} (h : Terminated width largest u) :
    0 < width := by
  obtain ⟨front, last, -, hlen, -⟩ := h
  exact Nat.zero_lt_of_lt hlen

/-- `scan` reads what has this form, and adds it up. -/
theorem scan_value_iff_terminated {width n : Nat} {largest : UInt8} {bs rest : List UInt8} :
    scan (largest.toNat + 1) width bs = .value n rest ↔
      ∃ u, bs = u ++ rest ∧ Terminated width largest u ∧ n = groupSum u := by
  induction width generalizing bs n with
  | zero => exact iff_of_false nofun fun ⟨_, _, hu, _⟩ => absurd hu.width_pos (Nat.lt_irrefl 0)
  | succ left ih =>
    cases bs with
    | nil =>
      refine iff_of_false nofun ?_
      rintro ⟨u, e, hu, -⟩
      obtain ⟨rfl, -⟩ := List.append_eq_nil_iff.mp e.symm
      exact not_terminated_nil hu
    | cons b bs =>
      have hlargest : (left = 0 → b ≤ largest) ↔ ¬ (left = 0 ∧ largest.toNat + 1 ≤ b.toNat) := by
        rw [UInt8.le_iff_toNat_le]
        omega
      rw [scan_cons_value_iff]
      constructor
      · rintro ⟨hover, ⟨hb, rfl, rfl⟩ | ⟨hb, k, rfl, hscan⟩⟩
        · refine ⟨[b], rfl, terminated_cons.mpr (.inl ⟨rfl, hb, hlargest.mpr hover⟩), ?_⟩
          rw [groupSum_cons, Nat.mod_eq_of_lt hb]
          rfl
        · obtain ⟨u, rfl, hu, rfl⟩ := ih.mp hscan
          exact ⟨b :: u, rfl, terminated_cons.mpr (.inr ⟨hb, hu⟩), (groupSum_cons b u).symm⟩
      · rintro ⟨u, e, hu, rfl⟩
        cases u with
        | nil => exact absurd hu not_terminated_nil
        | cons c u =>
          obtain ⟨rfl, rfl⟩ := List.cons.inj e
          rw [groupSum_cons]
          rcases terminated_cons.mp hu with ⟨rfl, hb, htop⟩ | ⟨hb, hu⟩
          · exact ⟨hlargest.mp htop, .inl ⟨hb, Nat.mod_eq_of_lt hb, rfl⟩⟩
          · have := hu.width_pos
            exact ⟨by omega, .inr ⟨hb, groupSum u, rfl, ih.mpr ⟨u, rfl, hu, rfl⟩⟩⟩

end Leb128

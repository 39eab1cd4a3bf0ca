import Mathlib.Data.List.Basic

/-!
# Percent-encoding

A byte that is not `plain` becomes `%` and two hex digits. Read as a form reads
it, encoded text is the bytes again (`decode_encode`), as long as what is plain
is ASCII and neither `%` nor `+`; and it has no characters but plain ones, `%`
and digits (`mem_encode`).
-/

namespace PercentEncoding

def hexDigit (n : Nat) : Char := (Nat.digitChar n).toUpper

def hexValue (c : Char) : Option Nat :=
  if 0x30 ≤ c.toNat ∧ c.toNat ≤ 0x39 then some (c.toNat - 0x30)
  else if 0x41 ≤ c.toNat ∧ c.toNat ≤ 0x46 then some (c.toNat - 0x37)
  else if 0x61 ≤ c.toNat ∧ c.toNat ≤ 0x66 then some (c.toNat - 0x57)
  else none

theorem hexValue_hexDigit {n : Nat} (h : n < 16) : hexValue (hexDigit n) = some n := by
  have hall : ∀ n < 16, hexValue (hexDigit n) = some n := by decide
  exact hall n h

theorem toNat_ofNat_ascii {n : Nat} (h : n < 128) : (Char.ofNat n).toNat = n := by
  have hall : ∀ n < 128, (Char.ofNat n).toNat = n := by decide
  exact hall n h

section Encode

variable (plain : UInt8 → Bool)

def encodeByte (b : UInt8) : List Char :=
  if plain b then [Char.ofNat b.toNat] else ['%', hexDigit (b.toNat / 16), hexDigit (b.toNat % 16)]

def encode (bytes : List UInt8) : List Char := bytes.flatMap (encodeByte plain)

/-- What may be left as it is: ASCII that a reader takes as it is. -/
structure Plain : Prop where
  ascii : ∀ b, plain b = true → b.toNat < 128
  percent : plain 0x25 = false
  plus : plain 0x2B = false

end Encode

/-- A reader of forms: escapes, `+` for a space, and plain ASCII. -/
def decode : List Char → Option (List UInt8)
  | [] => some []
  | c :: rest =>
    if c = '%' then
      match rest with
      | high :: low :: rest => do
        let high ← hexValue high
        let low ← hexValue low
        let bytes ← decode rest
        some (UInt8.ofNat (high * 16 + low) :: bytes)
      | _ => none
    else if c = '+' then (decode rest).map (0x20 :: ·)
    else if c.toNat < 128 then (decode rest).map (UInt8.ofNat c.toNat :: ·)
    else none

theorem decode_escape (high low : Char) (rest : List Char) : decode ('%' :: high :: low :: rest) =
    (hexValue high).bind fun high => (hexValue low).bind fun low =>
      (decode rest).map (UInt8.ofNat (high * 16 + low) :: ·) := by
  rw [decode, if_pos rfl]
  cases hexValue high with
  | none => rfl
  | some high =>
    cases hexValue low with
    | none => rfl
    | some low => cases decode rest <;> rfl

theorem decode_plain {c : Char} (hpercent : c ≠ '%') (hplus : c ≠ '+') (hascii : c.toNat < 128) (rest : List Char) :
    decode (c :: rest) = (decode rest).map (UInt8.ofNat c.toNat :: ·) := by
  conv_lhs => unfold decode
  rw [if_neg hpercent, if_neg hplus, if_pos hascii]

variable {plain : UInt8 → Bool}

theorem decode_encodeByte (hplain : Plain plain) (b : UInt8) (rest : List Char) :
    decode (encodeByte plain b ++ rest) = (decode rest).map (b :: ·) := by
  have hlt := b.toNat_lt
  rw [encodeByte]
  by_cases hb : plain b = true
  · have hascii := hplain.ascii b hb
    have hchar := toNat_ofNat_ascii hascii
    have hne {c : Char} {x : UInt8} (hc : c.toNat = x.toNat) (hx : plain x = false) : Char.ofNat b.toNat ≠ c := by
      intro heq
      have hbx : b.toNat = x.toNat := by rw [← hchar, heq, hc]
      rw [UInt8.toNat_inj.mp hbx, hx] at hb
      cases hb
    rw [if_pos hb, List.singleton_append,
      decode_plain (hne rfl hplain.percent) (hne rfl hplain.plus) (by rwa [hchar]), hchar, UInt8.ofNat_toNat]
  · rw [if_neg hb]
    have hbyte : UInt8.ofNat (b.toNat / 16 * 16 + b.toNat % 16) = b := by
      rw [Nat.div_add_mod', UInt8.ofNat_toNat]
    have hread := decode_escape (hexDigit (b.toNat / 16)) (hexDigit (b.toNat % 16)) rest
    rw [hexValue_hexDigit (by omega), hexValue_hexDigit (by omega)] at hread
    simp only [Option.bind_some, hbyte] at hread
    exact hread

theorem decode_encode (hplain : Plain plain) (bytes : List UInt8) : decode (encode plain bytes) = some bytes := by
  induction bytes with
  | nil => rfl
  | cons b bytes ih =>
    rw [encode, List.flatMap_cons, decode_encodeByte hplain, ← encode, ih]
    rfl

/-- The characters of encoded text. -/
theorem mem_encode {bytes : List UInt8} {c : Char} (h : c ∈ encode plain bytes) :
    (∃ b, plain b = true ∧ c = Char.ofNat b.toNat) ∨ c = '%' ∨ ∃ n < 16, c = hexDigit n := by
  obtain ⟨b, -, hc⟩ := List.mem_flatMap.mp h
  have hlt := b.toNat_lt
  rw [encodeByte] at hc
  split at hc
  · next hb => exact Or.inl ⟨b, hb, List.mem_singleton.mp hc⟩
  · simp only [List.mem_cons, List.not_mem_nil, or_false] at hc
    rcases hc with rfl | rfl | rfl
    · exact Or.inr (Or.inl rfl)
    · exact Or.inr (Or.inr ⟨_, by omega, rfl⟩)
    · exact Or.inr (Or.inr ⟨_, by omega, rfl⟩)

end PercentEncoding

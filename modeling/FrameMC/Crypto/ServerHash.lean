import FrameMC.Crypto.MojangAuth
import FrameMC.Lib.Radix

/-!
# The server hash is a signed number

What `mojang_sha1_digest` makes of a digest is the text of the integer the
twenty bytes are in two's complement: `server_hash_signed_hex`. The loop that
inverts and adds one is `256 ^ n - x` on the bytes' number `x`
(`twosComplement_value`), with a carry out of the first byte for zero only.
-/

namespace FrameMC

/-! ## The integer and its text -/

/-- The unsigned reading of bytes. -/
def bigEndian (bytes : List UInt8) : Nat := Radix.value 256 (bytes.map UInt8.toNat)

/-- The signed reading of a digest, as `BigInteger(hash)`. -/
def signedDigest (hash : { hash : List UInt8 // hash.length = 20 }) : Int :=
  (BitVec.ofNat 160 (bigEndian hash.val)).toInt

/-- An integer in base 16, as `BigInteger.toString(16)`. -/
def toString16 (n : Int) : String :=
  if n < 0 then "-" ++ String.ofList (Nat.toDigits 16 n.natAbs) else String.ofList (Nat.toDigits 16 n.natAbs)

/-! ## Bytes -/

theorem toNat_digits (bytes : List UInt8) : ∀ d ∈ bytes.map UInt8.toNat, d < 256 := by
  intro d hd
  obtain ⟨b, -, rfl⟩ := List.mem_map.mp hd
  exact b.toNat_lt

theorem bigEndian_cons (b : UInt8) (bytes : List UInt8) :
    bigEndian (b :: bytes) = b.toNat * 256 ^ bytes.length + bigEndian bytes := by
  rw [bigEndian, List.map_cons, Radix.value_cons, List.length_map, bigEndian]

theorem bigEndian_lt (bytes : List UInt8) : bigEndian bytes < 256 ^ bytes.length := by
  have := Radix.value_lt (toNat_digits bytes)
  rwa [List.length_map] at this

theorem bigEndian_inj {bytes bytes' : List UInt8} (hlen : bytes.length = bytes'.length)
    (h : bigEndian bytes = bigEndian bytes') : bytes = bytes' := by
  have hmap := Radix.value_inj (toNat_digits bytes) (toNat_digits bytes') (by simpa using hlen) h
  exact List.map_injective_iff.mpr (fun _ _ e => UInt8.toNat_inj.mp e) hmap

/-- The two digits of each byte are the base-16 digits of the number. -/
theorem hexDigits_eq (bytes : List UInt8) :
    ∃ ds, hexDigits bytes = ds.map Nat.digitChar ∧ (∀ d ∈ ds, d < 16) ∧ ds.length = 2 * bytes.length ∧
      Radix.value 16 ds = bigEndian bytes := by
  induction bytes with
  | nil => exact ⟨[], rfl, nofun, rfl, rfl⟩
  | cons b bytes ih =>
    obtain ⟨ds, htext, hds, hlen, hvalue⟩ := ih
    have hb := b.toNat_lt
    refine ⟨b.toNat / 16 :: b.toNat % 16 :: ds, ?_, ?_, ?_, ?_⟩
    · rw [hexDigits, List.flatMap_cons, ← hexDigits, htext]
      rfl
    · simp only [List.forall_mem_cons]
      exact ⟨by omega, by omega, hds⟩
    · simp only [List.length_cons, hlen]
      omega
    · have hpow : 16 ^ (2 * bytes.length) = 256 ^ bytes.length := Nat.pow_mul 16 2 bytes.length
      have hsplit : b.toNat = b.toNat / 16 * 16 + b.toNat % 16 := by omega
      rw [Radix.value_cons, Radix.value_cons, hvalue, bigEndian_cons, List.length_cons, hlen, Nat.pow_succ, hpow]
      conv_rhs => rw [hsplit]
      ring

/-- The trimmed digits are the number's text. -/
theorem trimmedHex_eq (bytes : List UInt8) : trimmedHex bytes = String.ofList (Nat.toDigits 16 (bigEndian bytes)) := by
  obtain ⟨ds, htext, hds, -, hvalue⟩ := hexDigits_eq bytes
  rw [trimmedHex, htext, Radix.dropWhile_digitChar (by decide) (by decide) hds, hvalue]
  by_cases hzero : bigEndian bytes = 0
  · rw [if_pos hzero, hzero, Nat.toDigits_zero]
    rfl
  · simp [hzero]

/-! ## Two's complement -/

/-- One turn of the loop: the byte inverted, and one added to it as long as the carry lasts. -/
def negateByte (byte : UInt8) (acc : List UInt8 × Bool) : List UInt8 × Bool :=
  let inverted := ~~~byte
  if acc.2 then ((inverted + 1) :: acc.1, inverted == 0xFF) else (inverted :: acc.1, false)

theorem not_toNat (b : UInt8) : (~~~b).toNat = 255 - b.toNat := by
  have h : ∀ i : Fin 256, (~~~(UInt8.ofNat i.val)).toNat = 255 - i.val := by decide +kernel
  have := h ⟨b.toNat, b.toNat_lt⟩
  simp only [UInt8.ofNat_toNat] at this
  exact this

theorem not_eq_max_iff (b : UInt8) : (~~~b == 0xFF) = decide (b.toNat = 0) := by
  have hb := b.toNat_lt
  rw [Bool.eq_iff_iff, beq_iff_eq, decide_eq_true_iff, ← UInt8.toNat_inj, not_toNat]
  change 255 - b.toNat = 255 ↔ _
  omega

/-- The loop computes `256 ^ n - x`; the carry stands for the power itself. -/
theorem foldr_negateByte (bytes : List UInt8) :
    (bytes.foldr negateByte ([], true)).1.length = bytes.length ∧
      bigEndian (bytes.foldr negateByte ([], true)).1 +
          (if (bytes.foldr negateByte ([], true)).2 then 256 ^ bytes.length else 0) + bigEndian bytes =
        256 ^ bytes.length := by
  induction bytes with
  | nil => exact ⟨rfl, rfl⟩
  | cons b bytes ih =>
    rw [List.foldr_cons]
    generalize bytes.foldr negateByte ([], true) = r at ih ⊢
    obtain ⟨acc, carry⟩ := r
    obtain ⟨hlen, hvalue⟩ := ih
    have hb := b.toNat_lt
    have hnot := not_toNat b
    rw [negateByte, bigEndian_cons, List.length_cons, Nat.pow_succ]
    generalize hp : 256 ^ bytes.length = p at hvalue ⊢
    cases carry with
    | false =>
      refine ⟨congrArg Nat.succ hlen, ?_⟩
      simp only [Bool.false_eq_true, if_false, Nat.add_zero] at hvalue ⊢
      rw [bigEndian_cons, hlen, hp, hnot]
      have hsum : (255 - b.toNat) * p + b.toNat * p = 255 * p := by
        rw [← Nat.add_mul, Nat.sub_add_cancel (by omega)]
      omega
    | true =>
      refine ⟨congrArg Nat.succ hlen, ?_⟩
      simp only [if_true, not_eq_max_iff, decide_eq_true_eq] at hvalue ⊢
      rw [bigEndian_cons, hlen, hp]
      by_cases hzero : b.toNat = 0
      · have hnext : (~~~b + 1).toNat = 0 := by
          rw [UInt8.toNat_add, hnot, hzero]
          rfl
        rw [if_pos hzero, hnext, hzero]
        omega
      · have hnext : (~~~b + 1).toNat = 256 - b.toNat := by
          rw [UInt8.toNat_add, hnot]
          change (255 - b.toNat + 1) % 256 = _
          omega
        have hsum : (256 - b.toNat) * p + b.toNat * p = 256 * p := by
          rw [← Nat.add_mul, Nat.sub_add_cancel (by omega)]
        rw [if_neg hzero, hnext]
        omega

/-- What is inverted and added to is the number below the power. -/
theorem twosComplement_value {bytes : List UInt8} (h : 0 < bigEndian bytes) :
    bigEndian (twosComplement bytes) = 256 ^ bytes.length - bigEndian bytes := by
  obtain ⟨-, hvalue⟩ := foldr_negateByte bytes
  have htwos : twosComplement bytes = (bytes.foldr negateByte ([], true)).1 := rfl
  rw [htwos]
  generalize bytes.foldr negateByte ([], true) = r at hvalue ⊢
  split_ifs at hvalue
  · omega
  · omega

/-! ## The hash -/

theorem digest_toNat (hash : { hash : List UInt8 // hash.length = 20 }) :
    bigEndian hash.val < 2 ^ 160 ∧ (BitVec.ofNat 160 (bigEndian hash.val)).toNat = bigEndian hash.val := by
  have hlt : bigEndian hash.val < 2 ^ 160 := by
    have := bigEndian_lt hash.val
    rw [hash.property] at this
    exact this
  exact ⟨hlt, by rw [BitVec.toNat_ofNat, Nat.mod_eq_of_lt hlt]⟩

/-- The first bit is the sign. -/
theorem signedDigest_eq (hash : { hash : List UInt8 // hash.length = 20 }) :
    signedDigest hash =
      if hash.val.headD 0 &&& 0x80 ≠ 0 then (bigEndian hash.val : Int) - (2 ^ 160 : Nat) else (bigEndian hash.val : Int) := by
  have hnat := (digest_toNat hash).2
  obtain ⟨bytes, hlen⟩ := hash
  cases bytes with
  | nil => cases hlen
  | cons b bytes =>
    have hrest := bigEndian_lt bytes
    have hvalue := bigEndian_cons b bytes
    rw [Nat.succ.inj hlen] at hrest hvalue
    rw [signedDigest, BitVec.toInt_eq_toNat_cond, hnat]
    simp only [List.headD_cons, ne_eq, Leb128.cont_clear_iff, not_lt]
    by_cases hb : 128 ≤ b.toNat
    · rw [if_pos hb, if_neg (by omega)]
    · rw [if_neg hb, if_pos (by omega)]

theorem digest_eq_toString16 (hash : { hash : List UInt8 // hash.length = 20 }) :
    (if hash.val.headD 0 &&& 0x80 ≠ 0 then "-" ++ trimmedHex (twosComplement hash.val) else trimmedHex hash.val) =
      toString16 (signedDigest hash) := by
  have hlt := (digest_toNat hash).1
  have hsigned := signedDigest_eq hash
  by_cases hneg : hash.val.headD 0 &&& 0x80 ≠ 0
  · rw [if_pos hneg] at hsigned
    have hpos : 0 < bigEndian hash.val := by
      have := BitVec.le_two_mul_toInt (x := BitVec.ofNat 160 (bigEndian hash.val))
      rw [← signedDigest] at this
      omega
    have habs : (signedDigest hash).natAbs = 256 ^ 20 - bigEndian hash.val := by omega
    rw [if_pos hneg, toString16, if_pos (by omega), trimmedHex_eq, twosComplement_value hpos, hash.property, habs]
  · rw [if_neg hneg] at hsigned
    rw [if_neg hneg, toString16, if_neg (by omega), trimmedHex_eq, hsigned, Int.natAbs_natCast]

theorem signedDigest_inj {hash hash' : { hash : List UInt8 // hash.length = 20 }}
    (h : signedDigest hash = signedDigest hash') : hash = hash' := by
  have hbits := congrArg BitVec.toNat (BitVec.eq_of_toInt_eq h)
  rw [(digest_toNat hash).2, (digest_toNat hash').2] at hbits
  exact Subtype.ext (bigEndian_inj (hash.property.trans hash'.property.symm) hbits)

/-- No digit is a minus sign. -/
theorem toDigits_ne_minus (n : Nat) (text : List Char) : Nat.toDigits 16 n ≠ '-' :: text := by
  obtain ⟨ds, hds, hlt, -⟩ := @Radix.toDigits_eq_map 16 (by decide) n
  have hdigit : ∀ i : Fin 16, Nat.digitChar i.val ≠ '-' := by decide
  rw [hds]
  intro e
  have hmem : '-' ∈ ds.map Nat.digitChar := by simp [e]
  obtain ⟨d, hd, hchar⟩ := List.mem_map.mp hmem
  exact hdigit ⟨d, hlt d hd⟩ hchar

/-- Different integers have different texts. -/
theorem toString16_inj {m n : Int} (h : toString16 m = toString16 n) : m = n := by
  have hminus (k : Nat) : "-" ++ String.ofList (Nat.toDigits 16 k) = String.ofList ('-' :: Nat.toDigits 16 k) := by
    rw [String.ofList_cons]
    rfl
  have hdigits {k l : Nat} (e : Nat.toDigits 16 k = Nat.toDigits 16 l) : k = l :=
    Radix.toDigits_inj (by decide) (by decide) e
  rw [toString16, toString16] at h
  split_ifs at h with hm hn hn
  · rw [hminus, hminus] at h
    have := hdigits (List.cons.inj (String.ofList_injective h)).2
    omega
  · rw [hminus] at h
    exact absurd (String.ofList_injective h).symm (toDigits_ne_minus _ _)
  · rw [hminus] at h
    exact absurd (String.ofList_injective h) (toDigits_ne_minus _ _)
  · have := hdigits (String.ofList_injective h)
    omega

/-- Whatever SHA-1 gives, the server hash is the signed hexadecimal of it, and
different digests have different hashes. -/
theorem server_hash_signed_hex (sha1 : List UInt8 → { hash : List UInt8 // hash.length = 20 }) :
    (∀ serverId sharedSecret publicKeyDer, mojangSha1Digest sha1 serverId sharedSecret publicKeyDer =
      toString16 (signedDigest (sha1 (asBytes serverId ++ sharedSecret ++ publicKeyDer)))) ∧
    ∀ serverId sharedSecret publicKeyDer serverId' sharedSecret' publicKeyDer',
      mojangSha1Digest sha1 serverId sharedSecret publicKeyDer =
          mojangSha1Digest sha1 serverId' sharedSecret' publicKeyDer' ↔
        sha1 (asBytes serverId ++ sharedSecret ++ publicKeyDer) =
          sha1 (asBytes serverId' ++ sharedSecret' ++ publicKeyDer') := by
  have htext (serverId : String) (sharedSecret publicKeyDer : List UInt8) :
      mojangSha1Digest sha1 serverId sharedSecret publicKeyDer =
        toString16 (signedDigest (sha1 (asBytes serverId ++ sharedSecret ++ publicKeyDer))) :=
    digest_eq_toString16 _
  refine ⟨htext, ?_⟩
  intro serverId sharedSecret publicKeyDer serverId' sharedSecret' publicKeyDer'
  rw [htext, htext]
  constructor
  · intro h
    exact signedDigest_inj (toString16_inj h)
  · intro h
    rw [h]

end FrameMC

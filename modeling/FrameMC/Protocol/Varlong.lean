import FrameMC.Protocol.Varint

/-!
# VarLongs

The 64-bit functions of `src/protocol/varint.rs`, and what the two codecs have
in common: `ExactCodec` says that decoding undoes encoding, in memory and on a
stream and whatever follows, and that no other encoding is as short.
-/

namespace FrameMC

open ByteStream

/-! ## Decoding -/

/-- `io::Error::new(UnexpectedEof, …)` of `decode_varlong`. -/
def varlongEof : ProxyError :=
  .io .unexpectedEof "unexpected end of buffer while decoding VarLong"

/-- The loop of `decode_varlong`. -/
def decodeVarlongLoop (value position : UInt64) (bytesRead : Nat) : Decoder ProxyError Int64
  | [] => .err varlongEof
  | currentByte :: buf =>
    let bytesRead := bytesRead + 1
    if bytesRead = 10 ∧ (currentByte &&& 0xFE) ≠ 0 then .err .varIntOverflow
    else
      let value := value ||| ((currentByte &&& 0x7F).toUInt64 <<< position)
      if (currentByte &&& 0x80) = 0 then .ok (value.toInt64, buf)
      else if bytesRead ≥ 10 then .err .varIntOverflow
      else decodeVarlongLoop value (position + 7) bytesRead buf

def decodeVarlong : Decoder ProxyError Int64 := decodeVarlongLoop 0 0 0

/-- The same loop, with the buffer as it leaves it where it fails as well. -/
def decodeVarlongLeavingLoop (value position : UInt64) (bytesRead : Nat) :
    List UInt8 → Outcome ProxyError Int64 × List UInt8
  | [] => (.err varlongEof, [])
  | currentByte :: buf =>
    let bytesRead := bytesRead + 1
    if bytesRead = 10 ∧ (currentByte &&& 0xFE) ≠ 0 then (.err .varIntOverflow, buf)
    else
      let value := value ||| ((currentByte &&& 0x7F).toUInt64 <<< position)
      if (currentByte &&& 0x80) = 0 then (.ok value.toInt64, buf)
      else if bytesRead ≥ 10 then (.err .varIntOverflow, buf)
      else decodeVarlongLeavingLoop value (position + 7) bytesRead buf

/-- `decode_varlong`, and what is left in the buffer. -/
def decodeVarlongLeaving : List UInt8 → Outcome ProxyError Int64 × List UInt8 := decodeVarlongLeavingLoop 0 0 0

theorem decodeVarlongLoop_eq_leaving (value position : UInt64) (bytesRead : Nat) (bs : List UInt8) :
    decodeVarlongLoop value position bytesRead bs =
      .withRest (decodeVarlongLeavingLoop value position bytesRead bs) := by
  induction bs generalizing value position bytesRead with
  | nil => rfl
  | cons b bs ih =>
    rw [decodeVarlongLoop, decodeVarlongLeavingLoop]
    simp only [ih]
    split_ifs <;> rfl

theorem decodeVarlong_eq_leaving (bs : List UInt8) : decodeVarlong bs = .withRest (decodeVarlongLeaving bs) :=
  decodeVarlongLoop_eq_leaving 0 0 0 bs

/-- The loop of `read_varlong`, by how many bytes may still be read. -/
def readVarlongLoop (value position : UInt64) : Nat → Reader ProxyError Int64
  | 0 => .fail .varIntOverflow
  | left + 1 => .read streamEof fun currentByte =>
    if left = 0 ∧ (currentByte &&& 0xFE) ≠ 0 then .fail .varIntOverflow
    else
      let value := value ||| ((currentByte &&& 0x7F).toUInt64 <<< position)
      if (currentByte &&& 0x80) = 0 then pure value.toInt64
      else readVarlongLoop value (position + 7) left

def readVarlong : Reader ProxyError Int64 := readVarlongLoop 0 0 10

/-- The loop of `encode_varlong`: a `u64` has at most ten groups. -/
def encodeVarlongLoop : Nat → UInt64 → List UInt8
  | 0, _ => []
  | fuel + 1, temp =>
    if (temp &&& ~~~0x7F) = 0 then [temp.toUInt8]
    else ((temp &&& 0x7F) ||| 0x80).toUInt8 :: encodeVarlongLoop fuel (temp >>> 7)

def encodeVarlong (value : Int64) : List UInt8 := encodeVarlongLoop 10 value.toUInt64

/-- `u` is an encoding of `x` the readers accept. -/
def IsVarlong (u : List UInt8) (x : Int64) : Prop :=
  u.length ≤ 10 ∧ Leb128.Groups u x.toUInt64.toNat

/-! ## The loops -/

/-- One step of an accumulator. -/
theorem accumulateLong (acc : Nat) {k : Nat} (b : UInt8) (hk : k < 10) (hacc : acc < 2 ^ (7 * k)) :
    UInt64.ofNat acc ||| ((b &&& 0x7F).toUInt64 <<< (UInt64.ofNat (7 * k))) =
      UInt64.ofNat (acc + 2 ^ (7 * k) * (b.toNat % 128)) := by
  have hs : (UInt64.ofNat (7 * k)).toNat % 64 = 7 * k := by
    rw [UInt64.toNat_ofNat']
    omega
  have hp : (b &&& 0x7F).toUInt64.toNat = b.toNat % 128 := by
    rw [UInt8.toNat_toUInt64, Leb128.payload_toNat]
  have hsmall : acc % 2 ^ 64 = acc :=
    Nat.mod_eq_of_lt (lt_of_lt_of_le hacc (Nat.pow_le_pow_right (by decide) (by omega)))
  apply UInt64.toNat_inj.mp
  rw [UInt64.toNat_or, UInt64.toNat_shiftLeft, hs, hp, UInt64.toNat_ofNat', hsmall,
    Leb128.or_shiftLeft_mod (by omega) hacc, UInt64.toNat_ofNat']

theorem positionLong_succ (k : Nat) : UInt64.ofNat (7 * k) + 7 = UInt64.ofNat (7 * (k + 1)) := by
  rw [show 7 * (k + 1) = 7 * k + 7 by ring, UInt64.ofNat_add]
  rfl

/-- The decoder's loop after `k` continuation bytes, one byte at a time. -/
theorem decodeVarlongLeavingLoop_cons (k acc : Nat) (b : UInt8) (buf : List UInt8) (hk : k < 10)
    (hacc : acc < 2 ^ (7 * k)) :
    decodeVarlongLeavingLoop (UInt64.ofNat acc) (UInt64.ofNat (7 * k)) k (b :: buf) =
      if k + 1 = 10 ∧ 2 ≤ b.toNat then (.err .varIntOverflow, buf)
      else if b.toNat < 128 then (.ok (UInt64.ofNat (acc + 2 ^ (7 * k) * b.toNat)).toInt64, buf)
      else decodeVarlongLeavingLoop (UInt64.ofNat (acc + 2 ^ (7 * k) * (b.toNat % 128))) (UInt64.ofNat (7 * (k + 1)))
        (k + 1) buf := by
  rw [decodeVarlongLeavingLoop]
  simp only [ne_eq, Leb128.upper_clear_iff, Leb128.cont_clear_iff, positionLong_succ, not_lt,
    accumulateLong acc b hk hacc]
  by_cases hover : k + 1 = 10 ∧ 2 ≤ b.toNat
  · rw [if_pos hover, if_pos hover]
  · rw [if_neg hover, if_neg hover]
    by_cases hb : b.toNat < 128
    · rw [if_pos hb, if_pos hb, Nat.mod_eq_of_lt hb]
    · rw [if_neg hb, if_neg hb, if_neg (by omega)]

theorem decodeVarlongLeaving_eq_scan (bs : List UInt8) :
    decodeVarlongLeaving bs = match Leb128.scan 2 10 bs with
      | .value n rest => (.ok (UInt64.ofNat n).toInt64, rest)
      | .ended => (.err varlongEof, [])
      | .overflow rest => (.err .varIntOverflow, rest) := by
  have h : Leb128.AddsUp 10 2 (fun k acc => decodeVarlongLeavingLoop (UInt64.ofNat acc) (UInt64.ofNat (7 * k)) k)
      (fun n rest => (.ok (UInt64.ofNat n).toInt64, rest)) (.err varlongEof, [])
      fun rest => (.err .varIntOverflow, rest) := ⟨fun _ _ _ => rfl, decodeVarlongLeavingLoop_cons⟩
  exact h.scan (by decide) (by decide) bs

theorem decodeVarlong_eq_scan (bs : List UInt8) :
    decodeVarlong bs = match Leb128.scan 2 10 bs with
      | .value n rest => .ok ((UInt64.ofNat n).toInt64, rest)
      | .ended => .err varlongEof
      | .overflow _ => .err .varIntOverflow := by
  rw [decodeVarlong_eq_leaving, decodeVarlongLeaving_eq_scan]
  cases Leb128.scan 2 10 bs <;> rfl

/-- The streaming loop after `k` continuation bytes, one byte at a time. -/
theorem run_readVarlongLoop_cons (k acc : Nat) (b : UInt8) (bs : List UInt8) (hk : k < 10)
    (hacc : acc < 2 ^ (7 * k)) :
    (readVarlongLoop (UInt64.ofNat acc) (UInt64.ofNat (7 * k)) (10 - k)).run (b :: bs) =
      if k + 1 = 10 ∧ 2 ≤ b.toNat then (.err .varIntOverflow, bs)
      else if b.toNat < 128 then (.ok (UInt64.ofNat (acc + 2 ^ (7 * k) * b.toNat)).toInt64, bs)
      else (readVarlongLoop (UInt64.ofNat (acc + 2 ^ (7 * k) * (b.toNat % 128))) (UInt64.ofNat (7 * (k + 1)))
        (10 - (k + 1))).run bs := by
  obtain ⟨left, hl⟩ : ∃ left, 10 - k = left + 1 := ⟨9 - k, by omega⟩
  have hleft : left = 0 ↔ k + 1 = 10 := by omega
  have hnext : 10 - (k + 1) = left := by omega
  rw [hl, readVarlongLoop, Reader.run_read_cons, hnext]
  simp only [ne_eq, Leb128.upper_clear_iff, Leb128.cont_clear_iff, not_lt, hleft, positionLong_succ,
    accumulateLong acc b hk hacc]
  by_cases hover : k + 1 = 10 ∧ 2 ≤ b.toNat
  · rw [if_pos hover, if_pos hover]
    rfl
  · rw [if_neg hover, if_neg hover]
    by_cases hb : b.toNat < 128
    · rw [if_pos hb, if_pos hb, Nat.mod_eq_of_lt hb]
      rfl
    · rw [if_neg hb, if_neg hb]

theorem run_readVarlong_eq_scan (bs : List UInt8) :
    readVarlong.run bs = match Leb128.scan 2 10 bs with
      | .value n rest => (.ok (UInt64.ofNat n).toInt64, rest)
      | .ended => (.err streamEof, [])
      | .overflow rest => (.err .varIntOverflow, rest) := by
  have hends (k acc : Nat) (hk : k < 10) :
      (readVarlongLoop (UInt64.ofNat acc) (UInt64.ofNat (7 * k)) (10 - k)).run [] = (.err streamEof, []) := by
    obtain ⟨left, hl⟩ : ∃ left, 10 - k = left + 1 := ⟨9 - k, by omega⟩
    rw [hl]
    rfl
  have h : Leb128.AddsUp 10 2
      (fun k acc => (readVarlongLoop (UInt64.ofNat acc) (UInt64.ofNat (7 * k)) (10 - k)).run)
      (fun n rest => (.ok (UInt64.ofNat n).toInt64, rest)) (.err streamEof, [])
      fun rest => (.err .varIntOverflow, rest) := ⟨hends, run_readVarlongLoop_cons⟩
  exact h.scan (by decide) (by decide) bs

/-- A VarLong is a number of at most ten bytes below `2 ^ 64`. -/
theorem scan_varlong_iff {bs rest : List UInt8} {n : Nat} :
    Leb128.scan 2 10 bs = .value n rest ↔
      n < 2 ^ 64 ∧ ∃ u, bs = u ++ rest ∧ IsVarlong u (UInt64.ofNat n).toInt64 := by
  rw [Leb128.scan_value_iff (by decide) (by decide)]
  constructor
  · rintro ⟨u, rfl, hl, hg, hn⟩
    have hlt : n < 2 ^ 64 := by omega
    refine ⟨hlt, u, rfl, hl, ?_⟩
    rwa [UInt64.toUInt64_toInt64, UInt64.toNat_ofNat_of_lt' hlt]
  · rintro ⟨hn, u, rfl, hl, hg⟩
    rw [UInt64.toUInt64_toInt64, UInt64.toNat_ofNat_of_lt' hn] at hg
    exact ⟨u, rfl, hl, hg, by omega⟩

theorem scan_varlong_unsigned {bs rest : List UInt8} {x : Int64} :
    Leb128.scan 2 10 bs = .value x.toUInt64.toNat rest ↔ ∃ u, bs = u ++ rest ∧ IsVarlong u x := by
  have hx : (UInt64.ofNat x.toUInt64.toNat).toInt64 = x := by
    rw [UInt64.ofNat_toNat]
    rfl
  rw [scan_varlong_iff, hx]
  exact and_iff_right x.toUInt64.toNat_lt

/-- `decode_varlong` accepts a buffer exactly when it starts with a VarLong. -/
theorem decodeVarlong_ok_iff {bs rest : List UInt8} {x : Int64} :
    decodeVarlong bs = .ok (x, rest) ↔ ∃ u, bs = u ++ rest ∧ IsVarlong u x := by
  rw [← scan_varlong_unsigned, decodeVarlong_eq_scan]
  cases hscan : Leb128.scan 2 10 bs with
  | value n rest' =>
    have hn := (scan_varlong_iff.mp hscan).1
    simp only [Outcome.ok.injEq, Prod.mk.injEq, Leb128.Scan.value.injEq]
    refine and_congr_left fun _ => ⟨?_, ?_⟩
    · rintro rfl
      rw [UInt64.toUInt64_toInt64, UInt64.toNat_ofNat_of_lt' hn]
    · rintro rfl
      rw [UInt64.ofNat_toNat]
      rfl
  | ended => exact iff_of_false nofun nofun
  | overflow rest' => exact iff_of_false nofun nofun

theorem run_readVarlong_ok_iff {bs rest : List UInt8} {x : Int64} :
    readVarlong.run bs = (.ok x, rest) ↔ ∃ u, bs = u ++ rest ∧ IsVarlong u x := by
  rw [← decodeVarlong_ok_iff, run_readVarlong_eq_scan, decodeVarlong_eq_scan]
  cases Leb128.scan 2 10 bs with
  | value n rest' => simp
  | ended => exact iff_of_false nofun nofun
  | overflow rest' => exact iff_of_false nofun nofun

/-! ## The encoder -/

/-- The encoder's loop, seven bits at a time. -/
theorem encodeVarlongLoop_succ (fuel : Nat) (temp : UInt64) :
    encodeVarlongLoop (fuel + 1) temp =
      if temp.toNat < 128 then [UInt8.ofNat temp.toNat]
      else UInt8.ofNat (temp.toNat % 128 + 128) :: encodeVarlongLoop fuel (temp >>> 7) := by
  have hclear : (temp &&& ~~~0x7F) = 0 ↔ temp.toNat < 128 := by
    rw [← UInt64.toBitVec_inj]
    exact Leb128.rest_clear_iff (by decide) temp.toBitVec
  have hlow : (temp &&& 0x7F).toNat = temp.toNat % 128 := Leb128.low7_toNat (by decide) temp.toBitVec
  have hor : ((temp &&& 0x7F) ||| 0x80).toNat = temp.toNat % 128 + 128 := by
    rw [UInt64.toNat_or, hlow]
    exact Leb128.or_shiftLeft (s := 7) (x := 1) (Nat.mod_lt _ (by decide))
  have hbyte : ((temp &&& 0x7F) ||| 0x80).toUInt8 = UInt8.ofNat (temp.toNat % 128 + 128) := by
    apply UInt8.toNat_inj.mp
    rw [UInt64.toNat_toUInt8, hor, UInt8.toNat_ofNat']
  rw [encodeVarlongLoop, hbyte]
  simp only [hclear]
  rfl

theorem shiftRightLong7_toNat (temp : UInt64) : (temp >>> 7).toNat = temp.toNat / 128 := by
  rw [UInt64.toNat_shiftRight]
  exact Nat.shiftRight_eq_div_pow _ _

theorem encodeVarlong_eq (x : Int64) : encodeVarlong x = Leb128.encode x.toUInt64.toNat := by
  have hlt := x.toUInt64.toNat_lt
  exact Leb128.encode_of_loop shiftRightLong7_toNat encodeVarlongLoop_succ 9 x.toUInt64 (by omega)

/-! ## Both codecs -/

/-- A codec of integers, in memory and on a stream: what is encoded is read
back and what follows it left alone, in no more than `max` bytes and in fewer
than any other bytes that are read as the same integer. -/
structure ExactCodec {α : Type} (max : Nat) (encode : α → List UInt8) (decode : Decoder ProxyError α)
    (read : Reader ProxyError α) : Prop where
  decodes : ∀ x rest, decode (encode x ++ rest) = .ok (x, rest)
  reads : ∀ x rest, read.run (encode x ++ rest) = (.ok x, rest)
  bounded : ∀ x, (encode x).length ≤ max
  shortest : ∀ x u rest, decode (u ++ rest) = .ok (x, rest) → u ≠ encode x → (encode x).length < u.length
  shortestRead : ∀ x u rest, read.run (u ++ rest) = (.ok x, rest) → u ≠ encode x → (encode x).length < u.length
  separates : ∀ xs ys : List α, xs.length = ys.length → xs ≠ ys → xs.flatMap encode ≠ ys.flatMap encode

/-- A codec of base-128 groups. -/
theorem exactCodec_of_groups {α : Type} {max : Nat} {encode : α → List UInt8} {decode : Decoder ProxyError α}
    {read : Reader ProxyError α} {toNat : α → Nat} (hmax : 0 < max) (hbound : ∀ x, toNat x < 128 ^ max)
    (hencode : ∀ x, encode x = Leb128.encode (toNat x))
    (hdecode : ∀ bs rest x, decode bs = .ok (x, rest) ↔
      ∃ u, bs = u ++ rest ∧ u.length ≤ max ∧ Leb128.Groups u (toNat x))
    (hread : ∀ bs rest x, read.run bs = (.ok x, rest) ↔
      ∃ u, bs = u ++ rest ∧ u.length ≤ max ∧ Leb128.Groups u (toNat x)) :
    ExactCodec max encode decode read := by
  have hbounded (x : α) : (encode x).length ≤ max := by
    rw [hencode]
    exact Leb128.encode_length_le hmax (hbound x)
  have hgroups (x : α) : Leb128.Groups (encode x) (toNat x) := by
    rw [hencode]
    exact Leb128.encode_groups _
  have hstarts (x : α) (rest : List UInt8) :
      ∃ u, encode x ++ rest = u ++ rest ∧ u.length ≤ max ∧ Leb128.Groups u (toNat x) :=
    ⟨encode x, rfl, hbounded x, hgroups x⟩
  have hdecodes : Decoder.Undoes decode encode := fun x rest => (hdecode _ _ _).mpr (hstarts x rest)
  have hshortest (x : α) (u rest : List UInt8)
      (h : ∃ v, u ++ rest = v ++ rest ∧ v.length ≤ max ∧ Leb128.Groups v (toNat x)) (hne : u ≠ encode x) :
      (encode x).length < u.length := by
    obtain ⟨v, e, -, hv⟩ := h
    obtain rfl : u = v := List.append_cancel_right e
    rw [hencode] at hne ⊢
    exact lt_of_le_of_ne hv.encode_length_le fun hlen => hne (hv.eq_encode hlen.symm)
  exact {
    decodes := hdecodes
    reads := fun x rest => (hread _ _ _).mpr (hstarts x rest)
    bounded := hbounded
    shortest := fun x u rest h => hshortest x u rest ((hdecode _ _ _).mp h)
    shortestRead := fun x u rest h => hshortest x u rest ((hread _ _ _).mp h)
    separates := fun xs ys hlen hne e => hne (hdecodes.flatMap_inj hlen e) }

/-- The two codecs of the module are exact, and the size table is the encoder's. -/
theorem varint_codecs_exact :
    (ExactCodec 5 encodeVarint decodeVarint readVarint ∧ ∀ x, (encodeVarint x).length = varintSize x) ∧
      ExactCodec 10 encodeVarlong decodeVarlong readVarlong := by
  refine ⟨⟨?_, fun x => (varintSize_eq x).symm⟩, ?_⟩
  · have hbound (x : Int32) : x.toUInt32.toNat < 128 ^ 5 := by
      have := x.toUInt32.toNat_lt
      omega
    exact exactCodec_of_groups (by decide) hbound encodeVarint_eq (fun _ _ _ => decodeVarint_ok_iff)
      fun _ _ _ => run_readVarint_ok_iff
  · have hbound (x : Int64) : x.toUInt64.toNat < 128 ^ 10 := by
      have := x.toUInt64.toNat_lt
      omega
    exact exactCodec_of_groups (by decide) hbound encodeVarlong_eq (fun _ _ _ => decodeVarlong_ok_iff)
      fun _ _ _ => run_readVarlong_ok_iff

end FrameMC

import FrameMC.Error
import FrameMC.Lib.AsyncRead
import FrameMC.Lib.Leb128
import Mathlib.Tactic.Linarith

/-!
# VarInts

`src/protocol/varint.rs` for 32-bit values: the in-memory decoder, the
streaming reader, the encoder and the size table. A VarInt is base-128 groups
(`Leb128.Groups`) of the value's unsigned reading, at most five bytes:
`IsVarint`. Both readers accept exactly those (`decodeVarint_ok_iff`,
`run_readVarint_ok_iff`), and the encoder writes the shortest.
-/

namespace FrameMC

open ByteStream

/-! ## Casts -/

/-- `x as usize` on a 64-bit target: negative numbers become huge. -/
def asUsize (x : Int32) : Nat := x.toInt64.toUInt64.toNat

/-- `n as i32`: the low 32 bits, read as signed. -/
def asI32 (n : Nat) : Int32 := Int32.ofNat n

theorem toInt_eq {x : Int32} (h : 0 ≤ x) : x.toInt = x.toUInt32.toNat := by
  have h' : 0 ≤ x.toInt := by simpa [Int32.le_iff_toInt_le] using h
  have := BitVec.toInt_eq_toNat_cond x.toBitVec
  have hx : x.toBitVec.toInt = x.toInt := rfl
  have hn : x.toBitVec.toNat = x.toUInt32.toNat := rfl
  rw [hx, hn] at this
  split at this <;> omega

theorem asUsize_eq {x : Int32} (h : 0 ≤ x) : asUsize x = x.toUInt32.toNat := by
  have e := toInt_eq h
  have e64 : x.toInt64.toInt = x.toInt := Int32.toInt_toInt64 x
  have := BitVec.toInt_eq_toNat_cond x.toInt64.toBitVec
  have hx : x.toInt64.toBitVec.toInt = x.toInt64.toInt := rfl
  have hn : x.toInt64.toBitVec.toNat = x.toInt64.toUInt64.toNat := rfl
  rw [hx, hn, e64] at this
  unfold asUsize
  split at this <;> omega

/-- Cast to `usize`, numbers that are not negative compare as they did. -/
theorem asUsize_le {x y : Int32} (h : 0 ≤ x) (hxy : x ≤ y) : asUsize x ≤ asUsize y := by
  rw [asUsize_eq h, asUsize_eq (Int32.le_trans h hxy)]
  have hx := toInt_eq h
  have hy := toInt_eq (Int32.le_trans h hxy)
  rw [Int32.le_iff_toInt_le] at hxy
  omega

@[simp] theorem asUsize_zero : asUsize 0 = 0 := rfl

theorem asI32_toUInt32 (n : Nat) : (asI32 n).toUInt32.toNat = n % 2 ^ 32 := rfl

theorem asI32_toNat {n : Nat} (h : n < 2 ^ 32) : (asI32 n).toUInt32.toNat = n := by
  rw [asI32_toUInt32, Nat.mod_eq_of_lt h]

/-- A 32-bit value is negative when its top bit is set. -/
theorem nonneg_iff (x : Int32) : 0 ≤ x ↔ x.toUInt32.toNat < 2 ^ 31 := by
  have := BitVec.toInt_eq_toNat_cond x.toBitVec
  have hx : x.toBitVec.toInt = x.toInt := rfl
  have hn : x.toBitVec.toNat = x.toUInt32.toNat := rfl
  have hlt := x.toUInt32.toNat_lt
  rw [hx, hn] at this
  rw [Int32.le_iff_toInt_le, Int32.toInt_zero]
  split at this <;> omega

theorem asI32_nonneg {n : Nat} (h : n < 2 ^ 31) : 0 ≤ asI32 n := by
  rw [nonneg_iff, asI32_toNat (by omega)]
  exact h

theorem toInt_asI32 {n : Nat} (h : n < 2 ^ 31) : (asI32 n).toInt = n := by
  rw [toInt_eq (asI32_nonneg h), asI32_toNat (by omega)]

theorem asUsize_asI32 {n : Nat} (h : n < 2 ^ 31) : asUsize (asI32 n) = n := by
  rw [asUsize_eq (asI32_nonneg h), asI32_toNat (by omega)]

theorem int32_ext {x y : Int32} (h : x.toUInt32.toNat = y.toUInt32.toNat) : x = y := by
  cases x; cases y
  congr 1
  exact UInt32.toNat_inj.mp h

theorem asI32_asUsize {x : Int32} (h : 0 ≤ x) : asI32 (asUsize x) = x := by
  apply int32_ext
  rw [asUsize_eq h, asI32_toNat (by have := x.toUInt32.toNat_lt; omega)]

theorem asUsize_lt {x : Int32} (h : 0 ≤ x) : asUsize x < 2 ^ 31 := by
  rw [asUsize_eq h]
  exact (nonneg_iff x).mp h

/-! ## Decoding -/

/-- `io::Error::new(UnexpectedEof, …)` of `decode_varint`. -/
def varintEof : ProxyError :=
  .io .unexpectedEof "unexpected end of buffer while decoding VarInt"

/-- What `read_u8` reports when the stream ends. -/
def streamEof : ProxyError := .io .unexpectedEof "unexpected end of file"

/-- What `read_exact` reports when the stream ends. -/
def earlyEof : ProxyError := .io .unexpectedEof "early eof"

/-- The loop of `decode_varint`. -/
def decodeVarintLoop (value position : UInt32) (bytesRead : Nat) : Decoder ProxyError Int32
  | [] => .err varintEof
  | currentByte :: buf =>
    let bytesRead := bytesRead + 1
    if bytesRead = 5 ∧ (currentByte &&& 0xF0) ≠ 0 then .err .varIntOverflow
    else
      let value := value ||| ((currentByte &&& 0x7F).toUInt32 <<< position)
      if (currentByte &&& 0x80) = 0 then .ok (value.toInt32, buf)
      else if bytesRead ≥ 5 then .err .varIntOverflow
      else decodeVarintLoop value (position + 7) bytesRead buf

def decodeVarint : Decoder ProxyError Int32 := decodeVarintLoop 0 0 0

/-- The same loop, with the buffer as it leaves it where it fails as well. -/
def decodeVarintLeavingLoop (value position : UInt32) (bytesRead : Nat) :
    List UInt8 → Outcome ProxyError Int32 × List UInt8
  | [] => (.err varintEof, [])
  | currentByte :: buf =>
    let bytesRead := bytesRead + 1
    if bytesRead = 5 ∧ (currentByte &&& 0xF0) ≠ 0 then (.err .varIntOverflow, buf)
    else
      let value := value ||| ((currentByte &&& 0x7F).toUInt32 <<< position)
      if (currentByte &&& 0x80) = 0 then (.ok value.toInt32, buf)
      else if bytesRead ≥ 5 then (.err .varIntOverflow, buf)
      else decodeVarintLeavingLoop value (position + 7) bytesRead buf

/-- `decode_varint`, and what is left in the buffer. -/
def decodeVarintLeaving : List UInt8 → Outcome ProxyError Int32 × List UInt8 := decodeVarintLeavingLoop 0 0 0

theorem decodeVarintLoop_eq_leaving (value position : UInt32) (bytesRead : Nat) (bs : List UInt8) :
    decodeVarintLoop value position bytesRead bs =
      .withRest (decodeVarintLeavingLoop value position bytesRead bs) := by
  induction bs generalizing value position bytesRead with
  | nil => rfl
  | cons b bs ih =>
    rw [decodeVarintLoop, decodeVarintLeavingLoop]
    simp only [ih]
    split_ifs <;> rfl

theorem decodeVarint_eq_leaving (bs : List UInt8) : decodeVarint bs = .withRest (decodeVarintLeaving bs) :=
  decodeVarintLoop_eq_leaving 0 0 0 bs

/-- The loop of `read_varint`. The first argument is how many bytes may still
be read, `5 - bytes_read`: when the fifth byte still continues, the source's
`bytes_read >= 5` test fires. -/
def readVarintLoop (value position : UInt32) : Nat → Reader ProxyError Int32
  | 0 => .fail .varIntOverflow
  | left + 1 => .read streamEof fun currentByte =>
    if left = 0 ∧ (currentByte &&& 0xF0) ≠ 0 then .fail .varIntOverflow
    else
      let value := value ||| ((currentByte &&& 0x7F).toUInt32 <<< position)
      if (currentByte &&& 0x80) = 0 then pure value.toInt32
      else readVarintLoop value (position + 7) left

def readVarint : Reader ProxyError Int32 := readVarintLoop 0 0 5

/-- The loop of `encode_varint`. A `u32` has at most five groups, so five
passes suffice (`encodeVarint_eq`). -/
def encodeVarintLoop : Nat → UInt32 → List UInt8
  | 0, _ => []
  | fuel + 1, temp =>
    if (temp &&& ~~~0x7F) = 0 then [temp.toUInt8]
    else ((temp &&& 0x7F) ||| 0x80).toUInt8 :: encodeVarintLoop fuel (temp >>> 7)

def encodeVarint (value : Int32) : List UInt8 := encodeVarintLoop 5 value.toUInt32

def varintSize (value : Int32) : Nat :=
  let v := value.toUInt32.toNat
  if v ≤ 0x7F then 1
  else if v ≤ 0x3FFF then 2
  else if v ≤ 0x1FFFFF then 3
  else if v ≤ 0x0FFFFFFF then 4
  else 5

example : encodeVarint (-2147483648) = [0x80, 0x80, 0x80, 0x80, 0x08] := by decide
example : decodeVarint [0xFF, 0xFF, 0xFF, 0xFF, 0x0F, 0x2A] = .ok (-1, [0x2A]) := by decide

/-! ## What a VarInt is -/

/-- `u` is an encoding of `x` the readers accept: base-128 groups of its
unsigned reading, at most five. -/
def IsVarint (u : List UInt8) (x : Int32) : Prop :=
  u.length ≤ 5 ∧ Leb128.Groups u x.toUInt32.toNat

theorem IsVarint.length_pos {u : List UInt8} {x : Int32} (h : IsVarint u x) : 0 < u.length :=
  h.2.length_pos

theorem IsVarint.append_inj {u v r s : List UInt8} {x y : Int32} (hu : IsVarint u x) (hv : IsVarint v y)
    (e : u ++ r = v ++ s) : u = v ∧ x = y ∧ r = s := by
  obtain ⟨hl, hn, hr⟩ := hu.2.append_inj hv.2 e
  exact ⟨hl, int32_ext hn, hr⟩

/-! ## The loops -/

/-- One step of an accumulator. -/
theorem accumulate (acc : Nat) {k : Nat} (b : UInt8) (hk : k < 5) (hacc : acc < 2 ^ (7 * k)) :
    UInt32.ofNat acc ||| ((b &&& 0x7F).toUInt32 <<< (UInt32.ofNat (7 * k))) =
      UInt32.ofNat (acc + 2 ^ (7 * k) * (b.toNat % 128)) := by
  have hs : (UInt32.ofNat (7 * k)).toNat % 32 = 7 * k := by
    rw [UInt32.toNat_ofNat']
    omega
  have hp : (b &&& 0x7F).toUInt32.toNat = b.toNat % 128 := by
    rw [UInt8.toNat_toUInt32, Leb128.payload_toNat]
  have hsmall : acc % 2 ^ 32 = acc :=
    Nat.mod_eq_of_lt (lt_of_lt_of_le hacc (Nat.pow_le_pow_right (by decide) (by omega)))
  apply UInt32.toNat_inj.mp
  rw [UInt32.toNat_or, UInt32.toNat_shiftLeft, hs, hp, UInt32.toNat_ofNat', hsmall,
    Leb128.or_shiftLeft_mod (by omega) hacc, UInt32.toNat_ofNat']

theorem position_succ (k : Nat) : UInt32.ofNat (7 * k) + 7 = UInt32.ofNat (7 * (k + 1)) := by
  rw [show 7 * (k + 1) = 7 * k + 7 by ring, UInt32.ofNat_add]
  rfl

/-- The decoder's loop after `k` continuation bytes, one byte at a time. -/
theorem decodeVarintLeavingLoop_cons (k acc : Nat) (b : UInt8) (buf : List UInt8) (hk : k < 5)
    (hacc : acc < 2 ^ (7 * k)) :
    decodeVarintLeavingLoop (UInt32.ofNat acc) (UInt32.ofNat (7 * k)) k (b :: buf) =
      if k + 1 = 5 ∧ 16 ≤ b.toNat then (.err .varIntOverflow, buf)
      else if b.toNat < 128 then (.ok (UInt32.ofNat (acc + 2 ^ (7 * k) * b.toNat)).toInt32, buf)
      else decodeVarintLeavingLoop (UInt32.ofNat (acc + 2 ^ (7 * k) * (b.toNat % 128))) (UInt32.ofNat (7 * (k + 1)))
        (k + 1) buf := by
  rw [decodeVarintLeavingLoop]
  simp only [ne_eq, Leb128.high_clear_iff, Leb128.cont_clear_iff, position_succ, not_lt, accumulate acc b hk hacc]
  by_cases hover : k + 1 = 5 ∧ 16 ≤ b.toNat
  · rw [if_pos hover, if_pos hover]
  · rw [if_neg hover, if_neg hover]
    by_cases hb : b.toNat < 128
    · rw [if_pos hb, if_pos hb, Nat.mod_eq_of_lt hb]
    · rw [if_neg hb, if_neg hb, if_neg (by omega)]

theorem decodeVarintLeaving_eq_scan (bs : List UInt8) :
    decodeVarintLeaving bs = match Leb128.scan 16 5 bs with
      | .value n rest => (.ok (UInt32.ofNat n).toInt32, rest)
      | .ended => (.err varintEof, [])
      | .overflow rest => (.err .varIntOverflow, rest) := by
  have h : Leb128.AddsUp 5 16 (fun k acc => decodeVarintLeavingLoop (UInt32.ofNat acc) (UInt32.ofNat (7 * k)) k)
      (fun n rest => (.ok (UInt32.ofNat n).toInt32, rest)) (.err varintEof, [])
      fun rest => (.err .varIntOverflow, rest) := ⟨fun _ _ _ => rfl, decodeVarintLeavingLoop_cons⟩
  exact h.scan (by decide) (by decide) bs

theorem decodeVarint_eq_scan (bs : List UInt8) :
    decodeVarint bs = match Leb128.scan 16 5 bs with
      | .value n rest => .ok ((UInt32.ofNat n).toInt32, rest)
      | .ended => .err varintEof
      | .overflow _ => .err .varIntOverflow := by
  rw [decodeVarint_eq_leaving, decodeVarintLeaving_eq_scan]
  cases Leb128.scan 16 5 bs <;> rfl

/-- A VarInt is a number of at most five bytes below `2 ^ 32`. -/
theorem scan_varint_iff {bs rest : List UInt8} {n : Nat} :
    Leb128.scan 16 5 bs = .value n rest ↔
      n < 2 ^ 32 ∧ ∃ u, bs = u ++ rest ∧ IsVarint u (UInt32.ofNat n).toInt32 := by
  rw [Leb128.scan_value_iff (by decide) (by decide)]
  constructor
  · rintro ⟨u, rfl, hl, hg, hn⟩
    have hlt : n < 2 ^ 32 := by omega
    refine ⟨hlt, u, rfl, hl, ?_⟩
    rwa [UInt32.toUInt32_toInt32, UInt32.toNat_ofNat_of_lt' hlt]
  · rintro ⟨hn, u, rfl, hl, hg⟩
    rw [UInt32.toUInt32_toInt32, UInt32.toNat_ofNat_of_lt' hn] at hg
    exact ⟨u, rfl, hl, hg, by omega⟩

theorem scan_varint_unsigned {bs rest : List UInt8} {x : Int32} :
    Leb128.scan 16 5 bs = .value x.toUInt32.toNat rest ↔ ∃ u, bs = u ++ rest ∧ IsVarint u x := by
  have hx : (UInt32.ofNat x.toUInt32.toNat).toInt32 = x := by
    rw [UInt32.ofNat_toNat]
    rfl
  rw [scan_varint_iff, hx]
  exact and_iff_right x.toUInt32.toNat_lt

/-- `decode_varint` accepts a buffer exactly when it starts with a VarInt, and
then takes exactly that. -/
theorem decodeVarint_ok_iff {bs rest : List UInt8} {x : Int32} :
    decodeVarint bs = .ok (x, rest) ↔ ∃ u, bs = u ++ rest ∧ IsVarint u x := by
  rw [← scan_varint_unsigned, decodeVarint_eq_scan]
  cases hscan : Leb128.scan 16 5 bs with
  | value n rest' =>
    have hn := (scan_varint_iff.mp hscan).1
    simp only [Outcome.ok.injEq, Prod.mk.injEq, Leb128.Scan.value.injEq]
    refine and_congr_left fun _ => ⟨?_, ?_⟩
    · rintro rfl
      rw [UInt32.toUInt32_toInt32, UInt32.toNat_ofNat_of_lt' hn]
    · rintro rfl
      rw [UInt32.ofNat_toNat]
      rfl
  | ended => exact iff_of_false nofun nofun
  | overflow rest' => exact iff_of_false nofun nofun

theorem decodeVarint_ne_panic (bs : List UInt8) : decodeVarint bs ≠ .panic := by
  rw [decodeVarint_eq_scan]
  split
  · exact nofun
  · exact nofun
  · exact nofun

/-! ## The streaming reader -/

/-- The streaming loop after `k` continuation bytes, one byte at a time. -/
theorem run_readVarintLoop_cons (k acc : Nat) (b : UInt8) (bs : List UInt8) (hk : k < 5) (hacc : acc < 2 ^ (7 * k)) :
    (readVarintLoop (UInt32.ofNat acc) (UInt32.ofNat (7 * k)) (5 - k)).run (b :: bs) =
      if k + 1 = 5 ∧ 16 ≤ b.toNat then (.err .varIntOverflow, bs)
      else if b.toNat < 128 then (.ok (UInt32.ofNat (acc + 2 ^ (7 * k) * b.toNat)).toInt32, bs)
      else (readVarintLoop (UInt32.ofNat (acc + 2 ^ (7 * k) * (b.toNat % 128))) (UInt32.ofNat (7 * (k + 1)))
        (5 - (k + 1))).run bs := by
  obtain ⟨left, hl⟩ : ∃ left, 5 - k = left + 1 := ⟨4 - k, by omega⟩
  have hleft : left = 0 ↔ k + 1 = 5 := by omega
  have hnext : 5 - (k + 1) = left := by omega
  rw [hl, readVarintLoop, Reader.run_read_cons, hnext]
  simp only [ne_eq, Leb128.high_clear_iff, Leb128.cont_clear_iff, not_lt, hleft, position_succ,
    accumulate acc b hk hacc]
  by_cases hover : k + 1 = 5 ∧ 16 ≤ b.toNat
  · rw [if_pos hover, if_pos hover]
    rfl
  · rw [if_neg hover, if_neg hover]
    by_cases hb : b.toNat < 128
    · rw [if_pos hb, if_pos hb, Nat.mod_eq_of_lt hb]
      rfl
    · rw [if_neg hb, if_neg hb]

theorem run_readVarint_eq_scan (bs : List UInt8) :
    readVarint.run bs = match Leb128.scan 16 5 bs with
      | .value n rest => (.ok (UInt32.ofNat n).toInt32, rest)
      | .ended => (.err streamEof, [])
      | .overflow rest => (.err .varIntOverflow, rest) := by
  have hends (k acc : Nat) (hk : k < 5) :
      (readVarintLoop (UInt32.ofNat acc) (UInt32.ofNat (7 * k)) (5 - k)).run [] = (.err streamEof, []) := by
    obtain ⟨left, hl⟩ : ∃ left, 5 - k = left + 1 := ⟨4 - k, by omega⟩
    rw [hl]
    rfl
  have h : Leb128.AddsUp 5 16
      (fun k acc => (readVarintLoop (UInt32.ofNat acc) (UInt32.ofNat (7 * k)) (5 - k)).run)
      (fun n rest => (.ok (UInt32.ofNat n).toInt32, rest)) (.err streamEof, [])
      fun rest => (.err .varIntOverflow, rest) := ⟨hends, run_readVarintLoop_cons⟩
  exact h.scan (by decide) (by decide) bs

/-- The streaming reader accepts what the in-memory decoder accepts. -/
theorem run_readVarint_ok_iff_decode {bs rest : List UInt8} {x : Int32} :
    readVarint.run bs = (.ok x, rest) ↔ decodeVarint bs = .ok (x, rest) := by
  rw [run_readVarint_eq_scan, decodeVarint_eq_scan]
  cases Leb128.scan 16 5 bs with
  | value n rest' => simp
  | ended => exact iff_of_false nofun nofun
  | overflow rest' => exact iff_of_false nofun nofun

theorem run_readVarint_ok_iff {bs rest : List UInt8} {x : Int32} :
    readVarint.run bs = (.ok x, rest) ↔ ∃ u, bs = u ++ rest ∧ IsVarint u x :=
  run_readVarint_ok_iff_decode.trans decodeVarint_ok_iff

/-- Whatever comes of it, the reader takes at most five bytes. -/
theorem run_readVarint_le {bs rest : List UInt8} {r : Outcome ProxyError Int32} (h : readVarint.run bs = (r, rest)) :
    r ≠ .panic ∧ ∃ u, bs = u ++ rest ∧ u.length ≤ 5 := by
  rw [run_readVarint_eq_scan] at h
  have hrest := @Leb128.scan_rest 16 5 bs
  cases hscan : Leb128.scan 16 5 bs with
  | value n rest' =>
    rw [hscan] at h hrest
    cases h
    exact ⟨nofun, hrest⟩
  | ended =>
    rw [hscan] at h hrest
    cases h
    exact ⟨nofun, bs, (List.append_nil bs).symm, Nat.le_of_lt hrest⟩
  | overflow rest' =>
    rw [hscan] at h hrest
    cases h
    exact ⟨nofun, hrest⟩

/-! ## The encoder -/

/-- The encoder's loop, seven bits at a time. -/
theorem encodeVarintLoop_succ (fuel : Nat) (temp : UInt32) :
    encodeVarintLoop (fuel + 1) temp =
      if temp.toNat < 128 then [UInt8.ofNat temp.toNat]
      else UInt8.ofNat (temp.toNat % 128 + 128) :: encodeVarintLoop fuel (temp >>> 7) := by
  have hclear : (temp &&& ~~~0x7F) = 0 ↔ temp.toNat < 128 := by
    rw [← UInt32.toBitVec_inj]
    exact Leb128.rest_clear_iff (by decide) temp.toBitVec
  have hlow : (temp &&& 0x7F).toNat = temp.toNat % 128 := Leb128.low7_toNat (by decide) temp.toBitVec
  have hor : ((temp &&& 0x7F) ||| 0x80).toNat = temp.toNat % 128 + 128 := by
    rw [UInt32.toNat_or, hlow]
    exact Leb128.or_shiftLeft (s := 7) (x := 1) (Nat.mod_lt _ (by decide))
  have hbyte : ((temp &&& 0x7F) ||| 0x80).toUInt8 = UInt8.ofNat (temp.toNat % 128 + 128) := by
    apply UInt8.toNat_inj.mp
    rw [UInt32.toNat_toUInt8, hor, UInt8.toNat_ofNat']
  rw [encodeVarintLoop, hbyte]
  simp only [hclear]
  rfl

theorem shiftRight7_toNat (temp : UInt32) : (temp >>> 7).toNat = temp.toNat / 128 := by
  rw [UInt32.toNat_shiftRight]
  exact Nat.shiftRight_eq_div_pow _ _

/-- The encoder writes the shortest base-128 groups of the unsigned reading. -/
theorem encodeVarint_eq (x : Int32) : encodeVarint x = Leb128.encode x.toUInt32.toNat := by
  have hlt := x.toUInt32.toNat_lt
  exact Leb128.encode_of_loop shiftRight7_toNat encodeVarintLoop_succ 4 x.toUInt32 (by omega)

theorem encodeVarint_isVarint (x : Int32) : IsVarint (encodeVarint x) x := by
  rw [encodeVarint_eq]
  exact ⟨Leb128.encode_length_le (by omega) (by have := x.toUInt32.toNat_lt; omega),
    Leb128.encode_groups _⟩

theorem encodeVarint_length_pos (x : Int32) : 0 < (encodeVarint x).length :=
  (encodeVarint_isVarint x).length_pos

@[simp] theorem decodeVarint_encodeVarint (x : Int32) (rest : List UInt8) :
    decodeVarint (encodeVarint x ++ rest) = .ok (x, rest) :=
  decodeVarint_ok_iff.mpr ⟨_, rfl, encodeVarint_isVarint x⟩

theorem decodeVarint_encodeVarint_nil (x : Int32) : decodeVarint (encodeVarint x) = .ok (x, []) := by
  have := decodeVarint_encodeVarint x []
  rwa [List.append_nil] at this

@[simp] theorem run_readVarint_encodeVarint (x : Int32) (rest : List UInt8) :
    readVarint.run (encodeVarint x ++ rest) = (.ok x, rest) :=
  run_readVarint_ok_iff.mpr ⟨_, rfl, encodeVarint_isVarint x⟩

/-- No accepted encoding is shorter than the encoder's. -/
theorem IsVarint.encodeVarint_length_le {u : List UInt8} {x : Int32} (h : IsVarint u x) :
    (encodeVarint x).length ≤ u.length := by
  rw [encodeVarint_eq]
  exact h.2.encode_length_le

/-- The size table agrees with the encoder. -/
theorem varintSize_eq (x : Int32) : varintSize x = (encodeVarint x).length := by
  rw [encodeVarint_eq]
  have hlt := x.toUInt32.toNat_lt
  simp only [varintSize]
  generalize x.toUInt32.toNat = n at hlt
  split_ifs with h1 h2 h3 h4
  · rw [Leb128.encode_of_lt (by omega)]; rfl
  · rw [Leb128.encode_of_ge (by omega), Leb128.encode_of_lt (by omega)]; rfl
  · rw [Leb128.encode_of_ge (by omega), Leb128.encode_of_ge (by omega),
      Leb128.encode_of_lt (by omega)]; rfl
  · rw [Leb128.encode_of_ge (by omega), Leb128.encode_of_ge (by omega),
      Leb128.encode_of_ge (by omega), Leb128.encode_of_lt (by omega)]; rfl
  · rw [Leb128.encode_of_ge (by omega), Leb128.encode_of_ge (by omega),
      Leb128.encode_of_ge (by omega), Leb128.encode_of_ge (by omega),
      Leb128.encode_of_lt (by omega)]; rfl

end FrameMC

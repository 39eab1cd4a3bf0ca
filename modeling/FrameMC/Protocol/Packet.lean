import FrameMC.Protocol.Varint

/-!
# Raw packets and strings on the wire

`src/protocol/packet.rs`, and the length-prefixed UTF-8 string that nearly
every packet codec of the repository reads and writes with the same few lines
(`readString`, `putString`); a codec differs from another in its error texts.
-/

namespace FrameMC

open ByteStream

/-- An unparsed packet. -/
structure RawPacket where
  id : Int32
  payload : List UInt8
  deriving DecidableEq, Repr

/-- `if cursor.remaining() < n`, with the codec's error. -/
def need (n : Nat) (text : String) : Decoder ProxyError Unit := do
  let remaining ← Decoder.remaining
  if remaining < n then Decoder.fail (.io .unexpectedEof text)
  else pure ()

theorem need_apply (n : Nat) (text : String) (bs : List UInt8) :
    need n text bs = if bs.length < n then .err (.io .unexpectedEof text) else .ok ((), bs) := by
  simp only [need, Decoder.bind_apply, Decoder.remaining_apply, Outcome.ok_bind, Decoder.ite_apply,
    Decoder.fail_apply, Decoder.pure_apply]

theorem need_one (eof : String) (b : UInt8) (rest : List UInt8) : need 1 eof (b :: rest) = .ok ((), b :: rest) := by
  rw [need_apply, if_neg (by simp)]

theorem decodeVarint_within : Decoder.Within decodeVarint := by
  intro bs
  refine ⟨decodeVarint_ne_panic bs, ?_⟩
  intro x rest h
  obtain ⟨u, rfl, -⟩ := decodeVarint_ok_iff.mp h
  rw [List.length_append]
  omega

/-- Behind the check there are as many bytes. -/
theorem within_need {α : Type} {n : Nat} {text : String} {f : Unit → Decoder ProxyError α}
    (hf : ∀ bs, n ≤ bs.length → Decoder.WithinAt (f ()) bs) : Decoder.Within (need n text >>= f) := by
  intro bs
  by_cases hlen : bs.length < n
  · have herr : need n text bs = .err (.io .unexpectedEof text) := by rw [need_apply, if_pos hlen]
    apply (Decoder.withinAt_of_err herr).bind
    intro u rest h
    rw [herr] at h
    cases h
  · have hok : need n text bs = .ok ((), bs) := by rw [need_apply, if_neg hlen]
    apply (Decoder.withinAt_of_ok hok (Nat.le_refl _)).bind
    intro u rest h
    rw [hok] at h
    obtain ⟨-, rfl⟩ := Prod.mk.inj (Outcome.ok.inj h)
    exact hf bs (Nat.le_of_not_lt hlen)

/-- One byte behind its check. -/
theorem within_needU8 {α : Type} {text : String} {f : UInt8 → Decoder ProxyError α}
    (hf : ∀ b, Decoder.Within (f b)) : Decoder.Within (need 1 text >>= fun _ => Decoder.getU8 >>= f) := by
  apply within_need
  intro bs hlen
  exact (Decoder.WithinAt.getU8 hlen).andThen hf

/-! ## Strings -/

/-- `str::as_bytes`. -/
def asBytes (s : String) : List UInt8 := s.toByteArray.data.toList

/-- `std::str::from_utf8`. -/
def fromUtf8 (bs : List UInt8) : Option String := String.fromUTF8? ⟨bs.toArray⟩

@[simp] theorem fromUtf8_asBytes (s : String) : fromUtf8 (asBytes s) = some s := by
  simp only [fromUtf8, asBytes, Array.toArray_toList]
  exact dif_pos s.isValidUTF8

theorem asBytes_of_fromUtf8 {bs : List UInt8} {s : String} (h : fromUtf8 bs = some s) : asBytes s = bs := by
  simp only [fromUtf8, String.fromUTF8?] at h
  split at h
  · cases h; rfl
  · cases h

theorem asBytes_inj {s t : String} (h : asBytes s = asBytes t) : s = t := by
  have := congrArg fromUtf8 h
  simpa using this

@[simp] theorem asBytes_append (s t : String) : asBytes (s ++ t) = asBytes s ++ asBytes t := by
  rw [asBytes, String.toByteArray_append, ByteArray.data_append, Array.toList_append, asBytes, asBytes]

/-- A name of as many bytes. -/
def longName (n : Nat) : String := String.ofList (List.replicate n 'a')

theorem asBytes_longName (n : Nat) : (asBytes (longName n)).length = n := by
  induction n with
  | zero => rfl
  | succ n ih =>
    have h : longName (n + 1) = String.singleton 'a' ++ longName n := by
      rw [longName, List.replicate_succ, longName]
      apply String.toList_injective
      simp
    have ha : (asBytes (String.singleton 'a')).length = 1 := by decide
    rw [h, asBytes_append, List.length_append, ih, ha]
    omega

/-- `encode_varint(s.len() as i32, buf); buf.put_slice(s.as_bytes())`. -/
def putString (s : String) : List UInt8 :=
  encodeVarint (asI32 (asBytes s).length) ++ asBytes s

/-- The length of the string survives the cast to `i32`. -/
def StringFits (s : String) : Prop := (asBytes s).length < 2 ^ 31

instance (s : String) : Decidable (StringFits s) := inferInstanceAs (Decidable ((asBytes s).length < 2 ^ 31))

/-- A length-prefixed string, read with the error texts of the codec at hand. -/
def readString (eof utf8 : String) : Decoder ProxyError String := do
  let len ← decodeVarint
  let remaining ← Decoder.remaining
  if len < 0 ∨ remaining < asUsize len then
    Decoder.fail (.io .unexpectedEof eof)
  else
    let bytes ← Decoder.slice (asUsize len)
    let s ← Decoder.lift (Outcome.ofOption (.io .invalidData utf8) (fromUtf8 bytes))
    Decoder.advance (asUsize len)
    pure s

/-- The string after its length has been read. -/
theorem readString_of_len {eof utf8 : String} {bs buf : List UInt8} {len : Int32}
    (h : decodeVarint bs = .ok (len, buf)) :
    readString eof utf8 bs =
      if len < 0 ∨ buf.length < asUsize len then .err (.io .unexpectedEof eof)
      else match fromUtf8 (buf.take (asUsize len)) with
        | some s => .ok (s, buf.drop (asUsize len))
        | none => .err (.io .invalidData utf8) := by
  simp only [readString, Decoder.bind_apply, h, Outcome.ok_bind, Decoder.remaining_apply, Decoder.ite_apply,
    Decoder.fail_apply]
  split_ifs with hc
  · rfl
  · have hle : asUsize len ≤ buf.length := by omega
    rw [Decoder.slice_of_le hle]
    simp only [Outcome.ok_bind]
    cases fromUtf8 (buf.take (asUsize len)) with
    | none => rfl
    | some s => simp [Decoder.advance_of_le hle]

theorem readString_ne_panic (eof utf8 : String) (bs : List UInt8) : readString eof utf8 bs ≠ .panic := by
  cases h : decodeVarint bs with
  | ok r =>
    rw [readString_of_len h]
    split_ifs
    · simp
    · split <;> simp
  | err e => simp [readString, h]
  | panic => exact absurd h (decodeVarint_ne_panic bs)

/-- A string is accepted where a length VarInt is followed by that many bytes of UTF-8. -/
theorem readString_ok_iff {eof utf8 : String} {bs rest : List UInt8} {s : String} :
    readString eof utf8 bs = .ok (s, rest) ↔
      ∃ u len, bs = u ++ asBytes s ++ rest ∧ IsVarint u len ∧ 0 ≤ len ∧ asUsize len = (asBytes s).length := by
  constructor
  · intro h
    cases hd : decodeVarint bs with
    | ok r =>
      obtain ⟨len, buf⟩ := r
      obtain ⟨u, rfl, hu⟩ := decodeVarint_ok_iff.mp hd
      rw [readString_of_len hd] at h
      split_ifs at h with hc
      split at h
      · next s' hs =>
        simp only [Outcome.ok.injEq, Prod.mk.injEq] at h
        obtain ⟨rfl, rfl⟩ := h
        have hb := asBytes_of_fromUtf8 hs
        have hlen : 0 ≤ len := Int32.not_lt.mp fun hlt => hc (Or.inl hlt)
        refine ⟨u, len, ?_, hu, hlen, ?_⟩
        · rw [hb, List.append_assoc, List.take_append_drop]
        · rw [hb, List.length_take]; omega
      · cases h
    | err e => simp [readString, hd] at h
    | panic => exact absurd hd (decodeVarint_ne_panic bs)
  · rintro ⟨u, len, rfl, hu, hlen, hsize⟩
    have hd : decodeVarint (u ++ asBytes s ++ rest) = .ok (len, asBytes s ++ rest) :=
      decodeVarint_ok_iff.mpr ⟨u, by simp, hu⟩
    rw [readString_of_len hd, if_neg, hsize, List.take_left, fromUtf8_asBytes, List.drop_left]
    rw [hsize, List.length_append]
    intro hc
    rcases hc with hc | hc
    · exact absurd hlen (Int32.not_le.mpr hc)
    · omega

theorem readString_putString (eof utf8 : String) {s : String} (hs : (asBytes s).length < 2 ^ 31)
    (rest : List UInt8) : readString eof utf8 (putString s ++ rest) = .ok (s, rest) :=
  readString_ok_iff.mpr ⟨_, _, rfl, encodeVarint_isVarint _, asI32_nonneg hs, asUsize_asI32 hs⟩

theorem readString_within (eof utf8 : String) : Decoder.Within (readString eof utf8) := by
  intro bs
  refine ⟨readString_ne_panic eof utf8 bs, ?_⟩
  intro s rest h
  obtain ⟨u, len, rfl, -⟩ := readString_ok_iff.mp h
  simp only [List.length_append]
  omega

/-- A string with nothing behind it. -/
theorem readString_putString_nil (eof utf8 : String) {s : String} (h : StringFits s) :
    readString eof utf8 (putString s) = .ok (s, []) := by
  have := readString_putString eof utf8 h []
  rwa [List.append_nil] at this

/-- An accepted string is shorter than `2 ^ 31` bytes: its length was an `i32`. -/
theorem readString_length_lt {eof utf8 : String} {bs rest : List UInt8} {s : String}
    (h : readString eof utf8 bs = .ok (s, rest)) : (asBytes s).length < 2 ^ 31 := by
  obtain ⟨u, len, -, -, hlen, hsize⟩ := readString_ok_iff.mp h
  rw [← hsize]
  exact asUsize_lt hlen

/-- Of a string whose length does not survive the cast, a proper start is read at most. -/
theorem readString_putString_cut {eof utf8 : String} {s t : String} {rest buf : List UInt8}
    (hlong : ¬ (asBytes s).length < 2 ^ 31) (h : readString eof utf8 (putString s ++ rest) = .ok (t, buf)) :
    ∃ more, more ≠ [] ∧ asBytes s = asBytes t ++ more := by
  have hshorter : (asBytes t).length < (asBytes s).length :=
    Nat.lt_of_lt_of_le (readString_length_lt h) (Nat.le_of_not_lt hlong)
  obtain ⟨u, len, hbytes, hu, -, -⟩ := readString_ok_iff.mp h
  rw [putString, List.append_assoc, List.append_assoc] at hbytes
  obtain ⟨-, -, hafter⟩ := (encodeVarint_isVarint _).append_inj hu hbytes
  have hstart : (asBytes s).take (asBytes t).length = asBytes t := by
    have := congrArg (List.take (asBytes t).length) hafter
    rwa [List.take_left, List.take_append_of_le_length (Nat.le_of_lt hshorter)] at this
  refine ⟨(asBytes s).drop (asBytes t).length, ?_, ?_⟩
  · intro e
    have := congrArg List.length e
    rw [List.length_drop, List.length_nil] at this
    omega
  · conv_lhs => rw [← List.take_append_drop (asBytes t).length (asBytes s), hstart]

/-- A string written and read back, its length cast on the way. -/
theorem readString_putString_iff {eof utf8 : String} {s : String} {rest rest' : List UInt8} :
    readString eof utf8 (putString s ++ rest) = .ok (s, rest') ↔ (asBytes s).length < 2 ^ 31 ∧ rest' = rest := by
  constructor
  · intro h
    have hfits := readString_length_lt h
    rw [readString_putString eof utf8 hfits] at h
    simp only [Outcome.ok.injEq, Prod.mk.injEq, true_and] at h
    exact ⟨hfits, h.symm⟩
  · rintro ⟨hfits, rfl⟩
    exact readString_putString eof utf8 hfits rest'

/-! ## Byte arrays -/

/-- `encode_varint(bytes.len() as i32, buf); buf.put_slice(bytes)`. -/
def putBytes (bytes : List UInt8) : List UInt8 := encodeVarint (asI32 bytes.length) ++ bytes

/-- A length-prefixed byte array, read with the error text of the codec at hand. -/
def readBytes (eof : String) : Decoder ProxyError (List UInt8) := do
  let len ← decodeVarint
  let remaining ← Decoder.remaining
  if len < 0 ∨ remaining < asUsize len then
    Decoder.fail (.io .unexpectedEof eof)
  else
    let bytes ← Decoder.slice (asUsize len)
    Decoder.advance (asUsize len)
    pure bytes

/-- An accepted byte array is what its length says. -/
theorem readBytes_ok {eof : String} {bs bytes rest : List UInt8} (h : readBytes eof bs = .ok (bytes, rest)) :
    ∃ u len, bs = u ++ bytes ++ rest ∧ IsVarint u len ∧ 0 ≤ len ∧ asUsize len = bytes.length := by
  rw [readBytes, Decoder.bind_apply, Outcome.bind_eq_ok] at h
  obtain ⟨⟨len, buf⟩, hlen, h⟩ := h
  obtain ⟨u, rfl, hu⟩ := decodeVarint_ok_iff.mp hlen
  simp only [Decoder.bind_apply, Decoder.remaining_apply, Outcome.ok_bind, Decoder.ite_apply, Decoder.fail_apply] at h
  split_ifs at h with hc
  have hle : asUsize len ≤ buf.length := by omega
  rw [Decoder.slice_of_le hle] at h
  simp only [Outcome.ok_bind, Decoder.advance_of_le hle, Decoder.pure_apply, Outcome.ok.injEq, Prod.mk.injEq] at h
  obtain ⟨rfl, rfl⟩ := h
  refine ⟨u, len, ?_, hu, Int32.not_lt.mp fun hlt => hc (Or.inl hlt), ?_⟩
  · rw [List.append_assoc, List.take_append_drop]
  · rw [List.length_take]
    omega

theorem readBytes_within (eof : String) : Decoder.Within (readBytes eof) := by
  apply decodeVarint_within.bind
  intro len
  apply Decoder.Within.remaining
  intro bs
  apply Decoder.WithinAt.ite
  · exact fun _ => Decoder.Within.fail _ bs
  · intro henough
    have hle : asUsize len ≤ bs.length := by omega
    apply Decoder.WithinAt.slice hle
    exact (Decoder.WithinAt.advance hle).andThen fun _ => .pure _

theorem readBytes_putBytes (eof : String) {bytes : List UInt8} (h : bytes.length < 2 ^ 31) (rest : List UInt8) :
    readBytes eof (putBytes bytes ++ rest) = .ok (bytes, rest) := by
  have hneg : ¬ asI32 bytes.length < 0 := Int32.not_lt.mpr (asI32_nonneg h)
  have hle : bytes.length ≤ (bytes ++ rest).length := by
    rw [List.length_append]
    exact Nat.le_add_right _ _
  rw [readBytes, putBytes, List.append_assoc, Decoder.bind_apply, decodeVarint_encodeVarint, Outcome.ok_bind,
    Decoder.bind_apply, Decoder.remaining_apply, Outcome.ok_bind, Decoder.ite_apply, asUsize_asI32 h,
    if_neg (not_or.mpr ⟨hneg, Nat.not_lt.mpr hle⟩), Decoder.bind_apply, Decoder.slice_of_le hle, Outcome.ok_bind,
    Decoder.bind_apply, Decoder.advance_of_le hle, Outcome.ok_bind, Decoder.pure_apply, List.take_left, List.drop_left]

/-! ## Fixed-width numbers -/

/-- `buf.put_u16(n as u16)`. -/
def putU16 (n : Nat) : List UInt8 := [UInt8.ofNat (n / 256), UInt8.ofNat n]

/-- `Buf::get_u16`: panics on fewer than two bytes. -/
def getU16 : Decoder ProxyError UInt16 := do
  let bytes ← Decoder.slice 2
  Decoder.advance 2
  pure (bytes.foldl (fun (acc : UInt16) b => acc <<< 8 ||| b.toUInt16) 0)

theorem getU16_append {u : List UInt8} (hu : u.length = 2) (rest : List UInt8) :
    getU16 (u ++ rest) = .ok (u.foldl (fun (acc : UInt16) b => acc <<< 8 ||| b.toUInt16) 0, rest) := by
  have hle : 2 ≤ (u ++ rest).length := by
    rw [List.length_append, hu]
    omega
  have htake : (u ++ rest).take 2 = u := List.take_left' hu
  have hdrop : (u ++ rest).drop 2 = rest := List.drop_left' hu
  simp only [getU16, Decoder.bind_apply, Decoder.slice_of_le hle, Decoder.advance_of_le hle, Outcome.ok_bind,
    Decoder.pure_apply, htake, hdrop]

theorem withinAt_getU16 {bs : List UInt8} (h : 2 ≤ bs.length) : Decoder.WithinAt getU16 bs := by
  apply Decoder.WithinAt.slice h
  exact (Decoder.WithinAt.advance h).andThen fun _ => .pure _

/-- Two bytes are read with the first one on top. -/
theorem u16_toNat (high low : UInt8) :
    ([high, low].foldl (fun (acc : UInt16) b => acc <<< 8 ||| b.toUInt16) 0).toNat = 256 * high.toNat + low.toNat := by
  have hhigh := high.toNat_lt
  have hlow := low.toNat_lt
  have hfirst : ((0 : UInt16) <<< 8 ||| high.toUInt16).toNat = high.toNat := by
    rw [UInt16.toNat_or, UInt8.toNat_toUInt16]
    exact Nat.zero_or high.toNat
  rw [List.foldl_cons, List.foldl_cons, List.foldl_nil, UInt16.toNat_or, UInt16.toNat_shiftLeft, hfirst,
    UInt8.toNat_toUInt16]
  change high.toNat <<< 8 % 2 ^ 16 ||| low.toNat = _
  rw [Nat.or_comm, Leb128.or_shiftLeft_mod (by decide) hlow, Nat.mod_eq_of_lt (by omega)]
  omega

/-- A length comes back as its low sixteen bits. -/
theorem getU16_putU16 (n : Nat) (rest : List UInt8) : getU16 (putU16 n ++ rest) = .ok (UInt16.ofNat n, rest) := by
  rw [getU16_append rfl, putU16]
  have : [UInt8.ofNat (n / 256), UInt8.ofNat n].foldl (fun (acc : UInt16) b => acc <<< 8 ||| b.toUInt16) 0 =
      UInt16.ofNat n := by
    apply UInt16.toNat_inj.mp
    rw [u16_toNat, UInt8.toNat_ofNat', UInt8.toNat_ofNat', UInt16.toNat_ofNat']
    omega
  rw [this]

/-- `Buf::get_i64`: panics on fewer than eight bytes. -/
def getI64 : Decoder ProxyError Int64 := do
  let bytes ← Decoder.slice 8
  Decoder.advance 8
  pure (bytes.foldl (fun (acc : UInt64) b => acc <<< 8 ||| b.toUInt64) 0).toInt64

theorem withinAt_getI64 {bs : List UInt8} (h : 8 ≤ bs.length) : Decoder.WithinAt getI64 bs := by
  apply Decoder.WithinAt.slice h
  exact (Decoder.WithinAt.advance h).andThen fun _ => .pure _

def putI64 (x : Int64) : List UInt8 :=
  (List.range 8).map fun i => (x.toUInt64 >>> UInt64.ofNat (8 * (7 - i))).toUInt8

example : getI64 (putI64 (-2) ++ [1]) = .ok (-2, [1]) := by decide

/-- The big-endian reading of bytes (`i64::from_be_bytes`). -/
def beI64 (bytes : List UInt8) : Int64 :=
  (bytes.foldl (fun (acc : UInt64) b => acc <<< 8 ||| b.toUInt64) 0).toInt64

theorem getI64_append {u : List UInt8} (hu : u.length = 8) (rest : List UInt8) :
    getI64 (u ++ rest) = .ok (beI64 u, rest) := by
  have hle : 8 ≤ (u ++ rest).length := by
    rw [List.length_append, hu]
    omega
  have htake : (u ++ rest).take 8 = u := List.take_left' hu
  have hdrop : (u ++ rest).drop 8 = rest := List.drop_left' hu
  simp only [getI64, Decoder.bind_apply, Decoder.slice_of_le hle, Decoder.advance_of_le hle, Outcome.ok_bind,
    Decoder.pure_apply, htake, hdrop]
  rfl

theorem putI64_length (x : Int64) : (putI64 x).length = 8 := rfl

/-- Eight bytes at most are read without overflow. -/
theorem beFold_toNat (bytes : List UInt8) :
    ∀ acc : UInt64, bytes.length ≤ 8 → acc.toNat < 256 ^ (8 - bytes.length) →
      (bytes.foldl (fun (acc : UInt64) b => acc <<< 8 ||| b.toUInt64) acc).toNat =
        bytes.foldl (fun n b => n * 256 + b.toNat) acc.toNat := by
  induction bytes with
  | nil => exact fun _ _ _ => rfl
  | cons b bytes ih =>
    intro acc hlen hacc
    rw [List.length_cons] at hlen hacc
    have hb := b.toNat_lt
    obtain ⟨k, hk, hk'⟩ : ∃ k, 8 - bytes.length = k + 1 ∧ 8 - (bytes.length + 1) = k :=
      ⟨7 - bytes.length, by omega, by omega⟩
    rw [hk'] at hacc
    have hnext : acc.toNat * 256 + b.toNat < 256 ^ (8 - bytes.length) := by
      rw [hk, Nat.pow_succ]
      omega
    have hsmall : acc.toNat < 2 ^ 56 :=
      lt_of_lt_of_le hacc (Nat.pow_le_pow_right (by decide) (by omega : k ≤ 7))
    have hfit : acc.toNat * 2 ^ 8 < 2 ^ 64 := Nat.mul_lt_mul_of_pos_right hsmall (by decide)
    have hstep : (acc <<< 8 ||| b.toUInt64).toNat = acc.toNat * 256 + b.toNat := by
      rw [UInt64.toNat_or, UInt64.toNat_shiftLeft, UInt8.toNat_toUInt64, Nat.shiftLeft_eq]
      change acc.toNat * 2 ^ 8 % 2 ^ 64 ||| b.toNat = _
      rw [Nat.mod_eq_of_lt hfit, Nat.or_comm, ← Nat.shiftLeft_eq, Leb128.or_shiftLeft (by omega)]
      omega
    rw [List.foldl_cons, List.foldl_cons, ih _ (by omega) (hstep ▸ hnext), hstep]

theorem putI64_byte (x : Int64) {i : Nat} (hi : i < 8) :
    ((x.toUInt64 >>> UInt64.ofNat (8 * (7 - i))).toUInt8).toNat = x.toUInt64.toNat / 2 ^ (8 * (7 - i)) % 256 := by
  have hshift : (UInt64.ofNat (8 * (7 - i))).toNat % 64 = 8 * (7 - i) := by
    rw [UInt64.toNat_ofNat']
    omega
  rw [UInt64.toNat_toUInt8, UInt64.toNat_shiftRight, hshift, Nat.shiftRight_eq_div_pow]

/-- The first `i` bytes are the number without the bits of the other ones. -/
theorem putI64_prefix (x : Int64) {i : Nat} (hi : i ≤ 8) :
    ((List.range i).map fun i => (x.toUInt64 >>> UInt64.ofNat (8 * (7 - i))).toUInt8).foldl
      (fun n b => n * 256 + b.toNat) 0 = x.toUInt64.toNat / 2 ^ (8 * (8 - i)) := by
  induction i with
  | zero => exact (Nat.div_eq_of_lt x.toUInt64.toNat_lt).symm
  | succ i ih =>
    have hshift : 8 * (8 - i) = 8 * (7 - i) + 8 := by omega
    have hnext : 8 - (i + 1) = 7 - i := by omega
    rw [List.range_succ, List.map_append, List.foldl_append, ih (by omega), hshift, Nat.pow_add,
      ← Nat.div_div_eq_div_mul, List.map_singleton, List.foldl_cons, List.foldl_nil, putI64_byte x (by omega), hnext]
    exact Nat.div_add_mod' ..

/-- What is put comes back. -/
theorem beI64_putI64 (x : Int64) : beI64 (putI64 x) = x := by
  have hfold : (putI64 x).foldl (fun n b => n * 256 + b.toNat) 0 = x.toUInt64.toNat := by
    rw [putI64, putI64_prefix x (Nat.le_refl 8)]
    exact Nat.div_one _
  have hnat := beFold_toNat (putI64 x) 0 (by rw [putI64_length]) (by rw [putI64_length]; decide)
  rw [UInt64.toNat_zero, hfold] at hnat
  rw [beI64, UInt64.toNat_inj.mp hnat]
  rfl

/-! ## Protected plugin channels -/

/-- The body of `is_protected_plugin_channel`, with its slice. -/
def protectedChannelCheck (packet : RawPacket) : Outcome ProxyError Bool :=
  match decodeVarint packet.payload with
  | .ok (len, cursor) =>
    if len > 0 ∧ len ≤ 128 ∧ cursor.length ≥ asUsize len then do
      let (bytes, _) ← Decoder.slice (asUsize len) cursor
      match fromUtf8 bytes with
      | some channel =>
        let lower := channel.toLower
        .ok (lower == "velocity:player_info" || lower == "bungeecord:main" || lower == "bungee:main" ||
          lower == "bungeecord")
      | none => .ok false
    else .ok false
  | .err _ => .ok false
  | .panic => .panic

/-- Whether the payload begins with the name of a channel the proxy reserves. -/
def isProtectedPluginChannel (packet : RawPacket) : Bool :=
  match protectedChannelCheck packet with
  | .ok b => b
  | _ => false

/-- The slice is in bounds, and no error is let out. -/
theorem protectedChannelCheck_ok (packet : RawPacket) :
    protectedChannelCheck packet = .ok (isProtectedPluginChannel packet) := by
  have hsome : ∃ b, protectedChannelCheck packet = .ok b := by
    unfold protectedChannelCheck
    split
    · split_ifs with hc
      · rw [Decoder.slice_of_le hc.2.2]
        simp only [Outcome.ok_bind]
        split <;> exact ⟨_, rfl⟩
      · exact ⟨_, rfl⟩
    · exact ⟨_, rfl⟩
    · next h => exact absurd h (decodeVarint_ne_panic _)
  obtain ⟨b, hb⟩ := hsome
  rw [isProtectedPluginChannel, hb]

end FrameMC

import FrameMC.Network.Codec

/-!
# Frames in, frames out

What the reader of `Network/Codec.lean` accepts, in terms of the bytes
(`readPacket_exact`); that it reads back every stream the encoder writes
within the limit (`readPackets_encode`); and when a packet it accepted on one
connection is accepted again after being framed for another
(`reframed_accepted_iff`). The limit is on the body as it stands on the wire,
so a packet near it can outgrow the limit by the data length or by an
incompressible body.
-/

namespace FrameMC

open ByteStream

variable {zlib : Zlib} {m : Nat} {t : Option Nat}

/-! ## Accepted bodies -/

/-- `content` is a packet's id VarInt and payload. -/
def IsContent (content : List UInt8) (p : RawPacket) : Prop :=
  ∃ v, IsVarint v p.id ∧ content = v ++ p.payload

/-- The body of a frame for `p`: with a threshold, a data length of zero and
the content, or a data length within the bounds and a zlib stream of exactly
that much content. -/
def BodyOf (zlib : Zlib) (m : Nat) (t : Option Nat) (body : List UInt8) (p : RawPacket) : Prop :=
  match t with
  | none => IsContent body p
  | some thresh => ∃ u dataLength cursor, body = u ++ cursor ∧ IsVarint u dataLength ∧
      (dataLength = 0 ∧ IsContent cursor p ∨
        0 < dataLength ∧ thresh ≤ asUsize dataLength ∧ asUsize dataLength ≤ m ∧
          ∃ data, zlib.decompress cursor = ⟨data, none⟩ ∧ data.length = asUsize dataLength ∧ IsContent data p)

/-- The stream starts with a frame for `p`, and `rest` is behind it. -/
def AcceptedAs (zlib : Zlib) (m : Nat) (t : Option Nat) (bs : List UInt8) (p : RawPacket)
    (rest : List UInt8) : Prop :=
  ∃ u length body, bs = u ++ body ++ rest ∧ IsVarint u length ∧ 0 < length ∧ asUsize length ≤ m ∧
    body.length = asUsize length ∧ BodyOf zlib m t body p

/-- Not read beyond the declared frame: at most the length VarInt, and behind
it at most the declared body, which counts only if the limit admits it. -/
def WithinFrame (m : Nat) (bs rest : List UInt8) : Prop :=
  ∃ used, bs = used ++ rest ∧
    ((∀ u length s, bs = u ++ s → ¬ IsVarint u length) ∧ used.length ≤ 5 ∨
      ∃ u length s, bs = u ++ s ∧ IsVarint u length ∧
        used.length ≤ u.length + if 0 < length ∧ asUsize length ≤ m then asUsize length else 0)

theorem decodeContent_ok_iff {content : List UInt8} {p : RawPacket} :
    (decodeVarint content >>= fun r => (.ok (RawPacket.mk r.1 r.2) : Outcome ProxyError RawPacket)) = .ok p ↔
      IsContent content p := by
  rw [Outcome.bind_eq_ok]
  constructor
  · rintro ⟨⟨id, payload⟩, hd, h⟩
    obtain ⟨v, rfl, hv⟩ := decodeVarint_ok_iff.mp hd
    obtain rfl : RawPacket.mk id payload = p := Outcome.ok.inj h
    exact ⟨v, hv, rfl⟩
  · rintro ⟨v, hv, rfl⟩
    exact ⟨(p.id, p.payload), decodeVarint_ok_iff.mpr ⟨v, rfl, hv⟩, rfl⟩

/-- Reading with one byte more than expected and comparing lengths accepts
exactly the complete streams of that length. -/
theorem Inflated.takeToEnd_exact {d : Inflated} {n : Nat} {data : List UInt8} :
    d.takeToEnd (n + 1) = .ok data ∧ data.length = n ↔ d = ⟨data, none⟩ ∧ data.length = n := by
  obtain ⟨bytes, error⟩ := d
  constructor
  · rintro ⟨h, hn⟩
    rw [takeToEnd] at h
    split_ifs at h with hle
    · obtain rfl := Outcome.ok.inj h
      simp only [List.length_take] at hn
      simp only at hle
      omega
    · cases error with
      | none => obtain rfl := Outcome.ok.inj h; exact ⟨rfl, hn⟩
      | some message => cases h
  · rintro ⟨h, hn⟩
    obtain ⟨rfl, rfl⟩ := Inflated.mk.inj h
    exact ⟨by rw [takeToEnd, if_neg (by simp only; omega)], hn⟩

/-- The reader decodes a body to the packet it is the body of. -/
theorem decodeBody_ok_iff {body : List UInt8} {p : RawPacket} :
    decodeBody zlib m t body = .ok p ↔ BodyOf zlib m t body p := by
  cases t with
  | none => exact decodeContent_ok_iff
  | some thresh =>
    simp only [decodeBody, BodyOf]
    rw [Outcome.bind_eq_ok]
    constructor
    · rintro ⟨⟨dataLength, cursor⟩, hd, h⟩
      obtain ⟨u, rfl, hu⟩ := decodeVarint_ok_iff.mp hd
      refine ⟨u, dataLength, cursor, rfl, hu, ?_⟩
      dsimp only at h
      split_ifs at h with hbad hsmall hzero
      · exact Or.inl ⟨hzero, decodeContent_ok_iff.mp h⟩
      · obtain ⟨data, htake, h⟩ := Outcome.bind_eq_ok.mp h
        split_ifs at h with hlen
        have hpos : 0 < dataLength :=
          Int32.lt_of_le_of_ne (Int32.not_lt.mp fun h' => hbad (Or.inl h')) (Ne.symm hzero)
        obtain ⟨hz, hlen⟩ := Inflated.takeToEnd_exact.mp ⟨htake, not_not.mp hlen⟩
        refine Or.inr ⟨hpos, ?_, by omega, data, hz, hlen, decodeContent_ok_iff.mp h⟩
        exact Nat.not_lt.mp fun h' => hsmall ⟨hpos, h'⟩
    · rintro ⟨u, dataLength, cursor, rfl, hu, hcase⟩
      refine ⟨(dataLength, cursor), decodeVarint_ok_iff.mpr ⟨u, rfl, hu⟩, ?_⟩
      dsimp only
      rcases hcase with ⟨rfl, hc⟩ | ⟨hpos, hth, hm, data, hz, hlen, hc⟩
      · have hnot : ¬ ((0 : Int32) < 0 ∨ asUsize 0 > m) := by
          rintro (h | h)
          · exact absurd h (by decide)
          · simp at h
        rw [if_neg hnot, if_neg (by rintro ⟨h, -⟩; exact absurd h (by decide)), if_pos rfl]
        exact decodeContent_ok_iff.mpr hc
      · have hnot : ¬ (dataLength < 0 ∨ asUsize dataLength > m) := by
          rintro (h | h)
          · exact absurd (Int32.le_of_lt hpos) (Int32.not_le.mpr h)
          · omega
        have hne : dataLength ≠ 0 := by
          rintro rfl
          exact absurd hpos (by decide)
        rw [if_neg hnot, if_neg (by rintro ⟨-, h⟩; omega), if_neg hne]
        obtain ⟨htake, hlen⟩ := Inflated.takeToEnd_exact.mpr ⟨hz, hlen⟩
        rw [htake, Outcome.ok_bind, if_neg (by simpa using hlen)]
        exact decodeContent_ok_iff.mpr hc

theorem acceptedAs_iff {bs rest : List UInt8} {p : RawPacket} :
    (readPacketWithCompression zlib m t).run bs = (.ok p, rest) ↔ AcceptedAs zlib m t bs p rest := by
  simp only [run_readPacket_ok_iff, decodeBody_ok_iff, AcceptedAs]

theorem withinFrame_of_err {bs rest : List UInt8} {e : ProxyError}
    (h : (readPacketWithCompression zlib m t).run bs = (.err e, rest)) : WithinFrame m bs rest := by
  rw [run_readPacket] at h
  split at h
  · next length s hlen =>
    obtain ⟨u, rfl, hu⟩ := run_readVarint_ok_iff.mp hlen
    rw [afterLength] at h
    split_ifs at h with hok hs
    · simp only [Prod.mk.injEq] at h
      refine ⟨u ++ s.take (asUsize length), by rw [← h.2, List.append_assoc, List.take_append_drop],
        Or.inr ⟨u, length, s, rfl, hu, ?_⟩⟩
      rw [if_pos hok, List.length_append, List.length_take]
      omega
    · simp only [Prod.mk.injEq] at h
      refine ⟨u ++ s, by rw [← h.2, List.append_nil], Or.inr ⟨u, length, s, rfl, hu, ?_⟩⟩
      rw [if_pos hok, List.length_append]
      omega
    · simp only [Prod.mk.injEq] at h
      exact ⟨u, by rw [h.2], Or.inr ⟨u, length, s, rfl, hu, Nat.le_add_right _ _⟩⟩
  · next e' s hlen =>
    obtain ⟨-, used, rfl, hle⟩ := run_readVarint_le hlen
    simp only [Prod.mk.injEq] at h
    refine ⟨used, by rw [h.2], Or.inl ⟨?_, hle⟩⟩
    intro u length s' e hu
    have hok : readVarint.run (used ++ s) = (.ok length, s') := run_readVarint_ok_iff.mpr ⟨u, e, hu⟩
    rw [hlen] at hok
    cases hok
  · cases h

/-- The reader is exact on every input: it returns a packet where the stream
starts with a frame for it and leaves what is behind the frame; on any other
stream it reports an error without having read past the declared frame. -/
theorem readPacket_exact (zlib : Zlib) (m : Nat) (t : Option Nat) (bs : List UInt8) :
    match (readPacketWithCompression zlib m t).run bs with
    | (.ok p, rest) => AcceptedAs zlib m t bs p rest
    | (.err _, rest) => WithinFrame m bs rest ∧ ∀ p rest', ¬ AcceptedAs zlib m t bs p rest'
    | (.panic, _) => False := by
  rcases h : (readPacketWithCompression zlib m t).run bs with ⟨r, rest⟩
  cases r with
  | ok p => exact acceptedAs_iff.mp h
  | err e =>
    refine ⟨withinFrame_of_err h, ?_⟩
    intro p rest' hp
    rw [acceptedAs_iff.mpr hp] at h
    cases h
  | panic => exact run_readPacket_ne_panic bs rest h

/-! ## Round trip -/

theorem uncompressedLength_pos (p : RawPacket) : 0 < uncompressedLength p := by
  have := encodeVarint_length_pos p.id
  rw [uncompressedLength, varintSize_eq]
  omega

theorem isContent_encode (p : RawPacket) : IsContent (encodeVarint p.id ++ p.payload) p :=
  ⟨_, encodeVarint_isVarint p.id, rfl⟩

/-- The body the encoder writes is one of the packet's, if the limit admits
the packet itself. -/
theorem frameBody_bodyOf (hz : zlib.Correct) {p : RawPacket} (hm : m < 2 ^ 31)
    (hu : uncompressedLength p ≤ m) : BodyOf zlib m t (frameBody zlib t p) p := by
  have hlen := uncompressedLength_eq p
  cases t with
  | none => exact isContent_encode p
  | some thresh =>
    simp only [frameBody, BodyOf]
    split_ifs with hth
    · exact ⟨_, 0, _, rfl, encodeVarint_isVarint 0, Or.inl ⟨rfl, isContent_encode p⟩⟩
    · have hlt : uncompressedLength p < 2 ^ 31 := by omega
      have hsize := asUsize_asI32 hlt
      have hpos : 0 < asI32 (uncompressedLength p) := by
        refine Int32.lt_of_le_of_ne (asI32_nonneg hlt) ?_
        intro h0
        have := uncompressedLength_pos p
        rw [← hsize, ← h0] at this
        exact absurd this (by decide)
      exact ⟨_, _, _, rfl, encodeVarint_isVarint _, Or.inr ⟨hpos, by omega, by omega, _, hz _,
        by omega, isContent_encode p⟩⟩

theorem frameBody_length_pos (zlib : Zlib) (t : Option Nat) (p : RawPacket) : 0 < (frameBody zlib t p).length := by
  have := encodeVarint_length_pos
  cases t with
  | none => have := this p.id; simp only [frameBody, List.length_append]; omega
  | some thresh =>
    simp only [frameBody]
    split_ifs
    · have := this 0; simp only [List.length_append]; omega
    · have := this (asI32 (uncompressedLength p)); simp only [List.length_append]; omega

/-- One frame of the encoder's, read back. -/
theorem run_readPacket_encode (hz : zlib.Correct) (hm : m < 2 ^ 31) {p : RawPacket}
    (hu : uncompressedLength p ≤ m) (hb : (frameBody zlib t p).length ≤ m) (rest : List UInt8) :
    (readPacketWithCompression zlib m t).run (encodePacketWithCompression zlib p t ++ rest) = (.ok p, rest) := by
  have hsize := asUsize_asI32 (n := (frameBody zlib t p).length) (by omega)
  rw [encodePacket_eq, acceptedAs_iff]
  refine ⟨_, _, frameBody zlib t p, rfl, encodeVarint_isVarint _, ?_, by omega, by omega,
    frameBody_bodyOf hz hm hu⟩
  refine Int32.lt_of_le_of_ne (asI32_nonneg (by omega)) ?_
  intro h0
  have := frameBody_length_pos zlib t p
  rw [← hsize, ← h0] at this
  exact absurd this (by decide)

theorem readPacket_waits (zlib : Zlib) (m : Nat) (t : Option Nat) : (readPacketWithCompression zlib m t).Waits :=
  ⟨_, _, rfl⟩

/-- A stream of frames is read back to the packets, with what follows them left
unread. -/
theorem readPackets_encode (hz : zlib.Correct) (hm : m < 2 ^ 31) (ps : List RawPacket)
    (hps : ∀ p ∈ ps, uncompressedLength p ≤ m ∧ (frameBody zlib t p).length ≤ m) (rest : List UInt8) :
    (readPackets zlib m t ps.length).run (ps.flatMap (encodePacketWithCompression zlib · t) ++ rest) =
      (.ok ps, rest) := by
  induction ps with
  | nil => simp [readPackets]
  | cons p ps ih =>
    obtain ⟨hu, hb⟩ := hps p (List.mem_cons_self ..)
    have ih := ih fun q hq => hps q (List.mem_cons_of_mem p hq)
    simp only [List.length_cons, readPackets, List.flatMap_cons, List.append_assoc, Reader.run_bind]
    rw [run_readPacket_encode hz hm hu hb]
    simp only [ih, Reader.pure_eq, Reader.run_done]

/-- A compressor that treats one packet as zlib does, and stores the rest
behind a byte no zlib stream starts with. -/
def sampleZlib : Zlib where
  compress bs := if bs = sampleContent then sampleStream else 0 :: bs
  decompress bs :=
    if bs = sampleStream then ⟨sampleContent, none⟩
    else match bs with
      | 0 :: bs => ⟨bs, none⟩
      | _ => ⟨[], some "corrupt deflate stream"⟩
where
  sampleContent : List UInt8 := [2, 16, 16, 16, 16, 16, 16, 16, 16]
  sampleStream : List UInt8 := [0x78, 0x9C, 0x63, 0x12, 0x80, 0x02, 0x00, 0x02, 0x5B, 0x00, 0x83]

theorem sampleZlib_correct : sampleZlib.Correct := by
  intro bs
  by_cases h : bs = sampleZlib.sampleContent
  · simp [sampleZlib, h]
  · have hne : (0 : UInt8) :: bs ≠ sampleZlib.sampleStream := by
      intro h'
      exact absurd (List.cons.inj h').1 (by decide)
    simp [sampleZlib, h, hne]

/-- A compressed and an uncompressed frame, and a byte behind them. -/
theorem readPackets_encode_sample :
    (readPackets sampleZlib defaultMaxPacketSize (some 8) 2).run
      ([⟨2, List.replicate 8 16⟩, ⟨0, [7]⟩].flatMap (encodePacketWithCompression sampleZlib · (some 8)) ++ [1]) =
      (.ok [⟨2, List.replicate 8 16⟩, ⟨0, [7]⟩], [1]) :=
  readPackets_encode (m := defaultMaxPacketSize) (t := some 8) sampleZlib_correct (by decide)
    [⟨2, List.replicate 8 16⟩, ⟨0, [7]⟩] (by decide) [1]

/-! ## Framing again for another connection -/

/-- The limit counts the frame, so what it admits is no longer than it. -/
theorem AcceptedAs.uncompressedLength_le {bs rest : List UInt8} {p : RawPacket}
    (h : AcceptedAs zlib m t bs p rest) : uncompressedLength p ≤ m := by
  have content_le : ∀ {content : List UInt8}, IsContent content p → uncompressedLength p ≤ content.length := by
    rintro content ⟨v, hv, rfl⟩
    have := hv.encodeVarint_length_le
    rw [uncompressedLength, varintSize_eq, List.length_append]
    omega
  obtain ⟨u, length, body, -, -, -, hle, hlen, hbody⟩ := h
  cases t with
  | none => have := content_le hbody; omega
  | some thresh =>
    obtain ⟨u, dataLength, cursor, rfl, -, ⟨-, hc⟩ | ⟨-, -, hd, data, -, hdata, hc⟩⟩ := hbody
    · have := content_le hc
      rw [List.length_append] at hlen
      omega
    · have := content_le hc
      omega

/-- What the encoder writes is accepted only when its body is within the limit. -/
theorem frameBody_length_le {p q : RawPacket}
    (h : (readPacketWithCompression zlib m t).run (encodePacketWithCompression zlib p t) = (.ok q, [])) :
    (frameBody zlib t p).length ≤ m := by
  obtain ⟨u, length, body, e, hu, -, hle, hlen, -⟩ := acceptedAs_iff.mp h
  rw [encodePacket_eq, List.append_nil] at e
  obtain ⟨-, -, rfl⟩ := (encodeVarint_isVarint _).append_inj hu e
  omega

/-- The packet, framed for a connection with threshold `t`, is within the
reader's default limit: below the threshold the data length costs one byte;
from it on the compressed content and the data length count. -/
def RelayFits (zlib : Zlib) (t : Option Nat) (p : RawPacket) : Prop :=
  match t with
  | none => True
  | some thresh =>
    if uncompressedLength p < thresh then uncompressedLength p + 1 ≤ defaultMaxPacketSize
    else varintSize (asI32 (uncompressedLength p)) +
      (zlib.compress (encodeVarint p.id ++ p.payload)).length ≤ defaultMaxPacketSize

theorem relayFits_iff {p : RawPacket} (hu : uncompressedLength p ≤ defaultMaxPacketSize) :
    RelayFits zlib t p ↔ (frameBody zlib t p).length ≤ defaultMaxPacketSize := by
  have hlen := uncompressedLength_eq p
  cases t with
  | none => simpa only [RelayFits, frameBody, true_iff, ← hlen] using hu
  | some thresh =>
    simp only [RelayFits, frameBody]
    split_ifs
    · rw [List.length_append, ← hlen, show (encodeVarint 0).length = 1 by decide, Nat.add_comm]
    · rw [List.length_append, varintSize_eq]

/-- A packet accepted on one connection is accepted again on another, framed
for it, exactly when the new frame fits. -/
theorem reframed_accepted_iff (hz : zlib.Correct) {t₁ t₂ : Option Nat} {frame : List UInt8} {p : RawPacket}
    (h : (readPacketWithCompression zlib defaultMaxPacketSize t₁).run frame = (.ok p, [])) :
    (readPacketWithCompression zlib defaultMaxPacketSize t₂).run (encodePacketWithCompression zlib p t₂) =
      (.ok p, []) ↔ RelayFits zlib t₂ p := by
  have hu := (acceptedAs_iff.mp h).uncompressedLength_le
  rw [relayFits_iff hu]
  constructor
  · exact frameBody_length_le
  · intro hb
    have := run_readPacket_encode (t := t₂) hz (by decide) hu hb []
    rwa [List.append_nil] at this

/-- An uncompressed frame, compressed for the other connection. -/
theorem reframed_accepted_sample :
    (readPacketWithCompression sampleZlib defaultMaxPacketSize (some 8)).run
      (encodePacketWithCompression sampleZlib ⟨2, List.replicate 8 16⟩ (some 8)) =
      (.ok ⟨2, List.replicate 8 16⟩, []) ↔ RelayFits sampleZlib (some 8) ⟨2, List.replicate 8 16⟩ :=
  @reframed_accepted_iff sampleZlib sampleZlib_correct none (some 8) (9 :: 2 :: List.replicate 8 16) _
    (acceptedAs_iff.mpr ⟨[9], 9, 2 :: List.replicate 8 16, rfl, encodeVarint_isVarint 9, by decide, by decide,
      rfl, [2], encodeVarint_isVarint 2, rfl⟩)

/-! A body of exactly the limit, without compression, and the same packet
framed for a peer whose threshold is above it. -/

/-- Id zero and `n` zero bytes. -/
def zeroPacket (n : Nat) : RawPacket := ⟨0, List.replicate n 0⟩

theorem uncompressedLength_zeroPacket (n : Nat) : uncompressedLength (zeroPacket n) = n + 1 := by
  rw [uncompressedLength, zeroPacket, List.length_replicate, show varintSize 0 = 1 by decide, Nat.add_comm]

/-- Behind a length over the limit nothing is read. -/
theorem run_readPacket_tooLarge {p : RawPacket} {n : Nat} (hn : (frameBody zlib t p).length = n)
    (hm : m < n) (hlt : n < 2 ^ 31) :
    ((readPacketWithCompression zlib m t).run (encodePacketWithCompression zlib p t)).1 =
      .err (.packetTooLarge n) := by
  have hsize := asUsize_asI32 hlt
  rw [encodePacket_eq, hn, run_readPacket_of_length (encodeVarint_isVarint _), afterLength,
    if_neg (by rintro ⟨-, h⟩; omega), lengthError, if_pos (Or.inr (by omega)), hsize]

/-- The relayed packet is refused where the one it was made of was accepted. -/
theorem reframed_zeroPacket_rejected :
    sampleZlib.Correct ∧
    (readPacketWithCompression sampleZlib defaultMaxPacketSize none).run
      (encodePacketWithCompression sampleZlib (zeroPacket 2097151) none) = (.ok (zeroPacket 2097151), []) ∧
    ((readPacketWithCompression sampleZlib defaultMaxPacketSize (some 2097153)).run
      (encodePacketWithCompression sampleZlib (zeroPacket 2097151) (some 2097153))).1 =
      .err (.packetTooLarge 2097153) := by
  have hu := uncompressedLength_zeroPacket 2097151
  generalize zeroPacket 2097151 = p at hu
  have hlen := uncompressedLength_eq p
  refine ⟨sampleZlib_correct, ?_, ?_⟩
  · have hb : (frameBody sampleZlib none p).length ≤ defaultMaxPacketSize := by
      rw [frameBody, ← hlen, hu, defaultMaxPacketSize]
    have := run_readPacket_encode sampleZlib_correct (by decide) (by rw [hu, defaultMaxPacketSize]) hb []
    rwa [List.append_nil] at this
  · refine run_readPacket_tooLarge ?_ (by decide) (by decide)
    simp only [frameBody, hu]
    rw [if_pos (by decide), List.length_append, ← hlen, hu]
    decide

end FrameMC

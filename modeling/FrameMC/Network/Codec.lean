import FrameMC.Protocol.Packet

/-!
# Packet framing

`src/network/codec.rs`. A frame is a length VarInt and a body; with a
compression threshold the body starts with a data length, zero for a packet
left uncompressed. The zlib streams are `flate2`'s, a parameter here: what it
writes for a buffer, and what reading a decoder to its end gives.

The section "What the reader accepts" describes `readPacketWithCompression`
completely: which byte strings give which packet (`run_readPacket_ok_iff`),
that no input makes it panic, and how far it reads when it fails.
-/

namespace FrameMC

open ByteStream

def defaultMaxPacketSize : Nat := 2097152

/-! ## The packets of the module -/

structure SetCompressionPacket where
  threshold : Int32

def SetCompressionPacket.encode (p : SetCompressionPacket) : RawPacket :=
  ⟨0x03, encodeVarint p.threshold⟩

def SetCompressionPacket.decode (packet : RawPacket) : Outcome ProxyError SetCompressionPacket :=
  if packet.id ≠ 0x03 then .err (.invalidPacketId packet.id)
  else do
    let (threshold, _) ← decodeVarint packet.payload
    .ok ⟨threshold⟩

/-- An anonymous NBT compound with one string, `text`. The length is a `u16`. -/
def textCompound (text : String) : List UInt8 :=
  [0x0A, 0x08] ++ putU16 4 ++ asBytes "text" ++ putU16 (asBytes text).length ++ asBytes text ++ [0x00]

/-- `textJson` is what `serde_json` writes for `{ "text": … }`. -/
structure DisconnectPacket where
  reason : String

namespace DisconnectPacket

variable (textJson : String → String)

def encodeLogin (p : DisconnectPacket) : RawPacket := ⟨0x00, putString (textJson p.reason)⟩

def encodeConfig (p : DisconnectPacket) (protocolVersion : Int) : RawPacket :=
  let packetId := if protocolVersion ≥ 766 then 0x02 else 0x01
  if protocolVersion ≥ 766 then ⟨packetId, textCompound p.reason⟩
  else ⟨packetId, putString (textJson p.reason)⟩

def encodePlay (p : DisconnectPacket) : RawPacket := ⟨0x1B, putString (textJson p.reason)⟩

def encodeForClient (p : DisconnectPacket) (protocolVersion : Int) (inConfigurationOrPlay : Bool) : RawPacket :=
  if ¬ inConfigurationOrPlay then p.encodeLogin textJson
  else if protocolVersion ≥ 764 then p.encodeConfig textJson protocolVersion
  else p.encodePlay textJson

end DisconnectPacket

/-! ## zlib -/

/-- Reading a `ZlibDecoder` until it has no more: the bytes it gave, and the
error it stopped at if it did not end properly. -/
structure Inflated where
  bytes : List UInt8
  error : Option String

/-- `flate2`, with its default compression level. Writing to a `Vec` does not
fail, so `compress` has no error case. -/
structure Zlib where
  compress : List UInt8 → List UInt8
  decompress : List UInt8 → Inflated

/-- Decompressing a compressed buffer yields the original bytes. -/
def Zlib.Correct (zlib : Zlib) : Prop :=
  ∀ bs, zlib.decompress (zlib.compress bs) = ⟨bs, none⟩

/-- `decoder.take(limit).read_to_end(…)`: once the limit is reached the decoder
is not asked again, so an error behind it stays unseen. -/
def Inflated.takeToEnd (d : Inflated) (limit : Nat) : Outcome ProxyError (List UInt8) :=
  if limit ≤ d.bytes.length then .ok (d.bytes.take limit)
  else match d.error with
    | none => .ok d.bytes
    | some message => .err (.io .other message)

/-! ## Reading -/

/-- `read_packet_with_compression` once the body is in memory. -/
def decodeBody (zlib : Zlib) (maxSize : Nat) (threshold : Option Nat) (body : List UInt8) :
    Outcome ProxyError RawPacket :=
  match threshold with
  | none => do
    let (id, payload) ← decodeVarint body
    .ok ⟨id, payload⟩
  | some thresh => do
    let (dataLength, cursor) ← decodeVarint body
    if dataLength < 0 ∨ asUsize dataLength > maxSize then
      .err (.packetTooLarge (asUsize dataLength))
    else if dataLength > 0 ∧ asUsize dataLength < thresh then
      .err (.io .invalidData
        s!"Decompressed data length {dataLength} is smaller than threshold {thresh}")
    else if dataLength = 0 then do
      let (id, payload) ← decodeVarint cursor
      .ok ⟨id, payload⟩
    else do
      let maxAllowed := asUsize dataLength
      let decompressed ← (zlib.decompress cursor).takeToEnd (maxAllowed + 1)
      if decompressed.length ≠ maxAllowed then
        .err (.io .invalidData
          s!"Decompressed length mismatch: expected {maxAllowed} bytes, got {decompressed.length}")
      else do
        let (id, payload) ← decodeVarint decompressed
        .ok ⟨id, payload⟩

/-- The loop that reads the body in chunks of 64 KiB. Every pass takes a byte
off `remaining`, so `remaining` passes suffice (`run_readBodyLoop`). -/
def readBodyLoop : Nat → List UInt8 → Nat → Reader ProxyError (List UInt8)
  | 0, body, _ => pure body
  | fuel + 1, body, remaining =>
    if remaining > 0 then
      let chunkSize := min remaining (64 * 1024)
      let prevLen := body.length
      let body := body ++ List.replicate chunkSize 0
      -- `&mut body[prev_len..]`
      if prevLen ≤ body.length then do
        let filled ← Reader.readExact earlyEof (body.length - prevLen)
        readBodyLoop fuel (body.take prevLen ++ filled) (remaining - chunkSize)
      else .done .panic
    else pure body

def readPacketWithCompression (zlib : Zlib) (maxSize : Nat) (threshold : Option Nat) :
    Reader ProxyError RawPacket := do
  let length ← readVarint
  if length < 0 ∨ asUsize length > maxSize then
    .fail (.packetTooLarge (asUsize length))
  else if length = 0 then
    .fail (.io .unexpectedEof "packet length cannot be zero")
  else do
    let totalLen := asUsize length
    let body ← readBodyLoop totalLen [] totalLen
    .done (decodeBody zlib maxSize threshold body)

/-- The same reader `n` times over. -/
def readPackets (zlib : Zlib) (maxSize : Nat) (threshold : Option Nat) :
    Nat → Reader ProxyError (List RawPacket)
  | 0 => pure []
  | n + 1 => do
    let p ← readPacketWithCompression zlib maxSize threshold
    let ps ← readPackets zlib maxSize threshold n
    pure (p :: ps)

/-! ## Writing -/

def encodePacketWithCompression (zlib : Zlib) (packet : RawPacket) (threshold : Option Nat) : List UInt8 :=
  match threshold with
  | none =>
    let idLen := varintSize packet.id
    let totalLength := idLen + packet.payload.length
    encodeVarint (asI32 totalLength) ++ encodeVarint packet.id ++ packet.payload
  | some thresh =>
    let idLen := varintSize packet.id
    let uncompressedLen := idLen + packet.payload.length
    if uncompressedLen < thresh then
      let totalPacketLen := 1 + uncompressedLen
      encodeVarint (asI32 totalPacketLen) ++ encodeVarint 0 ++ encodeVarint packet.id ++ packet.payload
    else
      let compressed := zlib.compress (encodeVarint packet.id ++ packet.payload)
      let dataLength := asI32 uncompressedLen
      let totalPacketLen := varintSize dataLength + compressed.length
      encodeVarint (asI32 totalPacketLen) ++ encodeVarint dataLength ++ compressed

example (zlib : Zlib) : encodePacketWithCompression zlib ⟨0x02, [0x10, 0x20, 0x30, 0x40]⟩ (some 256) =
    [0x06, 0x00, 0x02, 0x10, 0x20, 0x30, 0x40] := rfl

/-- Id and payload together, as the length field counts them. -/
def uncompressedLength (packet : RawPacket) : Nat := varintSize packet.id + packet.payload.length

/-- The bytes of a frame after its length. -/
def frameBody (zlib : Zlib) (threshold : Option Nat) (packet : RawPacket) : List UInt8 :=
  let content := encodeVarint packet.id ++ packet.payload
  match threshold with
  | none => content
  | some thresh =>
    if uncompressedLength packet < thresh then encodeVarint 0 ++ content
    else encodeVarint (asI32 (uncompressedLength packet)) ++ zlib.compress content

theorem uncompressedLength_eq (p : RawPacket) :
    uncompressedLength p = (encodeVarint p.id ++ p.payload).length := by
  rw [uncompressedLength, varintSize_eq, List.length_append]

/-- The encoder's lengths are those of what it writes: a frame is the length of
its body and its body. -/
theorem encodePacket_eq (zlib : Zlib) (p : RawPacket) (t : Option Nat) :
    encodePacketWithCompression zlib p t =
      encodeVarint (asI32 (frameBody zlib t p).length) ++ frameBody zlib t p := by
  have hu := uncompressedLength_eq p
  cases t with
  | none =>
    simp only [encodePacketWithCompression, frameBody, ← hu, uncompressedLength, List.append_assoc]
  | some thresh =>
    simp only [encodePacketWithCompression, frameBody]
    rw [← uncompressedLength]
    split_ifs
    · rw [List.length_append, ← hu, show (encodeVarint 0).length = 1 by decide]
      simp only [List.append_assoc]
    · rw [List.length_append, varintSize_eq, List.append_assoc]

/-! ## What the reader accepts -/

section Reading

variable {zlib : Zlib} {m : Nat} {t : Option Nat}

theorem run_readBodyLoop (fuel : Nat) :
    ∀ (body : List UInt8) (remaining : Nat) (bs : List UInt8), remaining ≤ fuel →
      (readBodyLoop fuel body remaining).run bs =
        if remaining ≤ bs.length then (.ok (body ++ bs.take remaining), bs.drop remaining)
        else (.err earlyEof, []) := by
  induction fuel with
  | zero =>
    intro body remaining bs h
    obtain rfl : remaining = 0 := by omega
    simp [readBodyLoop]
  | succ fuel ih =>
    intro body remaining bs h
    rw [readBodyLoop]
    by_cases hr : remaining > 0
    · have hc : 0 < min remaining (64 * 1024) := by omega
      simp only [if_pos hr, List.length_append, List.length_replicate, Nat.le_add_right, if_true,
        Nat.add_sub_cancel_left, List.take_left, Reader.run_bind, Reader.run_readExact]
      generalize hchunk : min remaining (64 * 1024) = chunk at hc
      by_cases hb : chunk ≤ bs.length
      · simp only [if_pos hb]
        rw [ih _ _ _ (by omega), List.length_drop]
        by_cases hall : remaining ≤ bs.length
        · rw [if_pos (by omega), if_pos hall, List.append_assoc, List.drop_drop,
            show chunk + (remaining - chunk) = remaining by omega]
          congr 3
          rw [← List.take_append_drop chunk (bs.take remaining), List.take_take, List.drop_take,
            Nat.min_eq_left (by omega)]
        · rw [if_neg (by omega), if_neg hall]
      · simp only [if_neg hb]
        rw [if_neg (by omega)]
    · obtain rfl : remaining = 0 := by omega
      simp

/-- The error for a length the reader does not accept. -/
def lengthError (m : Nat) (length : Int32) : ProxyError :=
  if length < 0 ∨ asUsize length > m then .packetTooLarge (asUsize length)
  else .io .unexpectedEof "packet length cannot be zero"

/-- What the reader does with the stream behind the length. -/
def afterLength (zlib : Zlib) (m : Nat) (t : Option Nat) (length : Int32) (s : List UInt8) :
    Outcome ProxyError RawPacket × List UInt8 :=
  if 0 < length ∧ asUsize length ≤ m then
    if asUsize length ≤ s.length then (decodeBody zlib m t (s.take (asUsize length)), s.drop (asUsize length))
    else (.err earlyEof, [])
  else (.err (lengthError m length), s)

theorem run_readPacket (bs : List UInt8) :
    (readPacketWithCompression zlib m t).run bs = match readVarint.run bs with
      | (.ok length, s) => afterLength zlib m t length s
      | (.err e, s) => (.err e, s)
      | (.panic, s) => (.panic, s) := by
  rw [readPacketWithCompression, Reader.run_bind]
  rcases readVarint.run bs with ⟨r, s⟩
  cases r with
  | ok length =>
    simp only [afterLength, lengthError]
    by_cases hbad : length < 0 ∨ asUsize length > m
    · have hnot : ¬ (0 < length ∧ asUsize length ≤ m) := by
        rintro ⟨hpos, hle⟩
        rcases hbad with h | h
        · exact absurd (Int32.le_of_lt hpos) (Int32.not_le.mpr h)
        · omega
      simp only [if_pos hbad, if_neg hnot, Reader.run_fail]
    · simp only [if_neg hbad]
      by_cases hz : length = 0
      · subst hz
        rw [if_pos rfl, if_neg (by rintro ⟨h, -⟩; exact absurd h (by decide)), Reader.run_fail]
      · have hnn : 0 ≤ length := Int32.not_lt.mp fun h => hbad (Or.inl h)
        have hok : 0 < length ∧ asUsize length ≤ m :=
          ⟨Int32.lt_of_le_of_ne hnn (Ne.symm hz), by omega⟩
        simp only [if_neg hz, if_pos hok, Reader.run_bind]
        rw [run_readBodyLoop _ _ _ _ (Nat.le_refl _)]
        by_cases h : asUsize length ≤ s.length
        · simp only [if_pos h, List.nil_append, Reader.run_done]
        · simp only [if_neg h]
  | err e => rfl
  | panic => rfl

/-- The reader behind a length VarInt. -/
theorem run_readPacket_of_length {u s : List UInt8} {length : Int32} (hu : IsVarint u length) :
    (readPacketWithCompression zlib m t).run (u ++ s) = afterLength zlib m t length s := by
  rw [run_readPacket, run_readVarint_ok_iff.mpr ⟨u, rfl, hu⟩]

/-- The reader returns a packet exactly on a length VarInt within the limit,
followed by a body of that length which decodes to it. -/
theorem run_readPacket_ok_iff {bs rest : List UInt8} {p : RawPacket} :
    (readPacketWithCompression zlib m t).run bs = (.ok p, rest) ↔
      ∃ u length body, bs = u ++ body ++ rest ∧ IsVarint u length ∧ 0 < length ∧ asUsize length ≤ m ∧
        body.length = asUsize length ∧ decodeBody zlib m t body = .ok p := by
  constructor
  · intro h
    rw [run_readPacket] at h
    split at h
    · next length s hlen =>
      obtain ⟨u, rfl, hu⟩ := run_readVarint_ok_iff.mp hlen
      rw [afterLength] at h
      split_ifs at h with hok hs
      · simp only [Prod.mk.injEq] at h
        exact ⟨u, length, _, by rw [List.append_assoc, ← h.2, List.take_append_drop], hu, hok.1, hok.2,
          by rw [List.length_take]; omega, h.1⟩
      · cases h
      · cases h
    · cases h
    · cases h
  · rintro ⟨u, length, body, rfl, hu, hpos, hle, hbody, hd⟩
    rw [List.append_assoc, run_readPacket_of_length hu, afterLength, if_pos ⟨hpos, hle⟩,
      if_pos (by simp; omega), ← hbody, List.take_left, List.drop_left, hd]

theorem Inflated.takeToEnd_ne_panic (d : Inflated) (limit : Nat) : d.takeToEnd limit ≠ .panic := by
  unfold Inflated.takeToEnd
  split_ifs
  · simp
  · split <;> simp

theorem decodeBody_ne_panic (body : List UInt8) : decodeBody zlib m t body ≠ .panic := by
  have hid : ∀ bs : List UInt8, (decodeVarint bs >>= fun r =>
      (.ok (RawPacket.mk r.1 r.2) : Outcome ProxyError RawPacket)) ≠ .panic := by
    intro bs h
    rcases Outcome.bind_eq_panic.mp h with h | ⟨_, _, h⟩
    · exact decodeVarint_ne_panic bs h
    · cases h
  cases t with
  | none => exact hid body
  | some thresh =>
    intro h
    rw [decodeBody] at h
    rcases Outcome.bind_eq_panic.mp h with h | ⟨⟨dataLength, cursor⟩, -, h⟩
    · exact decodeVarint_ne_panic body h
    · dsimp only at h
      split_ifs at h
      · exact hid cursor h
      · rcases Outcome.bind_eq_panic.mp h with h | ⟨decompressed, -, h⟩
        · exact Inflated.takeToEnd_ne_panic _ _ h
        · split_ifs at h
          exact hid decompressed h

/-- No input makes the reader panic: the slice of the chunk loop is in range. -/
theorem run_readPacket_ne_panic (bs rest : List UInt8) :
    (readPacketWithCompression zlib m t).run bs ≠ (.panic, rest) := by
  intro h
  rw [run_readPacket] at h
  split at h
  · rw [afterLength] at h
    split_ifs at h
    · simp only [Prod.mk.injEq] at h
      exact decodeBody_ne_panic _ h.1
    · cases h
    · cases h
  · cases h
  · next hp => exact (run_readVarint_le hp).1 rfl

end Reading

end FrameMC

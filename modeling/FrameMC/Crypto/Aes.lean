import FrameMC.Error
import FrameMC.Lib.Runs
import FrameMC.Lib.Transducer

/-!
# The encrypted stream

`EncryptedStream` of `src/crypto/aes.rs`: a stream in AES-128-CFB8 both ways.
AES is an arbitrary function of a key and a block. The inner stream answers
every poll as it likes; what it has accepted and handed over is on record.
Whatever it answers, short of an error on a write, what it has accepted and what
is parked are the encryption of what was reported as written, and what reads
return is the decryption of what it handed over (`stream_transparent`).
-/

namespace FrameMC

/-! ## CFB8 -/

/-- Sixteen bytes: a key, a block or a shift register. -/
abbrev Block : Type := { bytes : List UInt8 // bytes.length = 16 }

namespace Block

/-- The byte of the key stream. -/
def first (block : Block) : UInt8 := block.val.headD 0

/-- Shift a byte in at the end. -/
def shift (block : Block) (b : UInt8) : Block :=
  ⟨block.val.tail ++ [b], by simp [block.property]⟩

end Block

/-- CFB8 forwards: the cipher byte goes into the register. -/
def cfb8Encryption (encipher : Block → Block) : Transducer Block UInt8 UInt8 where
  output iv p := p ^^^ (encipher iv).first
  next iv p := iv.shift (p ^^^ (encipher iv).first)

/-- CFB8 backwards. -/
def cfb8Decryption (encipher : Block → Block) : Transducer Block UInt8 UInt8 where
  output iv c := c ^^^ (encipher iv).first
  next iv c := iv.shift c

theorem cfb8_undoes (encipher : Block → Block) : (cfb8Decryption encipher).Undoes (cfb8Encryption encipher) := by
  intro iv p
  refine ⟨?_, rfl⟩
  show p ^^^ (encipher iv).first ^^^ (encipher iv).first = p
  rw [UInt8.xor_assoc, UInt8.xor_self, UInt8.xor_zero]

/-- A cipher with its key and where it has come to. -/
structure Cfb8 where
  key : Block
  iv : Block

/-- AES-128 of a key and a block. -/
abbrev Aes : Type := Block → Block → Block

namespace Cfb8

/-- `encrypt_blocks_inout_mut`. -/
def encryptBlocks (aes : Aes) (cipher : Cfb8) (data : List UInt8) : List UInt8 × Cfb8 :=
  ((cfb8Encryption (aes cipher.key)).outputs cipher.iv data,
    { cipher with iv := (cfb8Encryption (aes cipher.key)).after cipher.iv data })

/-- `decrypt_blocks_inout_mut`. -/
def decryptBlocks (aes : Aes) (cipher : Cfb8) (data : List UInt8) : List UInt8 × Cfb8 :=
  ((cfb8Decryption (aes cipher.key)).outputs cipher.iv data,
    { cipher with iv := (cfb8Decryption (aes cipher.key)).after cipher.iv data })

end Cfb8

/-! ## The inner stream -/

inductive Poll (α : Type) where
  | ready (a : α)
  | pending

/-- The outcome of a poll of a stream. -/
abbrev IoPoll (α : Type) : Type := Poll (Except ProxyError α)

/-- A buffer being read into: what is in it and how many more bytes it takes. -/
structure ReadBuf where
  filled : List UInt8
  remaining : Nat

/-- A stream that answers the `i`-th poll as it likes, within what it is offered. -/
structure InnerStream where
  accepted : List UInt8
  received : List UInt8
  polls : Nat
  onWrite : Nat → (offered : Nat) → IoPoll { n : Nat // n ≤ offered }
  onFlush : Nat → IoPoll Unit
  onShutdown : Nat → IoPoll Unit
  onRead : Nat → (capacity : Nat) → IoPoll { chunk : List UInt8 // chunk.length ≤ capacity }

namespace InnerStream

def pollWrite (inner : InnerStream) (buf : List UInt8) : IoPoll Nat × InnerStream :=
  match inner.onWrite inner.polls buf.length with
  | .ready (.ok n) =>
    (.ready (.ok n.val), { inner with accepted := inner.accepted ++ buf.take n.val, polls := inner.polls + 1 })
  | .ready (.error e) => (.ready (.error e), { inner with polls := inner.polls + 1 })
  | .pending => (.pending, { inner with polls := inner.polls + 1 })

def pollFlush (inner : InnerStream) : IoPoll Unit × InnerStream :=
  (inner.onFlush inner.polls, { inner with polls := inner.polls + 1 })

def pollShutdown (inner : InnerStream) : IoPoll Unit × InnerStream :=
  (inner.onShutdown inner.polls, { inner with polls := inner.polls + 1 })

def pollRead (inner : InnerStream) (buf : ReadBuf) : IoPoll Unit × ReadBuf × InnerStream :=
  match inner.onRead inner.polls buf.remaining with
  | .ready (.ok chunk) =>
    (.ready (.ok ()), ⟨buf.filled ++ chunk.val, buf.remaining - chunk.val.length⟩,
      { inner with received := inner.received ++ chunk.val, polls := inner.polls + 1 })
  | .ready (.error e) => (.ready (.error e), buf, { inner with polls := inner.polls + 1 })
  | .pending => (.pending, buf, { inner with polls := inner.polls + 1 })

/-- No write fails. -/
def TakesWrites (inner : InnerStream) : Prop := ∀ i offered e, inner.onWrite i offered ≠ .ready (.error e)

end InnerStream

/-! ## The stream -/

structure EncryptedStream where
  inner : Option InnerStream
  encryptor : Cfb8
  decryptor : Cfb8
  writeBuf : List UInt8
  writeCursor : Nat

namespace EncryptedStream

def new (inner : InnerStream) (sharedSecret : Block) : EncryptedStream :=
  ⟨some inner, ⟨sharedSecret, sharedSecret⟩, ⟨sharedSecret, sharedSecret⟩, [], 0⟩

/-- What has been encrypted and not been accepted. -/
def parked (stream : EncryptedStream) : List UInt8 := stream.writeBuf.drop stream.writeCursor

end EncryptedStream

def writeZero : ProxyError := .io .writeZero "failed to write buffered encrypted bytes to inner stream"

def notConnected : ProxyError := .io .notConnected "EncryptedStream inner stream is uninitialized or closed"

/-- What a drain leaves: the inner stream, the buffer and the cursor. -/
structure Drained where
  inner : InnerStream
  writeBuf : List UInt8
  writeCursor : Nat

/-- `flush_pending_write`. -/
def flushPendingWrite (inner : InnerStream) (writeBuf : List UInt8) (writeCursor : Nat) : IoPoll Unit × Drained :=
  if writeCursor < writeBuf.length then
    match inner.pollWrite (writeBuf.drop writeCursor) with
    | (.ready (.ok 0), inner) => (.ready (.error writeZero), ⟨inner, writeBuf, writeCursor⟩)
    | (.ready (.ok (n + 1)), inner) => flushPendingWrite inner writeBuf (writeCursor + (n + 1))
    | (.ready (.error e), inner) => (.ready (.error e), ⟨inner, writeBuf, writeCursor⟩)
    | (.pending, inner) => (.pending, ⟨inner, writeBuf, writeCursor⟩)
  else (.ready (.ok ()), ⟨inner, [], 0⟩)
termination_by writeBuf.length - writeCursor

namespace EncryptedStream

variable (aes : Aes)

/-- The stream with a drain's outcome in it. -/
def drained (stream : EncryptedStream) (d : Drained) : EncryptedStream :=
  { stream with inner := some d.inner, writeBuf := d.writeBuf, writeCursor := d.writeCursor }

def pollRead (buf : ReadBuf) (stream : EncryptedStream) : IoPoll Unit × ReadBuf × EncryptedStream :=
  match stream.inner with
  | none => (.ready (.error notConnected), buf, stream)
  | some inner =>
    match inner.pollRead buf with
    | (.ready (.ok ()), buf', inner) =>
      let beforeFilled := buf.filled.length
      let (newBytes, decryptor) := stream.decryptor.decryptBlocks aes (buf'.filled.drop beforeFilled)
      (.ready (.ok ()), { buf' with filled := buf'.filled.take beforeFilled ++ newBytes },
        { stream with inner := some inner, decryptor := decryptor })
    | (other, buf', inner) => (other, buf', { stream with inner := some inner })

/-- What `poll_write` does once nothing is parked. -/
def writeChunk (buf : List UInt8) (inner : InnerStream) (stream : EncryptedStream) : IoPoll Nat × EncryptedStream :=
  let chunkLen := min buf.length (64 * 1024)
  let (ciphertext, encryptor) := stream.encryptor.encryptBlocks aes (buf.take chunkLen)
  match inner.pollWrite ciphertext with
  | (.ready (.ok n), inner) =>
    if n < ciphertext.length then
      (.ready (.ok chunkLen), { stream with
        inner := some inner, encryptor := encryptor, writeBuf := ciphertext, writeCursor := n })
    else (.ready (.ok chunkLen), { stream with inner := some inner, encryptor := encryptor })
  | (.pending, inner) =>
    (.ready (.ok chunkLen), { stream with
      inner := some inner, encryptor := encryptor, writeBuf := ciphertext, writeCursor := 0 })
  | (.ready (.error e), inner) => (.ready (.error e), { stream with inner := some inner, encryptor := encryptor })

def pollWrite (buf : List UInt8) (stream : EncryptedStream) : IoPoll Nat × EncryptedStream :=
  match stream.inner with
  | none => (.ready (.error notConnected), stream)
  | some inner =>
    match flushPendingWrite inner stream.writeBuf stream.writeCursor with
    | (.ready (.error e), d) => (.ready (.error e), stream.drained d)
    | (.pending, d) => (.pending, stream.drained d)
    | (.ready (.ok ()), d) =>
      if buf.isEmpty then (.ready (.ok 0), stream.drained d)
      else writeChunk aes buf d.inner (stream.drained d)

/-- `poll_flush` and `poll_shutdown`: drain, then do the same on the inner stream. -/
def drainThen (poll : InnerStream → IoPoll Unit × InnerStream) (stream : EncryptedStream) :
    IoPoll Unit × EncryptedStream :=
  match stream.inner with
  | none => (.ready (.error notConnected), stream)
  | some inner =>
    match flushPendingWrite inner stream.writeBuf stream.writeCursor with
    | (.ready (.ok ()), d) => ((poll d.inner).1, { stream.drained d with inner := some (poll d.inner).2 })
    | (other, d) => (other, stream.drained d)

def pollFlush : EncryptedStream → IoPoll Unit × EncryptedStream := drainThen InnerStream.pollFlush

def pollShutdown : EncryptedStream → IoPoll Unit × EncryptedStream := drainThen InnerStream.pollShutdown

end EncryptedStream

/-! ## Draining -/

/-- The same stream further on: the same answers, and the same bytes handed over. -/
structure InnerStream.Onward (inner inner' : InnerStream) : Prop where
  onWrite : inner'.onWrite = inner.onWrite
  received : inner'.received = inner.received

theorem InnerStream.pollWrite_onward {inner inner' : InnerStream} {buf : List UInt8} {r : IoPoll Nat}
    (h : inner.pollWrite buf = (r, inner')) : inner.Onward inner' := by
  rw [pollWrite] at h
  split at h
  · cases h
    exact ⟨rfl, rfl⟩
  · cases h
    exact ⟨rfl, rfl⟩
  · cases h
    exact ⟨rfl, rfl⟩

theorem InnerStream.pollWrite_ok {inner inner' : InnerStream} {buf : List UInt8} {n : Nat}
    (h : inner.pollWrite buf = (.ready (.ok n), inner')) :
    n ≤ buf.length ∧ inner'.accepted = inner.accepted ++ buf.take n := by
  rw [pollWrite] at h
  split at h
  · next k _ =>
    cases h
    exact ⟨k.property, rfl⟩
  · cases h
  · cases h

theorem InnerStream.pollWrite_pending {inner inner' : InnerStream} {buf : List UInt8}
    (h : inner.pollWrite buf = (.pending, inner')) : inner'.accepted = inner.accepted := by
  rw [pollWrite] at h
  split at h
  · cases h
  · cases h
  · cases h
    rfl

theorem InnerStream.pollWrite_error {inner inner' : InnerStream} {buf : List UInt8} {e : ProxyError}
    (h : inner.pollWrite buf = (.ready (.error e), inner')) :
    inner'.accepted = inner.accepted ∧ ¬ inner.TakesWrites := by
  rw [pollWrite] at h
  split at h
  · cases h
  · next he =>
    cases h
    exact ⟨rfl, fun htakes => htakes _ _ _ he⟩
  · cases h

theorem InnerStream.Onward.trans {a b c : InnerStream} (h : a.Onward b) (h' : b.Onward c) : a.Onward c :=
  ⟨h'.onWrite.trans h.onWrite, h'.received.trans h.received⟩

theorem InnerStream.Onward.takesWrites {a b : InnerStream} (h : a.Onward b) (ha : a.TakesWrites) : b.TakesWrites := by
  intro i offered e
  rw [h.onWrite]
  exact ha i offered e

/-- A drain moves bytes from the front of what is parked to the end of what is
accepted; one that is through has moved them all. -/
structure DrainedFrom (inner : InnerStream) (parked : List UInt8) (r : IoPoll Unit) (d : Drained) : Prop where
  onward : inner.Onward d.inner
  moved : d.inner.accepted ++ d.writeBuf.drop d.writeCursor = inner.accepted ++ parked
  through : r = .ready (.ok ()) → d.writeBuf = [] ∧ d.writeCursor = 0

theorem flushPendingWrite_spec (inner : InnerStream) (writeBuf : List UInt8) (writeCursor : Nat) :
    DrainedFrom inner (writeBuf.drop writeCursor) (flushPendingWrite inner writeBuf writeCursor).1
      (flushPendingWrite inner writeBuf writeCursor).2 := by
  fun_induction flushPendingWrite inner writeBuf writeCursor with
  | case1 inner writeCursor hlt inner' hwrite =>
    obtain ⟨-, haccepted⟩ := InnerStream.pollWrite_ok hwrite
    refine ⟨InnerStream.pollWrite_onward hwrite, ?_, nofun⟩
    rw [haccepted, List.take_zero, List.append_nil]
  | case2 inner writeCursor hlt n inner' hwrite ih =>
    obtain ⟨-, haccepted⟩ := InnerStream.pollWrite_ok hwrite
    refine ⟨(InnerStream.pollWrite_onward hwrite).trans ih.onward, ?_, ih.through⟩
    rw [ih.moved, haccepted, List.append_assoc, ← List.drop_drop, List.take_append_drop]
  | case3 inner writeCursor hlt e inner' hwrite =>
    refine ⟨InnerStream.pollWrite_onward hwrite, ?_, nofun⟩
    rw [(InnerStream.pollWrite_error hwrite).1]
  | case4 inner writeCursor hlt inner' hwrite =>
    refine ⟨InnerStream.pollWrite_onward hwrite, ?_, nofun⟩
    rw [InnerStream.pollWrite_pending hwrite]
  | case5 inner writeCursor hlt =>
    refine ⟨⟨rfl, rfl⟩, ?_, fun _ => ⟨rfl, rfl⟩⟩
    rw [List.drop_eq_nil_of_le (Nat.le_of_not_lt hlt)]
    rfl

/-! ## The calls -/

section Calls

variable {aes : Aes} {stream : EncryptedStream} {inner : InnerStream}

/-- The plaintext a write reports as written. -/
def reportedBy (r : IoPoll Nat) (buf : List UInt8) : List UInt8 :=
  match r with
  | .ready (.ok n) => buf.take n
  | _ => []

/-- A call on the write side goes on with the same inner stream and the same decryptor. -/
structure Continues (stream stream' : EncryptedStream) (inner inner' : InnerStream) : Prop where
  connected : stream'.inner = some inner'
  onward : inner.Onward inner'
  decryptor : stream'.decryptor = stream.decryptor

/-- A call puts the encryption of some plaintext behind what is accepted or parked. -/
structure Puts (aes : Aes) (stream stream' : EncryptedStream) (inner inner' : InnerStream) (plain : List UInt8) :
    Prop where
  encryptor : stream'.encryptor = (stream.encryptor.encryptBlocks aes plain).2
  moved : inner'.accepted ++ stream'.parked =
    inner.accepted ++ stream.parked ++ (stream.encryptor.encryptBlocks aes plain).1

theorem Puts.nothing {stream' : EncryptedStream} {inner' : InnerStream} (hencryptor : stream'.encryptor = stream.encryptor)
    (hmoved : inner'.accepted ++ stream'.parked = inner.accepted ++ stream.parked) :
    Puts aes stream stream' inner inner' [] :=
  ⟨hencryptor, by rw [hmoved]; exact (List.append_nil _).symm⟩

theorem writeChunk_spec (buf : List UInt8) (inner : InnerStream) (hempty : stream.writeBuf = []) :
    ∃ inner', Continues stream (stream.writeChunk aes buf inner).2 inner inner' ∧ (inner.TakesWrites →
      Puts aes stream (stream.writeChunk aes buf inner).2 inner inner'
        (reportedBy (stream.writeChunk aes buf inner).1 buf)) := by
  have hparked : stream.parked = [] := by
    rw [EncryptedStream.parked, hempty, List.drop_nil]
  rw [EncryptedStream.writeChunk]
  generalize min buf.length (64 * 1024) = chunkLen
  simp only
  generalize hciphertext : (stream.encryptor.encryptBlocks aes (buf.take chunkLen)).1 = ciphertext
  rcases hwrite : inner.pollWrite ciphertext with ⟨(e | n) | _, inner'⟩
  · refine ⟨inner', ⟨rfl, InnerStream.pollWrite_onward hwrite, rfl⟩, fun htakes => ?_⟩
    exact absurd htakes (InnerStream.pollWrite_error hwrite).2
  · obtain ⟨hle, haccepted⟩ := InnerStream.pollWrite_ok hwrite
    simp only
    split
    · refine ⟨inner', ⟨rfl, InnerStream.pollWrite_onward hwrite, rfl⟩, fun _ => ⟨rfl, ?_⟩⟩
      show inner'.accepted ++ ciphertext.drop n = inner.accepted ++ stream.parked ++
        (stream.encryptor.encryptBlocks aes (buf.take chunkLen)).1
      rw [hciphertext, hparked, haccepted, List.append_assoc, List.take_append_drop, List.append_nil]
    · refine ⟨inner', ⟨rfl, InnerStream.pollWrite_onward hwrite, rfl⟩, fun _ => ⟨rfl, ?_⟩⟩
      show inner'.accepted ++ stream.parked = inner.accepted ++ stream.parked ++
        (stream.encryptor.encryptBlocks aes (buf.take chunkLen)).1
      rw [hciphertext, hparked, haccepted, List.take_of_length_le (by omega), List.append_nil, List.append_nil]
  · refine ⟨inner', ⟨rfl, InnerStream.pollWrite_onward hwrite, rfl⟩, fun _ => ⟨rfl, ?_⟩⟩
    show inner'.accepted ++ ciphertext.drop 0 = inner.accepted ++ stream.parked ++
      (stream.encryptor.encryptBlocks aes (buf.take chunkLen)).1
    rw [hciphertext, hparked, InnerStream.pollWrite_pending hwrite, List.append_nil]
    rfl

theorem drainThen_spec {poll : InnerStream → IoPoll Unit × InnerStream}
    (hpoll : ∀ inner, inner.Onward (poll inner).2 ∧ (poll inner).2.accepted = inner.accepted)
    (h : stream.inner = some inner) :
    ∃ inner', Continues stream (stream.drainThen poll).2 inner inner' ∧
      Puts aes stream (stream.drainThen poll).2 inner inner' [] ∧
      ((stream.drainThen poll).1 = .ready (.ok ()) → (stream.drainThen poll).2.parked = []) := by
  obtain ⟨honward, hmoved, hthrough⟩ := flushPendingWrite_spec inner stream.writeBuf stream.writeCursor
  rw [EncryptedStream.drainThen, h]
  simp only
  generalize flushPendingWrite inner stream.writeBuf stream.writeCursor = drained at honward hmoved hthrough
  obtain ⟨(e | _) | _, d⟩ := drained
  · exact ⟨d.inner, ⟨rfl, honward, rfl⟩, .nothing rfl hmoved, nofun⟩
  · obtain ⟨hbuf, hcursor⟩ := hthrough rfl
    obtain ⟨hon, haccepted⟩ := hpoll d.inner
    refine ⟨(poll d.inner).2, ⟨rfl, honward.trans hon, rfl⟩, .nothing rfl ?_, fun _ => ?_⟩
    · rw [haccepted]
      exact hmoved
    · show d.writeBuf.drop d.writeCursor = []
      rw [hbuf, List.drop_nil]
  · exact ⟨d.inner, ⟨rfl, honward, rfl⟩, .nothing rfl hmoved, nofun⟩

theorem pollWrite_spec (buf : List UInt8) (h : stream.inner = some inner) :
    ∃ inner', Continues stream (stream.pollWrite aes buf).2 inner inner' ∧ (inner.TakesWrites →
      Puts aes stream (stream.pollWrite aes buf).2 inner inner' (reportedBy (stream.pollWrite aes buf).1 buf)) := by
  obtain ⟨honward, hmoved, hthrough⟩ := flushPendingWrite_spec inner stream.writeBuf stream.writeCursor
  rw [EncryptedStream.pollWrite, h]
  simp only
  generalize flushPendingWrite inner stream.writeBuf stream.writeCursor = drained at honward hmoved hthrough
  obtain ⟨(e | _) | _, d⟩ := drained
  · exact ⟨d.inner, ⟨rfl, honward, rfl⟩, fun _ => .nothing rfl hmoved⟩
  · obtain ⟨hbuf, hcursor⟩ := hthrough rfl
    simp only
    split
    · exact ⟨d.inner, ⟨rfl, honward, rfl⟩, fun _ => .nothing rfl hmoved⟩
    · obtain ⟨inner', hcontinues, hputs⟩ := @writeChunk_spec aes (stream.drained d) buf d.inner hbuf
      refine ⟨inner', ⟨hcontinues.connected, honward.trans hcontinues.onward, hcontinues.decryptor⟩, fun htakes => ?_⟩
      obtain ⟨hencryptor, hput⟩ := hputs (honward.takesWrites htakes)
      refine ⟨hencryptor, ?_⟩
      rw [hput]
      congr 1
  · exact ⟨d.inner, ⟨rfl, honward, rfl⟩, fun _ => .nothing rfl hmoved⟩

/-- A read leaves the write side, and returns the decryption of what it is handed. -/
theorem pollRead_spec (buf : ReadBuf) (h : stream.inner = some inner) :
    ∃ inner' chunk, (stream.pollRead aes buf).2.2 = { stream with
        inner := some inner', decryptor := (stream.decryptor.decryptBlocks aes chunk).2 } ∧
      inner'.onWrite = inner.onWrite ∧ inner'.accepted = inner.accepted ∧ inner'.received = inner.received ++ chunk ∧
      (stream.pollRead aes buf).2.1.filled = buf.filled ++ (stream.decryptor.decryptBlocks aes chunk).1 := by
  rw [EncryptedStream.pollRead, h]
  simp only [InnerStream.pollRead]
  generalize inner.onRead inner.polls buf.remaining = answer
  rcases answer with (e | chunk) | _
  · exact ⟨{ inner with polls := inner.polls + 1 }, [], rfl, rfl, rfl, (List.append_nil _).symm,
      (List.append_nil _).symm⟩
  · refine ⟨{ inner with received := inner.received ++ chunk.val, polls := inner.polls + 1 }, chunk.val, ?_, rfl, rfl,
      rfl, ?_⟩
    · simp only [List.drop_left]
    · simp only [List.drop_left, List.take_left]
  · exact ⟨{ inner with polls := inner.polls + 1 }, [], rfl, rfl, rfl, (List.append_nil _).symm,
      (List.append_nil _).symm⟩

end Calls

/-! ## Runs -/

/-- A stream in use: the plaintext reported as written, and the plaintext reads have returned. -/
structure Session where
  stream : EncryptedStream
  reported : List UInt8
  returned : List UInt8

/-- A call of one of the stream's methods. -/
inductive StreamCall where
  | write (buf : List UInt8)
  | flush
  | shutdown
  | read (buf : ReadBuf)

namespace Session

def new (inner : InnerStream) (sharedSecret : Block) : Session := ⟨.new inner sharedSecret, [], []⟩

def step (aes : Aes) (s : Session) : StreamCall → Session
  | .write buf =>
    let (r, stream) := s.stream.pollWrite aes buf
    { s with stream := stream, reported := s.reported ++ reportedBy r buf }
  | .flush => { s with stream := s.stream.pollFlush.2 }
  | .shutdown => { s with stream := s.stream.pollShutdown.2 }
  | .read buf =>
    let (_, buf', stream) := s.stream.pollRead aes buf
    { s with stream := stream, returned := s.returned ++ buf'.filled.drop buf.filled.length }

/-- What is accepted and what is parked are the encryption of what was reported. -/
structure Sent (aes : Aes) (secret : Block) (s : Session) (inner : InnerStream) : Prop where
  connected : s.stream.inner = some inner
  takes : inner.TakesWrites
  encryptor : s.stream.encryptor = ⟨secret, (cfb8Encryption (aes secret)).after secret s.reported⟩
  sent : inner.accepted ++ s.stream.parked = (cfb8Encryption (aes secret)).outputs secret s.reported

/-- What was returned is the decryption of what was handed over. -/
structure Received (aes : Aes) (secret : Block) (s : Session) (inner : InnerStream) : Prop where
  connected : s.stream.inner = some inner
  decryptor : s.stream.decryptor = ⟨secret, (cfb8Decryption (aes secret)).after secret inner.received⟩
  returned : s.returned = (cfb8Decryption (aes secret)).outputs secret inner.received

variable {aes : Aes} {secret : Block} {s s' : Session} {inner : InnerStream}

theorem Sent.puts (h : s.Sent aes secret inner) {inner' : InnerStream} {plain : List UInt8}
    (hcontinues : Continues s.stream s'.stream inner inner') (hputs : Puts aes s.stream s'.stream inner inner' plain)
    (hreported : s'.reported = s.reported ++ plain) : s'.Sent aes secret inner' := by
  refine ⟨hcontinues.connected, hcontinues.onward.takesWrites h.takes, ?_, ?_⟩
  · rw [hputs.encryptor, h.encryptor, hreported, Transducer.after_append]
    rfl
  · rw [hputs.moved, h.sent, hreported, Transducer.outputs_append, h.encryptor]
    rfl

theorem Received.continues (h : s.Received aes secret inner) {inner' : InnerStream}
    (hcontinues : Continues s.stream s'.stream inner inner') (hreturned : s'.returned = s.returned) :
    s'.Received aes secret inner' := by
  refine ⟨hcontinues.connected, ?_, ?_⟩
  · rw [hcontinues.decryptor, h.decryptor, hcontinues.onward.received]
  · rw [hreturned, h.returned, hcontinues.onward.received]

theorem sent_step (h : ∃ inner, s.Sent aes secret inner) (call : StreamCall) :
    ∃ inner, (s.step aes call).Sent aes secret inner := by
  obtain ⟨inner, h⟩ := h
  cases call with
  | write buf =>
    obtain ⟨inner', hcontinues, hputs⟩ := @pollWrite_spec aes s.stream inner buf h.connected
    exact ⟨inner', h.puts hcontinues (hputs h.takes) rfl⟩
  | flush =>
    obtain ⟨inner', hcontinues, hputs, -⟩ :=
      @drainThen_spec aes s.stream inner InnerStream.pollFlush (fun _ => ⟨⟨rfl, rfl⟩, rfl⟩) h.connected
    exact ⟨inner', h.puts hcontinues hputs (List.append_nil _).symm⟩
  | shutdown =>
    obtain ⟨inner', hcontinues, hputs, -⟩ :=
      @drainThen_spec aes s.stream inner InnerStream.pollShutdown (fun _ => ⟨⟨rfl, rfl⟩, rfl⟩) h.connected
    exact ⟨inner', h.puts hcontinues hputs (List.append_nil _).symm⟩
  | read buf =>
    obtain ⟨inner', chunk, hstream, honWrite, haccepted, -, -⟩ := @pollRead_spec aes s.stream inner buf h.connected
    refine ⟨inner', ⟨congrArg EncryptedStream.inner hstream, ?_, (congrArg EncryptedStream.encryptor hstream).trans h.encryptor, ?_⟩⟩
    · intro i offered e
      rw [honWrite]
      exact h.takes i offered e
    · show inner'.accepted ++ EncryptedStream.parked (s.stream.pollRead aes buf).2.2 = _
      rw [hstream, haccepted]
      exact h.sent

theorem received_step (h : ∃ inner, s.Received aes secret inner) (call : StreamCall) :
    ∃ inner, (s.step aes call).Received aes secret inner := by
  obtain ⟨inner, h⟩ := h
  cases call with
  | write buf =>
    obtain ⟨inner', hcontinues, -⟩ := @pollWrite_spec aes s.stream inner buf h.connected
    exact ⟨inner', h.continues hcontinues rfl⟩
  | flush =>
    obtain ⟨inner', hcontinues, -, -⟩ :=
      @drainThen_spec aes s.stream inner InnerStream.pollFlush (fun _ => ⟨⟨rfl, rfl⟩, rfl⟩) h.connected
    exact ⟨inner', h.continues hcontinues rfl⟩
  | shutdown =>
    obtain ⟨inner', hcontinues, -, -⟩ :=
      @drainThen_spec aes s.stream inner InnerStream.pollShutdown (fun _ => ⟨⟨rfl, rfl⟩, rfl⟩) h.connected
    exact ⟨inner', h.continues hcontinues rfl⟩
  | read buf =>
    obtain ⟨inner', chunk, hstream, -, -, hreceived, hfilled⟩ := @pollRead_spec aes s.stream inner buf h.connected
    refine ⟨inner', ⟨congrArg EncryptedStream.inner hstream, (congrArg EncryptedStream.decryptor hstream).trans ?_, ?_⟩⟩
    · rw [hreceived, Transducer.after_append, h.decryptor]
      rfl
    · show s.returned ++ (s.stream.pollRead aes buf).2.1.filled.drop buf.filled.length = _
      rw [hfilled, List.drop_left, hreceived, Transducer.outputs_append, h.returned, h.decryptor]
      rfl

/-- The session after some calls. -/
def after (aes : Aes) (secret : Block) (inner : InnerStream) (calls : List StreamCall) : Session :=
  runAll (step aes) (.new inner secret) calls

theorem sent_after (hfresh : inner.accepted = []) (htakes : inner.TakesWrites) (calls : List StreamCall) :
    ∃ inner', (after aes secret inner calls).Sent aes secret inner' := by
  have hnew : ∃ i, (new inner secret).Sent aes secret i := by
    refine ⟨inner, rfl, htakes, rfl, ?_⟩
    rw [hfresh]
    rfl
  exact runAll_invariant (I := fun s : Session => ∃ i, s.Sent aes secret i) (fun s call h _ => sent_step h call) hnew
    (along_true _ calls)

theorem received_after (hfresh : inner.received = []) (calls : List StreamCall) :
    ∃ inner', (after aes secret inner calls).Received aes secret inner' := by
  have hnew : ∃ i, (new inner secret).Received aes secret i := by
    refine ⟨inner, rfl, ?_, ?_⟩
    · rw [hfresh]
      rfl
    · rw [hfresh]
      rfl
  exact runAll_invariant (I := fun s : Session => ∃ i, s.Received aes secret i) (fun s call h _ => received_step h call) hnew
    (along_true _ calls)

end Session

/-- After any calls, on a fresh inner stream that takes or keeps waiting what it
is offered: what it has accepted and what is parked are the encryption of the
plaintext reported as written; a flush that is through leaves nothing parked;
reads have returned the decryption of what it has handed over. So a peer that is
handed what this side's inner stream has accepted, cut up in any way, has
returned a first part of what was written, and all of it once it has been handed
everything and nothing is parked. -/
theorem stream_transparent (aes : Aes) (secret : Block) (inner : InnerStream) (haccepted : inner.accepted = [])
    (hreceived : inner.received = []) (htakes : inner.TakesWrites) (calls : List StreamCall) :
    ∃ inner', (Session.after aes secret inner calls).stream.inner = some inner' ∧
      inner'.accepted ++ (Session.after aes secret inner calls).stream.parked =
        (cfb8Encryption (aes secret)).outputs secret (Session.after aes secret inner calls).reported ∧
      (Session.after aes secret inner calls).returned =
        (cfb8Decryption (aes secret)).outputs secret inner'.received ∧
      ((Session.after aes secret inner calls).stream.pollFlush.1 = .ready (.ok ()) →
        (Session.after aes secret inner calls).stream.pollFlush.2.parked = []) ∧
      ∀ (peer peer' : InnerStream) (peerCalls : List StreamCall), peer.received = [] →
        (Session.after aes secret peer peerCalls).stream.inner = some peer' → peer'.received <+: inner'.accepted →
        (Session.after aes secret peer peerCalls).returned <+: (Session.after aes secret inner calls).reported ∧
          (peer'.received = inner'.accepted → (Session.after aes secret inner calls).stream.parked = [] →
            (Session.after aes secret peer peerCalls).returned = (Session.after aes secret inner calls).reported) := by
  obtain ⟨inner', hsent⟩ := @Session.sent_after aes secret inner haccepted htakes calls
  obtain ⟨inner'', hread⟩ := @Session.received_after aes secret inner hreceived calls
  obtain rfl : inner' = inner'' := Option.some.inj (hsent.connected.symm.trans hread.connected)
  refine ⟨inner', hsent.connected, hsent.sent, hread.returned, ?_, fun peer peer' peerCalls hpeer hpeer' hpre => ?_⟩
  · obtain ⟨-, -, -, hthrough⟩ := @drainThen_spec aes _ inner' InnerStream.pollFlush
      (fun _ => ⟨⟨rfl, rfl⟩, rfl⟩) hsent.connected
    exact hthrough
  · obtain ⟨peer'', hpeerRead⟩ := @Session.received_after aes secret peer hpeer peerCalls
    obtain rfl : peer' = peer'' := Option.some.inj (hpeer'.symm.trans hpeerRead.connected)
    have hundo := (cfb8_undoes (aes secret)).outputs secret (Session.after aes secret inner calls).reported
    rw [hpeerRead.returned]
    constructor
    · rw [← hundo, ← hsent.sent]
      exact Transducer.outputs_prefix _ (hpre.trans (List.prefix_append ..)) secret
    · intro hall hparked
      have hsent' := hsent.sent
      rw [hparked, List.append_nil] at hsent'
      rw [hall, hsent', hundo]

/-- An inner stream that keeps every other write waiting and takes half of the others. -/
def haltingStream : InnerStream where
  accepted := []
  received := []
  polls := 0
  onWrite i offered :=
    if i % 2 = 0 then .pending else .ready (.ok ⟨(offered + 1) / 2, by omega⟩)
  onFlush _ := .ready (.ok ())
  onShutdown _ := .ready (.ok ())
  onRead _ _ := .pending

theorem stream_transparent_halting :
    ∃ inner', (Session.after (fun _ block => block) ⟨List.replicate 16 0, rfl⟩ haltingStream
        [.write [1, 2, 3], .flush, .flush, .write [4]]).stream.inner = some inner' ∧
      inner'.accepted ++ (Session.after (fun _ block => block) ⟨List.replicate 16 0, rfl⟩ haltingStream
        [.write [1, 2, 3], .flush, .flush, .write [4]]).stream.parked =
      (cfb8Encryption id).outputs ⟨List.replicate 16 0, rfl⟩ (Session.after (fun _ block => block)
        ⟨List.replicate 16 0, rfl⟩ haltingStream [.write [1, 2, 3], .flush, .flush, .write [4]]).reported := by
  have htakes : haltingStream.TakesWrites := by
    intro i offered e
    show (if i % 2 = 0 then Poll.pending else _) ≠ _
    split
    · exact nofun
    · exact nofun
  obtain ⟨inner', hinner, hsent, -⟩ := stream_transparent (fun _ block => block) ⟨List.replicate 16 0, rfl⟩
    haltingStream rfl rfl htakes [.write [1, 2, 3], .flush, .flush, .write [4]]
  exact ⟨inner', hinner, hsent⟩

end FrameMC

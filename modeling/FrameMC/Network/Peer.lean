import FrameMC.Lib.Effect
import FrameMC.Network.Wire

/-!
# Talking to a peer

Before the Play state the proxy and a peer speak in turn. A peer is its wire and
what reading from it will give; `Talk` is a computation on one, and an error
leaves what was exchanged.
-/

namespace FrameMC

open ByteStream

/-- What a read finds. A pause is longer than the ten seconds that reads with a
time limit wait; the others wait it out. -/
inductive PeerRead where
  | packet (p : RawPacket)
  | failed (e : ProxyError)
  | pause

/-- A connection and what reading from it gives, one read after the other;
behind that the stream has ended. -/
structure Peer where
  wire : Wire
  reads : List PeerRead

/-- A connection just made. -/
def Peer.connected (fate : Nat → WriteFate) (reads : List PeerRead) : Peer := ⟨⟨[], fate, 0⟩, reads⟩

/-- The next packet or failure, and the reads behind it. -/
def nextRead : List PeerRead → Except ProxyError RawPacket × List PeerRead
  | [] => (.error streamEof, [])
  | .packet p :: reads => (.ok p, reads)
  | .failed e :: reads => (.error e, reads)
  | .pause :: reads => nextRead reads

abbrev Talk (α : Type) : Type := Effect Peer ProxyError α

namespace Talk

/-- `read_packet_with_compression`. -/
def read (threshold : Option Nat) : Talk RawPacket := fun peer =>
  match nextRead peer.reads with
  | (.ok p, reads) => (.ok p, ⟨peer.wire.received p threshold, reads⟩)
  | (.error e, reads) => (.error e, ⟨peer.wire, reads⟩)

/-- The same under a timeout of ten seconds, which ends with `late`. -/
def readWithin (threshold : Option Nat) (late : ProxyError) : Talk RawPacket := fun peer =>
  match peer.reads with
  | .pause :: reads => (.error late, { peer with reads := reads })
  | _ => read threshold peer

/-- `write_packet_with_compression`. -/
def write (p : RawPacket) (threshold : Option Nat) (origin : Origin) : Talk Unit := fun peer =>
  let (r, w) := peer.wire.write p threshold origin
  (r, { peer with wire := w })

def flush : Talk Unit := fun peer =>
  let (r, w) := peer.wire.flush
  (r, { peer with wire := w })

/-- A panic ends the task as an error does. -/
def lift {σ α : Type} (x : Outcome ProxyError α) : Effect σ ProxyError α :=
  match x with
  | .ok a => pure a
  | .err e => Effect.throw e
  | .panic => Effect.throw (.io .other "task panicked")

end Talk

end FrameMC

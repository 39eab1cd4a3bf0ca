import FrameMC.Network.Codec

/-!
# Wires

A connection as the proxy sees it: the packets exchanged on it, each with the
threshold its frame was made or read with, and what becomes of its writes,
which is the network's choice.
-/

namespace FrameMC

/-- What becomes of a write: it goes out, it fails before anything goes out,
or the packet goes out and the flush behind it fails. -/
inductive WriteFate where
  | done
  | lost (e : ProxyError)
  | flushFailed (e : ProxyError)

/-- What the proxy writes a packet for: to pass on one it received, to stand
for a Login (Play) it withheld, or on its own behalf. -/
inductive Origin where
  | relayed
  | respawn
  | own
  deriving DecidableEq, Repr

/-- A packet on a wire, with the threshold of its frame. -/
inductive Event where
  | received (packet : RawPacket) (threshold : Option Nat)
  | sent (packet : RawPacket) (threshold : Option Nat) (origin : Origin)
  deriving DecidableEq, Repr

namespace Event

def packet : Event → RawPacket
  | received p _ => p
  | sent p _ _ => p

def threshold : Event → Option Nat
  | received _ t => t
  | sent _ t _ => t

/-- The packets the peer was sent, in order. -/
def delivered (log : List Event) : List RawPacket := log.filterMap fun
  | sent p _ _ => some p
  | received _ _ => none

@[simp] theorem delivered_nil : delivered [] = [] := rfl

@[simp] theorem delivered_append (log more : List Event) :
    delivered (log ++ more) = delivered log ++ delivered more := List.filterMap_append

@[simp] theorem delivered_sent (p : RawPacket) (t : Option Nat) (origin : Origin) :
    delivered [.sent p t origin] = [p] := rfl

/-- The packets the peer has sent, in order. -/
def arrived (log : List Event) : List RawPacket := log.filterMap fun
  | received p _ => some p
  | sent _ _ _ => none

@[simp] theorem arrived_append (log more : List Event) :
    arrived (log ++ more) = arrived log ++ arrived more := List.filterMap_append

end Event

structure Wire where
  log : List Event
  /-- What becomes of the `n`-th write or flush. -/
  fate : Nat → WriteFate
  writes : Nat

namespace Wire

def received (w : Wire) (p : RawPacket) (t : Option Nat) : Wire := { w with log := w.log ++ [.received p t] }

/-- `write_packet_with_compression`. -/
def write (w : Wire) (p : RawPacket) (t : Option Nat) (origin : Origin) : Except ProxyError Unit × Wire :=
  match w.fate w.writes with
  | .done => (.ok (), { w with log := w.log ++ [.sent p t origin], writes := w.writes + 1 })
  | .lost e => (.error e, { w with writes := w.writes + 1 })
  | .flushFailed e => (.error e, { w with log := w.log ++ [.sent p t origin], writes := w.writes + 1 })

/-- `AsyncWriteExt::flush`. -/
def flush (w : Wire) : Except ProxyError Unit × Wire :=
  match w.fate w.writes with
  | .done => (.ok (), { w with writes := w.writes + 1 })
  | .lost e => (.error e, { w with writes := w.writes + 1 })
  | .flushFailed e => (.error e, { w with writes := w.writes + 1 })

/-- What was exchanged since the wire was `start`. -/
def since (start w : Wire) : List Event := w.log.drop start.log.length

theorem since_self (w : Wire) : w.since w = [] := List.drop_length

theorem since_of_append {w w' : Wire} {more : List Event} (h : w'.log = w.log ++ more) : w.since w' = more := by
  rw [since, h, List.drop_left]

/-- Whatever is added to the log is added to what was exchanged since the start. -/
theorem since_append {start w w' : Wire} {more : List Event} (hlog : w.log = start.log ++ start.since w)
    (h : w'.log = w.log ++ more) :
    start.since w' = start.since w ++ more ∧ w'.log = start.log ++ start.since w' := by
  have hsince : start.since w' = start.since w ++ more := by
    rw [since, h, hlog, List.append_assoc, List.drop_left]
  exact ⟨hsince, by rw [hsince, h, ← List.append_assoc, ← hlog]⟩

/-- Every write on the wire goes out. -/
def Reliable (w : Wire) : Prop := ∀ n, w.fate n = .done

/-- The next write fails before anything goes out. -/
def losesNext (w : Wire) : Bool :=
  match w.fate w.writes with
  | .lost _ => true
  | _ => false

theorem write_log_eq (w : Wire) (p : RawPacket) (t : Option Nat) (origin : Origin) :
    (w.write p t origin).2.log = w.log ++ if w.losesNext then [] else [.sent p t origin] := by
  unfold write losesNext
  cases w.fate w.writes <;> simp

theorem write_log (w : Wire) (p : RawPacket) (t : Option Nat) (origin : Origin) :
    (w.write p t origin).2.log = w.log ∨ (w.write p t origin).2.log = w.log ++ [.sent p t origin] := by
  rw [write_log_eq]
  split
  · exact Or.inl (List.append_nil _)
  · exact Or.inr rfl

@[simp] theorem write_fate (w : Wire) (p : RawPacket) (t : Option Nat) (origin : Origin) :
    (w.write p t origin).2.fate = w.fate := by
  unfold write
  split <;> rfl

@[simp] theorem flush_log (w : Wire) : w.flush.2.log = w.log := by
  unfold flush
  split <;> rfl

@[simp] theorem flush_fate (w : Wire) : w.flush.2.fate = w.fate := by
  unfold flush
  split <;> rfl

theorem Reliable.write {w : Wire} (h : w.Reliable) (p : RawPacket) (t : Option Nat) (origin : Origin) :
    w.write p t origin = (.ok (), { w with log := w.log ++ [.sent p t origin], writes := w.writes + 1 }) := by
  rw [Wire.write, h]

theorem Reliable.flush {w : Wire} (h : w.Reliable) :
    w.flush = (.ok (), { w with writes := w.writes + 1 }) := by
  rw [Wire.flush, h]

end Wire

end FrameMC

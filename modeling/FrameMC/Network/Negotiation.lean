import FrameMC.Network.Framing
import FrameMC.Network.Peer

/-!
# Compression, as the peers negotiate it

A connection starts without compression. In the Login state the packet with id
3 that travels towards the client sets the threshold for what follows, in both
directions; LoginSuccess ends that state, and the threshold with it stays.
`InSync` says that every packet exchanged was framed with what had been
negotiated before it, and then a peer that reads with its own threshold reads
exactly what it was sent (`InSyncFrom.peerReads`).
-/

namespace FrameMC

open ByteStream

/-- Where a connection leads from the proxy: to a client, or to a backend. -/
inductive Side where
  | client
  | backend
  deriving DecidableEq, Repr

/-- What has been negotiated on a connection: the threshold, and whether it is
still in the Login state. -/
structure Negotiation where
  threshold : Option Nat
  login : Bool
  deriving DecidableEq, Repr

namespace Negotiation

def start : Negotiation := ⟨none, true⟩

/-- What a packet towards the client changes: a SetCompression sets the
threshold, or clears it if it is negative, and a LoginSuccess ends the Login state. -/
def next (n : Negotiation) (p : RawPacket) : Negotiation :=
  if n.login then
    match SetCompressionPacket.decode p with
    | .ok set => { n with threshold := if set.threshold < 0 then none else some (asUsize set.threshold) }
    | _ => { n with login := p.id ≠ 0x02 }
  else n

end Negotiation

/-- The packet of an event if it travels towards the client. -/
def Side.clientbound : Side → Event → Option RawPacket
  | client, .sent p _ _ => some p
  | backend, .received p _ => some p
  | _, _ => none

/-- What is negotiated once an event has happened. -/
def Side.after (side : Side) (n : Negotiation) (e : Event) : Negotiation :=
  match side.clientbound e with
  | some p => n.next p
  | none => n

/-- From a stage on, every packet is framed with what was negotiated before it. -/
def InSyncFrom (side : Side) : Negotiation → List Event → Prop
  | _, [] => True
  | n, e :: log => e.threshold = n.threshold ∧ InSyncFrom side (side.after n e) log

/-- Every packet exchanged was framed with what had been negotiated before it. -/
def InSync (side : Side) (log : List Event) : Prop := InSyncFrom side .start log

/-- What has been negotiated in the course of an exchange. -/
def negotiated (side : Side) (log : List Event) : Negotiation := log.foldl side.after .start

/-- The packet is a SetCompression with this threshold. -/
def Carries (p : RawPacket) (t : Nat) : Prop :=
  ∃ set, SetCompressionPacket.decode p = .ok set ∧ 0 ≤ set.threshold ∧ asUsize set.threshold = t

/-- Without compression up to a SetCompression that is sent, if there is one,
and with its threshold from there on. -/
def SwitchedTo : Option Nat → List Event → Prop
  | none, log => ∀ e ∈ log, e.threshold = none
  | some t, log => ∃ before p origin after, log = before ++ .sent p none origin :: after ∧ Carries p t ∧
      (∀ e ∈ before, e.threshold = none) ∧ ∀ e ∈ after, e.threshold = some t

theorem SwitchedTo.snoc {t : Option Nat} {log : List Event} (h : SwitchedTo t log) {e : Event}
    (he : e.threshold = t) : SwitchedTo t (log ++ [e]) := by
  cases t with
  | none =>
    intro e' he'
    rcases List.mem_append.mp he' with he' | he'
    · exact h e' he'
    · rwa [List.mem_singleton.mp he']
  | some t =>
    obtain ⟨before, p, origin, after, rfl, hp, hbefore, hafter⟩ := h
    refine ⟨before, p, origin, after ++ [e], by rw [List.append_assoc, List.cons_append], hp, hbefore, ?_⟩
    intro e' he'
    rcases List.mem_append.mp he' with he' | he'
    · exact hafter e' he'
    · rwa [List.mem_singleton.mp he']

theorem inSyncFrom_snoc {side : Side} {n : Negotiation} {log : List Event} {e : Event} :
    InSyncFrom side n (log ++ [e]) ↔
      InSyncFrom side n log ∧ e.threshold = (log.foldl side.after n).threshold := by
  induction log generalizing n with
  | nil => simp only [List.nil_append, InSyncFrom, List.foldl_nil, and_true, true_and]
  | cons e' log ih => simp only [List.cons_append, InSyncFrom, List.foldl_cons, ih, and_assoc]

namespace Negotiation

variable {n : Negotiation} {p : RawPacket}

/-- Only the packet with id 3 changes the threshold. -/
theorem next_threshold (h : p.id ≠ 0x03) : (n.next p).threshold = n.threshold := by
  unfold next
  rw [SetCompressionPacket.decode, if_pos h]
  split <;> rfl

/-- A threshold that is set is one a SetCompression carries. -/
theorem carries_of_next {t : Nat} (h : (n.next p).threshold = some t) : n.threshold = some t ∨ Carries p t := by
  unfold next at h
  split at h
  · split at h
    · next set hdecode =>
      simp only at h
      split at h
      · cases h
      · next hpos => exact Or.inr ⟨set, hdecode, Int32.not_lt.mp hpos, Option.some.inj h⟩
    · exact Or.inl h
  · exact Or.inl h

theorem next_of_ne (h3 : p.id ≠ 0x03) (h2 : p.id ≠ 0x02) : n.next p = n := by
  unfold next
  rw [SetCompressionPacket.decode, if_pos h3]
  split
  · next hl => simp only [ne_eq, h2, not_false_eq_true, decide_true, ← hl]
  · rfl

theorem next_loginSuccess (h : p.id = 0x02) (t : Option Nat) (login : Bool) :
    (Negotiation.mk t login).next p = ⟨t, false⟩ := by
  have h3 : p.id ≠ 0x03 := by
    rw [h]
    decide
  unfold next
  rw [SetCompressionPacket.decode, if_pos h3]
  cases login
  · rfl
  · simp only [if_true, h, ne_eq, not_true_eq_false, decide_false]

theorem next_setCompression (h : p.id = 0x03) {x : Int32 × List UInt8} (hd : decodeVarint p.payload = .ok x)
    (hx : ¬ x.1 < 0) : start.next p = ⟨some (asUsize x.1), true⟩ := by
  obtain ⟨threshold, rest⟩ := x
  have hdecode : SetCompressionPacket.decode p = .ok ⟨threshold⟩ := by
    rw [SetCompressionPacket.decode, if_neg (not_not.mpr h), hd]
    rfl
  unfold next
  rw [hdecode]
  simp only [start, if_true, if_neg hx]

end Negotiation

/-! ## On a wire -/

/-- The wire is in sync, and this is what has been negotiated; towards a client
the threshold was set once, if at all. -/
structure Wire.At (side : Side) (n : Negotiation) (w : Wire) : Prop where
  inSync : InSync side w.log
  negotiated : negotiated side w.log = n
  switched : side = .client → SwitchedTo n.threshold w.log

/-- The wire is in sync. -/
def Wire.Synced (side : Side) (w : Wire) : Prop := ∃ n, w.At side n

/-- The wire is in sync, and this is the threshold. -/
def Wire.Uses (side : Side) (t : Option Nat) (w : Wire) : Prop := ∃ n, w.At side n ∧ n.threshold = t

/-- The packet does not change a threshold that is set. -/
def Negotiation.Allows (n : Negotiation) (p : RawPacket) : Prop :=
  n.threshold = none ∨ (n.next p).threshold = n.threshold

namespace Wire

variable {side : Side} {n : Negotiation} {t : Option Nat} {w w' : Wire}

theorem At.synced (h : w.At side n) : w.Synced side := ⟨n, h⟩

theorem Uses.synced (h : w.Uses side t) : w.Synced side := ⟨h.choose, h.choose_spec.1⟩

theorem At.uses (h : w.At side n) : w.Uses side n.threshold := ⟨n, h, rfl⟩

theorem At.of_nil (side : Side) (h : w.log = []) : w.At side .start := by
  refine ⟨by rw [h]; trivial, by rw [h]; rfl, fun _ => ?_⟩
  rw [h]
  exact nofun

theorem At.congr_log (h : w.At side n) (hlog : w'.log = w.log) : w'.At side n :=
  ⟨hlog ▸ h.inSync, hlog ▸ h.negotiated, fun hside => hlog ▸ h.switched hside⟩

theorem At.event (h : w.At side n) {e : Event} (he : e.threshold = n.threshold) (hlog : w'.log = w.log ++ [e])
    (hallows : side = .client → ∀ p ∈ side.clientbound e, n.Allows p) : w'.At side (side.after n e) := by
  have hnegotiated := h.negotiated
  refine ⟨?_, ?_, fun hside => ?_⟩
  · rw [hlog]
    refine inSyncFrom_snoc.mpr ⟨h.inSync, ?_⟩
    rw [he, ← hnegotiated]
    rfl
  · rw [hlog, FrameMC.negotiated, List.foldl_append, ← FrameMC.negotiated, hnegotiated]
    rfl
  · have hswitched := h.switched hside
    have hallows := hallows hside
    subst hside
    rw [hlog]
    cases e with
    | received p t => exact hswitched.snoc he
    | sent p t origin =>
      obtain rfl : t = n.threshold := he
      change SwitchedTo (n.next p).threshold _
      rcases hallows p rfl with hnone | hsame
      · cases hnext : (n.next p).threshold with
        | none => exact (hnone ▸ hswitched).snoc hnone
        | some t =>
          have hcarries := (Negotiation.carries_of_next hnext).resolve_left (by rw [hnone]; nofun)
          rw [hnone] at hswitched ⊢
          exact ⟨w.log, p, origin, [], rfl, hcarries, hswitched, nofun⟩
      · rw [hsame]
        exact hswitched.snoc rfl

theorem At.received (h : w.At side n) (p : RawPacket) :
    (w.received p n.threshold).At side (side.after n (.received p n.threshold)) := by
  refine h.event rfl rfl ?_
  rintro rfl q hq
  cases hq

/-- What a write needs: that it leaves a client's threshold alone once it is set. -/
def MayWrite (side : Side) (n : Negotiation) (p : RawPacket) : Prop := side = .client → n.Allows p

/-- A write that goes out counts; one that does not changes nothing. -/
theorem At.write (h : w.At side n) {p : RawPacket} (hp : MayWrite side n p) (origin : Origin) :
    (w.write p n.threshold origin).2.At side n ∧ (w.write p n.threshold origin).1 ≠ .ok () ∨
      (w.write p n.threshold origin).2.At side (side.after n (.sent p n.threshold origin)) := by
  have hallows : side = .client → ∀ q ∈ side.clientbound (.sent p n.threshold origin), n.Allows q := by
    rintro rfl q hq
    cases hq
    exact hp rfl
  unfold Wire.write
  split
  · exact Or.inr (h.event rfl rfl hallows)
  · exact Or.inl ⟨h.congr_log rfl, nofun⟩
  · exact Or.inr (h.event rfl rfl hallows)

theorem At.write_synced (h : w.At side n) {p : RawPacket} (hp : MayWrite side n p) (origin : Origin) :
    (w.write p n.threshold origin).2.Synced side := by
  rcases h.write hp origin with h' | h'
  · exact h'.1.synced
  · exact h'.synced

end Wire

/-! ## In conversation -/

section Talk

variable {side : Side} {n : Negotiation}

theorem read_ensures (side : Side) (n : Negotiation) :
    Effect.Ensures (fun peer => peer.wire.Synced side) (fun peer => peer.wire.At side n) (Talk.read n.threshold)
      fun p peer => peer.wire.At side (side.after n (.received p n.threshold)) := by
  intro peer h
  unfold Talk.read
  split
  · next p reads heq =>
    refine ⟨(h.received p).synced, fun q hq => ?_⟩
    cases hq
    exact h.received p
  · exact ⟨h.synced, nofun⟩

theorem readWithin_ensures (side : Side) (n : Negotiation) (late : ProxyError) :
    Effect.Ensures (fun peer => peer.wire.Synced side) (fun peer => peer.wire.At side n)
      (Talk.readWithin n.threshold late)
      fun p peer => peer.wire.At side (side.after n (.received p n.threshold)) := by
  intro peer h
  unfold Talk.readWithin
  split
  · exact ⟨h.synced, nofun⟩
  · exact read_ensures side n peer h

theorem write_ensures (side : Side) (n : Negotiation) {p : RawPacket} (hp : Wire.MayWrite side n p) (origin : Origin) :
    Effect.Ensures (fun peer => peer.wire.Synced side) (fun peer => peer.wire.At side n)
      (Talk.write p n.threshold origin)
      fun _ peer => peer.wire.At side (side.after n (.sent p n.threshold origin)) := by
  intro peer h
  refine ⟨h.write_synced hp origin, fun _ ha => ?_⟩
  rcases h.write hp origin with ⟨-, herror⟩ | h'
  · exact absurd ha herror
  · exact h'

theorem flush_ensures (side : Side) (n : Negotiation) :
    Effect.Ensures (fun peer => peer.wire.Synced side) (fun peer => peer.wire.At side n) Talk.flush
      fun _ peer => peer.wire.At side n := by
  intro peer h
  have hflush : peer.wire.flush.2.At side n := h.congr_log (Wire.flush_log _)
  exact ⟨hflush.synced, fun _ _ => hflush⟩

theorem lift_ensures {σ α : Type} {I P : σ → Prop} (hI : ∀ s, P s → I s) (x : Outcome ProxyError α) :
    Effect.Ensures I P (Talk.lift x) fun a s => x = .ok a ∧ P s := by
  cases x with
  | ok a => exact Effect.ensures_pure fun s hs => ⟨hI s hs, rfl, hs⟩
  | err e => exact Effect.ensures_throw hI
  | panic => exact Effect.ensures_throw hI

end Talk

/-! ## What the peer makes of it -/

/-- The bytes the proxy puts on the stream. -/
def Event.bytes (zlib : Zlib) : Event → List UInt8
  | .sent p t _ => encodePacketWithCompression zlib p t
  | .received _ _ => []

/-- The peer's part in an exchange: where the proxy sends something, it reads a
packet with the threshold it has itself negotiated by then. -/
def peerReads (zlib : Zlib) (maxSize : Nat) (side : Side) :
    Negotiation → List Event → Reader ProxyError (List RawPacket)
  | _, [] => pure []
  | n, .received p t :: log => peerReads zlib maxSize side (side.after n (.received p t)) log
  | n, .sent _ t origin :: log => do
    let packet ← readPacketWithCompression zlib maxSize n.threshold
    let packets ← peerReads zlib maxSize side (side.after n (.sent packet t origin)) log
    pure (packet :: packets)

/-- The packets sent are within a reader's limit, as such and as framed. -/
def Fits (zlib : Zlib) (maxSize : Nat) (log : List Event) : Prop :=
  ∀ p t origin, .sent p t origin ∈ log →
    uncompressedLength p ≤ maxSize ∧ (frameBody zlib t p).length ≤ maxSize

/-- In an exchange in sync the peer reads what it was sent, packet for packet. -/
theorem InSyncFrom.peerReads {zlib : Zlib} {maxSize : Nat} (hz : zlib.Correct) (hm : maxSize < 2 ^ 31) {side : Side}
    {n : Negotiation} {log : List Event} (h : InSyncFrom side n log) (hfits : Fits zlib maxSize log)
    (rest : List UInt8) :
    (FrameMC.peerReads zlib maxSize side n log).run (log.flatMap (Event.bytes zlib) ++ rest) =
      (.ok (Event.delivered log), rest) := by
  induction log generalizing n with
  | nil => rfl
  | cons e log ih =>
    obtain ⟨he, h⟩ := h
    have ih := ih h fun p t origin hmem => hfits p t origin (List.mem_cons_of_mem e hmem)
    cases e with
    | received p t => exact ih
    | sent p t origin =>
      obtain rfl : t = n.threshold := he
      obtain ⟨hu, hb⟩ := hfits p _ origin (List.mem_cons_self ..)
      have hread := run_readPacket_encode hz hm hu hb (log.flatMap (Event.bytes zlib) ++ rest)
      rw [FrameMC.peerReads, List.flatMap_cons, Event.bytes, List.append_assoc, Reader.run_bind, hread]
      simp only [Reader.run_bind, ih, Reader.pure_eq, Reader.run_done]
      rfl

end FrameMC

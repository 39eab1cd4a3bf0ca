import FrameMC.Network.Listener
import FrameMC.Routing.Run

/-!
# Connections that go on

Whatever the proxy says to a peer or hears from it, the connection stays the
same and what was exchanged on it stays exchanged.
-/

namespace FrameMC

open ByteStream Effect

/-! ## One connection -/

/-- The same connection, after more has been exchanged on it. -/
structure Wire.Continues (w w' : Wire) : Prop where
  fate : w'.fate = w.fate
  log : w.log <+: w'.log

namespace Wire.Continues

theorem refl (w : Wire) : w.Continues w := ⟨rfl, List.prefix_refl _⟩

theorem trans {w w' w'' : Wire} (h : w.Continues w') (h' : w'.Continues w'') : w.Continues w'' :=
  ⟨h'.fate.trans h.fate, h.log.trans h'.log⟩

theorem write (w : Wire) (p : RawPacket) (t : Option Nat) (origin : Origin) : w.Continues (w.write p t origin).2 := by
  refine ⟨Wire.write_fate .., ?_⟩
  rw [Wire.write_log_eq]
  exact List.prefix_append ..

theorem received (w : Wire) (p : RawPacket) (t : Option Nat) : w.Continues (w.received p t) :=
  ⟨rfl, List.prefix_append ..⟩

end Wire.Continues

/-- The connection to a peer goes on. -/
def Peer.Continues (peer peer' : Peer) : Prop := peer.wire.Continues peer'.wire

namespace Peer.Continues

theorem steps : Effect.Steps Peer.Continues := ⟨fun peer => Wire.Continues.refl peer.wire, Wire.Continues.trans⟩

theorem read (t : Option Nat) : Keeps Peer.Continues (Talk.read t) := by
  intro peer
  unfold Talk.read
  split
  · exact Wire.Continues.received ..
  · exact Wire.Continues.refl _

theorem readWithin (t : Option Nat) (late : ProxyError) : Keeps Peer.Continues (Talk.readWithin t late) := by
  intro peer
  unfold Talk.readWithin
  split
  · exact Wire.Continues.refl _
  · exact read t peer

theorem write (p : RawPacket) (t : Option Nat) (origin : Origin) : Keeps Peer.Continues (Talk.write p t origin) :=
  fun peer => Wire.Continues.write peer.wire p t origin

theorem flush : Keeps Peer.Continues Talk.flush := by
  intro peer
  refine ⟨Wire.flush_fate .., ?_⟩
  exact (Wire.flush_log peer.wire) ▸ List.prefix_refl _

theorem lift {α : Type} (x : Outcome ProxyError α) : Keeps Peer.Continues (Talk.lift x : Talk α) := by
  cases x with
  | ok a => exact keeps_pure steps a
  | err e => exact keeps_throw steps e
  | panic => exact keeps_throw steps _

theorem forwardVelocity (lib : Library) (secret : String) (profile : PlayerProfile) (clientIp : String) :
    Keeps Peer.Continues (forwardVelocity lib secret profile clientIp) := by
  have hthrow : ∀ e, Keeps Peer.Continues (Effect.throw e : Talk Unit) := fun e => keeps_throw steps e
  refine keeps_bind steps (readWithin _ _) fun incoming => keeps_ite (fun _ => ?_) fun _ => ?_
  · refine keeps_bind steps (lift _) fun req => keeps_ite (fun _ => ?_) fun _ => hthrow _
    exact keeps_bind steps (lift _) fun data => write _ _ _
  · exact keeps_ite (fun _ => hthrow _) fun _ => keeps_ite (fun _ => hthrow _) fun _ => hthrow _

theorem loginToBackend (lib : Library) (v : Int) : Keeps Peer.Continues (loginToBackend lib v) := by
  have hthrow : ∀ {α : Type} (e : ProxyError), Keeps Peer.Continues (Effect.throw e : Talk α) :=
    fun e => keeps_throw steps e
  have hanswer : Keeps Peer.Continues readLoginAnswer := by
    refine keeps_bind steps (read none) fun firstPkt => keeps_ite (fun _ => ?_) fun _ => keeps_pure steps _
    refine keeps_bind steps (lift _) fun thresh => keeps_ite (fun _ => hthrow _) fun _ => ?_
    exact keeps_bind steps (read _) fun nextPkt => keeps_pure steps _
  refine keeps_bind steps hanswer fun answer => ?_
  refine keeps_ite (fun _ => hthrow _) fun _ => keeps_ite (fun _ => hthrow _) fun _ =>
    keeps_ite (fun _ => hthrow _) fun _ => keeps_ite (fun _ => ?_) fun _ => keeps_pure steps _
  exact keeps_bind steps (write _ _ _) fun _ => keeps_bind steps flush fun _ => keeps_pure steps _

end Peer.Continues

/-! ## A client and its first backend -/

/-- Both connections go on. -/
structure Linked.Continues (s s' : Linked) : Prop where
  client : s.client.peer.Continues s'.client.peer
  backend : s.backend.Continues s'.backend

namespace Linked.Continues

variable {α : Type}

theorem steps : Effect.Steps Linked.Continues :=
  ⟨fun _ => ⟨Wire.Continues.refl _, Wire.Continues.refl _⟩, fun h h' =>
    ⟨h.client.trans h'.client, h.backend.trans h'.backend⟩⟩

theorem throw (exit : Exit) : Keeps Linked.Continues (Effect.throw exit : Bridge α) := keeps_throw steps exit

theorem onClient {m : Talk α} (hm : Keeps Peer.Continues m) : Keeps Linked.Continues (onClient m) :=
  keeps_handle steps (keeps_focus hm fun s _ h => ⟨h, Wire.Continues.refl s.backend.wire⟩) fun _ => throw _

theorem onBackendOr {m : Talk α} {h : ProxyError → Bridge α} (hm : Keeps Peer.Continues m)
    (hh : ∀ e, Keeps Linked.Continues (h e)) : Keeps Linked.Continues (onBackendOr m h) :=
  keeps_handle steps (keeps_focus hm fun s _ h => ⟨Wire.Continues.refl s.client.peer.wire, h⟩) hh

theorem onBackend {m : Talk α} (hm : Keeps Peer.Continues m) : Keeps Linked.Continues (onBackend m) :=
  onBackendOr hm fun _ => throw _

theorem refuse (packet : RawPacket) (threshold : Option Nat) (exit : Exit) :
    Keeps Linked.Continues (refuse packet threshold exit : Bridge α) :=
  keeps_bind steps (onClient (keeps_attempt (Peer.Continues.write _ _ _))) fun _ => throw exit

theorem expectBackend (lib : Library) (threshold : Option Nat) : Keeps Linked.Continues (expectBackend lib threshold) :=
  onBackendOr (Peer.Continues.read threshold) fun _ => refuse _ _ _

theorem negotiate (lib : Library) : Keeps Linked.Continues (negotiate lib) := by
  refine keeps_bind steps (expectBackend lib none) fun first => keeps_ite (fun _ => ?_) fun _ => keeps_pure steps _
  refine keeps_bind steps (onClient (Peer.Continues.lift _)) fun thresh => keeps_ite (fun _ => throw _) fun _ => ?_
  refine keeps_bind steps (onClient (Peer.Continues.write _ _ _)) fun _ => ?_
  exact keeps_bind steps (expectBackend lib _) fun _ => keeps_pure steps _

theorem checkAccepted (lib : Library) (threshold : Option Nat) (packet : RawPacket) :
    Keeps Linked.Continues (checkAccepted lib threshold packet) :=
  keeps_ite (fun _ => refuse _ _ _) fun _ => keeps_ite (fun _ => refuse _ _ _) fun _ =>
    keeps_ite (fun _ => refuse _ _ _) fun _ => keeps_pure steps ()

theorem sendLoginSuccess (newV4 : Uuid) (profile : PlayerProfile) (v : Int) (threshold : Option Nat)
    (packet : RawPacket) : Keeps Linked.Continues (sendLoginSuccess newV4 profile v threshold packet) :=
  keeps_bind steps (onClient (Peer.Continues.write _ _ _)) fun _ => onClient Peer.Continues.flush

theorem acknowledge (env : LoginEnv) (v : Int) (threshold : Option Nat) :
    Keeps Linked.Continues (acknowledge env v threshold) := by
  refine keeps_ite (fun _ => refuse _ _ _) fun _ => ?_
  refine keeps_bind steps (onClient (Peer.Continues.readWithin _ _)) fun _ => ?_
  exact keeps_bind steps (onClient (Peer.Continues.lift _)) fun _ => onBackend (Peer.Continues.write _ _ _)

theorem bridgeTurn (lib : Library) (v : Int) (threshold : Option Nat) (b : Bridging) (turn : Turn) :
    Keeps Linked.Continues (bridgeTurn lib v threshold b turn) := by
  cases turn with
  | shutdown => exact refuse _ _ _
  | client =>
    refine keeps_bind steps (onClient (Peer.Continues.read _)) fun packet => keeps_ite (fun _ => keeps_pure steps b) fun _ => ?_
    refine keeps_bind steps (onBackend (Peer.Continues.write _ _ _)) fun _ => ?_
    exact keeps_ite (fun _ => keeps_pure steps _) fun _ => keeps_pure steps b
  | backend =>
    refine keeps_bind steps (onBackend (Peer.Continues.read _)) fun packet => ?_
    refine keeps_ite (fun _ => keeps_pure steps b) fun _ => keeps_bind steps (onClient (Peer.Continues.write _ _ _))
      fun _ => ?_
    exact keeps_ite (fun _ => throw _) fun _ => keeps_pure steps _

theorem bridge (lib : Library) (v : Int) (threshold : Option Nat) (turns : List Turn) (b : Bridging) :
    Keeps Linked.Continues (bridge lib v threshold turns b) := by
  induction turns generalizing b with
  | nil => exact keeps_ite (fun _ => keeps_pure steps _) fun _ => throw _
  | cons turn turns ih =>
    refine keeps_ite (fun _ => keeps_pure steps _) fun _ => ?_
    exact keeps_bind steps (bridgeTurn lib v threshold b turn) ih

theorem settle (env : LoginEnv) (v : Int) (profile : PlayerProfile) :
    Keeps Linked.Continues (settle env v profile) := by
  refine keeps_bind steps (negotiate env.lib) fun answer => ?_
  refine keeps_bind steps (checkAccepted env.lib _ _) fun _ => ?_
  refine keeps_bind steps (sendLoginSuccess _ _ _ _ _) fun _ => ?_
  refine keeps_ite (fun _ => ?_) fun _ => keeps_pure steps _
  refine keeps_bind steps (acknowledge env v _) fun _ => ?_
  exact keeps_bind steps (bridge env.lib v _ env.turns _) fun _ => keeps_pure steps _

end Linked.Continues

end FrameMC

import FrameMC.Network.Negotiation
import FrameMC.Routing.Run

/-!
# Compression through the login

Each conversation of the login keeps its wire in sync, however it ends: the
client's up to the LoginSuccess (`logIn_ensures`), a backend's
(`connectAndForward_holds`, `loginToBackend_ensures`), and the two together
from the backend's first answer to the Play state (`settle_ensures`), where the
SetCompression that is forwarded sets the same threshold on both wires.
-/

namespace FrameMC

open ByteStream Effect

/-! ## Talking to a client -/

section Client

variable {I P : Peer → Prop} {α : Type} {m : Talk α} {S : α → Peer → Prop}

theorem onStream_ensures (h : Ensures I P m S) :
    Ensures (fun s => I s.peer) (fun s => P s.peer) (onStream m) fun a s => S a s.peer :=
  fun s hs => h s.peer hs

/-- The packets that turn a client away do not touch its threshold. -/
theorem loginDisconnect_id (lib : Library) (reason : String) : (loginDisconnect lib reason).id ≠ 0x03 := by
  have hne : (0 : Int32) ≠ 3 := by decide
  exact hne

theorem encodeForClient_id (textJson : String → String) (p : DisconnectPacket) (v : Int) :
    (p.encodeForClient textJson v true).id ≠ 0x03 := by
  have hids : (2 : Int32) ≠ 3 ∧ (1 : Int32) ≠ 3 ∧ (27 : Int32) ≠ 3 := by decide
  simp only [DisconnectPacket.encodeForClient, DisconnectPacket.encodeConfig, DisconnectPacket.encodePlay,
    not_true_eq_false, if_false]
  split_ifs
  · exact hids.1
  · exact hids.2.1
  · exact hids.2.2

theorem mayWrite_of_id {side : Side} {p : RawPacket} (h : p.id ≠ 0x03) (n : Negotiation) :
    Wire.MayWrite side n p := fun _ => Or.inr (Negotiation.next_threshold h)

/-- A notice with the client's own threshold, whatever becomes of it. -/
theorem sendDisconnect_ensures {packet : RawPacket} (hid : packet.id ≠ 0x03) (t : Option Nat) :
    Ensures (fun peer => peer.wire.Synced .client) (fun peer => peer.wire.Uses .client t) (sendDisconnect packet t)
      fun _ peer => peer.wire.Synced .client := by
  intro peer h
  obtain ⟨n, hat, rfl⟩ := h
  have hsynced := hat.write_synced (mayWrite_of_id hid n) .own
  exact ⟨hsynced, fun _ _ => hsynced⟩

/-- The client is in sync, without compression, and still logging in. -/
def Fresh (s : ActiveStream) : Prop := s.peer.wire.At .client .start

/-- Whatever has been exchanged with the client is in sync. -/
def ActiveStream.Synced (s : ActiveStream) : Prop := s.peer.wire.Synced .client

theorem Fresh.synced {s : ActiveStream} (h : Fresh s) : s.Synced := Wire.At.synced h

theorem readHandshake_ensures : Ensures ActiveStream.Synced Fresh readHandshake fun _ => Fresh := by
  refine ensures_bind (onStream_ensures (readWithin_ensures .client .start _)) fun rawPacket => ?_
  exact ensures_mono (lift_ensures (fun _ => Fresh.synced) _) (fun _ h => h) fun _ _ h => h.2

/-- Telling a client that is logging in why it is turned away. -/
theorem turnAway_ensures {packet : RawPacket} (hid : packet.id ≠ 0x03) (e : ProxyError)
    {T : α → ActiveStream → Prop} :
    Ensures ActiveStream.Synced (fun s => s.peer.wire.Uses .client none) (do
      onStream (sendDisconnect packet none)
      throw e) T :=
  ensures_bind (onStream_ensures (sendDisconnect_ensures hid none)) fun _ => ensures_throw fun _ h => h

theorem agreeSecret_ensures (env : LoginEnv) (v : Int) :
    Ensures ActiveStream.Synced Fresh (agreeSecret env v) fun _ => Fresh := by
  refine ensures_bind (onStream_ensures (write_ensures .client .start (fun _ => Or.inl rfl) .own)) fun _ => ?_
  refine ensures_bind (onStream_ensures (readWithin_ensures .client .start _)) fun respRaw => ?_
  refine ensures_bind (lift_ensures (fun _ h => Fresh.synced h) _) fun encResp => ?_
  have hfail : ∀ e, Ensures ActiveStream.Synced
      (fun s => EncryptionResponsePacket.decode respRaw = .ok encResp ∧ Fresh s)
      (throw e : Accept (List UInt8)) fun _ => Fresh :=
    fun e => ensures_throw fun s h => Fresh.synced h.2
  split
  · refine ensures_ite (fun _ => hfail _) fun _ => ensures_ite (fun _ => hfail _) fun _ => ?_
    exact ensures_pure fun s h => ⟨Fresh.synced h.2, h.2⟩
  · exact hfail _
  · exact hfail _
  · exact hfail _
  · exact hfail _

theorem encrypt_ensures (secret : List UInt8) :
    Ensures ActiveStream.Synced Fresh (encrypt secret) fun _ => Fresh :=
  fun _ h => ⟨Fresh.synced h, fun _ _ => h⟩

theorem verifyProfile_ensures (env : LoginEnv) (username : String) (secret : List UInt8) :
    Ensures ActiveStream.Synced Fresh (verifyProfile env username secret) fun _ => Fresh := by
  unfold verifyProfile
  simp only
  split
  · refine ensures_bind (encrypt_ensures secret) fun _ => ?_
    exact ensures_mono (turnAway_ensures (loginDisconnect_id _ _) _) (fun _ h => Wire.At.uses h) fun _ _ h => h
  · refine ensures_ite (fun _ => ensures_throw fun _ => Fresh.synced) fun _ => ensures_get_bind fun s => ?_
    split
    · exact ensures_throw fun _ => Fresh.synced
    · exact ensures_bind (encrypt_ensures secret) fun _ => ensures_pure fun _ h => ⟨Fresh.synced h, h⟩

theorem handleLoginAuth_ensures (env : LoginEnv) (handshake : HandshakePacket) :
    Ensures ActiveStream.Synced Fresh (handleLoginAuth env handshake) fun _ => Fresh := by
  refine ensures_bind (onStream_ensures (readWithin_ensures .client .start _)) fun rawPacket => ?_
  refine ensures_bind (lift_ensures (fun _ h => Fresh.synced h) _) fun loginStart => ?_
  refine ensures_ite (fun _ => ?_) fun _ => ensures_pure fun _ h => ⟨Fresh.synced h.2, h.2⟩
  refine ensures_bind (S := fun _ => Fresh) ?_ fun secret => verifyProfile_ensures env _ secret
  exact ensures_mono (agreeSecret_ensures env _) (fun _ h => h.2) fun _ _ h => h

/-- A LoginSuccess without compression, gone out or not, leaves the client without. -/
theorem attemptSuccess_ensures {p : RawPacket} (hp : p.id = 0x02) :
    Ensures (fun peer => peer.wire.Synced .client) (fun peer => peer.wire.At .client .start)
      (attempt (Talk.write p none .own)) fun _ peer => peer.wire.Uses .client none := by
  intro peer h
  have huses : (peer.wire.write p none .own).2.Uses .client none := by
    rcases h.write (p := p) (fun _ => Or.inl rfl) .own with h' | h'
    · exact h'.1.uses
    · have hnext := Negotiation.next_loginSuccess hp none true
      have hafter : Side.client.after .start (.sent p none .own) = ⟨none, false⟩ := hnext
      rw [show Negotiation.start.threshold = none from rfl, hafter] at h'
      exact h'.uses
  exact ⟨huses.synced, fun _ _ => huses⟩

theorem loginSuccess_id (newV4 : Uuid) (profile : PlayerProfile) (sessionId : Option Uuid) (v : Int) :
    (encodeLoginSuccessWithSession newV4 profile sessionId v).id = 0x02 := by
  unfold encodeLoginSuccessWithSession LoginSuccessPacket.encodeWithVersion
  split <;> rfl

theorem chooseServer_ensures (env : LoginEnv) (v : Int) (profile : PlayerProfile) :
    Ensures ActiveStream.Synced Fresh (chooseServer env v profile) fun _ => Fresh := by
  unfold chooseServer
  simp only
  refine ensures_ite (fun _ => ?_) fun _ => ?_
  · exact ensures_mono (turnAway_ensures (loginDisconnect_id _ _) _) (fun _ h => Wire.At.uses h) fun _ _ h => h
  · split
    · exact ensures_pure fun _ h => ⟨Fresh.synced h, h⟩
    · refine ensures_bind (onStream_ensures (attemptSuccess_ensures (loginSuccess_id ..))) fun _ => ?_
      exact turnAway_ensures (encodeForClient_id _ _ _) _

theorem logIn_ensures (env : LoginEnv) (handshake : HandshakePacket) :
    Ensures ActiveStream.Synced Fresh (logIn env handshake) fun _ => Fresh :=
  ensures_bind (handleLoginAuth_ensures env handshake) fun profile => chooseServer_ensures env _ profile

end Client

/-! ## Talking to a backend -/

/-- The conversation with a backend is in sync, and this is what has been negotiated. -/
def Settled (n : Negotiation) (peer : Peer) : Prop := peer.wire.At .backend n

def Peer.Synced (peer : Peer) : Prop := peer.wire.Synced .backend

theorem Settled.synced {n : Negotiation} {peer : Peer} (h : Settled n peer) : peer.Synced := Wire.At.synced h

section Backend

variable {α β : Type}

/-- What is written to a backend negotiates nothing. -/
theorem writeBackend_ensures (n : Negotiation) (p : RawPacket) (origin : Origin) :
    Ensures Peer.Synced (Settled n) (Talk.write p n.threshold origin) fun _ => Settled n :=
  write_ensures .backend n nofun origin

theorem readBackend_ensures (n : Negotiation) :
    Ensures Peer.Synced (Settled n) (Talk.read n.threshold) fun p => Settled (n.next p) :=
  read_ensures .backend n

theorem forwardVelocity_ensures (lib : Library) (secret : String) (profile : PlayerProfile) (clientIp : String) :
    Ensures Peer.Synced (Settled .start) (forwardVelocity lib secret profile clientIp) fun _ => Settled .start := by
  refine ensures_bind (readWithin_ensures .backend .start _) fun incoming => ?_
  have hfail : ∀ e, Ensures Peer.Synced (Settled (Negotiation.start.next incoming)) (throw e : Talk Unit)
      fun _ => Settled .start := fun e => ensures_throw fun _ => Settled.synced
  refine ensures_ite (fun hid => ?_) fun _ => ?_
  · have hsame : Negotiation.start.next incoming = .start :=
      Negotiation.next_of_ne (by rw [hid]; decide) (by rw [hid]; decide)
    have hfail' : ∀ e, Ensures Peer.Synced (Settled .start) (throw e : Talk Unit) fun _ => Settled .start :=
      fun e => ensures_throw fun _ => Settled.synced
    change Ensures _ (Settled (Negotiation.start.next incoming)) _ _
    rw [hsame]
    refine ensures_bind (lift_ensures (fun _ => Settled.synced) _) fun req => ?_
    refine ensures_ite (fun _ => ?_) fun _ => ?_
    · refine ensures_bind (lift_ensures (fun _ h => Settled.synced h.2) _) fun forwardingData => ?_
      exact ensures_mono (writeBackend_ensures .start _ .own) (fun _ h => h.2.2) fun _ _ h => h
    · exact ensures_mono (hfail' _) (fun _ h => h.2) fun _ _ h => h
  · exact ensures_ite (fun _ => hfail _) fun _ => ensures_ite (fun _ => hfail _) fun _ => hfail _

theorem dispatchForwarding_ensures (lib : Library) (backend : BackendConfig) (profile : PlayerProfile)
    (clientIp : String) (v : Int32) :
    Ensures Peer.Synced (Settled .start) (dispatchForwarding lib backend profile clientIp v) fun _ =>
      Settled .start := by
  refine ensures_bind (lift_ensures (fun _ => Settled.synced) _) fun address => ?_
  refine ensures_bind (S := fun _ => Settled .start) ?_ fun _ => ?_
  · exact ensures_mono (writeBackend_ensures .start _ .own) (fun _ h => h.2) fun _ _ h => h
  · refine ensures_bind (writeBackend_ensures .start _ .own) fun _ => ?_
    refine ensures_ite (fun _ => ?_) fun _ => ensures_pure fun _ h => ⟨Settled.synced h, h⟩
    split
    · exact ensures_throw fun _ => Settled.synced
    · exact forwardVelocity_ensures lib _ profile clientIp

/-- A conversation that came through ended as `S` says; one that failed is in sync as far as it went. -/
def Reached.Holds (S : α → Peer → Prop) : Reached α → Prop
  | .ok a peer => S a peer
  | .failed _ dropped => ∀ peer ∈ dropped, peer.Synced

theorem Reached.Holds.andThen {S : α → Peer → Prop} {T : β → Peer → Prop} {reached : Reached α}
    {talk : α → Talk β} (h : reached.Holds S) (ht : ∀ a, Ensures Peer.Synced (S a) (talk a) T) :
    (reached.andThen talk).Holds T := by
  cases reached with
  | failed e dropped => exact h
  | ok a peer =>
    obtain ⟨hsynced, hok⟩ := ht a peer h
    rw [Reached.andThen]
    rcases hr : talk a peer with ⟨r, peer'⟩
    rw [hr] at hsynced hok
    cases r with
    | ok b => exact hok b rfl
    | error e =>
      intro p hp
      cases hp
      exact hsynced

theorem connectAndForward_holds (lib : Library) (dial : String → Dial) (backend : BackendConfig)
    (profile : PlayerProfile) (clientIp : String) (v : Int32) :
    (connectAndForward lib dial backend profile clientIp v).Holds fun _ => Settled .start := by
  unfold connectAndForward
  simp only
  split
  · exact nofun
  · exact nofun
  · refine Reached.Holds.andThen (S := fun _ => Settled .start) (.of_nil .backend rfl) fun _ => ?_
    exact dispatchForwarding_ensures lib backend profile clientIp v

/-- Reading the backend's answer follows what the answer negotiates. -/
theorem readLoginAnswer_ensures :
    Ensures Peer.Synced (Settled .start) readLoginAnswer fun r => Settled ((Negotiation.mk r.1 true).next r.2) := by
  refine ensures_bind (readBackend_ensures .start) fun firstPkt => ?_
  refine ensures_ite (fun hid => ?_) fun _ => ensures_pure fun _ h => ⟨Settled.synced h, h⟩
  refine ensures_bind (lift_ensures (fun _ => Settled.synced) _) fun thresh => ensures_of_fact fun hdecode => ?_
  refine ensures_ite (fun _ => ensures_throw fun _ => Settled.synced) fun hneg => ?_
  rw [Negotiation.next_setCompression hid hdecode hneg]
  refine ensures_bind (readBackend_ensures ⟨some (asUsize thresh.1), true⟩) fun nextPkt => ?_
  exact ensures_pure fun _ h => ⟨Settled.synced h, h⟩

theorem loginToBackend_ensures (lib : Library) (v : Int) :
    Ensures Peer.Synced (Settled .start) (loginToBackend lib v) fun t => Settled ⟨t, false⟩ := by
  refine ensures_bind readLoginAnswer_ensures fun r => ?_
  obtain ⟨t, loginPkt⟩ := r
  simp only
  have hfail : ∀ e, Ensures Peer.Synced (Settled ((Negotiation.mk t true).next loginPkt))
      (throw e : Talk (Option Nat)) fun t => Settled ⟨t, false⟩ := fun e => ensures_throw fun _ => Settled.synced
  refine ensures_ite (fun _ => hfail _) fun _ => ensures_ite (fun _ => hfail _) fun _ =>
    ensures_ite (fun _ => hfail _) fun hid => ?_
  rw [Negotiation.next_loginSuccess (not_not.mp hid) t true]
  refine ensures_ite (fun _ => ?_) fun _ => ensures_pure fun _ h => ⟨Settled.synced h, h⟩
  refine ensures_bind (writeBackend_ensures ⟨t, false⟩ _ .own) fun _ => ?_
  refine ensures_bind (flush_ensures .backend ⟨t, false⟩) fun _ => ?_
  exact ensures_pure fun _ h => ⟨Settled.synced h, h⟩

end Backend

/-! ## Between a client and its first backend -/

/-- Both conversations are in sync. -/
def Linked.Synced (s : Linked) : Prop := s.client.Synced ∧ s.backend.Synced

/-- What has been negotiated with either of them. -/
def Linked.At (n m : Negotiation) (s : Linked) : Prop := s.client.peer.wire.At .client n ∧ Settled m s.backend

theorem Linked.At.synced {n m : Negotiation} {s : Linked} (h : s.At n m) : s.Synced :=
  ⟨Wire.At.synced h.1, h.2.synced⟩

section Linked

variable {α : Type}

theorem onClient_ensures {P : Peer → Prop} {m : Talk α} {S : α → Peer → Prop}
    (hm : Ensures (fun peer => peer.wire.Synced .client) P m S)
    (hS : ∀ a peer, S a peer → peer.wire.Synced .client) {B : Peer → Prop} (hB : ∀ peer, B peer → peer.Synced) :
    Ensures Linked.Synced (fun s => P s.client.peer ∧ B s.backend) (onClient m) fun a s =>
      S a s.client.peer ∧ B s.backend := by
  have hfocus := ensures_focus (fun s : Linked => s.client.peer)
    (fun s peer => { s with client := { s.client with peer := peer } }) hm (B := fun s => B s.backend)
    (fun _ _ => rfl) fun _ _ h => h
  refine ensures_handle hfocus (fun a s h => ⟨hS a _ h.1, hB _ h.2⟩) fun e => ?_
  exact ensures_throw fun s h => ⟨h.1, hB _ h.2⟩

theorem onBackendOr_ensures {P : Peer → Prop} {m : Talk α} {S : α → Peer → Prop} {n : Negotiation}
    {h : ProxyError → Bridge α} (hm : Ensures Peer.Synced P m S) (hS : ∀ a peer, S a peer → peer.Synced)
    (hh : ∀ e, Ensures Linked.Synced (fun s => s.backend.Synced ∧ s.client.peer.wire.At .client n) (h e) fun a s =>
      S a s.backend ∧ s.client.peer.wire.At .client n) :
    Ensures Linked.Synced (fun s => P s.backend ∧ s.client.peer.wire.At .client n) (onBackendOr m h) fun a s =>
      S a s.backend ∧ s.client.peer.wire.At .client n := by
  have hfocus := ensures_focus Linked.backend (fun s peer => { s with backend := peer }) hm
    (B := fun s => s.client.peer.wire.At .client n) (fun _ _ => rfl) fun _ _ h => h
  exact ensures_handle hfocus (fun a s h => ⟨Wire.At.synced h.2, hS a _ h.1⟩) hh

variable {n m : Negotiation}

/-- A packet to the client, with its own threshold. -/
theorem writeClient_ensures {n : Negotiation} (m : Negotiation) {p : RawPacket} (hp : n.Allows p) (origin : Origin) :
    Ensures Linked.Synced (Linked.At n m) (onClient (Talk.write p n.threshold origin)) fun _ =>
      Linked.At (n.next p) m :=
  onClient_ensures (write_ensures .client n (fun _ => hp) origin) (fun _ _ h => Wire.At.synced h) fun _ => Settled.synced

theorem readClient_ensures (n m : Negotiation) :
    Ensures Linked.Synced (Linked.At n m) (onClient (Talk.read n.threshold)) fun _ => Linked.At n m :=
  onClient_ensures (read_ensures .client n) (fun _ _ h => Wire.At.synced h) fun _ => Settled.synced

theorem liftClient_ensures (n m : Negotiation) (x : Outcome ProxyError α) :
    Ensures Linked.Synced (Linked.At n m) (onClient (Talk.lift x)) fun a s => x = .ok a ∧ s.At n m := by
  refine ensures_mono (onClient_ensures (P := fun peer => peer.wire.At .client n)
    (S := fun a peer => x = .ok a ∧ peer.wire.At .client n)
    (lift_ensures (fun _ h => Wire.At.synced h) x) (fun _ _ h => Wire.At.synced h.2) fun _ => Settled.synced)
    (fun _ h => h) fun _ _ h => ⟨h.1.1, h.1.2, h.2⟩

theorem refuse_ensures {packet : RawPacket} (hid : packet.id ≠ 0x03) (t : Option Nat) (exit : Exit)
    {T : α → Linked → Prop} :
    Ensures Linked.Synced (fun s => s.client.peer.wire.Uses .client t ∧ s.backend.Synced) (refuse packet t exit) T := by
  refine ensures_bind (onClient_ensures (sendDisconnect_ensures hid t) (fun _ _ h => h) fun _ h => h) fun _ => ?_
  exact ensures_throw fun _ h => h

theorem Linked.At.refusable {s : Linked} (h : s.At n m) :
    s.client.peer.wire.Uses .client n.threshold ∧ s.backend.Synced := ⟨Wire.At.uses h.1, h.2.synced⟩

theorem onBackend_ensures {P : Peer → Prop} {talk : Talk α} {S : α → Peer → Prop} (n : Negotiation)
    (hm : Ensures Peer.Synced P talk S) (hS : ∀ a peer, S a peer → peer.Synced) :
    Ensures Linked.Synced (fun s => P s.backend ∧ s.client.peer.wire.At .client n) (onBackend talk) fun a s =>
      S a s.backend ∧ s.client.peer.wire.At .client n :=
  onBackendOr_ensures hm hS fun _ => ensures_throw fun _ h => ⟨Wire.At.synced h.2, h.1⟩

theorem expectBackend_ensures (lib : Library) (n : Negotiation) :
    Ensures Linked.Synced (Linked.At n n) (expectBackend lib n.threshold) fun p => Linked.At n (n.next p) := by
  have hread := onBackendOr_ensures (n := n)
    (h := fun e => refuse (loginDisconnect lib ("§cBackend connection lost: " ++ e.display)) n.threshold (.failed e))
    (readBackend_ensures n) (fun _ _ => Settled.synced) fun e =>
      ensures_mono (refuse_ensures (loginDisconnect_id _ _) n.threshold _) (fun _ h => ⟨Wire.At.uses h.2, h.1⟩) fun _ _ h => h
  exact ensures_mono hread (fun _ h => ⟨h.2, h.1⟩) fun _ _ h => ⟨h.2, h.1⟩

/-- The SetCompression that is forwarded sets the same threshold on either side. -/
theorem negotiate_ensures (lib : Library) :
    Ensures Linked.Synced (Linked.At .start .start) (negotiate lib) fun r =>
      Linked.At ⟨r.1, true⟩ ((Negotiation.mk r.1 true).next r.2) := by
  refine ensures_bind (expectBackend_ensures lib .start) fun first => ?_
  refine ensures_ite (fun hid => ?_) fun _ => ensures_pure fun _ h => ⟨h.synced, h⟩
  refine ensures_bind (liftClient_ensures .start _ _) fun thresh => ensures_of_fact fun hdecode => ?_
  refine ensures_ite (fun _ => ensures_throw fun _ => Linked.At.synced) fun hneg => ?_
  have hset := Negotiation.next_setCompression hid hdecode hneg
  rw [hset]
  refine ensures_bind (writeClient_ensures (n := .start) _ (Or.inl rfl) .relayed) fun _ => ?_
  rw [hset]
  refine ensures_bind (expectBackend_ensures lib ⟨some (asUsize thresh.1), true⟩) fun next => ?_
  exact ensures_pure fun _ h => ⟨h.synced, h⟩

theorem checkAccepted_ensures (lib : Library) (n : Negotiation) (p : RawPacket) :
    Ensures Linked.Synced (Linked.At n (n.next p)) (checkAccepted lib n.threshold p) fun _ s =>
      p.id = 0x02 ∧ s.At n (n.next p) := by
  have hrefuse : ∀ reason exit, Ensures Linked.Synced (Linked.At n (n.next p))
      (refuse (loginDisconnect lib reason) n.threshold exit : Bridge Unit) fun _ s => p.id = 0x02 ∧ s.At n (n.next p) :=
    fun reason exit => ensures_mono (refuse_ensures (loginDisconnect_id lib reason) n.threshold exit)
      (fun _ h => h.refusable) fun _ _ h => h
  refine ensures_ite (fun _ => hrefuse _ _) fun _ => ensures_ite (fun _ => hrefuse _ _) fun _ =>
    ensures_ite (fun _ => hrefuse _ _) fun hid => ?_
  exact ensures_pure fun _ h => ⟨h.synced, not_not.mp hid, h⟩

theorem sendLoginSuccess_ensures (newV4 : Uuid) (profile : PlayerProfile) (v : Int) (t : Option Nat)
    (packet : RawPacket) (m : Negotiation) :
    Ensures Linked.Synced (Linked.At ⟨t, true⟩ m) (sendLoginSuccess newV4 profile v t packet) fun _ =>
      Linked.At ⟨t, false⟩ m := by
  unfold sendLoginSuccess
  simp only
  generalize hp : encodeLoginSuccessWithSession newV4 profile _ v = p
  have hid : p.id = 0x02 := by rw [← hp, loginSuccess_id]
  have h3 : p.id ≠ 0x03 := by
    rw [hid]
    decide
  refine ensures_bind (writeClient_ensures (n := ⟨t, true⟩) m (Or.inr (Negotiation.next_threshold h3)) .own) fun _ => ?_
  rw [Negotiation.next_loginSuccess hid t true]
  exact onClient_ensures (flush_ensures .client ⟨t, false⟩) (fun _ _ h => Wire.At.synced h) fun _ => Settled.synced

/-- Both have logged in, with the same threshold. -/
def LoggedIn (t : Option Nat) (s : Linked) : Prop := s.At ⟨t, false⟩ ⟨t, false⟩

theorem LoggedIn.synced {t : Option Nat} {s : Linked} (h : LoggedIn t s) : s.Synced := Linked.At.synced h

/-- What is relayed to the client after the Login state negotiates nothing. -/
theorem relayClient_ensures (t : Option Nat) (p : RawPacket) (origin : Origin) :
    Ensures Linked.Synced (LoggedIn t) (onClient (Talk.write p t origin)) fun _ => LoggedIn t :=
  writeClient_ensures (n := ⟨t, false⟩) ⟨t, false⟩ (Or.inr rfl) origin

theorem relayBackend_ensures (t : Option Nat) (p : RawPacket) (origin : Origin) :
    Ensures Linked.Synced (LoggedIn t) (onBackend (Talk.write p t origin)) fun _ => LoggedIn t :=
  ensures_mono (onBackend_ensures ⟨t, false⟩ (writeBackend_ensures ⟨t, false⟩ p origin) fun _ _ => Settled.synced)
    (fun _ h => ⟨h.2, h.1⟩) fun _ _ h => ⟨h.2, h.1⟩

theorem receiveBackend_ensures (t : Option Nat) :
    Ensures Linked.Synced (LoggedIn t) (onBackend (Talk.read t)) fun _ => LoggedIn t :=
  ensures_mono (onBackend_ensures ⟨t, false⟩ (readBackend_ensures ⟨t, false⟩) fun _ _ => Settled.synced)
    (fun _ h => ⟨h.2, h.1⟩) fun _ _ h => ⟨h.2, h.1⟩

theorem shutdown_ensures (lib : Library) (v : Int) (t : Option Nat) {T : α → Linked → Prop} :
    Ensures Linked.Synced (LoggedIn t) (refuse (shutdownNotice lib v) t .ended) T :=
  ensures_mono (refuse_ensures (encodeForClient_id _ _ _) t .ended) (fun _ h => h.refusable) fun _ _ h => h

theorem acknowledge_ensures (env : LoginEnv) (v : Int) (t : Option Nat) :
    Ensures Linked.Synced (LoggedIn t) (acknowledge env v t) fun _ => LoggedIn t := by
  refine ensures_ite (fun _ => shutdown_ensures _ _ t) fun _ => ?_
  refine ensures_bind (S := fun _ => LoggedIn t) ?_ fun clientAckRaw => ?_
  · exact onClient_ensures (readWithin_ensures .client ⟨t, false⟩ _) (fun _ _ h => Wire.At.synced h)
      fun _ => Settled.synced
  · refine ensures_bind (liftClient_ensures ⟨t, false⟩ ⟨t, false⟩ _) fun ack => ?_
    exact ensures_mono (relayBackend_ensures t _ .own) (fun _ h => h.2) fun _ _ h => h

theorem bridgeTurn_ensures (lib : Library) (v : Int) (t : Option Nat) (b : Bridging) (turn : Turn) :
    Ensures Linked.Synced (LoggedIn t) (bridgeTurn lib v t b turn) fun _ => LoggedIn t := by
  have hstay : ∀ b : Bridging, Ensures Linked.Synced (LoggedIn t) (pure b : Bridge Bridging) fun _ => LoggedIn t :=
    fun _ => ensures_pure fun _ h => ⟨h.synced, h⟩
  cases turn with
  | backend =>
    refine ensures_bind (receiveBackend_ensures t) fun packet => ensures_ite (fun _ => hstay b) fun _ => ?_
    refine ensures_bind (relayClient_ensures t packet .relayed) fun _ => ?_
    exact ensures_ite (fun _ => ensures_throw fun _ => LoggedIn.synced) fun _ => hstay _
  | client =>
    refine ensures_bind (readClient_ensures ⟨t, false⟩ ⟨t, false⟩) fun packet => ensures_ite (fun _ => hstay b) fun _ => ?_
    refine ensures_bind (relayBackend_ensures t packet .relayed) fun _ => ?_
    exact ensures_ite (fun _ => hstay _) fun _ => hstay _
  | shutdown => exact shutdown_ensures _ _ t

theorem bridge_ensures (lib : Library) (v : Int) (t : Option Nat) (turns : List Turn) (b : Bridging) :
    Ensures Linked.Synced (LoggedIn t) (bridge lib v t turns b) fun _ => LoggedIn t := by
  have hstop : ∀ b : Bridging, Ensures Linked.Synced (LoggedIn t)
      (pure b.cache : Bridge SessionRegistryCache) fun _ => LoggedIn t := fun _ => ensures_pure fun _ h => ⟨h.synced, h⟩
  induction turns generalizing b with
  | nil => exact ensures_ite (fun _ => hstop b) fun _ => ensures_throw fun _ => LoggedIn.synced
  | cons turn turns ih =>
    refine ensures_ite (fun _ => hstop b) fun _ => ?_
    exact ensures_bind (bridgeTurn_ensures lib v t b turn) fun b => ih b

theorem settle_ensures (env : LoginEnv) (v : Int) (profile : PlayerProfile) :
    Ensures Linked.Synced (Linked.At .start .start) (settle env v profile) fun r => LoggedIn r.1 := by
  refine ensures_bind (negotiate_ensures env.lib) fun r => ?_
  obtain ⟨t, packet⟩ := r
  simp only
  refine ensures_bind (checkAccepted_ensures env.lib ⟨t, true⟩ packet) fun _ => ensures_of_fact fun hid => ?_
  rw [Negotiation.next_loginSuccess hid t true]
  refine ensures_bind (sendLoginSuccess_ensures env.newV4 profile v t packet ⟨t, false⟩) fun _ => ?_
  refine ensures_ite (fun _ => ?_) fun _ => ensures_pure fun _ h => ⟨Linked.At.synced h, h⟩
  refine ensures_bind (acknowledge_ensures env v t) fun _ => ?_
  refine ensures_bind (bridge_ensures env.lib v t env.turns _) fun cache => ?_
  exact ensures_pure fun _ h => ⟨h.synced, h⟩

end Linked

end FrameMC

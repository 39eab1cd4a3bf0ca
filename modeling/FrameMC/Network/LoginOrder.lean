import FrameMC.Network.Bridging
import FrameMC.Network.LoginSync

/-!
# The order of a login

What a client sees of its login is one of the conversations of the protocol,
whatever the client, the scripts, the session server and the backend do:
`LoginStage` is how far a client is, `LoginStage.next` what may come next, and
`login_in_order` says that nothing else ever comes. A client that is told to
leave is told nothing more, one that has been accepted is refused no more, and
a packet that does not decode as the one that is due is the last one.
-/

namespace FrameMC

open ByteStream Effect

/-! ## The conversations -/

/-- How far a client is with its login. -/
inductive LoginStage where
  | connected
  | addressed
  | named
  | challenged
  | answered
  | compressed
  | accepted
  /-- In the Configuration state; who has finished. -/
  | configuring (clientFinished backendFinished : Bool)
  | refused
  /-- Told to leave behind its LoginSuccess. -/
  | dismissed
  /-- It sent what does not decode as what it should have sent. -/
  | strayed
  deriving DecidableEq, Repr

/-- The Disconnect for a client that has been accepted. -/
def dismissalId (v : Int) : Int32 := if v ≥ 764 then disconnectId v else 0x1B

namespace LoginStage

/-- After a packet that is to decode. -/
def heard {α : Type} (decoded : Outcome ProxyError α) (stage : LoginStage) : LoginStage :=
  match decoded with
  | .ok _ => stage
  | _ => strayed

/-- The end of a login: refused or accepted. -/
def conclude (packet : RawPacket) (origin : Origin) : Option LoginStage :=
  if origin ≠ .own then none
  else if packet.id = 0x00 then some refused
  else if packet.id = 0x02 then some accepted
  else none

/-- What may be sent to a client that is through with the authentication. -/
def proceed (packet : RawPacket) (origin : Origin) : Option LoginStage :=
  if packet.id = 0x03 ∧ origin = .relayed then some compressed else conclude packet origin

/-- The proxy's own word to a client that has been accepted. -/
def dismiss (v : Int) (packet : RawPacket) (origin : Origin) : Option LoginStage :=
  if packet.id = dismissalId v ∧ origin = .own then some dismissed else none

/-- A packet of the Configuration state that says that its side has finished. -/
def finishes (v : Int) (packet : RawPacket) : Bool := !isProtectedPluginChannel packet && packet.id == finishId v

/-- What the Configuration state brings: the client's packets, and those of the
backend that are not on a protected channel, until it disconnects the client. -/
def configure (v : Int) (clientFinished backendFinished : Bool) : Event → Option LoginStage
  | .received packet _ => some (configuring (clientFinished || finishes v packet) backendFinished)
  | .sent packet _ .relayed =>
    if isProtectedPluginChannel packet then none
    else if packet.id = disconnectId v then some dismissed
    else some (configuring clientFinished (backendFinished || finishes v packet))
  | .sent packet _ origin => dismiss v packet origin

/-- What comes next, if it may. In online mode nobody is let in unchallenged, and
from protocol 764 on the Configuration state is behind the LoginSuccess. -/
def next (onlineMode : Bool) (v : Int) : LoginStage → Event → Option LoginStage
  | connected, .received packet _ => some (heard (HandshakePacket.decode packet) addressed)
  | addressed, .received packet _ => some (heard (LoginStartPacket.decode packet) named)
  | named, .sent packet _ origin =>
    if onlineMode then if packet.id = 0x01 ∧ origin = .own then some challenged else none
    else proceed packet origin
  | challenged, .received packet _ => some (heard (EncryptionResponsePacket.decode packet) answered)
  | answered, .sent packet _ origin => proceed packet origin
  | compressed, .sent packet _ origin => conclude packet origin
  | accepted, .received packet _ =>
    if v ≥ 764 then some (heard (LoginAcknowledgedPacket.decode packet) (configuring false false)) else none
  | accepted, .sent packet _ origin => dismiss v packet origin
  | configuring clientFinished backendFinished, e =>
    if clientFinished ∧ backendFinished then none else configure v clientFinished backendFinished e
  | _, _ => none

/-- How far the client is after what was exchanged with it, if all of that may come. -/
def after (onlineMode : Bool) (v : Int) (log : List Event) : Option LoginStage :=
  log.foldl (fun stage e => stage.bind (next onlineMode v · e)) (some connected)

theorem after_append (onlineMode : Bool) (v : Int) (log : List Event) (e : Event) :
    after onlineMode v (log ++ [e]) = (after onlineMode v log).bind (next onlineMode v · e) := List.foldl_concat ..

/-- Through with the authentication. -/
def ready (onlineMode : Bool) : LoginStage := if onlineMode then answered else named

/-- Where the Play state begins. -/
def entered (v : Int) : LoginStage := if v ≥ 764 then configuring true true else accepted

theorem next_ready (onlineMode : Bool) (v : Int) (packet : RawPacket) (t : Option Nat) (origin : Origin) :
    next onlineMode v (ready onlineMode) (.sent packet t origin) = proceed packet origin := by
  cases onlineMode <;> rfl

theorem next_configuring {onlineMode : Bool} {v : Int} {c b : Bool} (h : ¬ (c = true ∧ b = true)) (e : Event) :
    next onlineMode v (configuring c b) e = configure v c b e := if_neg h

end LoginStage

theorem encodeForClient_dismisses (textJson : String → String) (p : DisconnectPacket) (v : Int) :
    LoginStage.dismiss v (p.encodeForClient textJson v true) .own = some .dismissed := by
  refine if_pos ⟨?_, rfl⟩
  rw [dismissalId, DisconnectPacket.encodeForClient, if_neg (not_not_intro rfl), DisconnectPacket.encodeConfig,
    DisconnectPacket.encodePlay, disconnectId]
  split_ifs <;> rfl

/-- A connection on which a write is lost loses all writes behind it. -/
def Wire.StaysBroken (w : Wire) : Prop := ∀ n e, w.fate n = .lost e → ∀ m, n ≤ m → ∃ e', w.fate m = .lost e'

/-- The client is at a stage of its login. -/
structure Peer.AtStage (onlineMode : Bool) (v : Int) (stage : LoginStage) (peer : Peer) : Prop where
  stage : LoginStage.after onlineMode v peer.wire.log = some stage
  broken : peer.wire.StaysBroken

/-- Nothing has been exchanged that may not be. -/
def Peer.InOrder (onlineMode : Bool) (v : Int) (peer : Peer) : Prop := (LoginStage.after onlineMode v peer.wire.log).isSome

section Talk

variable {onlineMode : Bool} {v : Int} {stage stage' : LoginStage}

theorem Peer.AtStage.inOrder {peer : Peer} (h : peer.AtStage onlineMode v stage) : peer.InOrder onlineMode v := by
  rw [Peer.InOrder, h.stage]
  rfl

/-- One more event. -/
theorem Peer.AtStage.event {peer peer' : Peer} (h : peer.AtStage onlineMode v stage) {e : Event}
    (hnext : stage.next onlineMode v e = some stage') (hlog : peer'.wire.log = peer.wire.log ++ [e])
    (hfate : peer'.wire.fate = peer.wire.fate) : peer'.AtStage onlineMode v stage' := by
  refine ⟨?_, ?_⟩
  · rw [hlog, LoginStage.after_append, h.stage]
    exact hnext
  · rw [Wire.StaysBroken, hfate]
    exact h.broken

/-- Nothing more. -/
theorem Peer.AtStage.quiet {peer peer' : Peer} (h : peer.AtStage onlineMode v stage)
    (hlog : peer'.wire.log = peer.wire.log) (hfate : peer'.wire.fate = peer.wire.fate) :
    peer'.AtStage onlineMode v stage := by
  refine ⟨hlog ▸ h.stage, ?_⟩
  rw [Wire.StaysBroken, hfate]
  exact h.broken

/-- To a client that has been accepted. -/
theorem next_accepted (onlineMode : Bool) (v : Int) (p : RawPacket) (t : Option Nat) (origin : Origin) :
    LoginStage.next onlineMode v .accepted (.sent p t origin) = LoginStage.dismiss v p origin := rfl

theorem write_order {p : RawPacket} {t : Option Nat} {origin : Origin}
    (hnext : stage.next onlineMode v (.sent p t origin) = some stage') :
    Ensures (Peer.InOrder onlineMode v) (Peer.AtStage onlineMode v stage) (Talk.write p t origin) fun _ =>
      Peer.AtStage onlineMode v stage' := by
  intro peer h
  have hsent : Peer.AtStage onlineMode v stage' ⟨⟨peer.wire.log ++ [.sent p t origin], peer.wire.fate,
      peer.wire.writes + 1⟩, peer.reads⟩ := h.event hnext rfl rfl
  unfold Talk.write Wire.write
  cases peer.wire.fate peer.wire.writes with
  | done => exact ⟨hsent.inOrder, fun _ _ => hsent⟩
  | lost e => exact ⟨h.inOrder, nofun⟩
  | flushFailed e => exact ⟨hsent.inOrder, nofun⟩

theorem read_order {t : Option Nat} {told : RawPacket → LoginStage}
    (hnext : ∀ p, stage.next onlineMode v (.received p t) = some (told p)) :
    Ensures (Peer.InOrder onlineMode v) (Peer.AtStage onlineMode v stage) (Talk.read t) fun p =>
      Peer.AtStage onlineMode v (told p) := by
  intro peer h
  unfold Talk.read
  split
  · next p reads _ =>
    have hread : Peer.AtStage onlineMode v (told p) ⟨peer.wire.received p t, reads⟩ := h.event (hnext p) rfl rfl
    refine ⟨hread.inOrder, fun p' hp => ?_⟩
    cases hp
    exact hread
  · exact ⟨h.inOrder, nofun⟩

theorem readWithin_order {t : Option Nat} {told : RawPacket → LoginStage}
    (hnext : ∀ p, stage.next onlineMode v (.received p t) = some (told p)) (late : ProxyError) :
    Ensures (Peer.InOrder onlineMode v) (Peer.AtStage onlineMode v stage) (Talk.readWithin t late) fun p =>
      Peer.AtStage onlineMode v (told p) := by
  intro peer h
  unfold Talk.readWithin
  split
  · exact ⟨h.inOrder, nofun⟩
  · exact read_order hnext peer h

/-- What has been read is taken for what it decodes as, or is the last packet. -/
theorem decoded_order {σ α : Type} {I : σ → Prop} {S : LoginStage → σ → Prop} (hI : ∀ stage s, S stage s → I s)
    (x : Outcome ProxyError α) (stage : LoginStage) :
    Ensures I (S (.heard x stage)) (Talk.lift x : Effect σ ProxyError α) fun _ => S stage := by
  refine ensures_mono (lift_ensures (hI _) x) (fun _ h => h) fun a s h => ?_
  obtain ⟨hdecoded, hstage⟩ := h
  rw [hdecoded] at hstage
  exact hstage

theorem flush_order :
    Ensures (Peer.InOrder onlineMode v) (Peer.AtStage onlineMode v stage) Talk.flush fun _ =>
      Peer.AtStage onlineMode v stage := by
  intro peer h
  have hflushed : Peer.AtStage onlineMode v stage (Talk.flush peer).2 := h.quiet (Wire.flush_log _) (Wire.flush_fate _)
  exact ⟨hflushed.inOrder, fun _ _ => hflushed⟩

/-- Whatever becomes of a packet that ends the login, it ends in order. -/
theorem sendDisconnect_order (stage' : LoginStage) {p : RawPacket} {t : Option Nat}
    (hnext : stage.next onlineMode v (.sent p t .own) = some stage') :
    Ensures (Peer.InOrder onlineMode v) (Peer.AtStage onlineMode v stage) (sendDisconnect p t) fun _ =>
      Peer.InOrder onlineMode v := by
  intro peer h
  have hwrite := (write_order hnext peer h).1
  exact ⟨hwrite, fun _ _ => hwrite⟩

/-- All writes are lost from now on. -/
def Peer.Lost (peer : Peer) : Prop := ∀ m, peer.wire.writes ≤ m → ∃ e, peer.wire.fate m = .lost e

/-- A LoginSuccess has gone out, or nothing goes out any more. -/
theorem attemptSuccess_order {p : RawPacket} {t : Option Nat}
    (hnext : stage.next onlineMode v (.sent p t .own) = some .accepted) :
    Ensures (Peer.InOrder onlineMode v) (Peer.AtStage onlineMode v stage) (attempt (Talk.write p t .own)) fun _ peer =>
      peer.AtStage onlineMode v .accepted ∨ peer.AtStage onlineMode v stage ∧ peer.Lost := by
  intro peer h
  have hsent : Peer.AtStage onlineMode v .accepted ⟨⟨peer.wire.log ++ [.sent p t .own], peer.wire.fate,
      peer.wire.writes + 1⟩, peer.reads⟩ := h.event hnext rfl rfl
  rw [Effect.attempt_apply]
  unfold Talk.write Wire.write
  cases hfate : peer.wire.fate peer.wire.writes with
  | done => exact ⟨hsent.inOrder, fun _ _ => Or.inl hsent⟩
  | flushFailed e => exact ⟨hsent.inOrder, fun _ _ => Or.inl hsent⟩
  | lost e =>
    refine ⟨h.inOrder, fun _ _ => Or.inr ⟨h.quiet rfl rfl, fun m hm => ?_⟩⟩
    exact h.broken _ e hfate m (Nat.le_of_succ_le hm)

/-- Behind that, a notice in the client's next state. -/
theorem sendDisconnect_after {p : RawPacket} (hp : LoginStage.dismiss v p .own = some .dismissed) (t : Option Nat) :
    Ensures (Peer.InOrder onlineMode v)
      (fun peer => peer.AtStage onlineMode v .accepted ∨ peer.AtStage onlineMode v stage ∧ peer.Lost)
      (sendDisconnect p t) fun _ => Peer.InOrder onlineMode v := by
  intro peer h
  have hwrite : Peer.InOrder onlineMode v (sendDisconnect p t peer).2 := by
    rcases h with h | ⟨h, hlost⟩
    · exact (sendDisconnect_order .dismissed ((next_accepted ..).trans hp) peer h).1
    · obtain ⟨e, he⟩ := hlost _ le_rfl
      rw [sendDisconnect, Effect.attempt_apply, Talk.write, Wire.write, he]
      exact h.inOrder
  exact ⟨hwrite, fun _ _ => hwrite⟩

end Talk

/-! ## Up to the choice of the server -/

/-- The client is at a stage of its login. -/
def ActiveStream.AtStage (onlineMode : Bool) (v : Int) (stage : LoginStage) (s : ActiveStream) : Prop :=
  s.peer.AtStage onlineMode v stage

def ActiveStream.InOrder (onlineMode : Bool) (v : Int) (s : ActiveStream) : Prop := s.peer.InOrder onlineMode v

section Accept

variable {onlineMode : Bool} {v : Int} {stage : LoginStage} {α : Type}

theorem throw_order (e : ProxyError) {S : α → ActiveStream → Prop} :
    Ensures (ActiveStream.InOrder onlineMode v) (ActiveStream.AtStage onlineMode v stage) (throw e : Accept α) S :=
  ensures_throw fun _ h => Peer.AtStage.inOrder h

theorem liftAccept_order (x : Outcome ProxyError α) (stage : LoginStage) :
    Ensures (ActiveStream.InOrder onlineMode v) (ActiveStream.AtStage onlineMode v (.heard x stage))
      (Talk.lift x : Accept α) fun _ => ActiveStream.AtStage onlineMode v stage :=
  decoded_order (S := fun stage => ActiveStream.AtStage onlineMode v stage) (fun _ _ => Peer.AtStage.inOrder) x stage

theorem readAccept_order {told : RawPacket → LoginStage}
    (hnext : ∀ p, stage.next onlineMode v (.received p none) = some (told p)) (late : ProxyError) :
    Ensures (ActiveStream.InOrder onlineMode v) (ActiveStream.AtStage onlineMode v stage)
      (onStream (Talk.readWithin none late)) fun p => ActiveStream.AtStage onlineMode v (told p) :=
  onStream_ensures (readWithin_order hnext late)

theorem readHandshake_order :
    Ensures (ActiveStream.InOrder onlineMode v) (ActiveStream.AtStage onlineMode v .connected) readHandshake fun _ =>
      ActiveStream.AtStage onlineMode v .addressed :=
  ensures_bind (readAccept_order (fun _ => rfl) _) fun _ => liftAccept_order _ _

theorem encryptionRequest_id (p : EncryptionRequestPacket) (v : Int) : (p.encodeWithVersion v).id = 0x01 := rfl

theorem agreeSecret_order (env : LoginEnv) (protocolVersion : Int) :
    Ensures (ActiveStream.InOrder true v) (ActiveStream.AtStage true v .named) (agreeSecret env protocolVersion) fun _ =>
      ActiveStream.AtStage true v .answered := by
  refine ensures_bind (S := fun _ => ActiveStream.AtStage true v .challenged) ?_ fun _ => ?_
  · refine onStream_ensures (write_order ?_)
    rw [LoginStage.next, if_pos rfl, if_pos ⟨encryptionRequest_id _ _, rfl⟩]
  refine ensures_bind (readAccept_order (fun _ => rfl) _) fun respRaw => ?_
  refine ensures_bind (liftAccept_order _ .answered) fun encResp => ?_
  split
  · refine ensures_ite (fun _ => throw_order _) fun _ => ensures_ite (fun _ => throw_order _) fun _ => ?_
    exact ensures_pure fun _ h => ⟨Peer.AtStage.inOrder h, h⟩
  · exact throw_order _
  · exact throw_order _
  · exact throw_order _
  · exact throw_order _

theorem loginDisconnect_conclude (lib : Library) (reason : String) :
    LoginStage.conclude (loginDisconnect lib reason) .own = some .refused := rfl

theorem turnAway_order (stage' : LoginStage) {packet : RawPacket}
    (hnext : stage.next onlineMode v (.sent packet none .own) = some stage') (e : ProxyError)
    {S : α → ActiveStream → Prop} :
    Ensures (ActiveStream.InOrder onlineMode v) (ActiveStream.AtStage onlineMode v stage) (do
      onStream (sendDisconnect packet none)
      throw e : Accept α) S :=
  ensures_bind (onStream_ensures (sendDisconnect_order _ hnext)) fun _ => ensures_throw fun _ h => h

theorem encrypt_order (secret : List UInt8) :
    Ensures (ActiveStream.InOrder onlineMode v) (ActiveStream.AtStage onlineMode v stage) (encrypt secret) fun _ =>
      ActiveStream.AtStage onlineMode v stage :=
  fun _ h => ⟨Peer.AtStage.inOrder h, fun _ _ => h⟩

theorem verifyProfile_order (env : LoginEnv) (username : String) (secret : List UInt8) :
    Ensures (ActiveStream.InOrder true v) (ActiveStream.AtStage true v .answered) (verifyProfile env username secret)
      fun _ => ActiveStream.AtStage true v .answered := by
  unfold verifyProfile
  simp only
  split
  · exact ensures_bind (encrypt_order secret) fun _ => turnAway_order .refused rfl _
  · refine ensures_ite (fun _ => throw_order _) fun _ => ensures_get_bind fun s => ?_
    split
    · exact throw_order _
    · exact ensures_bind (encrypt_order secret) fun _ => ensures_pure fun _ h => ⟨Peer.AtStage.inOrder h, h⟩

theorem handleLoginAuth_order (env : LoginEnv) (handshake : HandshakePacket) :
    Ensures (ActiveStream.InOrder env.config.onlineMode v) (ActiveStream.AtStage env.config.onlineMode v .addressed)
      (handleLoginAuth env handshake) fun _ =>
        ActiveStream.AtStage env.config.onlineMode v (.ready env.config.onlineMode) := by
  refine ensures_bind (readAccept_order (fun _ => rfl) _) fun rawPacket => ?_
  refine ensures_bind (liftAccept_order _ .named) fun loginStart => ?_
  refine ensures_ite (fun honline => ?_) fun hoffline => ?_
  · rw [honline]
    exact ensures_bind (agreeSecret_order env _) fun secret => verifyProfile_order env _ secret
  · rw [Bool.eq_false_iff.mpr hoffline]
    exact ensures_pure fun _ h => ⟨Peer.AtStage.inOrder h, h⟩

theorem chooseServer_order (env : LoginEnv) (v : Int) (profile : PlayerProfile) :
    Ensures (ActiveStream.InOrder onlineMode v) (ActiveStream.AtStage onlineMode v (.ready onlineMode))
      (chooseServer env v profile) fun _ => ActiveStream.AtStage onlineMode v (.ready onlineMode) := by
  unfold chooseServer
  simp only
  refine ensures_ite (fun _ => ?_) fun _ => ?_
  · refine turnAway_order .refused ?_ _
    rw [LoginStage.next_ready]
    rfl
  · split
    · exact ensures_pure fun _ h => ⟨Peer.AtStage.inOrder h, h⟩
    · refine ensures_bind (onStream_ensures (attemptSuccess_order ?_)) fun _ => ?_
      · rw [LoginStage.next_ready, LoginStage.proceed, LoginStage.conclude, loginSuccess_id]
        rfl
      · refine ensures_bind (onStream_ensures (sendDisconnect_after ?_ none)) fun _ => ensures_throw fun _ h => h
        exact encodeForClient_dismisses ..

theorem logIn_order (env : LoginEnv) {handshake : HandshakePacket} (hv : handshake.protocolVersion.toInt = v) :
    Ensures (ActiveStream.InOrder env.config.onlineMode v) (ActiveStream.AtStage env.config.onlineMode v .addressed)
      (logIn env handshake) fun _ => ActiveStream.AtStage env.config.onlineMode v (.ready env.config.onlineMode) := by
  refine ensures_bind (handleLoginAuth_order env handshake) fun profile => ?_
  rw [hv]
  exact chooseServer_order env v profile

end Accept

/-! ## Up to the Play state -/

def Linked.AtStage (onlineMode : Bool) (v : Int) (stage : LoginStage) (s : Linked) : Prop :=
  s.client.AtStage onlineMode v stage

def Linked.InOrder (onlineMode : Bool) (v : Int) (s : Linked) : Prop := s.client.InOrder onlineMode v

/-- The stage of a client while the Configuration loop stands so. -/
def Bridging.stage (b : Bridging) : LoginStage := .configuring b.clientFinished b.backendFinished

section Bridge

variable {onlineMode : Bool} {v : Int} {stage stage' : LoginStage} {α : Type}

theorem exit_order (exit : Exit) {S : α → Linked → Prop} :
    Ensures (Linked.InOrder onlineMode v) (Linked.AtStage onlineMode v stage) (throw exit : Bridge α) S :=
  ensures_throw fun _ h => Peer.AtStage.inOrder h

theorem onClient_order {P : Peer → Prop} {m : Talk α} {S : α → Peer → Prop}
    (hm : Ensures (Peer.InOrder onlineMode v) P m S) (hS : ∀ a peer, S a peer → peer.InOrder onlineMode v) :
    Ensures (Linked.InOrder onlineMode v) (fun s => P s.client.peer) (onClient m) fun a s => S a s.client.peer := by
  have hfocus := ensures_focus (fun s : Linked => s.client.peer)
    (fun s peer => { s with client := { s.client with peer := peer } }) hm (B := fun _ => True) (fun _ _ => rfl)
    fun _ _ h => h
  have hhandled : Ensures (Linked.InOrder onlineMode v) (fun s => P s.client.peer ∧ True) (onClient m)
      fun a s => S a s.client.peer ∧ True :=
    ensures_handle hfocus (fun a s h => hS a _ h.1) fun e => ensures_throw fun s h => h.1
  exact ensures_mono hhandled (fun _ h => ⟨h, trivial⟩) fun _ _ h => h.1

/-- What leaves the client at a stage. -/
theorem onClientTold_order {m : Talk α} {told : α → LoginStage}
    (hm : Ensures (Peer.InOrder onlineMode v) (Peer.AtStage onlineMode v stage) m fun a =>
      Peer.AtStage onlineMode v (told a)) :
    Ensures (Linked.InOrder onlineMode v) (Linked.AtStage onlineMode v stage) (onClient m) fun a =>
      Linked.AtStage onlineMode v (told a) :=
  onClient_order hm fun _ _ => Peer.AtStage.inOrder

/-- What is said to the backend does not reach the client. -/
theorem onBackendOr_order {m : Talk α} {h : ProxyError → Bridge α}
    (hh : ∀ e, Ensures (Linked.InOrder onlineMode v) (Linked.AtStage onlineMode v stage) (h e) fun _ =>
      Linked.AtStage onlineMode v stage) :
    Ensures (Linked.InOrder onlineMode v) (Linked.AtStage onlineMode v stage) (onBackendOr m h) fun _ =>
      Linked.AtStage onlineMode v stage := by
  have hfocus : Ensures (Linked.AtStage onlineMode v stage) (Linked.AtStage onlineMode v stage)
      (focus Linked.backend (fun s peer => { s with backend := peer }) m) fun _ => Linked.AtStage onlineMode v stage :=
    fun s hs => ⟨hs, fun _ _ => hs⟩
  exact ensures_handle hfocus (fun _ _ h => Peer.AtStage.inOrder h) hh

theorem refuse_order {packet : RawPacket} {t : Option Nat}
    (hnext : stage.next onlineMode v (.sent packet t .own) = some stage') (exit : Exit) {S : α → Linked → Prop} :
    Ensures (Linked.InOrder onlineMode v) (Linked.AtStage onlineMode v stage) (refuse packet t exit : Bridge α) S :=
  ensures_bind (onClient_order (sendDisconnect_order _ hnext) fun _ _ h => h) fun _ => ensures_throw fun _ h => h

/-- A stage in which a login may still be refused. -/
def Refusable (onlineMode : Bool) (v : Int) (stage : LoginStage) : Prop :=
  ∀ packet t, stage.next onlineMode v (.sent packet t .own) = LoginStage.conclude packet .own

theorem refusable_ready (onlineMode : Bool) (v : Int) : Refusable onlineMode v (.ready onlineMode) := by
  intro packet t
  rw [LoginStage.next_ready, LoginStage.proceed, if_neg fun h => nomatch h.2]

theorem refusable_compressed (onlineMode : Bool) (v : Int) : Refusable onlineMode v .compressed := fun _ _ => rfl

theorem refuseLogin_order (h : Refusable onlineMode v stage) (lib : Library) (reason : String) (t : Option Nat)
    (exit : Exit) {S : α → Linked → Prop} :
    Ensures (Linked.InOrder onlineMode v) (Linked.AtStage onlineMode v stage)
      (refuse (loginDisconnect lib reason) t exit : Bridge α) S :=
  refuse_order ((h _ t).trans (loginDisconnect_conclude lib reason)) exit

theorem expectBackend_order (h : Refusable onlineMode v stage) (lib : Library) (t : Option Nat) :
    Ensures (Linked.InOrder onlineMode v) (Linked.AtStage onlineMode v stage) (expectBackend lib t) fun _ =>
      Linked.AtStage onlineMode v stage :=
  onBackendOr_order fun _ => refuseLogin_order h lib _ t _

/-- The stage the negotiation leaves the client in. -/
def negotiatedStage (onlineMode : Bool) (threshold : Option Nat) : LoginStage :=
  if threshold.isSome then .compressed else .ready onlineMode

theorem refusable_negotiated (onlineMode : Bool) (v : Int) (threshold : Option Nat) :
    Refusable onlineMode v (negotiatedStage onlineMode threshold) := by
  cases threshold with
  | none => exact refusable_ready onlineMode v
  | some t => exact refusable_compressed onlineMode v

theorem negotiate_order (lib : Library) :
    Ensures (Linked.InOrder onlineMode v) (Linked.AtStage onlineMode v (.ready onlineMode)) (negotiate lib) fun answer =>
      Linked.AtStage onlineMode v (negotiatedStage onlineMode answer.1) := by
  refine ensures_bind (expectBackend_order (refusable_ready onlineMode v) lib none) fun first => ?_
  refine ensures_ite (fun hid => ?_) fun _ => ensures_pure fun _ h => ⟨Peer.AtStage.inOrder h, h⟩
  refine ensures_bind (S := fun _ => Linked.AtStage onlineMode v (.ready onlineMode)) ?_ fun thresh => ?_
  · refine onClientTold_order ?_
    exact ensures_mono (lift_ensures (fun _ => Peer.AtStage.inOrder) _) (fun _ h => h) fun _ _ h => h.2
  refine ensures_ite (fun _ => exit_order _) fun _ => ?_
  refine ensures_bind (S := fun _ => Linked.AtStage onlineMode v .compressed) ?_ fun _ => ?_
  · refine onClientTold_order (write_order ?_)
    rw [LoginStage.next_ready, LoginStage.proceed, if_pos ⟨hid, rfl⟩]
  · refine ensures_bind (expectBackend_order (refusable_compressed onlineMode v) lib _) fun packet => ?_
    exact ensures_pure fun _ h => ⟨Peer.AtStage.inOrder h, h⟩

theorem checkAccepted_order (h : Refusable onlineMode v stage) (lib : Library) (t : Option Nat) (packet : RawPacket) :
    Ensures (Linked.InOrder onlineMode v) (Linked.AtStage onlineMode v stage) (checkAccepted lib t packet) fun _ =>
      Linked.AtStage onlineMode v stage :=
  ensures_ite (fun _ => refuseLogin_order h lib _ t _) fun _ => ensures_ite (fun _ => refuseLogin_order h lib _ t _)
    fun _ => ensures_ite (fun _ => refuseLogin_order h lib _ t _) fun _ =>
      ensures_pure fun _ h => ⟨Peer.AtStage.inOrder h, h⟩

theorem sendLoginSuccess_order (h : Refusable onlineMode v stage) (newV4 : Uuid) (profile : PlayerProfile)
    (t : Option Nat) (packet : RawPacket) :
    Ensures (Linked.InOrder onlineMode v) (Linked.AtStage onlineMode v stage)
      (sendLoginSuccess newV4 profile v t packet) fun _ => Linked.AtStage onlineMode v .accepted := by
  refine ensures_bind (S := fun _ => Linked.AtStage onlineMode v .accepted) ?_ fun _ => ?_
  · refine onClientTold_order (write_order ?_)
    rw [h, LoginStage.conclude, loginSuccess_id]
    rfl
  · exact onClientTold_order flush_order

/-- The acknowledgement takes the client to the Configuration state. -/
theorem acknowledge_order (hv : v ≥ 764) (env : LoginEnv) (t : Option Nat) :
    Ensures (Linked.InOrder onlineMode v) (Linked.AtStage onlineMode v .accepted) (acknowledge env v t) fun _ =>
      Linked.AtStage onlineMode v (.configuring false false) := by
  refine ensures_ite (fun _ => refuse_order ((next_accepted ..).trans (encodeForClient_dismisses ..)) _) fun _ => ?_
  have hnext : ∀ p, LoginStage.next onlineMode v .accepted (.received p t) =
      some (.heard (LoginAcknowledgedPacket.decode p) (.configuring false false)) := fun _ => if_pos hv
  refine ensures_bind (onClientTold_order (readWithin_order hnext _)) fun clientAckRaw => ?_
  refine ensures_bind (S := fun _ => Linked.AtStage onlineMode v (.configuring false false)) ?_ fun ack => ?_
  · refine onClientTold_order ?_
    exact decoded_order (S := Peer.AtStage onlineMode v) (fun _ _ => Peer.AtStage.inOrder) _ _
  · exact onBackendOr_order fun e => exit_order _

/-! ### The Configuration loop -/

/-- A packet of the backend's that is passed on. -/
theorem relayed_order {b : Bridging} {packet : RawPacket} (hb : ¬ b.Ready)
    (hprotected : isProtectedPluginChannel packet = false) (t : Option Nat) :
    b.stage.next onlineMode v (.sent packet t .relayed) =
      some (if packet.id = disconnectId v then .dismissed else (noteConfiguration v packet b).stage) := by
  rw [Bridging.stage, LoginStage.next_configuring hb, LoginStage.configure, hprotected, if_neg Bool.false_ne_true]
  split
  · rfl
  · rw [noteConfiguration, Bridging.stage, LoginStage.finishes, hprotected, Bool.or_comm]
    simp [Bool.beq_eq_decide_eq]

/-- A packet of the client's. -/
theorem received_order {b : Bridging} (hb : ¬ b.Ready) (packet : RawPacket) (t : Option Nat) :
    b.stage.next onlineMode v (.received packet t) = some ((Arrival.fromClient packet).noted v b).stage := by
  rw [Bridging.stage, LoginStage.next_configuring hb, LoginStage.configure, LoginStage.finishes, Arrival.noted,
    if_congr (clientFinish_iff v packet.id) rfl rfl]
  split_ifs with hprotected hid
  · simp [Bridging.stage, hprotected]
  · simp [Bridging.stage, hprotected, hid]
  · simp [Bridging.stage, hid]

theorem bridgeTurn_order (lib : Library) (t : Option Nat) {b : Bridging} (hb : ¬ b.Ready) (turn : Turn) :
    Ensures (Linked.InOrder onlineMode v) (Linked.AtStage onlineMode v b.stage) (bridgeTurn lib v t b turn)
      fun b' => Linked.AtStage onlineMode v b'.stage := by
  have hkeep : ∀ b' : Bridging, Ensures (Linked.InOrder onlineMode v) (Linked.AtStage onlineMode v b'.stage)
      (pure b' : Bridge Bridging) fun b' => Linked.AtStage onlineMode v b'.stage :=
    fun b' => ensures_pure fun _ h => ⟨Peer.AtStage.inOrder h, h⟩
  cases turn with
  | shutdown =>
    have hnotice : b.stage.next onlineMode v (.sent (shutdownNotice lib v) t .own) = some .dismissed := by
      rw [Bridging.stage, LoginStage.next_configuring hb]
      exact encodeForClient_dismisses ..
    exact refuse_order hnotice _
  | backend =>
    refine ensures_bind (onBackendOr_order fun e => exit_order _) fun packet => ?_
    refine ensures_ite (fun _ => hkeep b) fun hprotected => ?_
    refine ensures_bind (onClientTold_order (write_order (relayed_order hb (Bool.eq_false_iff.mpr hprotected) t)))
      fun _ => ensures_ite (fun _ => exit_order _) fun hid => ?_
    rw [if_neg hid]
    exact hkeep _
  | client =>
    refine ensures_bind (onClientTold_order (read_order (received_order hb · t))) fun packet => ?_
    rw [Arrival.noted]
    refine ensures_ite (fun hprotected => ?_) fun hprotected => ?_
    · rw [if_pos hprotected]
      exact hkeep b
    · rw [if_neg hprotected]
      refine ensures_bind (onBackendOr_order fun e => exit_order _) fun _ => ?_
      refine ensures_ite (fun hfinished => ?_) fun hfinished => ?_
      · rw [if_pos hfinished]
        exact hkeep _
      · rw [if_neg hfinished]
        exact hkeep b

/-- The loop is over when both sides have finished. -/
theorem ready_order {b : Bridging} (h : b.Ready) :
    Ensures (Linked.InOrder onlineMode v) (Linked.AtStage onlineMode v b.stage)
      (pure b.cache : Bridge SessionRegistryCache) fun _ => Linked.AtStage onlineMode v (.configuring true true) := by
  rw [Bridging.stage, h.1, h.2]
  exact ensures_pure fun _ hstage => ⟨Peer.AtStage.inOrder hstage, hstage⟩

theorem bridge_order (lib : Library) (t : Option Nat) (turns : List Turn) (b : Bridging) :
    Ensures (Linked.InOrder onlineMode v) (Linked.AtStage onlineMode v b.stage) (bridge lib v t turns b) fun _ =>
      Linked.AtStage onlineMode v (.configuring true true) := by
  induction turns generalizing b with
  | nil => exact ensures_ite ready_order fun _ => exit_order _
  | cons turn turns ih => exact ensures_ite ready_order fun hb => ensures_bind (bridgeTurn_order lib t hb turn) ih

theorem settle_order (env : LoginEnv) (profile : PlayerProfile) :
    Ensures (Linked.InOrder onlineMode v) (Linked.AtStage onlineMode v (.ready onlineMode)) (settle env v profile)
      fun _ => Linked.AtStage onlineMode v (.entered v) := by
  refine ensures_bind (negotiate_order env.lib) fun answer => ?_
  obtain ⟨threshold, packet⟩ := answer
  have hrefusable := refusable_negotiated onlineMode v threshold
  refine ensures_bind (checkAccepted_order hrefusable env.lib threshold packet) fun _ => ?_
  refine ensures_bind (sendLoginSuccess_order hrefusable env.newV4 profile threshold packet) fun _ => ?_
  refine ensures_ite (fun hv => ?_) fun hv => ?_
  · rw [LoginStage.entered, if_pos hv]
    refine ensures_bind (acknowledge_order hv env threshold) fun _ => ?_
    refine ensures_bind (bridge_order env.lib threshold env.turns ⟨false, false, .new⟩) fun cache => ?_
    exact ensures_pure fun _ h => ⟨Peer.AtStage.inOrder h, h⟩
  · rw [LoginStage.entered, if_neg hv]
    exact ensures_pure fun _ h => ⟨Peer.AtStage.inOrder h, h⟩

end Bridge

/-- A processed connection is in order; where the Play state is reached, the
login is over: the client has been accepted, and both sides have finished with
the Configuration state if there is one. -/
structure Processed.InOrder (onlineMode : Bool) (v : Int) (processed : Processed) : Prop where
  client : processed.client.InOrder onlineMode v
  entered : ∀ s, processed.result = .ok s →
    LoginStage.after onlineMode v processed.client.peer.wire.log = some (.entered v)

theorem Processed.InOrder.failed {onlineMode : Bool} {v : Int} {client : ActiveStream}
    (h : client.InOrder onlineMode v) (exit : Exit) (backend : Option Peer) :
    Processed.InOrder onlineMode v ⟨.error exit, client, backend⟩ :=
  ⟨h, fun _ hok => nomatch hok⟩

theorem processLogin_order (env : LoginEnv) {handshake : HandshakePacket} {v : Int} {client : ActiveStream}
    (hv : handshake.protocolVersion.toInt = v) (h : client.AtStage env.config.onlineMode v .addressed) :
    (processLogin env handshake client).InOrder env.config.onlineMode v := by
  obtain ⟨horder, hok⟩ := logIn_order env hv client h
  rw [processLogin]
  rcases hadmitted : logIn env handshake client with ⟨_ | admission, client'⟩
  · rw [hadmitted] at horder
    exact .failed horder _ _
  rw [hadmitted] at hok
  have hready : client'.AtStage env.config.onlineMode v (.ready env.config.onlineMode) := hok admission rfl
  dsimp only
  cases connectAndForward env.lib env.dial admission.backendConfig admission.profile env.clientIp
      handshake.protocolVersion with
  | failed e dropped =>
    refine .failed ?_ _ _
    refine (onStream_ensures (sendDisconnect_order .refused ?_) client' hready).1
    rw [refusable_ready]
    exact loginDisconnect_conclude _ _
  | ok _ backend =>
    obtain ⟨hsettled, hentered⟩ := settle_order env admission.profile ⟨client', backend⟩ hready
    dsimp only
    rw [hv]
    rcases hrun : settle env v admission.profile ⟨client', backend⟩ with ⟨_ | ⟨threshold, cache⟩, linked⟩
    · rw [hrun] at hsettled
      exact .failed hsettled _ _
    · rw [hrun] at hsettled hentered
      exact ⟨hsettled, fun _ _ => (hentered _ rfl).stage⟩

/-- The protocol version a client's handshake names. -/
def spokenVersion : List PeerRead → Int
  | .packet packet :: _ =>
    match HandshakePacket.decode packet with
    | .ok handshake => handshake.protocolVersion.toInt
    | _ => 0
  | _ => 0

theorem readHandshake_version {fate : Nat → WriteFate} {reads : List PeerRead} {handshake : HandshakePacket}
    {client : ActiveStream} (h : readHandshake ⟨.connected fate reads, none⟩ = (.ok handshake, client)) :
    handshake.protocolVersion.toInt = spokenVersion reads := by
  obtain ⟨rawPacket, read, hread, hdecode⟩ := bind_eq_ok.mp h
  rcases reads with _ | ⟨_ | _ | _, reads⟩
  · cases hread
  · cases hread
    cases hdecoded : HandshakePacket.decode rawPacket with
    | ok decoded =>
      rw [hdecoded] at hdecode
      cases hdecode
      rw [spokenVersion, hdecoded]
    | err e =>
      rw [hdecoded] at hdecode
      cases hdecode
    | panic =>
      rw [hdecoded] at hdecode
      cases hdecode
  · cases hread
  · cases hread

/-- A login at protocol 767: the backend sends a plugin message and finishes, and
then the client does. -/
def configuredLogin : LoginEnv :=
  { smallLogin with
    dial := fun _ => .connected (fun _ => .done)
      [.packet (encodeLoginSuccessWithSession .nil ⟨.nil, "Steve", []⟩ none 767), .packet ⟨0x01, putString "a:b"⟩,
        .packet ⟨0x03, []⟩]
    turns := [.backend, .backend, .client] }

def configuredLoginReads : List PeerRead :=
  [.packet (HandshakePacket.encode ⟨767, "localhost", 25565, .login⟩),
    .packet (LoginStartPacket.encode ⟨"Steve", .nil⟩), .packet (LoginAcknowledgedPacket.encode ⟨⟩),
    .packet ⟨0x03, []⟩]

end FrameMC

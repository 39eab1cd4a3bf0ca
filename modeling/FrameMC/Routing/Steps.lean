import FrameMC.Lib.Runs
import FrameMC.Routing.Switch

/-!
# What a step does

Every method of the machine is put together from a few operations. `StepRel R`
says that a relation between states holds of each of them; then it holds of
the methods as a whole (`StepRel.switchServer`, `StepRel.routeClientPacket`,
`StepRel.recover` and the ones between). Invariants are proved by giving `R`.

`Action` is one call of a method from outside, and a run is a sequence of
calls, each in its own environment.
-/

namespace FrameMC

open ByteStream Effect

/-- The machine once a transfer is through. -/
def transferred (targetServer : String) (wire : Wire) (threshold : Option Nat) (cache : SessionRegistryCache)
    (s : PlayStateMachine) : PlayStateMachine :=
  reattach targetServer wire threshold
    (teardownTransferredState (rearrange none (s.closed ++ s.backend.toList) cache s)).2

/-- A relation that every operation of the machine keeps to, in an environment. -/
structure StepRel (env : Env) (R : PlayStateMachine → PlayStateMachine → Prop) : Prop extends Effect.Steps R where
  chat : ∀ message, Keeps R (writeChat env message)
  complete : ∀ s p, R s (writeClient (TabCompleteResponsePacket.encodeWithVersion p s.session.protocolVersion) .own s).2
  toBackend : ∀ packet, Keeps R (writeBackend packet)
  giveUp : ∀ s dropped cache, (∀ w ∈ dropped, env.Drops w) → R s (rearrange s.backend (s.closed ++ dropped) cache s)
  transfer : ∀ s targetServer wire threshold cache, env.Offers wire threshold →
    R s (transferred targetServer wire threshold cache s)

/-- A relation that holds of each thing a teardown does holds of the teardown. -/
theorem keeps_teardown {R : PlayStateMachine → PlayStateMachine → Prop} (hR : Effect.Steps R)
    (hcontainer : Keeps R closeContainer) (haudio : Keeps R silence) (hobjectives : Keeps R removeObjectives)
    (hslots : Keeps R clearSlots) (hbars : Keeps R removeBossBars) : Keeps R teardownTransferredState :=
  keeps_bind hR hcontainer fun _ =>
    keeps_bind hR haudio fun _ =>
      keeps_bind hR hobjectives fun _ =>
        keeps_bind hR hslots fun _ => hbars

/-- Writes to the client change its wire and nothing else. -/
theorem writeEach_frame {α : Type} (set : HashSet α) (encode : α → RawPacket) (s : PlayStateMachine) :
    (writeEach set encode s).2 = { s with client := (writeEach set encode s).2.client } := by
  have hsteps : Effect.Steps fun s s' : PlayStateMachine => s' = { s with client := s'.client } := by
    refine ⟨fun _ => rfl, fun h h' => ?_⟩
    rw [h', h]
  exact keeps_forEach hsteps (fun x _ => keeps_attempt fun _ => rfl) s

/-- A teardown is its parts in turn: none of them fails. -/
theorem teardown_state (s : PlayStateMachine) :
    (teardownTransferredState s).2 =
      (removeBossBars (clearSlots (removeObjectives (silence (closeContainer s).2).2).2).2).2 := by
  have hcontainer : ∀ s, (closeContainer s).1 = .ok () := by
    intro s
    rw [closeContainer, Effect.get_bind]
    cases s.openContainerId <;> rfl
  have haudio : ∀ s, (silence s).1 = .ok () := by
    intro s
    rw [silence, Effect.get_bind]
    split <;> rfl
  have hobjectives : ∀ s, (removeObjectives s).1 = .ok () := fun s => forEach_attempt_ok ..
  have hslots : ∀ s, (clearSlots s).1 = .ok () := fun s => forEach_attempt_ok ..
  rw [teardownTransferredState, bind_snd_of_ok (hcontainer s), bind_snd_of_ok (haudio _),
    bind_snd_of_ok (hobjectives _), bind_snd_of_ok (hslots _)]

/-- A teardown changes the client's wire and the picture of the client, and nothing else. -/
theorem teardown_frame (s : PlayStateMachine) :
    (teardownTransferredState s).2 = { s with
      client := (teardownTransferredState s).2.client
      openContainerId := (teardownTransferredState s).2.openContainerId
      hasActiveAudio := (teardownTransferredState s).2.hasActiveAudio
      activeBossBars := (teardownTransferredState s).2.activeBossBars
      activeScoreboardObjectives := (teardownTransferredState s).2.activeScoreboardObjectives
      activeDisplaySlots := (teardownTransferredState s).2.activeDisplaySlots } := by
  have hsteps : Effect.Steps fun s s' : PlayStateMachine => s' = { s with
      client := s'.client
      openContainerId := s'.openContainerId
      hasActiveAudio := s'.hasActiveAudio
      activeBossBars := s'.activeBossBars
      activeScoreboardObjectives := s'.activeScoreboardObjectives
      activeDisplaySlots := s'.activeDisplaySlots } := by
    refine ⟨fun _ => rfl, fun h h' => ?_⟩
    rw [h', h]
  refine keeps_teardown hsteps ?_ ?_ ?_ ?_ ?_ s
  · refine keeps_get_bind fun s => ?_
    cases s.openContainerId <;> rfl
  · refine keeps_get_bind fun s => ?_
    split <;> rfl
  · refine keeps_get_bind fun s => ?_
    rw [Effect.modify_bind, writeEach_frame]
  · refine keeps_get_bind fun s => ?_
    rw [Effect.modify_bind, writeEach_frame]
  · refine keeps_get_bind fun s => ?_
    rw [Effect.modify_bind, writeEach_frame]

namespace StepRel

variable {env : Env} {R : PlayStateMachine → PlayStateMachine → Prop} (h : StepRel env R)

include h

theorem switchServer (targetServer : String) : Keeps R (switchServer env targetServer) := by
  intro s
  have hcases := switchServer_cases env targetServer s
  generalize (FrameMC.switchServer env targetServer s).1 = r at hcases
  generalize (FrameMC.switchServer env targetServer s).2 = s' at hcases ⊢
  cases hcases with
  | unknown r _ _ => exact h.chat _ s
  | failed reason dropped hdropped => exact h.trans (h.giveUp s dropped _ hdropped) (h.chat _ _)
  | attached wire threshold hoffers => exact h.transfer s targetServer wire threshold _ hoffers

theorem recover (before after : String) {atFallback : Play Bool} (hfallback : Keeps R atFallback) :
    Keeps R (recover env before after atFallback) := by
  refine keeps_get_bind fun s => ?_
  split
  · exact keeps_bind h.toSteps (keeps_attempt (h.chat _)) (fun _ => h.switchServer _) s
  · exact hfallback s

theorem handleBackendEof : Keeps R (handleBackendEof env) :=
  h.recover _ _ (keeps_pure h.toSteps false)

theorem interceptCommand (packet : RawPacket) : Keeps R (interceptCommand env packet) := by
  refine keeps_get_bind fun s => ?_
  simp only
  split
  · exact h.refl s
  · generalize ServerboundChatCommand.decodeWithVersion packet s.session.protocolVersion = decoded
    rcases decoded with cmdPacket | _ | _
    · simp only
      split
      · exact h.refl s
      · have hrest : ∀ target cancel, Keeps R (if target ≠ "" then do
            let _ ← FrameMC.switchServer env target
            pure (some true)
          else if cancel = true then pure (some true) else pure none : Play (Option Bool)) := by
          intro target cancel
          refine keeps_ite (fun _ => ?_) fun _ => ?_
          · exact keeps_bind h.toSteps (h.switchServer _) fun _ => keeps_pure h.toSteps (some true)
          · exact keeps_ite (fun _ => keeps_pure h.toSteps (some true)) fun _ => keeps_pure h.toSteps none
        split
        · exact keeps_bind h.toSteps (h.chat _) (fun _ => hrest _ _) s
        · exact hrest _ _ s
    · exact h.refl s
    · exact h.refl s

theorem interceptTabComplete (packet : RawPacket) : Keeps R (interceptTabComplete env packet) := by
  refine keeps_get_bind fun s => ?_
  simp only
  split
  · exact h.refl s
  · generalize TabCompleteRequestPacket.decode packet s.session.protocolVersion = decoded
    rcases decoded with req | _ | _
    · simp only
      generalize @ite (List String) (List.isEmpty _ = true) _ _ _ = suggestions
      split
      · exact h.refl s
      · generalize hp : TabCompleteResponsePacket.mk req.transactionId _ _ _ = p
        have hw := h.complete s p
        rw [Effect.bind_apply]
        split
        · next heq => rwa [heq] at hw
        · next heq => rwa [heq] at hw
    · exact h.refl s
    · exact h.refl s

theorem routeClientPacket (packet : RawPacket) : Keeps R (routeClientPacket env packet) := by
  refine keeps_bind h.toSteps (h.interceptCommand packet) fun r => ?_
  cases r with
  | some b => exact keeps_pure h.toSteps b
  | none =>
    refine keeps_bind h.toSteps (h.interceptTabComplete packet) fun r => ?_
    cases r with
    | some b => exact keeps_pure h.toSteps b
    | none => exact keeps_bind h.toSteps (h.toBackend packet) fun _ => keeps_pure h.toSteps true

end StepRel

/-! ## Packets -/

section Track

variable (packet : RawPacket) (s : PlayStateMachine)

theorem trackContainer_frame :
    trackContainer packet s = { s with openContainerId := (trackContainer packet s).openContainerId } := by
  unfold trackContainer
  split_ifs
  · split <;> rfl
  · rfl
  · rfl

theorem trackAudio_frame : trackAudio packet s = { s with hasActiveAudio := (trackAudio packet s).hasActiveAudio } := by
  unfold trackAudio
  split_ifs <;> rfl

theorem trackBossBars_frame :
    trackBossBars packet s = { s with activeBossBars := (trackBossBars packet s).activeBossBars } := by
  unfold trackBossBars
  split_ifs
  · split
    · split_ifs <;> rfl
    · rfl
  · rfl

theorem trackObjectives_frame : trackObjectives packet s =
    { s with activeScoreboardObjectives := (trackObjectives packet s).activeScoreboardObjectives } := by
  unfold trackObjectives
  split_ifs
  · split
    · split_ifs <;> rfl
    · rfl
  · rfl

theorem trackSlots_frame :
    trackSlots packet s = { s with activeDisplaySlots := (trackSlots packet s).activeDisplaySlots } := by
  unfold trackSlots
  split_ifs
  · split
    · split_ifs <;> rfl
    · rfl
  · rfl

/-- Tracking a packet changes the five tracked fields and nothing else. -/
theorem track_frame :
    track packet s = { s with
      openContainerId := (track packet s).openContainerId
      hasActiveAudio := (track packet s).hasActiveAudio
      activeBossBars := (track packet s).activeBossBars
      activeScoreboardObjectives := (track packet s).activeScoreboardObjectives
      activeDisplaySlots := (track packet s).activeDisplaySlots } := by
  rw [track, trackSlots_frame, trackObjectives_frame, trackBossBars_frame, trackAudio_frame, trackContainer_frame]

@[simp] theorem track_client : (track packet s).client = s.client := by rw [track_frame]
@[simp] theorem track_backend : (track packet s).backend = s.backend := by rw [track_frame]
@[simp] theorem track_session : (track packet s).session = s.session := by rw [track_frame]
@[simp] theorem track_config : (track packet s).config = s.config := by rw [track_frame]
@[simp] theorem track_clientThreshold :
    (track packet s).clientCompressionThreshold = s.clientCompressionThreshold := by rw [track_frame]
@[simp] theorem track_backendThreshold :
    (track packet s).backendCompressionThreshold = s.backendCompressionThreshold := by rw [track_frame]
@[simp] theorem track_serverTransferred : (track packet s).serverTransferred = s.serverTransferred := by
  rw [track_frame]
@[simp] theorem track_attached : (track packet s).attached = s.attached := by rw [track_frame]
@[simp] theorem track_closed : (track packet s).closed = s.closed := by rw [track_frame]

end Track

theorem handleClientPacket_state (env : Env) (packet : RawPacket) (s : PlayStateMachine) :
    (handleClientPacket env packet s).2 =
      if isProtectedPluginChannel packet then s else (routeClientPacket env packet (noteClose packet s)).2 := by
  rw [handleClientPacket, Effect.ite_apply]
  split <;> rfl

/-- What a Disconnect leads to. -/
def afterDisconnect (env : Env) : Play Bool :=
  recover env "§eDisconnected from " ". Reconnecting to fallback server..."
    (Effect.throw (.backendConnectionFailed "Fallback server disconnected"))

theorem handleBackendPacket_state (env : Env) (packet : RawPacket) (s : PlayStateMachine) :
    (handleBackendPacket env packet s).2 =
      if isProtectedPluginChannel packet then s
      else if isDisconnectPacket packet.id then (afterDisconnect env (track packet s)).2
      else if isLoginPlayPacket packet.id (track packet s).session.protocolVersion then
        (deliverLogin packet (track packet s)).2
      else (deliver env packet (track packet s)).2 := by
  rw [handleBackendPacket, Effect.ite_apply]
  split
  · rfl
  · rw [Effect.modify_bind, Effect.get_bind, Effect.ite_apply, Effect.ite_apply]
    split
    · rfl
    · split <;> rfl

/-- What a packet from the backend that is passed on becomes. -/
def delivery (env : Env) (packet : RawPacket) (s : PlayStateMachine) : RawPacket :=
  if isDeclareCommandsPacket packet.id s.session.protocolVersion then
    declareCommandsFor env s.config packet s.session.protocolVersion
  else packet

theorem delivery_id (env : Env) (packet : RawPacket) (s : PlayStateMachine) :
    (delivery env packet s).id = packet.id := by
  unfold delivery declareCommandsFor
  split
  · simp only
    split
    · next h => exact inject_id h
    · rfl
  · rfl

/-- Either way a Respawn is made, it has the Respawn's id. -/
theorem respawnFor_id (packet : RawPacket) (v : Int) :
    (respawnFor packet v).id = RespawnPacket.packetIdForVersion v := by
  have hextract : ∀ {kept out}, extractRespawn packet v kept = .ok out →
      out.id = RespawnPacket.packetIdForVersion v := by
    intro kept out h
    unfold extractRespawn at h
    split at h
    · obtain ⟨⟨_, cursor⟩, -, h⟩ := Outcome.bind_eq_ok.mp h
      obtain ⟨⟨_, cursor'⟩, -, h⟩ := Outcome.bind_eq_ok.mp h
      simp only at h
      split at h
      · cases h
        rfl
      · cases h
    · split at h
      · obtain ⟨⟨_, cursor⟩, -, h⟩ := Outcome.bind_eq_ok.mp h
        obtain ⟨⟨respawn, _⟩, -, h⟩ := Outcome.bind_eq_ok.mp h
        cases h
        rfl
      · cases h
        rfl
  unfold respawnFor extractRespawnFromLoginWithDataKept
  simp only
  generalize (if v ≥ 764 then keepAllData else 0x01) = kept
  cases h : extractRespawn packet v kept with
  | ok out => exact hextract h
  | err e => rfl
  | panic => rfl

theorem deliver_state (env : Env) (packet : RawPacket) (s : PlayStateMachine) :
    (deliver env packet s).2 = (writeClient (delivery env packet s) .relayed s).2 := by
  rw [deliver, Effect.get_bind, delivery]
  split
  · exact Effect.bind_pure_snd _ _ s
  · exact Effect.bind_pure_snd _ _ s

theorem deliverLogin_state (packet : RawPacket) (s : PlayStateMachine) :
    (deliverLogin packet s).2 =
      if s.serverTransferred then
        (writeClient (respawnFor packet s.session.protocolVersion) .respawn { s with serverTransferred := false }).2
      else (writeClient packet .relayed s).2 := by
  rw [deliverLogin, Effect.get_bind]
  split
  · exact Effect.bind_pure_snd _ _ { s with serverTransferred := false }
  · exact Effect.bind_pure_snd _ _ s

/-- A single reset: a change to the picture and the packet that tells the client. -/
theorem keeps_reset {R : PlayStateMachine → PlayStateMachine → Prop} (hR : Effect.Steps R)
    (hflush : Keeps R flushClient) {f : PlayStateMachine → PlayStateMachine} {p : PlayStateMachine → RawPacket}
    (h : ∀ s, R s (writeClient (p (f s)) .own (f s)).2) :
    Keeps R (do
      Effect.modify f
      let s ← Effect.get
      writeClient (p s) .own
      flushClient) := by
  intro s
  have hw := h s
  rw [Effect.modify_bind, Effect.get_bind, Effect.bind_apply]
  rcases hr : writeClient (p (f s)) .own (f s) with ⟨r, s'⟩
  rw [hr] at hw
  cases r with
  | ok _ => exact hR.trans hw (hflush s')
  | error e => exact hw

/-! ## Runs -/

/-- A call of one of the machine's methods. -/
inductive Action where
  | clientPacket (packet : RawPacket)
  | backendPacket (packet : RawPacket)
  | backendEof
  | switchServer (targetServer : String)
  | sanitizeScreen (windowId : UInt8)
  | stopAudio
  | clearDisplayObjective (position : Int32)

/-- The machine after a call, whatever came of it. -/
def Action.exec (env : Env) : Action → PlayStateMachine → PlayStateMachine
  | clientPacket packet, s => (handleClientPacket env packet s).2
  | backendPacket packet, s => (handleBackendPacket env packet s).2
  | backendEof, s => (handleBackendEof env s).2
  | switchServer targetServer, s => (FrameMC.switchServer env targetServer s).2
  | sanitizeScreen windowId, s => (FrameMC.sanitizeScreen windowId s).2
  | stopAudio, s => (FrameMC.stopAudio s).2
  | clearDisplayObjective position, s => (FrameMC.clearDisplayObjective position s).2

/-- One call of a run. -/
def Action.step (s : PlayStateMachine) (call : Env × Action) : PlayStateMachine := call.2.exec call.1 s

/-- A state that some run leads to, in a session of protocol version `v`. -/
def Reachable (v : Int) (s : PlayStateMachine) : Prop :=
  ∃ hashers client backend session config threshold calls, session.protocolVersion = v ∧
    s = runAll Action.step (.new hashers client backend session config threshold) calls

end FrameMC

import FrameMC.Network.LoginSync
import FrameMC.Routing.Steps

/-!
# Compression stays in sync

From the handshake to the end of the Play loop, over any number of transfers,
every packet on the client's wire and on each backend's is framed with what was
negotiated on that wire before it (`compression_in_sync`). The client's
threshold is set once, by the SetCompression of the first backend; every other
backend keeps its own.
-/

namespace FrameMC

open ByteStream Effect

/-! ## The machine -/

/-- Past the Login state, with this threshold. -/
def Wire.InPlay (side : Side) (t : Option Nat) (w : Wire) : Prop := w.At side ⟨t, false⟩

theorem Wire.InPlay.write {side : Side} {t : Option Nat} {w : Wire} (h : w.InPlay side t) (p : RawPacket)
    (origin : Origin) : (w.write p t origin).2.InPlay side t := by
  rcases Wire.At.write (n := ⟨t, false⟩) (p := p) h (fun _ => Or.inr rfl) origin with ⟨h', -⟩ | h'
  · exact h'
  · cases side <;> exact h'

theorem Wire.InPlay.received {side : Side} {t : Option Nat} {w : Wire} (h : w.InPlay side t) (p : RawPacket) :
    (w.received p t).InPlay side t := by
  have hat := Wire.At.received (n := ⟨t, false⟩) h p
  cases side <;> exact hat

/-- Every wire of the machine is in sync, the open ones with the machine's thresholds. -/
structure MachineSynced (s : PlayStateMachine) : Prop where
  client : s.client.InPlay .client s.clientCompressionThreshold
  backend : ∀ b ∈ s.backend, b.InPlay .backend s.backendCompressionThreshold
  closed : ∀ w ∈ s.closed, w.Synced .backend

/-- The connections that an environment offers have logged in, and those it drops are in sync. -/
structure Env.Synced (env : Env) : Prop where
  offers : ∀ w t, env.Offers w t → w.InPlay .backend t
  drops : ∀ w, env.Drops w → w.Synced .backend

/-- Synced before, synced after. -/
def KeepsSync (s s' : PlayStateMachine) : Prop := MachineSynced s → MachineSynced s'

theorem KeepsSync.steps : Effect.Steps KeepsSync := ⟨fun _ h => h, fun h h' hs => h' (h hs)⟩

theorem keepsSync_writeClient (p : RawPacket) (origin : Origin) : Keeps KeepsSync (writeClient p origin) :=
  fun _ h => ⟨h.client.write p origin, h.backend, h.closed⟩

theorem keepsSync_writeBackend (p : RawPacket) : Keeps KeepsSync (writeBackend p) := by
  intro s h
  unfold writeBackend
  split
  · next b hb =>
    refine ⟨h.client, fun b' hb' => ?_, h.closed⟩
    cases hb'
    exact (h.backend b hb).write p .relayed
  · exact h

theorem keepsSync_writeEach {α : Type} (set : HashSet α) (encode : α → RawPacket) :
    Keeps KeepsSync (writeEach set encode) :=
  keeps_forEach KeepsSync.steps fun _ _ => keeps_attempt (keepsSync_writeClient _ _)

theorem keepsSync_teardown : Keeps KeepsSync teardownTransferredState := by
  refine keeps_teardown KeepsSync.steps ?_ ?_ ?_ ?_ ?_
  · refine keeps_get_bind fun s => ?_
    cases s.openContainerId with
    | none => exact KeepsSync.steps.refl s
    | some windowId =>
      have hclear : KeepsSync s { s with openContainerId := none } := fun h => ⟨h.client, h.backend, h.closed⟩
      exact KeepsSync.steps.trans hclear (keeps_attempt (keepsSync_writeClient _ _) _)
  · refine keeps_get_bind fun s => ?_
    split
    · have hclear : KeepsSync s { s with hasActiveAudio := false } := fun h => ⟨h.client, h.backend, h.closed⟩
      exact KeepsSync.steps.trans hclear (keeps_attempt (keepsSync_writeClient _ _) _)
    · exact KeepsSync.steps.refl s
  · refine keeps_get_bind fun s => ?_
    have hclear : KeepsSync s { s with activeScoreboardObjectives := s.activeScoreboardObjectives.clear } := fun h => ⟨h.client, h.backend, h.closed⟩
    exact KeepsSync.steps.trans hclear (keepsSync_writeEach _ _ _)
  · refine keeps_get_bind fun s => ?_
    have hclear : KeepsSync s { s with activeDisplaySlots := s.activeDisplaySlots.clear } := fun h => ⟨h.client, h.backend, h.closed⟩
    exact KeepsSync.steps.trans hclear (keepsSync_writeEach _ _ _)
  · refine keeps_get_bind fun s => ?_
    have hclear : KeepsSync s { s with activeBossBars := s.activeBossBars.clear } := fun h => ⟨h.client, h.backend, h.closed⟩
    exact KeepsSync.steps.trans hclear (keepsSync_writeEach _ _ _)

theorem keepsSync_transferred {env : Env} (henv : env.Synced) (s : PlayStateMachine) (targetServer : String)
    (wire : Wire) (threshold : Option Nat) (cache : SessionRegistryCache) (hoffers : env.Offers wire threshold) :
    KeepsSync s (transferred targetServer wire threshold cache s) := by
  intro h
  have hleave : MachineSynced (rearrange none (s.closed ++ s.backend.toList) cache s) := by
    refine ⟨h.client, nofun, fun w hw => ?_⟩
    rcases List.mem_append.mp hw with hw | hw
    · exact h.closed w hw
    · exact (h.backend w (Option.mem_toList.mp hw)).synced
  have htorn := keepsSync_teardown _ hleave
  refine ⟨htorn.client, fun b hb => ?_, htorn.closed⟩
  cases hb
  exact henv.offers wire threshold hoffers

theorem keepsSync_stepRel {env : Env} (henv : env.Synced) : StepRel env KeepsSync where
  toSteps := KeepsSync.steps
  chat := fun _ => keeps_get_bind fun _ => keepsSync_writeClient _ _ _
  complete := fun s _ => keepsSync_writeClient _ _ s
  toBackend := keepsSync_writeBackend
  giveUp := by
    intro s dropped cache hdropped h
    refine ⟨h.client, h.backend, fun w hw => ?_⟩
    rcases List.mem_append.mp hw with hw | hw
    · exact h.closed w hw
    · exact henv.drops w (hdropped w hw)
  transfer := keepsSync_transferred henv

theorem keepsSync_track (packet : RawPacket) (s : PlayStateMachine) : KeepsSync s (track packet s) := by
  rw [track_frame]
  exact fun h => ⟨h.client, h.backend, h.closed⟩

theorem keepsSync_noteClose (packet : RawPacket) (s : PlayStateMachine) : KeepsSync s (noteClose packet s) := by
  unfold noteClose
  split
  · exact fun h => ⟨h.client, h.backend, h.closed⟩
  · exact KeepsSync.steps.refl s

theorem keepsSync_clientPacket {env : Env} (henv : env.Synced) (packet : RawPacket) :
    Keeps KeepsSync (handleClientPacket env packet) := by
  intro s
  rw [handleClientPacket_state]
  split
  · exact KeepsSync.steps.refl s
  · exact KeepsSync.steps.trans (keepsSync_noteClose packet s) ((keepsSync_stepRel henv).routeClientPacket packet _)

theorem keepsSync_backendPacket {env : Env} (henv : env.Synced) (packet : RawPacket) :
    Keeps KeepsSync (handleBackendPacket env packet) := by
  intro s
  rw [handleBackendPacket_state]
  split
  · exact KeepsSync.steps.refl s
  · refine KeepsSync.steps.trans (keepsSync_track packet s) ?_
    split
    · exact (keepsSync_stepRel henv).recover _ _ (keeps_throw KeepsSync.steps _) _
    · split
      · rw [deliverLogin_state]
        split
        · have hclear : KeepsSync (track packet s) { track packet s with serverTransferred := false } :=
            fun h => ⟨h.client, h.backend, h.closed⟩
          exact KeepsSync.steps.trans hclear (keepsSync_writeClient _ _ _)
        · exact keepsSync_writeClient _ _ _
      · rw [deliver_state]
        exact keepsSync_writeClient _ _ _

/-! ## The loop -/

theorem keepsSync_round {env : Env} (henv : env.Synced) (input : Input) : Keeps KeepsSync (runRound env input) := by
  rcases input with (_ | packet) | (_ | packet) | _
  · exact keeps_pure KeepsSync.steps false
  · have hreceived : Keeps KeepsSync (modify (clientReceived packet) : Play Unit) :=
      keeps_modify fun _ h => ⟨h.client.received packet, h.backend, h.closed⟩
    exact keeps_bind KeepsSync.steps hreceived fun _ => keepsSync_clientPacket henv packet
  · exact (keepsSync_stepRel henv).handleBackendEof
  · have hreceived : Keeps KeepsSync (modify (backendReceived packet) : Play Unit) := by
      refine keeps_modify fun s h => ⟨h.client, fun b hb => ?_, h.closed⟩
      obtain ⟨b', hb', rfl⟩ := Option.map_eq_some_iff.mp hb
      exact (h.backend b' hb').received packet
    refine keeps_bind KeepsSync.steps hreceived fun _ => keeps_ite (fun _ => ?_) fun _ => ?_
    · exact keeps_pure KeepsSync.steps true
    · exact keepsSync_backendPacket henv packet
  · refine keeps_get_bind fun s => ?_
    exact keeps_bind KeepsSync.steps (keeps_attempt (keepsSync_writeClient _ _))
      (fun _ => keeps_pure KeepsSync.steps false) s

theorem keepsSync_shutStreams : Keeps KeepsSync shutStreams := by
  refine keeps_modify fun s h => ⟨h.client, nofun, fun w hw => ?_⟩
  rcases List.mem_append.mp hw with hw | hw
  · exact h.closed w hw
  · exact (h.backend w (Option.mem_toList.mp hw)).synced

/-- The Configuration phase with a new backend frames as that backend has negotiated. -/
theorem configure_inPlay (env : Env) (v : Int) {t : Option Nat} (reads : List PeerRead)
    (cache : SessionRegistryCache) {wire : Wire} (h : wire.InPlay .backend t) :
    (configure env v t reads cache wire).wire.InPlay .backend t := by
  induction reads generalizing cache wire with
  | nil => exact h
  | cons read reads ih =>
    cases read with
    | pause => exact h
    | failed e => exact h
    | packet packet =>
      have hwrite := (configureStep_spec env v t packet cache (wire.received packet t)).2
      rw [configure]
      generalize configureStep env v t packet cache (wire.received packet t) = step at hwrite
      have hstep : step.wire.InPlay .backend t := by
        rcases hwrite with heq | ⟨p, heq⟩
        · rw [heq]
          exact h.received packet
        · rw [heq]
          exact (h.received packet).write p .own
      cases step with
      | next cache' wire' => exact ih cache' hstep
      | finished wire' => exact hstep
      | failed reason wire' => exact hstep

/-- What the connector makes of the network is in sync. -/
theorem env_synced (world : World) (s : PlayStateMachine) : (world.env s).Synced := by
  have hreached : ∀ target, match (world.env s).connect target with
      | .ok new => new.wire.InPlay .backend new.threshold
      | .failed _ dropped => ∀ w ∈ dropped, w.Synced .backend := by
    intro target
    simp only [World.env]
    cases s.config.servers.lookup target with
    | none => exact nofun
    | some backendConfig =>
      have hconnect := connectAndForward_holds world.lib world.dial backendConfig s.session.profile
        s.session.clientIp (Int32.ofInt s.session.protocolVersion)
      have hlogin := hconnect.andThen fun _ => loginToBackend_ensures world.lib s.session.protocolVersion
      simp only [tcpConnect]
      generalize Reached.andThen _ _ = reached at hlogin
      cases reached with
      | ok threshold peer => exact hlogin
      | failed e dropped =>
        intro w hw
        obtain ⟨peer, hpeer, rfl⟩ := List.mem_map.mp hw
        exact hlogin peer (Option.mem_toList.mp hpeer)
  have hoffers : ∀ w t, (world.env s).Offers w t → w.InPlay .backend t := by
    rintro w t ⟨target, new, v, cache, hconnect, rfl, hwire⟩
    have hnew := hreached target
    rw [hconnect] at hnew
    rcases hwire with rfl | rfl
    · exact hnew
    · exact configure_inPlay _ v new.reads cache hnew
  refine ⟨hoffers, ?_⟩
  rintro w (⟨target, e, dropped, hconnect, hw⟩ | ⟨t, hoffer⟩)
  · have hdropped := hreached target
    rw [hconnect] at hdropped
    exact hdropped w hw
  · exact (hoffers w t hoffer).synced

theorem keepsSync_run (inputs : List (World × Input)) : Keeps KeepsSync (run inputs) := by
  induction inputs with
  | nil => exact keeps_pure KeepsSync.steps ()
  | cons step inputs ih =>
    refine keeps_get_bind fun s => ?_
    cases s.backend with
    | none => exact keepsSync_shutStreams s
    | some b =>
      refine keeps_bind KeepsSync.steps (keepsSync_round (env_synced step.1 s) step.2) (fun goesOn => ?_) s
      exact keeps_ite (fun _ => ih) fun _ => keepsSync_shutStreams

/-! ## The whole session -/

/-- The wires of a session: the client's, and one for every connection to a backend. -/
structure SessionWires where
  client : Wire
  backends : List Wire

/-- A connection from the handshake on, and the Play loop if it comes to that. -/
def wholeSession (env : LoginEnv) (client : Peer) (inputs : List (World × Input)) : SessionWires :=
  let processed := processConnection env client
  match processed.result with
  | .error _ => ⟨processed.client.peer.wire, (processed.backend.map (·.wire)).toList⟩
  | .ok machine =>
    let s := (run inputs machine).2
    ⟨s.client, s.backend.toList ++ s.closed⟩

/-- The wires a connection is left with are in sync, and so is the machine if there is one. -/
structure Processed.Synced (p : Processed) : Prop where
  client : p.client.Synced
  backend : ∀ peer ∈ p.backend, peer.Synced
  machine : ∀ machine, p.result = .ok machine → MachineSynced machine

theorem Processed.Synced.failed {exit : Exit} {client : ActiveStream} {backend : Option Peer}
    (hclient : client.Synced) (hbackend : ∀ peer ∈ backend, peer.Synced) :
    (Processed.mk (.error exit) client backend).Synced := ⟨hclient, hbackend, fun _ h => nomatch h⟩

theorem processLogin_synced (env : LoginEnv) (handshake : HandshakePacket) {stream : ActiveStream}
    (h : Fresh stream) : (processLogin env handshake stream).Synced := by
  obtain ⟨hsynced, hlogged⟩ := logIn_ensures env handshake stream h
  unfold processLogin
  rcases hlogin : logIn env handshake stream with ⟨e | admission, client⟩
  · rw [hlogin] at hsynced
    exact .failed hsynced nofun
  · rw [hlogin] at hlogged
    have hfresh : Fresh client := hlogged admission rfl
    have hreached := connectAndForward_holds env.lib env.dial admission.backendConfig admission.profile env.clientIp
      handshake.protocolVersion
    simp only
    split
    · next e dropped hconnect =>
      rw [hconnect] at hreached
      have hnotice : ∀ reason, (onStream (sendDisconnect (loginDisconnect env.lib reason) none) client).2.Synced :=
        fun reason => (onStream_ensures (sendDisconnect_ensures (loginDisconnect_id env.lib reason) none) client
          hfresh.uses).1
      exact .failed (hnotice _) hreached
    · next backend hconnect =>
      rw [hconnect] at hreached
      obtain ⟨hboth, hsettled⟩ := settle_ensures env handshake.protocolVersion.toInt admission.profile
        ⟨client, backend⟩ ⟨hfresh, hreached⟩
      split
      · next exit s heq =>
        rw [heq] at hboth
        exact .failed hboth.1 fun _ hp => Option.mem_some.mp hp ▸ hboth.2
      · next threshold cache s heq =>
        rw [heq] at hboth hsettled
        obtain ⟨hclient, hbackend⟩ := hsettled _ rfl
        refine ⟨hboth.1, fun _ hp => Option.mem_some.mp hp ▸ hboth.2, fun machine hmachine => ?_⟩
        cases hmachine
        exact ⟨hclient, fun b hb => Option.mem_some.mp hb ▸ hbackend, nofun⟩

theorem processConnection_synced (env : LoginEnv) (client : Peer) (h : client.wire.log = []) :
    (processConnection env client).Synced := by
  have hfresh : Fresh ⟨client, none⟩ := .of_nil .client h
  obtain ⟨hsynced, hok⟩ := readHandshake_ensures _ hfresh
  unfold processConnection
  split
  · next heq =>
    rw [heq] at hsynced
    exact .failed hsynced nofun
  · next handshake stream heq =>
    rw [heq] at hsynced hok
    split
    · exact .failed hsynced nofun
    · exact processLogin_synced env handshake (hok handshake rfl)
    · exact .failed hsynced nofun
    · exact .failed hsynced nofun
    · exact .failed hsynced nofun
    · exact .failed hsynced nofun

theorem wholeSession_synced (env : LoginEnv) (fate : Nat → WriteFate) (reads : List PeerRead)
    (inputs : List (World × Input)) :
    (wholeSession env (.connected fate reads) inputs).client.Synced .client ∧
      ∀ w ∈ (wholeSession env (.connected fate reads) inputs).backends, w.Synced .backend := by
  have hprocessed := processConnection_synced env (.connected fate reads) rfl
  unfold wholeSession
  simp only
  split
  · refine ⟨hprocessed.client, fun w hw => ?_⟩
    obtain ⟨peer, hpeer, rfl⟩ := Option.map_eq_some_iff.mp (Option.mem_toList.mp hw)
    exact hprocessed.backend peer hpeer
  · next machine hmachine =>
    have hrun := keepsSync_run inputs machine (hprocessed.machine machine hmachine)
    refine ⟨hrun.client.synced, fun w hw => ?_⟩
    rcases List.mem_append.mp hw with hw | hw
    · exact (hrun.backend w (Option.mem_toList.mp hw)).synced
    · exact hrun.closed w hw

/-- A peer that reads with the threshold it has negotiated itself reads exactly
the packets it was sent. -/
def NeverMisframes (side : Side) (log : List Event) : Prop :=
  ∀ zlib maxSize, zlib.Correct → maxSize < 2 ^ 31 → Fits zlib maxSize log → ∀ rest,
    (peerReads zlib maxSize side .start log).run (log.flatMap (Event.bytes zlib) ++ rest) =
      (.ok (Event.delivered log), rest)

/-- Whatever the peers, the scripts and the network do: the client's packets
are uncompressed up to the SetCompression it is sent and framed with that
threshold ever after, the packets on every backend's wire are framed as
negotiated on that wire, and no peer ever misframes. -/
theorem compression_in_sync (env : LoginEnv) (fate : Nat → WriteFate) (reads : List PeerRead)
    (inputs : List (World × Input)) :
    let wires := wholeSession env (.connected fate reads) inputs
    (∃ t, SwitchedTo t wires.client.log) ∧
      (InSync .client wires.client.log ∧ NeverMisframes .client wires.client.log) ∧
      ∀ w ∈ wires.backends, InSync .backend w.log ∧ NeverMisframes .backend w.log := by
  intro wires
  have hframes : ∀ {side log}, InSync side log → InSync side log ∧ NeverMisframes side log :=
    fun h => ⟨h, fun _ _ hz hm hfits rest => InSyncFrom.peerReads hz hm h hfits rest⟩
  obtain ⟨⟨n, hclient⟩, hbackends⟩ := wholeSession_synced env fate reads inputs
  refine ⟨⟨n.threshold, hclient.switched rfl⟩, hframes hclient.inSync, fun w hw => ?_⟩
  obtain ⟨m, hbackend⟩ := hbackends w hw
  exact hframes hbackend.inSync

theorem compression_in_sync_small :
    let wires := wholeSession smallLogin (.connected (fun _ => .done) smallLoginReads) []
    wires.client.log.map Event.threshold = [none, none, none, some 256] ∧
      ∃ w ∈ wires.backends, InSync .backend w.log := by
  intro wires
  have hlength : 0 < wires.backends.length := by decide +kernel
  obtain ⟨w, hw⟩ := List.exists_mem_of_length_pos hlength
  have hsync := (compression_in_sync smallLogin (fun _ => .done) smallLoginReads []).2.2 w hw
  exact ⟨by decide +kernel, w, hw, hsync.1⟩

end FrameMC

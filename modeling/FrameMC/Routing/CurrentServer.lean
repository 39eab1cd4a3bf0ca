import FrameMC.Network.Admission
import FrameMC.Network.Continuation
import FrameMC.Routing.Delivery
import FrameMC.Routing.Spoofing

/-!
# The server the player is on

The session names the player's server, and the scripts and the player's notices
go by that name. `backend_is_current_server` says that the name is right: the
connection the player's packets go to was dialed at the address configured for
the server of that name, and the player was announced on it.
-/

namespace FrameMC

open ByteStream Effect

/-! ## Announcing the player -/

/-- A connection to a configured backend, on which the player was announced
first of all: by the handshake, with the forwarding in its address, and by the
name and id of the profile. -/
structure Announced (world : World) (backend : BackendConfig) (profile : PlayerProfile) (clientIp : String)
    (protocolVersion : Int32) (w : Wire) : Prop where
  dialed : ∃ reads, world.dial backend.target = .connected w.fate reads
  announced : ∃ address, handshakeAddress world.lib backend profile clientIp = .ok address ∧
    [Event.sent (HandshakePacket.encode ⟨protocolVersion, address, backend.port, .login⟩) none .own,
      .sent (LoginStartPacket.encode ⟨profile.name, profile.id⟩) none .own] <+: w.log

section Announced

variable {world : World} {backend : BackendConfig} {profile : PlayerProfile} {clientIp : String} {v : Int32}

theorem Announced.continues {w w' : Wire} (h : Announced world backend profile clientIp v w) (hw : w.Continues w') :
    Announced world backend profile clientIp v w' := by
  refine ⟨?_, ?_⟩
  · rw [hw.fate]
    exact h.dialed
  · obtain ⟨address, haddress, hlog⟩ := h.announced
    exact ⟨address, haddress, hlog.trans hw.log⟩

/-- A write that succeeds has gone out. -/
theorem write_ok {p : RawPacket} {t : Option Nat} {origin : Origin} {peer peer' : Peer}
    (h : Talk.write p t origin peer = (.ok (), peer')) :
    peer'.wire.log = peer.wire.log ++ [.sent p t origin] ∧ peer'.wire.fate = peer.wire.fate := by
  unfold Talk.write Wire.write at h
  cases hfate : peer.wire.fate peer.wire.writes with
  | done =>
    rw [hfate] at h
    cases h
    exact ⟨rfl, rfl⟩
  | lost e =>
    rw [hfate] at h
    cases h
  | flushFailed e =>
    rw [hfate] at h
    cases h

theorem Talk.lift_eq_ok {σ α : Type} {x : Outcome ProxyError α} {a : α} {s s' : σ}
    (h : (Talk.lift x : Effect σ ProxyError α) s = (.ok a, s')) : x = .ok a ∧ s' = s := by
  cases x with
  | ok b =>
    cases h
    exact ⟨rfl, rfl⟩
  | err e => cases h
  | panic => cases h

theorem dispatchForwarding_announces {fate : Nat → WriteFate} {reads : List PeerRead} {peer : Peer}
    (hdial : world.dial backend.target = .connected fate reads)
    (h : dispatchForwarding world.lib backend profile clientIp v (.connected fate reads) = (.ok (), peer)) :
    Announced world backend profile clientIp v peer.wire := by
  obtain ⟨address, p₀, hlift, h⟩ := bind_eq_ok.mp h
  obtain ⟨haddress, rfl⟩ := Talk.lift_eq_ok hlift
  obtain ⟨_, p₁, hhandshake, h⟩ := bind_eq_ok.mp h
  obtain ⟨hlog₁, hfate₁⟩ := write_ok hhandshake
  obtain ⟨_, p₂, hstart, h⟩ := bind_eq_ok.mp h
  obtain ⟨hlog₂, hfate₂⟩ := write_ok hstart
  have hannounced : Announced world backend profile clientIp v p₂.wire := by
    refine ⟨⟨reads, ?_⟩, address, haddress, ?_⟩
    · rw [hfate₂, hfate₁]
      exact hdial
    · rw [hlog₂, hlog₁]
      exact List.prefix_refl _
  have hrest : ∀ {m : Talk Unit}, Keeps Peer.Continues m → m p₂ = (.ok (), peer) → p₂.Continues peer := by
    intro m hm hrun
    have hcontinues := hm p₂
    rwa [hrun] at hcontinues
  refine hannounced.continues (hrest (keeps_ite (fun _ => ?_) fun _ => ?_) h)
  · split
    · exact keeps_throw Peer.Continues.steps _
    · exact Peer.Continues.forwardVelocity _ _ _ _
  · exact keeps_pure Peer.Continues.steps ()

theorem connectAndForward_announces {peer : Peer}
    (h : connectAndForward world.lib world.dial backend profile clientIp v = .ok () peer) :
    Announced world backend profile clientIp v peer.wire := by
  unfold connectAndForward at h
  dsimp only at h
  split at h
  · cases h
  · cases h
  · next fate reads hdial =>
    rw [Reached.andThen] at h
    rcases hrun : dispatchForwarding world.lib backend profile clientIp v (.connected fate reads) with ⟨_ | _, peer'⟩
    · rw [hrun] at h
      cases h
    · rw [hrun] at h
      cases h
      exact dispatchForwarding_announces hdial hrun

theorem tcpConnect_announces {v : Int} {new : NewBackend}
    (h : tcpConnect world backend profile clientIp v = .ok new) :
    Announced world backend profile clientIp (Int32.ofInt v) new.wire := by
  unfold tcpConnect at h
  dsimp only at h
  cases hreached : connectAndForward world.lib world.dial backend profile clientIp (Int32.ofInt v) with
  | failed e dropped =>
    rw [hreached, Reached.andThen] at h
    cases h
  | ok a peer =>
    have hcontinues := Peer.Continues.loginToBackend world.lib v peer
    rw [hreached, Reached.andThen] at h
    rcases hrun : loginToBackend world.lib v peer with ⟨_ | threshold, peer'⟩
    · rw [hrun] at h
      cases h
    · rw [hrun] at h hcontinues
      cases h
      exact (connectAndForward_announces hreached).continues hcontinues

end Announced

/-! ## The Play state -/

/-- Who is playing: what of a session never changes. -/
structure Player where
  config : ProxyConfig
  profile : PlayerProfile
  clientIp : String
  protocolVersion : Int

/-- The machine's backend is a server of the configuration's: the one the
session names, dialed in one of the worlds and told who the player is. -/
structure OnServer (player : Player) (worlds : World → Prop) (s : PlayStateMachine) : Prop where
  config : s.config = player.config
  profile : s.session.profile = player.profile
  clientIp : s.session.clientIp = player.clientIp
  protocolVersion : s.session.protocolVersion = player.protocolVersion
  backend : ∀ b, s.backend = some b → ∃ backendConfig world, worlds world ∧
    player.config.servers.lookup s.session.currentServer = some backendConfig ∧
    Announced world backendConfig player.profile player.clientIp (Int32.ofInt player.protocolVersion) b

/-- Whatever the connector offers for a server is announced there. -/
def OffersAnnounced (player : Player) (worlds : World → Prop) (env : Env) : Prop :=
  ∀ targetServer new, env.connect targetServer = .ok new → ∃ backendConfig world, worlds world ∧
    player.config.servers.lookup targetServer = some backendConfig ∧
    Announced world backendConfig player.profile player.clientIp (Int32.ofInt player.protocolVersion) new.wire

/-- The loop's own connector does. -/
theorem offersAnnounced_env {player : Player} {worlds : World → Prop} {world : World} {s : PlayStateMachine}
    (hworld : worlds world) (h : OnServer player worlds s) : OffersAnnounced player worlds (world.env s) := by
  intro targetServer new hconnect
  unfold World.env at hconnect
  dsimp only at hconnect
  rw [h.config, h.profile, h.clientIp, h.protocolVersion] at hconnect
  split at hconnect
  · next backendConfig hlookup => exact ⟨backendConfig, world, hworld, hlookup, tcpConnect_announces hconnect⟩
  · cases hconnect

/-- The Configuration phase goes on with the connection it has. -/
theorem configure_continues (env : Env) (v : Int) (threshold : Option Nat) (reads : List PeerRead)
    (cache : SessionRegistryCache) (wire : Wire) :
    wire.Continues (configure env v threshold reads cache wire).wire := by
  induction reads generalizing cache wire with
  | nil => exact Wire.Continues.refl wire
  | cons read reads ih =>
    cases read with
    | pause => exact Wire.Continues.refl wire
    | failed e => exact Wire.Continues.refl wire
    | packet packet =>
      have hstep : wire.Continues
          (configureStep env v threshold packet cache (wire.received packet threshold)).wire := by
        refine (Wire.Continues.received wire packet threshold).trans ?_
        rcases (configureStep_spec env v threshold packet cache (wire.received packet threshold)).2 with heq | ⟨p, heq⟩
        · rw [heq]
          exact Wire.Continues.refl _
        · rw [heq]
          exact Wire.Continues.write ..
      rw [configure]
      cases h : configureStep env v threshold packet cache (wire.received packet threshold) with
      | next cache' wire' =>
        rw [h] at hstep
        exact hstep.trans (ih cache' wire')
      | finished wire' =>
        rw [h] at hstep
        exact hstep
      | failed reason wire' =>
        rw [h] at hstep
        exact hstep

theorem configure_reconnected (env : Env) (connect : String → Connected) (v : Int) (threshold : Option Nat)
    (reads : List PeerRead) (cache : SessionRegistryCache) (wire : Wire) :
    configure (env.reconnected connect) v threshold reads cache wire = configure env v threshold reads cache wire := by
  have hstep : ∀ packet cache wire, configureStep (env.reconnected connect) v threshold packet cache wire =
      configureStep env v threshold packet cache wire := fun _ _ _ => rfl
  induction reads generalizing cache wire with
  | nil => rfl
  | cons read reads ih =>
    cases read with
    | pause => rfl
    | failed e => rfl
    | packet packet =>
      rw [configure, configure, hstep]
      cases configureStep env v threshold packet cache (wire.received packet threshold) with
      | next cache' wire' => exact ih cache' wire'
      | finished wire' => rfl
      | failed reason wire' => rfl

/-- A transfer asks for a connection to its target only. -/
theorem switchServer_reconnected (env : Env) (targetServer : String) (s : PlayStateMachine) :
    switchServer (env.reconnected fun _ => env.connect targetServer) targetServer s =
      switchServer env targetServer s := by
  have hconnect : (env.reconnected fun _ => env.connect targetServer).connect targetServer =
      env.connect targetServer := rfl
  unfold switchServer
  rw [Effect.get_bind, Effect.get_bind, hconnect]
  cases s.config.servers.lookup targetServer with
  | none => rfl
  | some backendConfig =>
    cases env.connect targetServer with
    | failed e dropped => rfl
    | ok new =>
      simp only [configure_reconnected]
      rfl

section Player

variable {player : Player} {worlds : World → Prop} {env : Env}

theorem onServer_switchServer (henv : OffersAnnounced player worlds env) (targetServer : String)
    {s : PlayStateMachine} (h : OnServer player worlds s) :
    OnServer player worlds (switchServer env targetServer s).2 := by
  rw [← switchServer_reconnected]
  have hcases := switchServer_cases (env.reconnected fun _ => env.connect targetServer) targetServer s
  generalize (switchServer (env.reconnected fun _ => env.connect targetServer) targetServer s).1 = r at hcases
  generalize (switchServer (env.reconnected fun _ => env.connect targetServer) targetServer s).2 = s' at hcases ⊢
  cases hcases with
  | unknown _ _ _ =>
    rw [writeChat_apply]
    exact ⟨h.config, h.profile, h.clientIp, h.protocolVersion, h.backend⟩
  | failed reason dropped _ =>
    rw [writeChat_apply]
    exact ⟨h.config, h.profile, h.clientIp, h.protocolVersion, h.backend⟩
  | attached wire threshold hoffers =>
    obtain ⟨_, new, v, cache, hconnect, -, hwire⟩ := hoffers
    obtain ⟨backendConfig, world, hworld, hlookup, hannounced⟩ := henv targetServer new hconnect
    have hcontinues : new.wire.Continues wire := by
      rcases hwire with rfl | rfl
      · exact Wire.Continues.refl _
      · exact configure_continues ..
    rw [reattach, teardown_frame]
    refine ⟨h.config, h.profile, h.clientIp, h.protocolVersion, fun b hb => ?_⟩
    cases hb
    exact ⟨backendConfig, world, hworld, hlookup, hannounced.continues hcontinues⟩

theorem onServer_callRel (henv : OffersAnnounced player worlds env) :
    CallRel env fun s s' => OnServer player worlds s → OnServer player worlds s' where
  refl := fun _ h => h
  after := by
    intro s s₁ s' hrel helsewhere h
    refine hrel ⟨?_, ?_, ?_, ?_, ?_⟩
    · rw [helsewhere.config, h.config]
    · rw [helsewhere.session, h.profile]
    · rw [helsewhere.session, h.clientIp]
    · rw [helsewhere.session, h.protocolVersion]
    · rw [helsewhere.session, helsewhere.backend]
      exact h.backend
  switchServer := fun targetServer _ h => onServer_switchServer henv targetServer h

/-- The backend in use goes on. -/
theorem OnServer.continued {s : PlayStateMachine} {b b' : Wire} (h : OnServer player worlds s)
    (hb : s.backend = some b) (hcontinues : b.Continues b') :
    OnServer player worlds { s with backend := some b' } := by
  refine ⟨h.config, h.profile, h.clientIp, h.protocolVersion, fun c hc => ?_⟩
  cases hc
  obtain ⟨backendConfig, world, hworld, hlookup, hannounced⟩ := h.backend b hb
  exact ⟨backendConfig, world, hworld, hlookup, hannounced.continues hcontinues⟩

theorem onServer_clientPacket (henv : OffersAnnounced player worlds env) (packet : RawPacket)
    {s : PlayStateMachine} {b : Wire} (hb : s.backend = some b) (h : OnServer player worlds s) :
    OnServer player worlds (handleClientPacket env packet s).2 := by
  have hrel := onServer_callRel henv
  cases hunclaimed : unclaimed env packet s with
  | false => exact hrel.claimed hunclaimed h
  | true => exact hrel.of_elsewhere (forwards hb hunclaimed) (h.continued hb (Wire.Continues.write ..))

theorem onServer_round (henv : OffersAnnounced player worlds env) (input : Input) {s : PlayStateMachine} {b : Wire}
    (hb : s.backend = some b) (h : OnServer player worlds s) : OnServer player worlds (runRound env input s).2 := by
  have hrel := onServer_callRel henv
  rcases input with (_ | packet) | (_ | packet) | _
  · exact h
  · have hreceived : OnServer player worlds (clientReceived packet s) :=
      ⟨h.config, h.profile, h.clientIp, h.protocolVersion, h.backend⟩
    have hbackend : (clientReceived packet s).backend = some b := hb
    exact onServer_clientPacket henv packet hbackend hreceived
  · exact hrel.handleBackendEof s h
  · have hreceived : OnServer player worlds (backendReceived packet s) := by
      have hs : backendReceived packet s = { s with
          backend := some (b.received packet s.backendCompressionThreshold) } := by
        rw [backendReceived, hb]
        rfl
      rw [hs]
      exact h.continued hb (Wire.Continues.received ..)
    rw [runRound, Effect.modify_bind, Effect.ite_apply]
    split
    · exact hreceived
    · exact hrel.backendPacket packet _ hreceived
  · exact ⟨h.config, h.profile, h.clientIp, h.protocolVersion, h.backend⟩

/-- All through a run the player is on the server the session names. -/
theorem onServer_run (inputs : List (World × Input)) {s : PlayStateMachine} (h : OnServer player worlds s)
    (hworlds : ∀ step ∈ inputs, worlds step.1) : OnServer player worlds (run inputs s).2 := by
  have hshut : ∀ {s}, OnServer player worlds s → OnServer player worlds (shutStreams s).2 := fun h =>
    ⟨h.config, h.profile, h.clientIp, h.protocolVersion, nofun⟩
  induction inputs generalizing s with
  | nil => exact h
  | cons step inputs ih =>
    obtain ⟨world, input⟩ := step
    obtain ⟨hworld, hrest⟩ := List.forall_mem_cons.mp hworlds
    rw [run, Effect.get_bind]
    cases hb : s.backend with
    | none => exact hshut h
    | some b =>
      have henv : OffersAnnounced player worlds (world.env s) := offersAnnounced_env hworld h
      have hround := onServer_round henv input hb h
      dsimp only
      rw [Effect.bind_apply]
      generalize runRound (world.env s) input s = r at hround
      obtain ⟨_ | goesOn, s'⟩ := r
      · exact hround
      · cases goesOn with
        | true => exact ih hround hrest
        | false => exact hshut hround

end Player

/-! ## The whole session -/

theorem logIn_configured {env : LoginEnv} {handshake : HandshakePacket} {client client' : ActiveStream}
    {admission : Admission} (h : logIn env handshake client = (.ok admission, client')) :
    env.config.servers.lookup admission.targetServerName = some admission.backendConfig := by
  obtain ⟨profile, _, -, h⟩ := bind_eq_ok.mp h
  unfold chooseServer at h
  generalize env.scriptHost.evalJoin _ = joinDecision at h
  dsimp only at h
  rw [Effect.ite_apply] at h
  split at h
  · cases h
  · cases hlookup : env.config.servers.lookup (if joinDecision.targetServer ≠ "" ∧
        (env.config.servers.lookup joinDecision.targetServer).isSome then joinDecision.targetServer
      else env.config.defaultServer) with
    | some backendConfig =>
      rw [hlookup] at h
      cases h
      exact hlookup
    | none =>
      rw [hlookup] at h
      cases h

/-- A login that comes through leaves the player on the server it was admitted to. -/
theorem processLogin_onServer {env : LoginEnv} {handshake : HandshakePacket} {stream : ActiveStream}
    {s : PlayStateMachine} (h : (processLogin env handshake stream).result = .ok s) {worlds : World → Prop}
    (hworld : worlds env.toWorld) :
    OnServer ⟨env.config, s.session.profile, env.clientIp, s.session.protocolVersion⟩ worlds s := by
  unfold processLogin at h
  rcases hadmitted : logIn env handshake stream with ⟨_ | admission, client⟩
  · rw [hadmitted] at h
    cases h
  rw [hadmitted] at h
  dsimp only at h
  cases hreached : connectAndForward env.lib env.dial admission.backendConfig admission.profile env.clientIp
      handshake.protocolVersion with
  | failed e dropped =>
    rw [hreached] at h
    cases h
  | ok _ backend =>
    rw [hreached] at h
    dsimp only at h
    have hcontinues := (Linked.Continues.settle env handshake.protocolVersion.toInt admission.profile ⟨client, backend⟩).backend
    rcases hsettled : settle env handshake.protocolVersion.toInt admission.profile ⟨client, backend⟩ with
      ⟨_ | ⟨threshold, cache⟩, linked⟩
    · rw [hsettled] at h
      cases h
    · rw [hsettled] at h hcontinues
      cases h
      refine ⟨rfl, rfl, rfl, rfl, fun b hb => ?_⟩
      cases hb
      have hreachable : Announced env.toWorld _ _ _ _ _ := connectAndForward_announces hreached
      have hannounced := hreachable.continues hcontinues
      refine ⟨admission.backendConfig, env.toWorld, hworld, logIn_configured hadmitted, ?_⟩
      have hversion : Int32.ofInt handshake.protocolVersion.toInt = handshake.protocolVersion := Int32.ofInt_toInt _
      show Announced _ _ _ _ (Int32.ofInt handshake.protocolVersion.toInt) _
      rwa [hversion]

/-- From the first handshake on, through every login and every run of the Play
state, in whatever worlds: while the player has a backend, it is the server the
session names, at the address that is configured for it, and the first thing it
was told is who the player is. -/
theorem backend_is_current_server {env : LoginEnv} {client : Peer} {s : PlayStateMachine}
    (hprocessed : (processConnection env client).result = .ok s) (inputs : List (World × Input)) {b : Wire}
    (hb : (run inputs s).2.backend = some b) :
    ∃ backendConfig world, (world = env.toWorld ∨ ∃ input, (world, input) ∈ inputs) ∧
      env.config.servers.lookup (run inputs s).2.session.currentServer = some backendConfig ∧
      Announced world backendConfig s.session.profile env.clientIp (Int32.ofInt s.session.protocolVersion) b := by
  unfold processConnection at hprocessed
  rcases hhandshake : readHandshake ⟨client, none⟩ with ⟨_ | handshake, stream⟩
  · rw [hhandshake] at hprocessed
    cases hprocessed
  rw [hhandshake] at hprocessed
  dsimp only at hprocessed
  cases hstate : handshake.nextState with
  | login =>
    rw [hstate] at hprocessed
    have hstart : OnServer _ (fun world => world = env.toWorld ∨ ∃ input, (world, input) ∈ inputs) s :=
      processLogin_onServer hprocessed (Or.inl rfl)
    exact (onServer_run inputs hstart fun step hstep => Or.inr ⟨step.2, hstep⟩).backend b hb
  | _ =>
    rw [hstate] at hprocessed
    cases hprocessed

/-- A login to the lobby, with another server and a script that sends there
whoever gives a command. -/
def twoServers : LoginEnv :=
  { smallLogin with
    scriptHost := ⟨[], ⟨none, some fun _ => some ⟨true, "arena", ""⟩, none⟩⟩
    config := { smallLogin.config with servers := smallLogin.config.servers ++ [("arena", ⟨"127.0.0.1", 25567, .none, none⟩)] } }

/-- The player plays, and gives a command. -/
def movesOn : List (World × Input) :=
  [(twoServers.toWorld, .client (.ok ⟨0x14, [0x00]⟩)),
    (twoServers.toWorld, .client (.ok (ServerboundChatCommand.encodeWithVersion ⟨"arena"⟩ 763)))]

theorem backend_is_current_server_lobby :
    ∃ s b backendConfig world,
      (processConnection twoServers (.connected (fun _ => .done) smallLoginReads)).result = .ok s ∧
        s.session.currentServer = "lobby" ∧ (run movesOn s).2.session.currentServer = "arena" ∧
        (run movesOn s).2.backend = some b ∧ twoServers.config.servers.lookup "arena" = some backendConfig ∧
        Announced world backendConfig s.session.profile twoServers.clientIp (Int32.ofInt s.session.protocolVersion) b := by
  have hmoved : ((processConnection twoServers (.connected (fun _ => .done) smallLoginReads)).result.toOption.map fun s =>
      (s.session.currentServer, (run movesOn s).2.session.currentServer, (run movesOn s).2.backend.isSome)) =
        some ("lobby", "arena", true) := by decide +kernel
  cases hresult : (processConnection twoServers (.connected (fun _ => .done) smallLoginReads)).result with
  | error exit =>
    rw [hresult] at hmoved
    cases hmoved
  | ok s =>
    rw [hresult] at hmoved
    obtain ⟨hlobby, hmoved⟩ := Prod.mk.inj (Option.some.inj hmoved)
    obtain ⟨harena, hsome⟩ := Prod.mk.inj hmoved
    obtain ⟨b, hb⟩ := Option.isSome_iff_exists.mp hsome
    obtain ⟨backendConfig, world, -, hlookup, hannounced⟩ := backend_is_current_server hresult movesOn hb
    rw [harena] at hlookup
    exact ⟨s, b, backendConfig, world, rfl, hlobby, harena, hb, hlookup, hannounced⟩

end FrameMC

import FrameMC.Routing.StateMachine

/-!
# The outcomes of a transfer

`switchServer_cases` says what a transfer can come to: the target is not
configured, the connection or its Configuration phase fails, or the new backend
is attached. A failed transfer leaves the machine as it was except for the
registry cache, into which the Configuration loop puts every registry at once
(`switchServer_failed`).
-/

namespace FrameMC

open ByteStream

/-! ## The Configuration phase -/

section Configure

variable (env : Env) (v : Int) (threshold : Option Nat)

/-- The packets of the Configuration phase that are read before it ends. -/
def packetsRead : List PeerRead → SessionRegistryCache → Wire → List RawPacket
  | .packet packet :: reads, cache, wire =>
    packet :: match configureStep env v threshold packet cache (wire.received packet threshold) with
      | .next cache wire => packetsRead reads cache wire
      | _ => []
  | _, _, _ => []

/-- A packet that is not a registry's goes past the cache. -/
theorem cachePacket_of_ne {cache : SessionRegistryCache} {packet : RawPacket}
    (h : packet.id ≠ registryDataPacketId) : (cache.cachePacket packet).2 = cache := by
  rw [SessionRegistryCache.cachePacket, if_neg h]

/-- The wire after a step. -/
def ConfigStep.wire : ConfigStep → Wire
  | next _ wire => wire
  | finished wire => wire
  | failed _ wire => wire

/-- The cache after a step; one that ends the phase leaves it. -/
def ConfigStep.cache (before : SessionRegistryCache) : ConfigStep → SessionRegistryCache
  | next cache _ => cache
  | finished _ => before
  | failed _ _ => before

/-- What a step does to its wire: nothing, or one write. -/
def OneWrite (threshold : Option Nat) (wire wire' : Wire) : Prop :=
  wire' = wire ∨ ∃ p, wire' = (wire.write p threshold .own).2

variable {threshold} in
theorem replyThen_spec {wire : Wire} {p : RawPacket} {cache : SessionRegistryCache} {after : Wire → ConfigStep}
    (hwire : ∀ w, (after w).wire = w) (hcache : ∀ w, (after w).cache cache = cache) :
    (replyThen wire p threshold after).cache cache = cache ∧
      OneWrite threshold wire (replyThen wire p threshold after).wire := by
  rw [replyThen]
  split
  · next e w h => exact ⟨rfl, Or.inr ⟨p, by rw [h]; rfl⟩⟩
  · next w h => exact ⟨hcache w, Or.inr ⟨p, by rw [h, hwire]⟩⟩

/-- Whichever way a packet leads, it reaches the cache as `cache_packet` takes
it, and the wire by one write at most. -/
theorem configureStep_spec (packet : RawPacket) (cache : SessionRegistryCache) (wire : Wire) :
    (configureStep env v threshold packet cache wire).cache cache = (cache.cachePacket packet).2 ∧
      OneWrite threshold wire (configureStep env v threshold packet cache wire).wire := by
  by_cases hreg : packet.id = registryDataPacketId
  · simp only [configureStep, hreg, true_or, if_true]
    exact ⟨rfl, Or.inl rfl⟩
  · have hcache : (cache.cachePacket packet).2 = cache := cachePacket_of_ne hreg
    have hnext : ∀ w, (ConfigStep.next cache w).wire = w ∧ (ConfigStep.next cache w).cache cache = cache :=
      fun _ => ⟨rfl, rfl⟩
    simp only [configureStep, hreg, false_or, hcache]
    split_ifs
    · exact ⟨rfl, Or.inl rfl⟩
    · exact replyThen_spec (fun w => (hnext w).1) fun w => (hnext w).2
    · exact replyThen_spec (fun w => (hnext w).1) fun w => (hnext w).2
    · exact replyThen_spec (fun w => (hnext w).1) fun w => (hnext w).2
    · exact replyThen_spec (fun _ => rfl) fun _ => rfl
    · exact ⟨rfl, Or.inl rfl⟩
    · exact ⟨rfl, Or.inl rfl⟩

theorem configure_cache (reads : List PeerRead) (cache : SessionRegistryCache) (wire : Wire) :
    (configure env v threshold reads cache wire).cache =
      (packetsRead env v threshold reads cache wire).foldl (fun c p => (c.cachePacket p).2) cache := by
  induction reads generalizing cache wire with
  | nil => rfl
  | cons read reads ih =>
    cases read with
    | pause => rfl
    | failed e => rfl
    | packet packet =>
      have hstep := (configureStep_spec env v threshold packet cache (wire.received packet threshold)).1
      rw [configure, packetsRead]
      cases h : configureStep env v threshold packet cache (wire.received packet threshold) with
      | next cache' wire' =>
        rw [h] at hstep
        rw [List.foldl_cons, ← hstep]
        exact ih cache' wire'
      | finished wire' =>
        rw [h] at hstep
        exact hstep
      | failed reason wire' =>
        rw [h] at hstep
        exact hstep

end Configure

/-! ## Cases -/

/-- The chat message the client is sent. -/
def chatPacket (env : Env) (s : PlayStateMachine) (message : String) : RawPacket :=
  SystemChatMessagePacket.encodeWithVersion env.textJson ⟨message, false⟩ s.session.protocolVersion

theorem writeChat_apply (env : Env) (message : String) (s : PlayStateMachine) :
    writeChat env message s =
      ((s.client.write (chatPacket env s message) s.clientCompressionThreshold .own).1,
        { s with client := (s.client.write (chatPacket env s message) s.clientCompressionThreshold .own).2 }) := rfl

theorem writeChat_log (env : Env) (message : String) (s : PlayStateMachine) :
    (writeChat env message s).2.client.log = s.client.log ∨ ∃ text,
      (writeChat env message s).2.client.log =
        s.client.log ++ [.sent (chatPacket env s text) s.clientCompressionThreshold .own] := by
  rcases Wire.write_log s.client (chatPacket env s message) s.clientCompressionThreshold .own with hlog | hlog
  · exact Or.inl hlog
  · exact Or.inr ⟨message, hlog⟩

/-- The parts of the machine a transfer rearranges before the new backend is attached. -/
def rearrange (backend : Option Wire) (closed : List Wire) (cache : SessionRegistryCache) (s : PlayStateMachine) :
    PlayStateMachine :=
  { s with backend := backend, closed := closed, session := { s.session with registryCache := cache } }

/-- The new backend in its place. -/
def reattach (targetServer : String) (wire : Wire) (threshold : Option Nat) (s : PlayStateMachine) :
    PlayStateMachine :=
  { s with
    backend := some wire
    backendCompressionThreshold := threshold
    compressionThreshold := s.clientCompressionThreshold
    session := { s.session with currentServer := targetServer }
    serverTransferred := true
    attached := s.attached + 1 }

theorem giveUp_apply (env : Env) (targetServer reason : String) (dropped : List Wire) (cache : SessionRegistryCache)
    (s : PlayStateMachine) :
    giveUp env targetServer reason dropped (rearrange s.backend s.closed cache s) =
      (.ok false, (writeChat env ("§cCould not connect to " ++ targetServer ++ ": " ++ reason)
        (rearrange s.backend (s.closed ++ dropped) cache s)).2) := rfl

theorem attachBackend_apply (targetServer : String) (wire : Wire) (threshold : Option Nat)
    (cache : SessionRegistryCache) (s : PlayStateMachine) :
    attachBackend targetServer wire threshold (rearrange s.backend s.closed cache s) =
      (.ok true, reattach targetServer wire threshold (teardownTransferredState
        (rearrange none (s.closed ++ s.backend.toList) cache s)).2) := rfl

/-- The packets the new backend sends before a transfer to it is settled. -/
def receivedInSwitch (env : Env) (s : PlayStateMachine) (targetServer : String) : List RawPacket :=
  match s.config.servers.lookup targetServer, env.connect targetServer with
  | some _, .ok new =>
    if s.session.protocolVersion ≥ 764 then
      packetsRead env s.session.protocolVersion new.threshold new.reads s.session.registryCache new.wire
    else []
  | _, _ => []

/-- The registry cache once the received packets are in it. -/
def cacheAfter (env : Env) (s : PlayStateMachine) (targetServer : String) : SessionRegistryCache :=
  (receivedInSwitch env s targetServer).foldl (fun c p => (c.cachePacket p).2) s.session.registryCache

/-- The connections a transfer in environment `env` may come with. -/
def Env.Offers (env : Env) (wire : Wire) (threshold : Option Nat) : Prop :=
  ∃ targetServer new v cache, env.connect targetServer = .ok new ∧ new.threshold = threshold ∧
    (wire = new.wire ∨ wire = (configure env v threshold new.reads cache new.wire).wire)

/-- The connections it may give up. -/
def Env.Drops (env : Env) (wire : Wire) : Prop :=
  (∃ targetServer e dropped, env.connect targetServer = .failed e dropped ∧ wire ∈ dropped) ∨
    ∃ threshold, env.Offers wire threshold

/-- What a transfer comes to. -/
inductive SwitchOutcome (env : Env) (targetServer : String) (s : PlayStateMachine) :
    Except ProxyError Bool → PlayStateMachine → Prop where
  | unknown (r : Except ProxyError Bool) :
      s.config.servers.lookup targetServer = none →
      (r = .ok false ∨ ∃ e, r = .error e) →
      SwitchOutcome env targetServer s r (writeChat env ("§cServer '" ++ targetServer ++ "' not found.") s).2
  | failed (reason : String) (dropped : List Wire) :
      (∀ w ∈ dropped, env.Drops w) →
      SwitchOutcome env targetServer s (.ok false)
        (writeChat env ("§cCould not connect to " ++ targetServer ++ ": " ++ reason)
          (rearrange s.backend (s.closed ++ dropped) (cacheAfter env s targetServer) s)).2
  | attached (wire : Wire) (threshold : Option Nat) :
      env.Offers wire threshold →
      SwitchOutcome env targetServer s (.ok true)
        (reattach targetServer wire threshold (teardownTransferredState
          (rearrange none (s.closed ++ s.backend.toList) (cacheAfter env s targetServer) s)).2)

theorem switchServer_cases (env : Env) (targetServer : String) (s : PlayStateMachine) :
    SwitchOutcome env targetServer s (switchServer env targetServer s).1 (switchServer env targetServer s).2 := by
  cases hl : s.config.servers.lookup targetServer with
  | none =>
    have heq : switchServer env targetServer s =
        (writeChat env ("§cServer '" ++ targetServer ++ "' not found.") >>= fun _ => pure false) s := by
      rw [switchServer, Effect.get_bind, hl]
    have hunknown := fun r => @SwitchOutcome.unknown env targetServer s r hl
    rw [heq, Effect.bind_apply]
    rcases hw : writeChat env ("§cServer '" ++ targetServer ++ "' not found.") s with ⟨r, s'⟩
    rw [hw] at hunknown
    cases r with
    | ok _ => exact hunknown _ (Or.inl rfl)
    | error e => exact hunknown _ (Or.inr ⟨e, rfl⟩)
  | some config =>
    cases hc : env.connect targetServer with
    | failed e dropped =>
      have hcache : cacheAfter env s targetServer = s.session.registryCache := by
        simp only [cacheAfter, receivedInSwitch, hl, hc, List.foldl_nil]
      have heq : switchServer env targetServer s =
          giveUp env targetServer e.display dropped (rearrange s.backend s.closed (cacheAfter env s targetServer) s) := by
        simp only [switchServer, Effect.get_bind, hl, hc, hcache, rearrange]
      rw [heq, giveUp_apply]
      exact .failed e.display dropped fun w hw => Or.inl ⟨targetServer, e, dropped, hc, hw⟩
    | ok new =>
      by_cases hv : s.session.protocolVersion ≥ 764
      · generalize hcfg : configure env s.session.protocolVersion new.threshold new.reads
          s.session.registryCache new.wire = configured
        have hcache : configured.cache = cacheAfter env s targetServer := by
          simp only [← hcfg, configure_cache, cacheAfter, receivedInSwitch, hl, hc, if_pos hv]
        have hoffers : env.Offers configured.wire new.threshold :=
          ⟨targetServer, new, s.session.protocolVersion, s.session.registryCache, hc, rfl, Or.inr (by rw [hcfg])⟩
        cases hr : configured.result with
        | error reason =>
          have heq : switchServer env targetServer s = giveUp env targetServer reason [configured.wire]
              (rearrange s.backend s.closed (cacheAfter env s targetServer) s) := by
            simp only [switchServer, Effect.get_bind, hl, hc, if_pos hv, Effect.modify_bind, hcfg, hr, ← hcache,
              rearrange]
          rw [heq, giveUp_apply]
          exact .failed reason _ fun w hw => Or.inr ⟨new.threshold, List.mem_singleton.mp hw ▸ hoffers⟩
        | ok _ =>
          have heq : switchServer env targetServer s = attachBackend targetServer configured.wire new.threshold
              (rearrange s.backend s.closed (cacheAfter env s targetServer) s) := by
            simp only [switchServer, Effect.get_bind, hl, hc, if_pos hv, Effect.modify_bind, hcfg, hr, ← hcache,
              rearrange]
          rw [heq, attachBackend_apply]
          exact .attached _ new.threshold hoffers
      · have hcache : cacheAfter env s targetServer = s.session.registryCache := by
          simp only [cacheAfter, receivedInSwitch, hl, hc, if_neg hv, List.foldl_nil]
        have heq : switchServer env targetServer s = attachBackend targetServer new.wire new.threshold
            (rearrange s.backend s.closed (cacheAfter env s targetServer) s) := by
          simp only [switchServer, Effect.get_bind, hl, hc, if_neg hv, hcache, rearrange]
        rw [heq, attachBackend_apply]
        exact .attached _ new.threshold
          ⟨targetServer, new, s.session.protocolVersion, s.session.registryCache, hc, rfl, Or.inl rfl⟩

/-! ## Failed transfers -/

/-- Everything a failed transfer should leave alone. -/
structure Unchanged (s s' : PlayStateMachine) : Prop where
  backend : s'.backend = s.backend
  backendThreshold : s'.backendCompressionThreshold = s.backendCompressionThreshold
  clientThreshold : s'.clientCompressionThreshold = s.clientCompressionThreshold
  currentServer : s'.session.currentServer = s.session.currentServer
  registryCache : s'.session.registryCache = s.session.registryCache
  serverTransferred : s'.serverTransferred = s.serverTransferred
  openContainerId : s'.openContainerId = s.openContainerId
  hasActiveAudio : s'.hasActiveAudio = s.hasActiveAudio
  activeBossBars : s'.activeBossBars = s.activeBossBars
  activeScoreboardObjectives : s'.activeScoreboardObjectives = s.activeScoreboardObjectives
  activeDisplaySlots : s'.activeDisplaySlots = s.activeDisplaySlots

/-- A failed transfer changes the client's wire, by one chat notice at most,
the list of given-up connections, and the registry cache. -/
theorem switchServer_failed {env : Env} {targetServer : String} {s : PlayStateMachine}
    (h : (switchServer env targetServer s).1 = .ok false) :
    (∃ closed client, (switchServer env targetServer s).2 = { s with
        session := { s.session with registryCache := cacheAfter env s targetServer }
        closed := closed
        client := client }) ∧
      ((switchServer env targetServer s).2.client.log = s.client.log ∨ ∃ message,
        (switchServer env targetServer s).2.client.log =
          s.client.log ++ [.sent (chatPacket env s message) s.clientCompressionThreshold .own]) := by
  have hcases := switchServer_cases env targetServer s
  generalize hr : (switchServer env targetServer s).1 = r at hcases h
  generalize (switchServer env targetServer s).2 = s' at hcases
  cases hcases with
  | unknown r hl _ =>
    have hcache : cacheAfter env s targetServer = s.session.registryCache := by
      simp only [cacheAfter, receivedInSwitch, hl, List.foldl_nil]
    exact ⟨⟨s.closed, _, by rw [hcache, writeChat_apply]⟩, writeChat_log env _ s⟩
  | failed reason dropped _ =>
    exact ⟨⟨_, _, rfl⟩, writeChat_log env _ (rearrange ..)⟩
  | attached wire threshold _ => cases h

/-- What the new backend last sent for each registry is what the session holds. -/
def RegistriesKnown (env : Env) (s : PlayStateMachine) (targetServer : String) : Prop :=
  ∀ id reg, SessionRegistryCache.lastCarried (receivedInSwitch env s targetServer) id = some reg →
    s.session.registryCache.get id = some reg

/-- A failed transfer leaves the session as it was exactly when the registries
that came in before it failed were known; it never touches anything else, and
writes the client one chat notice at most. -/
theorem failed_switch_unchanged_iff (env : Env) (targetServer : String) (s : PlayStateMachine)
    (h : (switchServer env targetServer s).1 = .ok false) :
    (Unchanged s (switchServer env targetServer s).2 ↔ RegistriesKnown env s targetServer) ∧
      ((switchServer env targetServer s).2.client.log = s.client.log ∨ ∃ message,
        (switchServer env targetServer s).2.client.log =
          s.client.log ++ [.sent (chatPacket env s message) s.clientCompressionThreshold .own]) := by
  obtain ⟨⟨closed, client, hs⟩, hlog⟩ := switchServer_failed h
  refine ⟨?_, hlog⟩
  have hiff : cacheAfter env s targetServer = s.session.registryCache ↔ RegistriesKnown env s targetServer :=
    SessionRegistryCache.foldl_cachePacket_eq_iff _ _
  rw [hs, ← hiff]
  constructor
  · exact Unchanged.registryCache
  · intro hcache
    exact ⟨rfl, rfl, rfl, rfl, hcache, rfl, rfl, rfl, rfl, rfl, rfl⟩

/-- A connection that breaks before any registry came in. -/
theorem failed_switch_unchanged_eof :
    (Unchanged (smallSession 767) (switchServer (smallEnv [.failed streamEof]) "lobby" (smallSession 767)).2 ↔
      RegistriesKnown (smallEnv [.failed streamEof]) (smallSession 767) "lobby") ∧
    ((switchServer (smallEnv [.failed streamEof]) "lobby" (smallSession 767)).2.client.log =
        (smallSession 767).client.log ∨ ∃ message,
      (switchServer (smallEnv [.failed streamEof]) "lobby" (smallSession 767)).2.client.log =
        (smallSession 767).client.log ++ [.sent (chatPacket (smallEnv [.failed streamEof]) (smallSession 767) message)
          (smallSession 767).clientCompressionThreshold .own]) :=
  failed_switch_unchanged_iff _ _ _ rfl

/-- A backend that sends one registry and breaks off. -/
def brokenOff : List PeerRead :=
  [.packet ⟨0x07, putString "minecraft:dimension_type" ++ [0x0A, 0x00]⟩, .failed streamEof]

/-- The registry of the server that was not reached stays in the session. -/
theorem failed_switch_keeps_registry :
    (switchServer (smallEnv brokenOff) "lobby" (smallSession 767)).1 = .ok false ∧
      ¬ Unchanged (smallSession 767) (switchServer (smallEnv brokenOff) "lobby" (smallSession 767)).2 := by
  have hfalse : (switchServer (smallEnv brokenOff) "lobby" (smallSession 767)).1 = .ok false := rfl
  refine ⟨hfalse, ?_⟩
  intro h
  obtain ⟨⟨closed, client, hs⟩, -⟩ := switchServer_failed hfalse
  have hcache := h.registryCache
  rw [hs] at hcache
  have hknown : RegistriesKnown (smallEnv brokenOff) (smallSession 767) "lobby" :=
    (SessionRegistryCache.foldl_cachePacket_eq_iff _ _).mp hcache
  have hget := hknown "minecraft:dimension_type" ⟨"minecraft:dimension_type", [0x0A, 0x00]⟩ (by decide)
  have hnew : (smallSession 767).session.registryCache.get "minecraft:dimension_type" = none :=
    Std.ExtTreeMap.getElem?_empty
  rw [hnew] at hget
  cases hget

end FrameMC

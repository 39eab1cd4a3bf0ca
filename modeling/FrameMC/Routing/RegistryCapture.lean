import FrameMC.Network.Bridging
import FrameMC.Routing.Switch
import FrameMC.Routing.Steps

/-!
# Capturing registries

Both Configuration loops pick out the packets that carry registries, by an id
that depends on the version, and hand them to `cache_packet`, which looks at the
id again and takes one of the two only. What both loops leave in the cache is
what the picked packets last carried, as it should be, exactly where the packets
with the other id bring nothing new (`registries_captured_iff`).
-/

namespace FrameMC

open ByteStream Effect

/-! ## What should be captured -/

/-- The loops' condition for registry data. -/
def interceptsRegistry (v : Int) (packet : RawPacket) : Prop :=
  packet.id = registryDataPacketId ∨ (v < 766 ∧ packet.id = 0x05)

instance (v : Int) (packet : RawPacket) : Decidable (interceptsRegistry v packet) := inferInstanceAs (Decidable (_ ∨ _))

/-- The registry a packet brings: a length-prefixed id and data, on a packet the
loops pick out. -/
def selected (v : Int) (packet : RawPacket) : Option RegistryDataPacket :=
  if interceptsRegistry v packet then SessionRegistryCache.carried ⟨registryDataPacketId, packet.payload⟩ else none

theorem selected_iff {v : Int} {packet : RawPacket} {reg : RegistryDataPacket} :
    selected v packet = some reg ↔ interceptsRegistry v packet ∧ ∃ u len,
      packet.payload = u ++ asBytes reg.registryId ++ reg.rawData ∧ IsVarint u len ∧ 0 ≤ len ∧
        asUsize len = (asBytes reg.registryId).length := by
  rw [selected]
  by_cases h : interceptsRegistry v packet
  · rw [if_pos h, SessionRegistryCache.carried, RegistryDataPacket.decode, if_neg (not_not.mpr rfl)]
    simp only [h, true_and]
    rw [← @readString_ok_iff "unexpected EOF reading registry_id" "invalid UTF-8 in registry_id"]
    rcases readString "unexpected EOF reading registry_id" "invalid UTF-8 in registry_id" packet.payload with r | _ | _
    · obtain ⟨id, data⟩ := r
      obtain ⟨id', data'⟩ := reg
      simp [Outcome.toOption]
    · simp [Outcome.toOption]
    · simp [Outcome.toOption]
  · rw [if_neg h]
    simp [h]

/-- What is last brought for a registry. -/
def lastSelected (v : Int) (packets : List RawPacket) (id : String) : Option RegistryDataPacket :=
  ((packets.filterMap (selected v)).filter (·.registryId = id)).getLast?

namespace SessionRegistryCache

def getRaw (cache : SessionRegistryCache) (registryId : String) : Option (List UInt8) :=
  (cache.get registryId).map (·.rawData)

end SessionRegistryCache

/-- For every registry the cache holds what was last brought for it, and what it
held before where nothing was. -/
def Captured (v : Int) (packets : List RawPacket) (before after : SessionRegistryCache) : Prop :=
  ∀ id, after.getRaw id = ((lastSelected v packets id).map (·.rawData)).or (before.getRaw id)

/-- A packet that brings a registry under the other id, and is the last to do
so for it, brings what had been recorded by then. -/
def OthersKnown (v : Int) (packets : List RawPacket) (before : SessionRegistryCache) : Prop :=
  ∀ front packet behind reg, packets = front ++ packet :: behind → packet.id ≠ registryDataPacketId →
    selected v packet = some reg → lastSelected v behind reg.registryId = none →
    ((SessionRegistryCache.lastCarried front reg.registryId).or (before.get reg.registryId)).map (·.rawData) =
      some reg.rawData

/-! ## What is -/

section Last

variable {v : Int}

theorem lastSelected_append (front behind : List RawPacket) (id : String) :
    lastSelected v (front ++ behind) id = (lastSelected v behind id).or (lastSelected v front id) := by
  simp only [lastSelected, List.filterMap_append, List.filter_append, List.getLast?_append]

theorem lastCarried_append (front behind : List RawPacket) (id : String) :
    SessionRegistryCache.lastCarried (front ++ behind) id =
      (SessionRegistryCache.lastCarried behind id).or (SessionRegistryCache.lastCarried front id) := by
  simp only [SessionRegistryCache.lastCarried, List.filterMap_append, List.filter_append, List.getLast?_append]

/-- A packet with the registry data's own id is carried as it is selected. -/
theorem selected_of_id {packet : RawPacket} (h : packet.id = registryDataPacketId) :
    selected v packet = SessionRegistryCache.carried packet := by
  rw [selected, if_pos (show interceptsRegistry v packet from Or.inl h), ← h]

theorem carried_of_ne {packet : RawPacket} (h : packet.id ≠ registryDataPacketId) :
    SessionRegistryCache.carried packet = none := by
  rw [SessionRegistryCache.carried, RegistryDataPacket.decode, if_pos h]
  rfl

theorem lastSelected_singleton (packet : RawPacket) (id : String) :
    lastSelected v [packet] id = (selected v packet).filter (·.registryId = id) := by
  rw [lastSelected, List.filterMap_cons]
  cases selected v packet with
  | none => rfl
  | some reg =>
    by_cases h : reg.registryId = id
    · simp [h, Option.filter]
    · simp [h, Option.filter]

theorem lastCarried_singleton (packet : RawPacket) (id : String) :
    SessionRegistryCache.lastCarried [packet] id =
      (SessionRegistryCache.carried packet).filter (·.registryId = id) := by
  rw [SessionRegistryCache.lastCarried, List.filterMap_cons]
  cases SessionRegistryCache.carried packet with
  | none => rfl
  | some reg =>
    by_cases h : reg.registryId = id
    · simp [h, Option.filter]
    · simp [h, Option.filter]

/-- The last packet that brings a registry. -/
theorem exists_lastSelected {packets : List RawPacket} {id : String} {reg : RegistryDataPacket}
    (h : lastSelected v packets id = some reg) :
    ∃ front packet behind, packets = front ++ packet :: behind ∧ selected v packet = some reg ∧
      reg.registryId = id ∧ lastSelected v behind id = none := by
  induction packets with
  | nil => cases h
  | cons packet packets ih =>
    rw [← List.singleton_append, lastSelected_append] at h
    cases hl : lastSelected v packets id with
    | some reg' =>
      rw [hl] at h
      obtain rfl : reg' = reg := Option.some.inj h
      obtain ⟨front, p, behind, rfl, hp, hid, hbehind⟩ := ih hl
      exact ⟨packet :: front, p, behind, rfl, hp, hid, hbehind⟩
    | none =>
      rw [hl, Option.none_or, lastSelected_singleton, Option.filter_eq_some_iff] at h
      exact ⟨[], packet, packets, rfl, h.1, by simpa using h.2, hl⟩

/-- What is not selected for a registry is not carried for it. -/
theorem lastCarried_of_lastSelected {packets : List RawPacket} {id : String} (h : lastSelected v packets id = none) :
    SessionRegistryCache.lastCarried packets id = none := by
  induction packets with
  | nil => rfl
  | cons packet packets ih =>
    rw [← List.singleton_append, lastSelected_append, Option.or_eq_none_iff, lastSelected_singleton] at h
    rw [← List.singleton_append, lastCarried_append, ih h.1, Option.none_or, lastCarried_singleton]
    by_cases hid : packet.id = registryDataPacketId
    · rw [← selected_of_id hid]
      exact h.2
    · rw [carried_of_ne hid]
      rfl

end Last

/-- Caching the packets one after the other captures what it should exactly
when the packets with the other id bring nothing new. -/
theorem captured_foldl_iff (v : Int) (packets : List RawPacket) (before : SessionRegistryCache) :
    Captured v packets before (packets.foldl (fun c p => (c.cachePacket p).2) before) ↔
      OthersKnown v packets before := by
  have hraw : ∀ id, (packets.foldl (fun c p => (c.cachePacket p).2) before).getRaw id =
      ((SessionRegistryCache.lastCarried packets id).or (before.get id)).map (·.rawData) := by
    intro id
    rw [SessionRegistryCache.getRaw, SessionRegistryCache.get_foldl_cachePacket]
  -- with the last packet that brings a registry known, so is what is recorded for it
  have hlast : ∀ {front packet behind reg}, packets = front ++ packet :: behind → selected v packet = some reg →
      lastSelected v behind reg.registryId = none →
      lastSelected v packets reg.registryId = some reg ∧ SessionRegistryCache.lastCarried packets reg.registryId =
        if packet.id = registryDataPacketId then some reg
        else SessionRegistryCache.lastCarried front reg.registryId := by
    intro front packet behind reg hsplit hsel hbehind
    have hfilter : (some reg).filter (fun r => decide (r.registryId = reg.registryId)) = some reg := by simp
    have hcons : packet :: behind = [packet] ++ behind := rfl
    rw [hsplit, hcons, lastSelected_append, lastSelected_append, hbehind, Option.none_or, lastSelected_singleton, hsel,
      hfilter, Option.some_or, lastCarried_append, lastCarried_append, lastCarried_of_lastSelected hbehind,
      Option.none_or, lastCarried_singleton]
    refine ⟨rfl, ?_⟩
    split
    · next hid => rw [← selected_of_id hid, hsel, hfilter, Option.some_or]
    · next hid => rw [carried_of_ne hid, Option.filter_none, Option.none_or]
  constructor
  · intro h front packet behind reg hsplit hid hsel hbehind
    obtain ⟨hsome, hcarried⟩ := hlast hsplit hsel hbehind
    have := h reg.registryId
    rw [hraw, hsome, hcarried, if_neg hid] at this
    rw [this]
    rfl
  · intro h id
    rw [hraw]
    cases hl : lastSelected v packets id with
    | none => rw [lastCarried_of_lastSelected hl]; rfl
    | some reg =>
      obtain ⟨front, packet, behind, hsplit, hsel, rfl, hbehind⟩ := exists_lastSelected hl
      obtain ⟨-, hcarried⟩ := hlast hsplit hsel hbehind
      rw [hcarried]
      split
      · rfl
      · next hid =>
        rw [h front packet behind reg hsplit hid hsel hbehind]
        rfl

/-! ## The bridging loop -/

/-- What the bridging loop looks at among the packets of the backend. -/
def lookedAt (packets : List RawPacket) : List RawPacket :=
  packets.filter fun packet => ¬ isProtectedPluginChannel packet

/-- Since it sent `log` the backend has sent some packets, and with these in it
the cache `before` is the cache `after`. -/
def Cached (log : List Event) (before after : SessionRegistryCache) (backend : Peer) : Prop :=
  ∃ more, backend.wire.log = log ++ more ∧
    after = (lookedAt (Event.arrived more)).foldl (fun c p => (c.cachePacket p).2) before

section Bridge

variable {α : Type} {log : List Event} {before after : SessionRegistryCache} {backend : Peer}

theorem Cached.event (h : Cached log before after backend) {backend' : Peer} {e : Event}
    (hlog : backend'.wire.log = backend.wire.log ++ [e]) :
    Cached log before ((lookedAt (Event.arrived [e])).foldl (fun c p => (c.cachePacket p).2) after) backend' := by
  obtain ⟨more, hmore, rfl⟩ := h
  refine ⟨more ++ [e], by rw [hlog, hmore, List.append_assoc], ?_⟩
  rw [Event.arrived_append, lookedAt, lookedAt, lookedAt, List.filter_append, List.foldl_append]

/-- The condition of the loop and the one of `cache_packet` come to the latter. -/
theorem noteConfiguration_cache (v : Int) (packet : RawPacket) (b : Bridging) :
    (noteConfiguration v packet b).cache = (b.cache.cachePacket packet).2 := by
  rw [noteConfiguration]
  split
  · rfl
  · next h => exact (cachePacket_of_ne (mt Or.inl h)).symm

/-- What is done on the client's side leaves the backend's. -/
theorem onClient_leaves (Q : Peer → Prop) (m : Talk α) :
    Ensures (fun _ => True) (fun s => Q s.backend) (onClient m) fun _ s => Q s.backend := by
  intro s hs
  rw [onClient_apply]
  split
  · exact ⟨trivial, fun _ _ => hs⟩
  · exact ⟨trivial, fun _ _ => hs⟩

/-- A round keeps the cache what the packets of the backend make it. -/
theorem bridgeTurn_cached (lib : Library) (v : Int) (t : Option Nat) (b : Bridging) (turn : Turn) :
    Ensures (fun _ => True) (fun s => Cached log before b.cache s.backend) (bridgeTurn lib v t b turn)
      fun b' s => Cached log before b'.cache s.backend := by
  cases turn with
  | shutdown => exact ensures_bind (onClient_leaves _ _) fun _ => ensures_throw fun _ _ => trivial
  | backend =>
    have hread : Ensures (fun _ => True) (fun s => Cached log before b.cache s.backend) (onBackend (Talk.read t))
        fun packet s => Cached log before
          ((lookedAt [packet]).foldl (fun c p => (c.cachePacket p).2) b.cache) s.backend := by
      intro s hs
      rw [onBackend_apply, Talk.read]
      rcases nextRead s.backend.reads with ⟨_ | packet, reads⟩
      · refine ⟨trivial, fun packet' h => ?_⟩
        cases h
      · refine ⟨trivial, fun packet' h => ?_⟩
        cases h
        exact hs.event (e := .received packet t) rfl
    refine ensures_bind hread fun packet => ensures_ite (fun hprotected => ?_) fun hprotected => ?_
    · refine ensures_pure fun s hs => ⟨trivial, ?_⟩
      simpa [lookedAt, hprotected] using hs
    · refine ensures_bind (onClient_leaves _ _) fun _ => ensures_ite (fun _ => ?_) fun _ => ?_
      · exact ensures_throw fun _ _ => trivial
      · refine ensures_pure fun s hs => ⟨trivial, ?_⟩
        rw [noteConfiguration_cache]
        simpa [lookedAt, hprotected] using hs
  | client =>
    refine ensures_bind (onClient_leaves _ _) fun packet => ensures_ite (fun _ => ?_) fun _ => ?_
    · exact ensures_pure fun s hs => ⟨trivial, hs⟩
    · have hwrite : Ensures (fun _ => True) (fun s => Cached log before b.cache s.backend)
          (onBackend (Talk.write packet t .relayed)) fun _ s => Cached log before b.cache s.backend := by
        intro s hs
        rw [onBackend_apply, Talk.write]
        have hlog := Wire.write_log s.backend.wire packet t .relayed
        generalize s.backend.wire.write packet t .relayed = written at hlog
        obtain ⟨_ | _, w⟩ := written
        · refine ⟨trivial, fun _ h => ?_⟩
          cases h
        · refine ⟨trivial, fun _ _ => ?_⟩
          rcases hlog with hlog | hlog
          · obtain ⟨more, hmore, hafter⟩ := hs
            exact ⟨more, hlog.trans hmore, hafter⟩
          · exact @Cached.event _ _ _ _ hs ⟨w, s.backend.reads⟩ _ hlog
      refine ensures_bind hwrite fun _ => ensures_ite (fun _ => ?_) fun _ => ?_
      · exact ensures_pure fun _ hs => ⟨trivial, hs⟩
      · exact ensures_pure fun _ hs => ⟨trivial, hs⟩

theorem bridge_cached (lib : Library) (v : Int) (t : Option Nat) (turns : List Turn) (b : Bridging) :
    Ensures (fun _ => True) (fun s => Cached log before b.cache s.backend) (bridge lib v t turns b)
      fun cache s => Cached log before cache s.backend := by
  induction turns generalizing b with
  | nil =>
    refine ensures_ite (fun _ => ?_) fun _ => ensures_throw fun _ _ => trivial
    exact ensures_pure fun _ hs => ⟨trivial, hs⟩
  | cons turn turns ih =>
    refine ensures_ite (fun _ => ?_) fun _ => ?_
    · exact ensures_pure fun _ hs => ⟨trivial, hs⟩
    · exact ensures_bind (bridgeTurn_cached lib v t b turn) fun b' => ih b'

/-- A loop that comes through has cached the packets it looked at in turn. -/
theorem bridge_cache {lib : Library} {v : Int} {t : Option Nat} {turns : List Turn} {b : Bridging} {s : Linked}
    {cache : SessionRegistryCache} (h : (bridge lib v t turns b s).1 = .ok cache) :
    cache = (lookedAt (Event.arrived (s.backend.wire.since (bridge lib v t turns b s).2.backend.wire))).foldl
      (fun c p => (c.cachePacket p).2) b.cache := by
  obtain ⟨-, hcached⟩ := @bridge_cached s.backend.wire.log b.cache lib v t turns b s
    ⟨[], (List.append_nil _).symm, rfl⟩
  obtain ⟨more, hmore, hcache⟩ := hcached cache h
  rw [hcache, Wire.since_of_append hmore]

end Bridge

/-! ## The loop of a transfer -/

/-- A transfer that succeeds has cached what its loop read in turn. -/
theorem switchServer_cache {env : Env} {targetServer : String} {s : PlayStateMachine}
    (h : (switchServer env targetServer s).1 = .ok true) :
    (switchServer env targetServer s).2.session.registryCache = cacheAfter env s targetServer := by
  have hcases := switchServer_cases env targetServer s
  generalize hr : (switchServer env targetServer s).1 = r at hcases h
  generalize (switchServer env targetServer s).2 = s' at hcases
  cases hcases with
  | unknown r hl hr' =>
    rcases hr' with hr' | ⟨e, hr'⟩
    · rw [hr'] at h
      cases h
    · rw [hr'] at h
      cases h
  | failed reason dropped _ => cases h
  | attached wire threshold _ =>
    rw [reattach, teardown_frame]
    rfl

/-! ## Completeness -/

/-- In either loop, when it comes through: the cache holds, for every registry,
what was last brought for it exactly when the packets with the other id bring
nothing new. -/
theorem registries_captured_iff (v : Int) :
    (∀ (lib : Library) (t : Option Nat) (turns : List Turn) (s : Linked) (cache : SessionRegistryCache),
      (bridge lib v t turns ⟨false, false, .new⟩ s).1 = .ok cache →
      (Captured v (lookedAt (Event.arrived (s.backend.wire.since
          (bridge lib v t turns ⟨false, false, .new⟩ s).2.backend.wire))) .new cache ↔
        OthersKnown v (lookedAt (Event.arrived (s.backend.wire.since
          (bridge lib v t turns ⟨false, false, .new⟩ s).2.backend.wire))) .new)) ∧
    ∀ (env : Env) (targetServer : String) (s : PlayStateMachine), s.session.protocolVersion = v →
      (switchServer env targetServer s).1 = .ok true →
      (Captured v (receivedInSwitch env s targetServer) s.session.registryCache
          (switchServer env targetServer s).2.session.registryCache ↔
        OthersKnown v (receivedInSwitch env s targetServer) s.session.registryCache) := by
  refine ⟨fun lib t turns s cache h => ?_, fun env targetServer s hv h => ?_⟩
  · rw [bridge_cache h]
    exact captured_foldl_iff v _ _
  · rw [switchServer_cache h]
    exact captured_foldl_iff v _ _

/-- What a backend of version 765 sends for one registry, and its finish. -/
def oneRegistry : List RawPacket :=
  [⟨0x05, putString "minecraft:dimension_type" ++ [0x0A, 0x00]⟩, ⟨0x02, []⟩]

/-- A bridging loop without registries, and a transfer with one. -/
theorem registries_captured_finish :
    (Captured 765 (lookedAt (Event.arrived ((smallLinked [.packet ⟨0x02, []⟩]
        [.packet ⟨0x02, []⟩]).backend.wire.since (bridge smallLogin.lib 765 none [.backend, .client]
          ⟨false, false, .new⟩ (smallLinked [.packet ⟨0x02, []⟩] [.packet ⟨0x02, []⟩])).2.backend.wire))) .new .new ↔
      OthersKnown 765 (lookedAt (Event.arrived ((smallLinked [.packet ⟨0x02, []⟩]
        [.packet ⟨0x02, []⟩]).backend.wire.since (bridge smallLogin.lib 765 none [.backend, .client]
          ⟨false, false, .new⟩ (smallLinked [.packet ⟨0x02, []⟩] [.packet ⟨0x02, []⟩])).2.backend.wire))) .new) ∧
    (Captured 765 (receivedInSwitch (smallEnv (oneRegistry.map .packet)) (smallSession 765) "lobby")
        (smallSession 765).session.registryCache (switchServer (smallEnv (oneRegistry.map .packet)) "lobby"
          (smallSession 765)).2.session.registryCache ↔
      OthersKnown 765 (receivedInSwitch (smallEnv (oneRegistry.map .packet)) (smallSession 765) "lobby")
        (smallSession 765).session.registryCache) :=
  ⟨(registries_captured_iff 765).1 _ _ _ _ _ rfl, (registries_captured_iff 765).2 _ _ _ rfl rfl⟩

/-- The registry does not reach the session. -/
theorem registry_not_captured :
    receivedInSwitch (smallEnv (oneRegistry.map .packet)) (smallSession 765) "lobby" = oneRegistry ∧
      (switchServer (smallEnv (oneRegistry.map .packet)) "lobby" (smallSession 765)).1 = .ok true ∧
      ¬ Captured 765 oneRegistry (smallSession 765).session.registryCache
        (switchServer (smallEnv (oneRegistry.map .packet)) "lobby" (smallSession 765)).2.session.registryCache := by
  have htrue : (switchServer (smallEnv (oneRegistry.map .packet)) "lobby" (smallSession 765)).1 = .ok true := rfl
  have hreceived : receivedInSwitch (smallEnv (oneRegistry.map .packet)) (smallSession 765) "lobby" = oneRegistry := rfl
  refine ⟨hreceived, htrue, ?_⟩
  rw [switchServer_cache htrue, cacheAfter, hreceived, captured_foldl_iff]
  intro h
  have hknown := h [] ⟨0x05, putString "minecraft:dimension_type" ++ [0x0A, 0x00]⟩ [⟨0x02, []⟩]
    ⟨"minecraft:dimension_type", [0x0A, 0x00]⟩ rfl (by decide) (by decide +kernel) (by decide +kernel)
  have hnew : (smallSession 765).session.registryCache.get "minecraft:dimension_type" = none :=
    Std.ExtTreeMap.getElem?_empty
  rw [hnew] at hknown
  cases hknown

end FrameMC

import FrameMC.Network.Framing
import FrameMC.Network.Peer
import FrameMC.Protocol.Configuration
import Mathlib.Data.String.Basic

/-!
# Replaying the registries

The rest of `SessionRegistryCache` of `src/protocol/configuration.rs`. Whatever
was done to a cache, what `replay_to` writes is one packet for each registry, in
the order of the identifiers, and a client that caches what it reads has the
same registries (`registries_replayed`).
-/

namespace FrameMC

open ByteStream

def finishConfigurationPacketId : Int32 := 0x02

structure FinishConfigurationPacket where
  deriving DecidableEq

def FinishConfigurationPacket.decode (packet : RawPacket) : Outcome ProxyError FinishConfigurationPacket :=
  if packet.id ≠ finishConfigurationPacketId then .err (.invalidPacketId packet.id) else .ok ⟨⟩

def FinishConfigurationPacket.encode (_ : FinishConfigurationPacket) : RawPacket := ⟨finishConfigurationPacketId, []⟩

inductive ClientboundConfigPacket where
  | registryData (packet : RegistryDataPacket)
  | finishConfiguration (packet : FinishConfigurationPacket)
  | other (packet : RawPacket)

def ClientboundConfigPacket.decode (packet : RawPacket) : Outcome ProxyError ClientboundConfigPacket :=
  if packet.id = registryDataPacketId then do
    let reg ← RegistryDataPacket.decode packet
    .ok (.registryData reg)
  else if packet.id = finishConfigurationPacketId then do
    let finish ← FinishConfigurationPacket.decode packet
    .ok (.finishConfiguration finish)
  else .ok (.other packet)

/-- What comes of a packet of the Configuration state. -/
inductive ConfigAction where
  | cachedRegistry (id : String)
  | transitionToPlay
  | passthrough (packet : RawPacket)
  deriving DecidableEq

/-- What a decoded packet asks for. -/
def ClientboundConfigPacket.action : ClientboundConfigPacket → ConfigAction
  | .registryData reg => .cachedRegistry reg.registryId
  | .finishConfiguration _ => .transitionToPlay
  | .other packet => .passthrough packet

namespace SessionRegistryCache

def insertRaw (cache : SessionRegistryCache) (registryId : String) (rawData : List UInt8) : SessionRegistryCache :=
  cache.insert ⟨registryId, rawData⟩

def processClientboundPacket (cache : SessionRegistryCache) (packet : RawPacket) :
    Outcome ProxyError ConfigAction × SessionRegistryCache :=
  if packet.id = registryDataPacketId then
    match RegistryDataPacket.decode packet with
    | .ok reg => (.ok (.cachedRegistry reg.registryId), cache.insert reg)
    | .err e => (.err e, cache)
    | .panic => (.panic, cache)
  else if packet.id = finishConfigurationPacketId then
    match FinishConfigurationPacket.decode packet with
    | .ok _ => (.ok .transitionToPlay, cache)
    | .err e => (.err e, cache)
    | .panic => (.panic, cache)
  else (.ok (.passthrough packet), cache)

def contains (cache : SessionRegistryCache) (registryId : String) : Bool := cache.registries.contains registryId

def len (cache : SessionRegistryCache) : Nat := cache.registries.size

def clear (_ : SessionRegistryCache) : SessionRegistryCache := ⟨∅⟩

/-- The registries in the order of the map. -/
def values (cache : SessionRegistryCache) : List RegistryDataPacket := cache.registries.toList.map Prod.snd

def serializeAll (cache : SessionRegistryCache) : List RawPacket := cache.values.map RegistryDataPacket.encode

def replayTo (cache : SessionRegistryCache) : Talk Nat := do
  let packets := cache.serializeAll
  Effect.forEach packets fun packet => Talk.write packet none .own
  pure packets.length

/-- What can be done to a cache. -/
inductive Op where
  | insert (packet : RegistryDataPacket)
  | insertRaw (registryId : String) (rawData : List UInt8)
  | cachePacket (packet : RawPacket)
  | processClientboundPacket (packet : RawPacket)
  | clear

def exec (cache : SessionRegistryCache) : Op → SessionRegistryCache
  | .insert packet => cache.insert packet
  | .insertRaw registryId rawData => cache.insertRaw registryId rawData
  | .cachePacket packet => (cache.cachePacket packet).2
  | .processClientboundPacket packet => (cache.processClientboundPacket packet).2
  | .clear => cache.clear

def run (ops : List Op) : SessionRegistryCache := ops.foldl exec .new

/-! ## What a cache holds -/

/-- Every registry is kept by its own identifier. -/
def Keyed (cache : SessionRegistryCache) : Prop := ∀ id reg, cache.get id = some reg → reg.registryId = id

section Keyed

variable {cache : SessionRegistryCache}

theorem get_new (id : String) : new.get id = none := Std.ExtTreeMap.getElem?_empty

theorem Keyed.insert (h : cache.Keyed) (packet : RegistryDataPacket) : (cache.insert packet).Keyed := by
  intro id reg hget
  rw [get_insert] at hget
  split at hget
  · next hid =>
    cases hget
    exact hid
  · exact h id reg hget

/-- Both ways to look at a packet put the same into the cache. -/
theorem processClientboundPacket_snd (cache : SessionRegistryCache) (packet : RawPacket) :
    (cache.processClientboundPacket packet).2 = (cache.cachePacket packet).2 := by
  unfold processClientboundPacket cachePacket
  split
  · cases RegistryDataPacket.decode packet with
    | ok reg => rfl
    | err e => rfl
    | panic => rfl
  · split
    · cases FinishConfigurationPacket.decode packet with
      | ok finish => rfl
      | err e => rfl
      | panic => rfl
    · rfl

/-- And it is answered by what the packet decodes to. -/
theorem processClientboundPacket_fst (cache : SessionRegistryCache) (packet : RawPacket) :
    (cache.processClientboundPacket packet).1 =
      ClientboundConfigPacket.decode packet >>= fun decoded => .ok decoded.action := by
  unfold processClientboundPacket ClientboundConfigPacket.decode
  split
  · cases RegistryDataPacket.decode packet with
    | ok reg => rfl
    | err e => rfl
    | panic => rfl
  · split
    · cases FinishConfigurationPacket.decode packet with
      | ok finish => rfl
      | err e => rfl
      | panic => rfl
    · rfl

theorem Keyed.exec (h : cache.Keyed) (op : Op) : (cache.exec op).Keyed := by
  have hcached (packet : RawPacket) : (cache.cachePacket packet).2.Keyed := by
    rw [cachePacket_snd]
    cases carried packet with
    | some reg => exact h.insert reg
    | none => exact h
  cases op with
  | insert packet => exact h.insert packet
  | insertRaw registryId rawData => exact h.insert _
  | cachePacket packet => exact hcached packet
  | processClientboundPacket packet =>
    rw [SessionRegistryCache.exec, processClientboundPacket_snd]
    exact hcached packet
  | clear =>
    intro id reg hget
    rw [SessionRegistryCache.exec, SessionRegistryCache.clear, ← new, get_new] at hget
    cases hget

theorem keyed_run (ops : List Op) : (run ops).Keyed := by
  have hnew : (new).Keyed := fun id reg hget => by
    rw [get_new] at hget
    cases hget
  have hfrom : ∀ cache : SessionRegistryCache, cache.Keyed → (ops.foldl SessionRegistryCache.exec cache).Keyed := by
    induction ops with
    | nil => exact fun _ h => h
    | cons op ops ih => exact fun _ h => ih _ (h.exec op)
  exact hfrom .new hnew

theorem Keyed.mem_values (h : cache.Keyed) {reg : RegistryDataPacket} :
    reg ∈ cache.values ↔ cache.get reg.registryId = some reg := by
  rw [values, List.mem_map]
  constructor
  · rintro ⟨⟨id, reg'⟩, hmem, rfl⟩
    have hget : cache.get id = some reg' := Std.ExtTreeMap.mem_toList_iff_getElem?_eq_some.mp hmem
    rw [h id reg' hget, hget]
  · exact fun hget => ⟨(reg.registryId, reg), Std.ExtTreeMap.mem_toList_iff_getElem?_eq_some.mpr hget, rfl⟩

theorem Keyed.sorted (h : cache.Keyed) : (cache.values.map (·.registryId)).Pairwise (· < ·) := by
  rw [values, List.map_map, List.pairwise_map]
  refine Std.ExtTreeMap.ordered_keys_toList.imp_of_mem fun {a b} ha hb hlt => ?_
  have hid {entry : String × RegistryDataPacket} (hmem : entry ∈ cache.registries.toList) :
      entry.2.registryId = entry.1 :=
    h _ _ (Std.ExtTreeMap.mem_toList_iff_getElem?_eq_some.mp hmem)
  change a.2.registryId < b.2.registryId
  rw [hid ha, hid hb]
  exact compare_lt_iff_lt.mp hlt

end Keyed

/-! ## What is replayed -/

section Replay

variable {zlib : Zlib} {cache : SessionRegistryCache}

/-- The packets as the wire has them. -/
def sentPlain (packets : List RawPacket) : List Event := packets.map (Event.sent · none .own)

/-- The peer after a packet that went out. -/
def told (peer : Peer) (packet : RawPacket) : Peer :=
  { peer with wire :=
    { peer.wire with log := peer.wire.log ++ [.sent packet none .own], writes := peer.wire.writes + 1 } }

theorem told_fate (peer : Peer) (packet : RawPacket) (i : Nat) :
    (told peer packet).wire.fate ((told peer packet).wire.writes + i) =
      peer.wire.fate (peer.wire.writes + (i + 1)) := by
  show peer.wire.fate (peer.wire.writes + 1 + i) = _
  congr 1
  omega

theorem told_log (peer : Peer) (packet : RawPacket) (packets : List RawPacket) :
    (told peer packet).wire.log ++ sentPlain packets = peer.wire.log ++ sentPlain (packet :: packets) :=
  List.append_assoc ..

theorem forEach_write_cons {peer : Peer} (packet : RawPacket) (packets : List RawPacket)
    (h : peer.wire.fate peer.wire.writes = .done) :
    Effect.forEach (packet :: packets) (fun packet => Talk.write packet none .own) peer =
      Effect.forEach packets (fun packet => Talk.write packet none .own) (told peer packet) := by
  rw [Effect.forEach, Effect.bind_apply, Talk.write, Wire.write, h]
  rfl

/-- Packets written one after the other all go out if no write fails. -/
theorem forEach_write_done (packets : List RawPacket) (peer : Peer)
    (hdone : ∀ i < packets.length, peer.wire.fate (peer.wire.writes + i) = .done) :
    (Effect.forEach packets (fun packet => Talk.write packet none .own) peer).1 = .ok () ∧
      (Effect.forEach packets (fun packet => Talk.write packet none .own) peer).2.wire.log =
        peer.wire.log ++ sentPlain packets := by
  induction packets generalizing peer with
  | nil => exact ⟨rfl, (List.append_nil _).symm⟩
  | cons packet packets ih =>
    have hrest : ∀ i < packets.length, (told peer packet).wire.fate ((told peer packet).wire.writes + i) = .done := by
      intro i hi
      rw [told_fate]
      exact hdone (i + 1) (Nat.succ_lt_succ hi)
    rw [forEach_write_cons packet packets (hdone 0 (Nat.zero_lt_succ _)), ← told_log]
    exact ih (told peer packet) hrest

/-- The first write that fails is the last one: the packets before it went out,
and its own if only the flush behind it failed. -/
theorem forEach_write_stops {packets : List RawPacket} {n : Nat} (hn : n < packets.length) (peer : Peer)
    (hdone : ∀ i < n, peer.wire.fate (peer.wire.writes + i) = .done)
    (hfails : peer.wire.fate (peer.wire.writes + n) ≠ .done) :
    ∃ e, (Effect.forEach packets (fun packet => Talk.write packet none .own) peer).1 = .error e ∧
      (peer.wire.fate (peer.wire.writes + n) = .lost e ∧
          (Effect.forEach packets (fun packet => Talk.write packet none .own) peer).2.wire.log =
            peer.wire.log ++ sentPlain (packets.take n) ∨
        peer.wire.fate (peer.wire.writes + n) = .flushFailed e ∧
          (Effect.forEach packets (fun packet => Talk.write packet none .own) peer).2.wire.log =
            peer.wire.log ++ sentPlain (packets.take (n + 1))) := by
  induction n generalizing packets peer with
  | zero =>
    cases packets with
    | nil => exact absurd hn (Nat.not_lt_zero _)
    | cons packet packets =>
      rw [Nat.add_zero] at hfails ⊢
      rw [Effect.forEach, Effect.bind_apply, Talk.write, Wire.write]
      cases hfate : peer.wire.fate peer.wire.writes with
      | done => exact absurd hfate hfails
      | lost e => exact ⟨e, rfl, Or.inl ⟨rfl, (List.append_nil _).symm⟩⟩
      | flushFailed e => exact ⟨e, rfl, Or.inr ⟨rfl, rfl⟩⟩
  | succ n ih =>
    cases packets with
    | nil => exact absurd hn (Nat.not_lt_zero _)
    | cons packet packets =>
      have hrest : ∀ i < n, (told peer packet).wire.fate ((told peer packet).wire.writes + i) = .done := by
        intro i hi
        rw [told_fate]
        exact hdone (i + 1) (Nat.succ_lt_succ hi)
      rw [forEach_write_cons packet packets (hdone 0 (Nat.zero_lt_succ n)), List.take_succ_cons, List.take_succ_cons,
        ← told_log, ← told_log, ← told_fate peer packet n]
      rw [← told_fate peer packet n] at hfails
      exact ih (Nat.lt_of_succ_lt_succ hn) (told peer packet) hrest hfails

/-- Without compression there is no difference between one zlib and another. -/
theorem run_readPacket_plain {p : RawPacket} (hfits : uncompressedLength p ≤ defaultMaxPacketSize) (rest : List UInt8) :
    (readPacketWithCompression zlib defaultMaxPacketSize none).run (encodePacketWithCompression zlib p none ++ rest) =
      (.ok p, rest) := by
  have hbody : (frameBody sampleZlib none p).length ≤ defaultMaxPacketSize := by
    rw [frameBody, ← uncompressedLength_eq]
    exact hfits
  exact @run_readPacket_encode sampleZlib defaultMaxPacketSize none sampleZlib_correct (by decide) p hfits hbody rest

theorem readPackets_plain (packets : List RawPacket)
    (hfits : ∀ p ∈ packets, uncompressedLength p ≤ defaultMaxPacketSize) (rest : List UInt8) :
    (readPackets zlib defaultMaxPacketSize none packets.length).run
      (packets.flatMap (encodePacketWithCompression zlib · none) ++ rest) = (.ok packets, rest) := by
  induction packets with
  | nil => rfl
  | cons p packets ih =>
    rw [List.forall_mem_cons] at hfits
    rw [List.length_cons, readPackets, List.flatMap_cons, List.append_assoc, Reader.run_bind,
      run_readPacket_plain hfits.1]
    dsimp only
    rw [Reader.run_bind, ih hfits.2]
    rfl

/-- What keeps a registry within what a reader accepts of its packet. -/
def Fits (cache : SessionRegistryCache) : Prop :=
  ∀ reg ∈ cache.values, uncompressedLength reg.encode ≤ defaultMaxPacketSize

theorem carried_encode {reg : RegistryDataPacket} (hfits : uncompressedLength reg.encode ≤ defaultMaxPacketSize) :
    carried reg.encode = some reg := by
  have hid : StringFits reg.registryId := by
    rw [uncompressedLength, RegistryDataPacket.encode, putString] at hfits
    simp only [List.length_append] at hfits
    have hmax : defaultMaxPacketSize < 2 ^ 31 := by decide
    unfold StringFits
    omega
  rw [carried, RegistryDataPacket.decode_encode hid]
  rfl

/-- Caching what a cache serializes to gives the cache again. -/
theorem Keyed.restored (h : cache.Keyed) (hfits : cache.Fits) :
    cache.serializeAll.foldl (fun c p => (c.cachePacket p).2) new = cache := by
  have hcarried : cache.serializeAll.filterMap carried = cache.values := by
    rw [serializeAll, List.filterMap_map]
    refine (List.filterMap_congr fun reg hreg => ?_).trans List.filterMap_some
    exact carried_encode (hfits reg hreg)
  apply ext_get
  intro id
  rw [get_foldl_cachePacket, lastCarried, hcarried, get_new, Option.or_none]
  cases hlast : (cache.values.filter (·.registryId = id)).getLast? with
  | none =>
    rw [List.getLast?_eq_none_iff, List.filter_eq_nil_iff] at hlast
    cases hget : cache.get id with
    | none => rfl
    | some reg =>
      have hid := h id reg hget
      exact absurd (decide_eq_true hid) (hlast reg (h.mem_values.mpr (by rw [hid, hget])))
  | some reg =>
    obtain ⟨hmem, hid⟩ := List.mem_filter.mp (List.mem_of_getLast? hlast)
    rw [← of_decide_eq_true hid, h.mem_values.mp hmem]

theorem length_serializeAll (cache : SessionRegistryCache) : cache.serializeAll.length = cache.len := by
  rw [serializeAll, List.length_map, values, List.length_map, len]
  exact Std.ExtTreeMap.length_toList

/-- What a cache replays, and what comes of it at the other end. -/
structure Replayed (zlib : Zlib) (cache : SessionRegistryCache) : Prop where
  sorted : (cache.values.map (·.registryId)).Pairwise (· < ·)
  complete : ∀ reg, reg ∈ cache.values ↔ cache.get reg.registryId = some reg
  written : ∀ peer, (∀ i < cache.len, peer.wire.fate (peer.wire.writes + i) = .done) →
    (cache.replayTo peer).1 = .ok cache.len ∧
      (cache.replayTo peer).2.wire.log = peer.wire.log ++ sentPlain cache.serializeAll
  stopped : ∀ peer n, n < cache.len → (∀ i < n, peer.wire.fate (peer.wire.writes + i) = .done) →
    peer.wire.fate (peer.wire.writes + n) ≠ .done → ∃ e, (cache.replayTo peer).1 = .error e ∧
      (peer.wire.fate (peer.wire.writes + n) = .lost e ∧
          (cache.replayTo peer).2.wire.log = peer.wire.log ++ sentPlain (cache.serializeAll.take n) ∨
        peer.wire.fate (peer.wire.writes + n) = .flushFailed e ∧
          (cache.replayTo peer).2.wire.log = peer.wire.log ++ sentPlain (cache.serializeAll.take (n + 1)))
  read : cache.Fits → ∀ rest, (readPackets zlib defaultMaxPacketSize none cache.len).run
    (cache.serializeAll.flatMap (encodePacketWithCompression zlib · none) ++ rest) = (.ok cache.serializeAll, rest)
  restored : cache.Fits → cache.serializeAll.foldl (fun c p => (c.cachePacket p).2) new = cache

/-- Whatever was done to a cache: it replays one packet for each registry it
holds, sorted by identifier, and comes back with their number unless a write
fails; then the packets that went out are the first of them. Where each fits into
a packet, a client that reads what was written and caches it has exactly the
registries of the cache. -/
theorem registries_replayed (zlib : Zlib) (ops : List Op) : Replayed zlib (run ops) := by
  have hkeyed := keyed_run ops
  generalize run ops = cache at hkeyed
  have hlength := length_serializeAll cache
  refine ⟨hkeyed.sorted, fun reg => hkeyed.mem_values, fun peer hdone => ?_, fun peer n hn hdone hfails => ?_,
    fun hfits rest => ?_, hkeyed.restored⟩
  · rw [← hlength] at hdone
    obtain ⟨hok, hlog⟩ := forEach_write_done cache.serializeAll peer hdone
    refine ⟨?_, ?_⟩
    · rw [replayTo, ← hlength]
      exact congrArg Prod.fst (Effect.bind_eq_ok.mpr ⟨(), _, Prod.ext hok rfl, rfl⟩)
    · rw [replayTo, Effect.bind_pure_snd]
      exact hlog
  · rw [← hlength] at hn
    obtain ⟨e, herror, hlog⟩ := forEach_write_stops hn peer hdone hfails
    refine ⟨e, ?_, ?_⟩
    · rw [replayTo, Effect.bind_apply, Prod.ext (y := (_, _)) herror rfl]
    · rw [replayTo, Effect.bind_pure_snd]
      exact hlog
  · rw [← hlength]
    refine readPackets_plain cache.serializeAll (fun p hp => ?_) rest
    obtain ⟨reg, hreg, rfl⟩ := List.mem_map.mp hp
    exact hfits reg hreg

end Replay

end SessionRegistryCache

end FrameMC

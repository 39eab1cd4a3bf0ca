import FrameMC.Protocol.Packet
import Std.Data.ExtTreeMap.Lemmas

/-!
# Registry data

`RegistryDataPacket` and `SessionRegistryCache` of
`src/protocol/configuration.rs`: the registries a backend sends during the
Configuration state, kept verbatim by their identifiers.
-/

namespace FrameMC

open ByteStream

def registryDataPacketId : Int32 := 0x07

structure RegistryDataPacket where
  registryId : String
  rawData : List UInt8
  deriving DecidableEq

def RegistryDataPacket.decode (packet : RawPacket) : Outcome ProxyError RegistryDataPacket :=
  if packet.id ≠ registryDataPacketId then .err (.invalidPacketId packet.id)
  else do
    let (registryId, rawData) ←
      readString "unexpected EOF reading registry_id" "invalid UTF-8 in registry_id" packet.payload
    .ok ⟨registryId, rawData⟩

def RegistryDataPacket.encode (p : RegistryDataPacket) : RawPacket :=
  ⟨registryDataPacketId, putString p.registryId ++ p.rawData⟩

theorem RegistryDataPacket.decode_encode {p : RegistryDataPacket} (h : StringFits p.registryId) :
    decode p.encode = .ok p := by
  rw [decode, encode, if_neg (not_not_intro rfl), readString_putString _ _ h]
  rfl

/-- The registries of a session (a `BTreeMap` in the source). -/
structure SessionRegistryCache where
  registries : Std.ExtTreeMap String RegistryDataPacket

namespace SessionRegistryCache

def new : SessionRegistryCache := ⟨∅⟩

def insert (cache : SessionRegistryCache) (packet : RegistryDataPacket) : SessionRegistryCache :=
  ⟨cache.registries.insert packet.registryId packet⟩

def get (cache : SessionRegistryCache) (registryId : String) : Option RegistryDataPacket :=
  cache.registries[registryId]?

/-- Caches a `RegistryData` packet; the result says whether it was one. -/
def cachePacket (cache : SessionRegistryCache) (packet : RawPacket) :
    Outcome ProxyError Bool × SessionRegistryCache :=
  if packet.id = registryDataPacketId then
    match RegistryDataPacket.decode packet with
    | .ok reg => (.ok true, cache.insert reg)
    | .err e => (.err e, cache)
    | .panic => (.panic, cache)
  else (.ok false, cache)

/-- A cache is what its registries are. -/
theorem ext_get {a b : SessionRegistryCache} (h : ∀ id, a.get id = b.get id) : a = b := by
  cases a; cases b
  congr 1
  exact Std.ExtTreeMap.ext_getElem? fun {k} => h k

theorem get_insert (cache : SessionRegistryCache) (packet : RegistryDataPacket) (id : String) :
    (cache.insert packet).get id = if packet.registryId = id then some packet else cache.get id := by
  simp only [get, insert, Std.ExtTreeMap.getElem?_insert, Std.LawfulEqCmp.compare_eq_iff_eq]

/-- The registry a packet carries, if it is a decodable `RegistryData`. -/
def carried (packet : RawPacket) : Option RegistryDataPacket := (RegistryDataPacket.decode packet).toOption

/-- What the packets last carried for a registry. -/
def lastCarried (packets : List RawPacket) (id : String) : Option RegistryDataPacket :=
  ((packets.filterMap carried).filter (·.registryId = id)).getLast?

theorem cachePacket_snd (cache : SessionRegistryCache) (packet : RawPacket) :
    (cache.cachePacket packet).2 = match carried packet with
      | some reg => cache.insert reg
      | none => cache := by
  simp only [cachePacket, carried]
  by_cases h : packet.id = registryDataPacketId
  · rw [if_pos h]
    cases RegistryDataPacket.decode packet <;> rfl
  · rw [if_neg h, RegistryDataPacket.decode, if_pos h]
    rfl

/-- After caching packets in turn, a registry is what they last carried for it,
or what it was. -/
theorem get_foldl_cachePacket (packets : List RawPacket) (cache : SessionRegistryCache) (id : String) :
    (packets.foldl (fun c p => (c.cachePacket p).2) cache).get id =
      (lastCarried packets id).or (cache.get id) := by
  induction packets generalizing cache with
  | nil => rfl
  | cons p ps ih =>
    rw [List.foldl_cons, ih, cachePacket_snd]
    simp only [lastCarried, List.filterMap_cons]
    cases hp : carried p with
    | none => rfl
    | some reg =>
      simp only [List.filter_cons]
      rw [get_insert]
      by_cases hid : reg.registryId = id
      · simp only [hid, if_true, decide_true, List.getLast?_cons]
        cases ((ps.filterMap carried).filter (·.registryId = id)).getLast? <;> rfl
      · simp only [hid, if_false, decide_false, Bool.false_eq_true]

/-- Caching packets in turn leaves a cache as it was exactly when they last
carried, for every registry, what the cache held. -/
theorem foldl_cachePacket_eq_iff (packets : List RawPacket) (cache : SessionRegistryCache) :
    packets.foldl (fun c p => (c.cachePacket p).2) cache = cache ↔
      ∀ id reg, lastCarried packets id = some reg → cache.get id = some reg := by
  constructor
  · intro h id reg hreg
    have := get_foldl_cachePacket packets cache id
    rw [h, hreg] at this
    exact this
  · intro h
    apply ext_get
    intro id
    rw [get_foldl_cachePacket]
    cases hl : lastCarried packets id with
    | none => rfl
    | some reg => exact (h id reg hl).symm

end SessionRegistryCache

end FrameMC

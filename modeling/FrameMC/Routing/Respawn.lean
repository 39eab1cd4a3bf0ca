import FrameMC.Routing.Packets

/-!
# Respawns made of Logins

A switch shows the client the new backend's world by a Respawn cut out of its
Login (Play). Two parsers must agree on where the spawn info begins and ends:
the one that steps over a Login field by field, and the one that decodes a
Respawn. The layouts below are what both are written for, every field with its
own well-formedness; `extractRespawn` finds the spawn info of every Login so
laid out and nothing else of it, the Respawn decodes to what the spawn info
says, and no payload takes a slice out of bounds (`respawn_synthesis`).
-/

namespace FrameMC

open ByteStream

/-! ## The layouts -/

/-- The bytes of a VarInt, in any encoding of it. -/
abbrev VarintBytes : Type := { u : List UInt8 // ∃ x, IsVarint u x }

/-- Bytes of a fixed number. -/
abbrev FixedBytes (n : Nat) : Type := { u : List UInt8 // u.length = n }

/-- Bytes behind their length. -/
structure Prefixed where
  length : List UInt8
  content : List UInt8
  fits : ∃ len, IsVarint length len ∧ 0 ≤ len ∧ asUsize len = content.length

def Prefixed.bytes (p : Prefixed) : List UInt8 := p.length ++ p.content

/-- Login (Play) in front of the spawn info. -/
structure LoginHeader where
  entityId : FixedBytes 4
  isHardcore : UInt8
  dimensionCount : List UInt8
  dimensionNames : List Prefixed
  counted : ∃ n, IsVarint dimensionCount n ∧ 0 ≤ n ∧ asUsize n = dimensionNames.length
  atMost : dimensionNames.length ≤ 1024
  maxPlayers : VarintBytes
  viewDistance : VarintBytes
  simulationDistance : VarintBytes
  reducedDebugInfo : UInt8
  showRespawnScreen : UInt8
  doLimitedCrafting : UInt8

def LoginHeader.bytes (h : LoginHeader) : List UInt8 :=
  h.entityId.val ++ [h.isHardcore] ++ h.dimensionCount ++ h.dimensionNames.flatMap Prefixed.bytes ++
    h.maxPlayers.val ++ h.viewDistance.val ++ h.simulationDistance.val ++
    [h.reducedDebugInfo, h.showRespawnScreen, h.doLimitedCrafting]

/-- Where the player died last, behind a flag. -/
structure DeathLocation where
  flag : { b : UInt8 // b ≠ 0 }
  dimension : Prefixed
  position : FixedBytes 8

def DeathLocation.bytes : Option DeathLocation → List UInt8
  | none => [0]
  | some death => [death.flag.val] ++ death.dimension.bytes ++ death.position.val

/-- The spawn info from protocol 766 on; its sea level is written from 768 on. -/
structure SpawnInfo where
  dimension : VarintBytes
  name : Prefixed
  hashedSeed : FixedBytes 8
  gamemode : UInt8
  previousGamemode : UInt8
  isDebug : UInt8
  isFlat : UInt8
  death : Option DeathLocation
  portalCooldown : VarintBytes
  seaLevel : VarintBytes

def SpawnInfo.bytes (s : SpawnInfo) (v : Int) : List UInt8 :=
  s.dimension.val ++ s.name.bytes ++ s.hashedSeed.val ++ [s.gamemode, s.previousGamemode, s.isDebug, s.isFlat] ++
    DeathLocation.bytes s.death ++ s.portalCooldown.val ++ if v ≥ 768 then s.seaLevel.val else []

/-- The spawn info of protocols 764 and 765, as far as it is read. -/
structure LegacySpawnInfo where
  dimensionType : Prefixed
  dimensionName : Prefixed
  hashedSeed : FixedBytes 8
  gamemode : UInt8
  previousGamemode : UInt8
  isDebug : UInt8
  isFlat : UInt8

def LegacySpawnInfo.bytes (s : LegacySpawnInfo) : List UInt8 :=
  s.dimensionType.bytes ++ s.dimensionName.bytes ++ s.hashedSeed.val ++
    [s.gamemode, s.previousGamemode, s.isDebug, s.isFlat]

/-! ## Stepping over a field -/

theorem skip_apply {n : Nat} {u : List UInt8} (hu : u.length = n) (rest : List UInt8) :
    skip n (u ++ rest) = .ok ((), rest) := by
  have hle : n ≤ (u ++ rest).length := by
    rw [List.length_append, hu]
    omega
  rw [skip, Decoder.bind_apply, Decoder.remaining_apply, Outcome.ok_bind, Decoder.ite_apply,
    if_neg (Nat.not_lt.mpr hle), Decoder.advance_of_le hle, List.drop_left' hu]

theorem skip_one (b : UInt8) (rest : List UInt8) : skip 1 (b :: rest) = .ok ((), rest) :=
  skip_apply (u := [b]) rfl rest

theorem takeU8_cons (b : UInt8) (rest : List UInt8) : takeU8 (b :: rest) = .ok (b, rest) := by
  simp [takeU8]

theorem decodeVarint_append {u : List UInt8} {x : Int32} (hu : IsVarint u x) (rest : List UInt8) :
    decodeVarint (u ++ rest) = .ok (x, rest) :=
  decodeVarint_ok_iff.mpr ⟨u, rfl, hu⟩

theorem skipVarint_append (u : VarintBytes) (rest : List UInt8) : skipVarint (u.val ++ rest) = .ok ((), rest) := by
  obtain ⟨u, x, hu⟩ := u
  rw [skipVarint, Decoder.bind_apply, decodeVarint_append hu, Outcome.ok_bind, Decoder.pure_apply]

/-- The length of the bytes, and what is left when they and `u` are stepped over. -/
theorem Prefixed.length_spec (p : Prefixed) {extra : Nat} {u : List UInt8} (hu : u.length = extra) (rest : List UInt8) :
    ∃ len, IsVarint p.length len ∧ asUsize len + extra ≤ (p.content ++ (u ++ rest)).length ∧
      ¬ (len < 0 ∨ (p.content ++ (u ++ rest)).length < asUsize len + extra) ∧
      (p.content ++ (u ++ rest)).drop (asUsize len + extra) = rest := by
  obtain ⟨len, hlen, hpos, hsize⟩ := p.fits
  have hle : asUsize len + extra ≤ (p.content ++ (u ++ rest)).length := by
    rw [hsize, List.length_append, List.length_append, hu]
    omega
  refine ⟨len, hlen, hle, ?_, ?_⟩
  · rintro (hneg | hlt)
    · exact Int32.not_lt.mpr hpos hneg
    · exact Nat.not_lt.mpr hle hlt
  · rw [← List.append_assoc]
    apply List.drop_left'
    rw [List.length_append, hsize, hu]

theorem skipString_append (p : Prefixed) {extra : Nat} {u : List UInt8} (hu : u.length = extra) (rest : List UInt8) :
    skipString extra (p.bytes ++ (u ++ rest)) = .ok ((), rest) := by
  obtain ⟨len, hlen, hle, hfew, hdrop⟩ := p.length_spec hu rest
  rw [Prefixed.bytes, List.append_assoc, skipString, Decoder.bind_apply, decodeVarint_append hlen, Outcome.ok_bind,
    Decoder.bind_apply, Decoder.remaining_apply, Outcome.ok_bind, Decoder.ite_apply, if_neg hfew,
    Decoder.advance_of_le hle, hdrop]

theorem skipStrings_append (ps : List Prefixed) (rest : List UInt8) :
    skipStrings ps.length (ps.flatMap Prefixed.bytes ++ rest) = .ok ((), rest) := by
  induction ps with
  | nil => rfl
  | cons p ps ih =>
    have hp : skipString 0 (p.bytes ++ (ps.flatMap Prefixed.bytes ++ rest)) = _ :=
      skipString_append p List.length_nil (ps.flatMap Prefixed.bytes ++ rest)
    rw [List.length_cons, skipStrings, List.flatMap_cons, List.append_assoc, Decoder.bind_apply, hp, Outcome.ok_bind, ih]

/-- The header is stepped over exactly. -/
theorem skipLoginHeader_append (h : LoginHeader) (rest : List UInt8) :
    skipLoginHeader (h.bytes ++ rest) = .ok ((), rest) := by
  obtain ⟨n, hn, hpos, hsize⟩ := h.counted
  have hmost := h.atMost
  have hrange : ¬ (n < 0 ∨ n > 1024) := by
    rintro (hneg | hmore)
    · exact Int32.not_lt.mpr hpos hneg
    · have hvalue := toInt_eq hpos
      rw [← asUsize_eq hpos, hsize] at hvalue
      have hlt : (1024 : Int32).toInt < n.toInt := Int32.lt_iff_toInt_lt.mp hmore
      have h1024 : (1024 : Int32).toInt = 1024 := by decide
      omega
  simp only [skipLoginHeader, LoginHeader.bytes, List.append_assoc, Decoder.bind_apply, skip_apply h.entityId.property,
    Outcome.ok_bind, List.cons_append, List.nil_append, skip_one, decodeVarint_append hn, Decoder.ite_apply,
    if_neg hrange, hsize, skipStrings_append, skipVarint_append]

/-- So is the spawn info. -/
theorem skipSpawnInfo_append (s : SpawnInfo) (v : Int) (rest : List UInt8) :
    skipSpawnInfo v (s.bytes v ++ rest) = .ok ((), rest) := by
  have hname (more : List UInt8) : skipString 0 (s.name.bytes ++ more) = .ok ((), more) :=
    skipString_append s.name List.length_nil more
  have hend (tail : List UInt8) (htail : tail = (if v ≥ 768 then s.seaLevel.val else []) ++ rest) :
      (if v ≥ 768 then skipVarint tail else (pure () : Decoder ProxyError Unit) tail) = .ok ((), rest) := by
    rw [htail]
    split
    · exact skipVarint_append s.seaLevel rest
    · rfl
  cases hdeath : s.death with
  | none =>
    simp only [skipSpawnInfo, SpawnInfo.bytes, hdeath, DeathLocation.bytes, List.append_assoc, Decoder.bind_apply,
      skipVarint_append, hname, skip_apply s.hashedSeed.property, Outcome.ok_bind, List.cons_append, List.nil_append,
      skip_one, takeU8_cons, Decoder.ite_apply]
    rw [if_neg (by decide)]
    exact hend _ rfl
  | some death =>
    simp only [skipSpawnInfo, SpawnInfo.bytes, hdeath, DeathLocation.bytes, List.append_assoc, Decoder.bind_apply,
      skipVarint_append, hname, skip_apply s.hashedSeed.property, Outcome.ok_bind, List.cons_append, List.nil_append,
      skip_one, takeU8_cons, Decoder.ite_apply]
    rw [if_pos death.flag.property, skipString_append death.dimension death.position.property, Outcome.ok_bind,
      skipVarint_append, Outcome.ok_bind]
    exact hend _ rfl

/-! ## Within the payload -/

/-- What is read only where there are `n` bytes. -/
theorem within_enough {α : Type} {n : Nat} {m : Decoder ProxyError α}
    (hm : ∀ bs, n ≤ bs.length → Decoder.WithinAt m bs) :
    Decoder.Within (Decoder.remaining >>= fun r => if r < n then Decoder.fail noRespawn else m) := by
  apply Decoder.Within.remaining
  intro bs
  apply Decoder.WithinAt.ite
  · exact fun _ => Decoder.Within.fail noRespawn bs
  · exact fun hle => hm bs (Nat.not_lt.mp hle)

theorem skip_within (n : Nat) : Decoder.Within (skip n) :=
  within_enough fun _ => Decoder.WithinAt.advance

theorem skipVarint_within : Decoder.Within skipVarint :=
  decodeVarint_within.bind fun _ => Decoder.Within.pure ()

theorem skipString_within (extra : Nat) : Decoder.Within (skipString extra) := by
  apply decodeVarint_within.bind
  intro len
  apply Decoder.Within.remaining
  intro bs
  apply Decoder.WithinAt.ite
  · exact fun _ => Decoder.Within.fail noRespawn bs
  · intro henough
    apply Decoder.WithinAt.advance
    omega

theorem skipStrings_within (n : Nat) : Decoder.Within (skipStrings n) := by
  induction n with
  | zero => exact Decoder.Within.pure ()
  | succ n ih => exact (skipString_within 0).bind fun _ => ih

theorem takeU8_within : Decoder.Within takeU8 :=
  within_enough fun _ => Decoder.WithinAt.getU8

theorem takeI64_within : Decoder.Within takeI64 :=
  within_enough fun _ => withinAt_getI64

theorem skipLoginHeader_within : Decoder.Within skipLoginHeader := by
  apply (skip_within 4).bind
  intro _
  apply (skip_within 1).bind
  intro _
  apply decodeVarint_within.bind
  intro dimCount
  apply Decoder.Within.ite
  · exact fun _ => .fail noRespawn
  · intro _
    apply (skipStrings_within (asUsize dimCount)).bind
    intro _
    apply skipVarint_within.bind
    intro _
    apply skipVarint_within.bind
    intro _
    apply skipVarint_within.bind
    intro _
    apply (skip_within 1).bind
    intro _
    apply (skip_within 1).bind
    exact fun _ => skip_within 1

theorem skipSpawnInfo_within (v : Int) : Decoder.Within (skipSpawnInfo v) := by
  have hend : Decoder.Within (do skipVarint; if v ≥ 768 then skipVarint else pure ()) := by
    apply skipVarint_within.bind
    intro _
    apply Decoder.Within.ite
    · exact fun _ => skipVarint_within
    · exact fun _ => .pure ()
  apply skipVarint_within.bind
  intro _
  apply (skipString_within 0).bind
  intro _
  apply (skip_within 8).bind
  intro _
  apply (skip_within 1).bind
  intro _
  apply (skip_within 1).bind
  intro _
  apply (skip_within 1).bind
  intro _
  apply (skip_within 1).bind
  intro _
  apply takeU8_within.bind
  intro hasDeath
  apply Decoder.Within.ite
  · exact fun _ => (skipString_within 8).bind fun _ => hend
  · exact fun _ => hend

theorem readSpawnInfo_within (dataToKeep : UInt8) : Decoder.Within (readSpawnInfo dataToKeep) := by
  apply (readString_within "" "").bind
  intro _
  apply (readString_within "" "").bind
  intro _
  apply takeI64_within.bind
  intro _
  apply takeU8_within.bind
  intro _
  apply takeU8_within.bind
  intro _
  apply takeU8_within.bind
  intro _
  apply takeU8_within.bind
  exact fun _ => Decoder.Within.pure _

/-- No payload takes a slice out of bounds. -/
theorem extractRespawn_ne_panic (loginPkt : RawPacket) (v : Int) (dataToKeep : UInt8) :
    extractRespawn loginPkt v dataToKeep ≠ .panic := by
  intro h
  have hheader := skipLoginHeader_within loginPkt.payload
  rw [extractRespawn] at h
  split_ifs at h with hmodern hlegacy
  · rcases Outcome.bind_eq_panic.mp h with hpanic | ⟨⟨u, cursor⟩, hcursor, hspawn⟩
    · exact hheader.1 hpanic
    · have hspawnInfo := skipSpawnInfo_within v cursor
      rcases Outcome.bind_eq_panic.mp hspawn with hpanic | ⟨⟨u', cursor'⟩, hcursor', hslice⟩
      · exact hspawnInfo.1 hpanic
      · -- the second parser ends where the first began or later, and both in the payload
        have hend : cursor'.length ≤ cursor.length := hspawnInfo.2 _ _ hcursor'
        have hbounds : loginPkt.payload.length - cursor.length ≤ loginPkt.payload.length - cursor'.length ∧
            loginPkt.payload.length - cursor'.length ≤ loginPkt.payload.length := by omega
        dsimp only at hslice
        rw [if_pos hbounds] at hslice
        cases hslice
  · rcases Outcome.bind_eq_panic.mp h with hpanic | ⟨⟨u, cursor⟩, -, hspawn⟩
    · exact hheader.1 hpanic
    · rcases Outcome.bind_eq_panic.mp hspawn with hpanic | ⟨⟨respawn, rest⟩, -, hencode⟩
      · exact (readSpawnInfo_within dataToKeep cursor).1 hpanic
      · cases hencode

/-! ## What the Respawn says -/

/-- The Respawn of a spawn info whose dimension has this name. -/
def SpawnInfo.respawn (s : SpawnInfo) (dimensionName : String) (dataKept : UInt8) : RespawnPacket :=
  ⟨dimensionName, dimensionName, beI64 s.hashedSeed.val, s.gamemode, s.previousGamemode.toInt8, s.isDebug ≠ 0,
    s.isFlat ≠ 0, dataKept⟩

def LegacySpawnInfo.respawn (s : LegacySpawnInfo) (dimensionType dimensionName : String) (dataKept : UInt8) :
    RespawnPacket :=
  ⟨dimensionType, dimensionName, beI64 s.hashedSeed.val, s.gamemode, s.previousGamemode.toInt8, s.isDebug ≠ 0,
    s.isFlat ≠ 0, dataKept⟩

/-- The spawn info is cut out whole, and the byte put behind it. -/
theorem extractRespawn_modern {v : Int} (hv : v ≥ 766) (id : Int32) (header : LoginHeader) (spawn : SpawnInfo)
    (tail : List UInt8) (d : UInt8) :
    extractRespawn ⟨id, header.bytes ++ spawn.bytes v ++ tail⟩ v d =
      .ok ⟨RespawnPacket.packetIdForVersion v, spawn.bytes v ++ [d]⟩ := by
  have hheader := skipLoginHeader_append header (spawn.bytes v ++ tail)
  have hspawn := skipSpawnInfo_append spawn v tail
  have hstart : (header.bytes ++ (spawn.bytes v ++ tail)).length - (spawn.bytes v ++ tail).length =
      header.bytes.length := by
    rw [List.length_append, Nat.add_sub_cancel]
  have hend : (header.bytes ++ (spawn.bytes v ++ tail)).length - tail.length =
      (header.bytes ++ spawn.bytes v).length := by
    rw [← List.append_assoc, List.length_append, Nat.add_sub_cancel]
  have hbounds : header.bytes.length ≤ (header.bytes ++ spawn.bytes v).length ∧
      (header.bytes ++ spawn.bytes v).length ≤ (header.bytes ++ (spawn.bytes v ++ tail)).length := by
    simp only [List.length_append]
    omega
  have hslice : ((header.bytes ++ (spawn.bytes v ++ tail)).take (header.bytes ++ spawn.bytes v).length).drop
      header.bytes.length = spawn.bytes v := by
    rw [← List.append_assoc, List.take_left, List.drop_left]
  rw [extractRespawn, if_pos hv, List.append_assoc]
  simp only [hheader, hspawn, Outcome.ok_bind, hstart, hend, if_pos hbounds, hslice]

theorem readString_prefixed (eof utf8 : String) {p : Prefixed} {s : String} (hs : fromUtf8 p.content = some s)
    (rest : List UInt8) : readString eof utf8 (p.bytes ++ rest) = .ok (s, rest) := by
  have hbytes := asBytes_of_fromUtf8 hs
  obtain ⟨len, hlen, hpos, hsize⟩ := p.fits
  apply readString_ok_iff.mpr
  refine ⟨p.length, len, ?_, hlen, hpos, ?_⟩
  · rw [hbytes, Prefixed.bytes]
  · rw [hbytes, hsize]

namespace RespawnPacket

theorem fieldU8_cons (eof : String) (b : UInt8) (rest : List UInt8) : fieldU8 eof (b :: rest) = .ok (b, rest) := by
  simp [fieldU8, need_apply]

theorem hashedSeed_append (u : FixedBytes 8) (rest : List UInt8) :
    decodeWithVersion.hashedSeed (u.val ++ rest) = .ok (beI64 u.val, rest) := by
  have hle : ¬ (u.val ++ rest).length < 8 := by
    rw [List.length_append, u.property]
    omega
  rw [decodeWithVersion.hashedSeed, Decoder.bind_apply, need_apply, if_neg hle, Outcome.ok_bind,
    getI64_append u.property]

theorem deathPos_append (death : DeathLocation) (rest : List UInt8) :
    decodeWithVersion.deathPos death.flag.val (death.dimension.bytes ++ (death.position.val ++ rest)) =
      .ok ((), rest) := by
  obtain ⟨len, hlen, hle, hfew, hdrop⟩ := death.dimension.length_spec death.position.property rest
  rw [decodeWithVersion.deathPos, if_pos death.flag.property, Prefixed.bytes, List.append_assoc, Decoder.bind_apply,
    decodeVarint_append hlen, Outcome.ok_bind, Decoder.bind_apply, Decoder.remaining_apply, Outcome.ok_bind,
    Decoder.ite_apply, if_neg hfew, Decoder.advance_of_le hle, hdrop]

theorem seaLevel_append (s : SpawnInfo) (v : Int) (rest : List UInt8) :
    decodeWithVersion.seaLevel v ((if v ≥ 768 then s.seaLevel.val else []) ++ rest) = .ok ((), rest) := by
  obtain ⟨x, hx⟩ := s.seaLevel.property
  rw [decodeWithVersion.seaLevel]
  split
  · rw [Decoder.bind_apply, decodeVarint_append hx, Outcome.ok_bind, Decoder.pure_apply]
  · rfl

/-- The Respawn cut out of a Login decodes to what the spawn info says. -/
theorem decode_spawnInfo {v : Int} (hv : v ≥ 766) {spawn : SpawnInfo} {name : String}
    (hname : fromUtf8 spawn.name.content = some name) (d : UInt8) :
    decodeWithVersion ⟨packetIdForVersion v, spawn.bytes v ++ [d]⟩ v = .ok (spawn.respawn name d) := by
  obtain ⟨x, hx⟩ := spawn.dimension.property
  obtain ⟨y, hy⟩ := spawn.portalCooldown.property
  have hprevious : (if spawn.previousGamemode = 255 then -1 else spawn.previousGamemode.toInt8) =
      spawn.previousGamemode.toInt8 := by
    split
    · next h =>
      rw [h]
      decide
    · rfl
  have hdeath (rest : List UInt8) : ∃ hasDeath more, DeathLocation.bytes spawn.death ++ rest = hasDeath :: more ∧
      decodeWithVersion.deathPos hasDeath more = .ok ((), rest) := by
    cases spawn.death with
    | none => exact ⟨0, rest, rfl, rfl⟩
    | some death =>
      refine ⟨death.flag.val, death.dimension.bytes ++ (death.position.val ++ rest), ?_, deathPos_append death rest⟩
      simp [DeathLocation.bytes]
  obtain ⟨hasDeath, more, hsplit, hpos⟩ :=
    hdeath (spawn.portalCooldown.val ++ ((if v ≥ 768 then spawn.seaLevel.val else []) ++ [d]))
  rw [decodeWithVersion]
  simp only [ne_eq, not_true_eq_false, false_and, if_false, if_pos hv, decodeWithVersion.modern, SpawnInfo.bytes,
    List.append_assoc, Decoder.bind_apply, decodeVarint_append hx, Outcome.ok_bind,
    readString_prefixed _ _ hname, hashedSeed_append, List.cons_append, List.nil_append, fieldU8_cons, hsplit, hpos,
    decodeVarint_append hy, seaLevel_append, Decoder.pure_apply, hprevious]
  rfl

/-- Below 766 a Respawn is read back from what the encoder writes, the death
and the cooldown behind it left alone. -/
theorem decode_encode_legacy {v : Int} (hv : v < 766) {p : RespawnPacket}
    (htype : (asBytes p.dimensionType).length < 2 ^ 31) (hname : (asBytes p.dimensionName).length < 2 ^ 31) :
    decodeWithVersion (p.encodeWithVersion v) v = .ok p := by
  have hbool (b : Bool) : decide (¬ (if b = true then (1 : UInt8) else 0) = 0) = b := by
    cases b <;> decide
  have hseed (rest : List UInt8) : decodeWithVersion.hashedSeed (putI64 p.hashedSeed ++ rest) =
      .ok (p.hashedSeed, rest) := by
    have h := hashedSeed_append ⟨putI64 p.hashedSeed, putI64_length p.hashedSeed⟩ rest
    rwa [beI64_putI64] at h
  have hmodern : ¬ v ≥ 766 := by omega
  rw [decodeWithVersion, encodeWithVersion]
  simp only [ne_eq, not_true_eq_false, false_and, if_false, if_neg hmodern, decodeWithVersion.legacy, putBool,
    List.append_assoc, Decoder.bind_apply, Outcome.ok_bind, readString_putString _ _ htype, readString_putString _ _ hname,
    hseed, List.cons_append, List.nil_append, fieldU8_cons, Decoder.pure_apply,
    Int8.toInt8_toUInt8, hbool]

end RespawnPacket

/-- Below 766 the spawn info is read and written again. -/
theorem extractRespawn_legacy {v : Int} (hlow : v ≥ 764) (hhigh : v < 766) (id : Int32) (header : LoginHeader)
    {spawn : LegacySpawnInfo} (tail : List UInt8) {dimensionType dimensionName : String}
    (htype : fromUtf8 spawn.dimensionType.content = some dimensionType)
    (hname : fromUtf8 spawn.dimensionName.content = some dimensionName) (d : UInt8) :
    extractRespawn ⟨id, header.bytes ++ spawn.bytes ++ tail⟩ v d =
      .ok ((spawn.respawn dimensionType dimensionName d).encodeWithVersion v) := by
  have hseed (rest : List UInt8) : takeI64 (spawn.hashedSeed.val ++ rest) = .ok (beI64 spawn.hashedSeed.val, rest) := by
    have hle : ¬ (spawn.hashedSeed.val ++ rest).length < 8 := by
      rw [List.length_append, spawn.hashedSeed.property]
      omega
    rw [takeI64, Decoder.bind_apply, Decoder.remaining_apply, Outcome.ok_bind, Decoder.ite_apply, if_neg hle,
      getI64_append spawn.hashedSeed.property]
  have hmodern : ¬ v ≥ 766 := by omega
  rw [extractRespawn, if_neg hmodern, if_pos hlow, List.append_assoc]
  simp only [skipLoginHeader_append, Outcome.ok_bind, readSpawnInfo, LegacySpawnInfo.bytes, List.append_assoc,
    Decoder.bind_apply, readString_prefixed _ _ htype, readString_prefixed _ _ hname, hseed, List.cons_append,
    List.nil_append, takeU8_cons, Decoder.pure_apply]
  rfl

/-- The client is told the backend's world as the Login has it: for every
spawn info, whatever follows it and whatever the Login says besides. -/
theorem respawn_synthesis :
    (∀ v : Int, v ≥ 766 → ∀ (id : Int32) (header : LoginHeader) (spawn : SpawnInfo) (tail : List UInt8) (d : UInt8),
      ∃ respawn,
        extractRespawnFromLoginWithDataKept ⟨id, header.bytes ++ spawn.bytes v ++ tail⟩ v d = some respawn ∧
        respawn.payload = spawn.bytes v ++ [d] ∧
        ∀ name, fromUtf8 spawn.name.content = some name →
          RespawnPacket.decodeWithVersion respawn v = .ok (spawn.respawn name d)) ∧
    (∀ v : Int, v = 764 ∨ v = 765 →
      ∀ (id : Int32) (header : LoginHeader) (spawn : LegacySpawnInfo) (tail : List UInt8) (d : UInt8)
        (dimensionType dimensionName : String), fromUtf8 spawn.dimensionType.content = some dimensionType →
        fromUtf8 spawn.dimensionName.content = some dimensionName →
      ∃ respawn,
        extractRespawnFromLoginWithDataKept ⟨id, header.bytes ++ spawn.bytes ++ tail⟩ v d = some respawn ∧
        RespawnPacket.decodeWithVersion respawn v = .ok (spawn.respawn dimensionType dimensionName d)) ∧
    ∀ (loginPkt : RawPacket) (v : Int) (d : UInt8), extractRespawn loginPkt v d ≠ .panic := by
  refine ⟨?_, ?_, extractRespawn_ne_panic⟩
  · intro v hv id header spawn tail d
    refine ⟨⟨RespawnPacket.packetIdForVersion v, spawn.bytes v ++ [d]⟩, ?_, rfl, ?_⟩
    · rw [extractRespawnFromLoginWithDataKept, extractRespawn_modern hv]
      rfl
    · exact fun name hname => RespawnPacket.decode_spawnInfo hv hname d
  · intro v hv id header spawn tail d dimensionType dimensionName htype hname
    have hhigh : v < 766 := by omega
    have hlen {p : Prefixed} {s : String} (hs : fromUtf8 p.content = some s) : (asBytes s).length < 2 ^ 31 :=
      readString_length_lt (readString_prefixed "" "" hs [])
    refine ⟨(spawn.respawn dimensionType dimensionName d).encodeWithVersion v, ?_, ?_⟩
    · rw [extractRespawnFromLoginWithDataKept, extractRespawn_legacy (by omega) hhigh id header tail htype hname]
      rfl
    · exact RespawnPacket.decode_encode_legacy hhigh (hlen htype) (hlen hname)

/-! ## A Login of protocol 776 -/

def overworldName : Prefixed where
  length := encodeVarint 19
  content := asBytes "minecraft:overworld"
  fits := ⟨19, encodeVarint_isVarint 19, by decide, by decide⟩

def overworldHeader : LoginHeader where
  entityId := ⟨[0, 0, 0, 42], rfl⟩
  isHardcore := 0
  dimensionCount := encodeVarint 1
  dimensionNames := [overworldName]
  counted := ⟨1, encodeVarint_isVarint 1, by decide, by decide⟩
  atMost := by decide
  maxPlayers := ⟨encodeVarint 100, 100, encodeVarint_isVarint 100⟩
  viewDistance := ⟨encodeVarint 12, 12, encodeVarint_isVarint 12⟩
  simulationDistance := ⟨encodeVarint 10, 10, encodeVarint_isVarint 10⟩
  reducedDebugInfo := 0
  showRespawnScreen := 1
  doLimitedCrafting := 0

def overworldSpawn : SpawnInfo where
  dimension := ⟨encodeVarint 0, 0, encodeVarint_isVarint 0⟩
  name := overworldName
  hashedSeed := ⟨putI64 9876543210, rfl⟩
  gamemode := 0
  previousGamemode := 255
  isDebug := 0
  isFlat := 0
  death := some ⟨⟨1, by decide⟩, overworldName, ⟨List.replicate 8 0, rfl⟩⟩
  portalCooldown := ⟨encodeVarint 0, 0, encodeVarint_isVarint 0⟩
  seaLevel := ⟨encodeVarint 63, 63, encodeVarint_isVarint 63⟩

/-- The player died in the overworld before, and comes back to it. -/
theorem respawn_synthesis_overworld :
    ∃ respawn,
      extractRespawnFromLoginWithDataKept ⟨0x31, overworldHeader.bytes ++ overworldSpawn.bytes 776 ++ [0, 0]⟩ 776 0 =
        some respawn ∧
      respawn.payload = overworldSpawn.bytes 776 ++ [0] ∧
      RespawnPacket.decodeWithVersion respawn 776 =
        .ok ⟨"minecraft:overworld", "minecraft:overworld", 9876543210, 0, -1, false, false, 0⟩ := by
  obtain ⟨respawn, hrespawn, hpayload, hdecode⟩ :=
    respawn_synthesis.1 776 (by decide) 0x31 overworldHeader overworldSpawn [0, 0] 0
  have hname := hdecode "minecraft:overworld" (fromUtf8_asBytes _)
  have hfields : overworldSpawn.respawn "minecraft:overworld" 0 =
      ⟨"minecraft:overworld", "minecraft:overworld", 9876543210, 0, -1, false, false, 0⟩ := by
    decide
  exact ⟨respawn, hrespawn, hpayload, hname.trans (congrArg Outcome.ok hfields)⟩

end FrameMC

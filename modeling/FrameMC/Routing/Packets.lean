import FrameMC.Lib.RustStr
import FrameMC.Network.Codec
import FrameMC.Protocol.Uuid

/-!
# The packets of the Play state

The packet codecs and id tables of `src/routing/state_machine.rs` that the
state machine reads or writes. Ids change from one protocol version to the next.
-/

namespace FrameMC

open ByteStream

/-! ## Commands -/

def serverboundChatCommandPacketId : Int32 := 0x04

structure ServerboundChatCommand where
  command : String
  deriving DecidableEq

namespace ServerboundChatCommand

def isCommandPacket (id : Int32) (protocolVersion : Int) : Bool :=
  if protocolVersion ≥ 776 then id == 0x07 || id == 0x08 || id == 0x09
  else if protocolVersion ≥ 768 then id == 0x05 || id == 0x06 || id == 0x07
  else if protocolVersion ≥ 766 then id == 0x04 || id == 0x05 || id == 0x06
  else id == 0x04 || id == 0x05 || id == 0x06 || id == serverboundChatCommandPacketId

def decodeWithVersion (packet : RawPacket) (protocolVersion : Int) : Outcome ProxyError ServerboundChatCommand :=
  if ¬ isCommandPacket packet.id protocolVersion then .err (.invalidPacketId packet.id)
  else do
    let (command, _) ←
      readString "unexpected EOF reading command string" "invalid UTF-8 in command" packet.payload
    .ok ⟨command⟩

def encodeWithVersion (c : ServerboundChatCommand) (protocolVersion : Int) : RawPacket :=
  let packetId : Int32 :=
    if protocolVersion ≥ 776 then 0x07
    else if protocolVersion ≥ 768 then 0x05
    else if protocolVersion ≥ 766 then 0x04
    else serverboundChatCommandPacketId
  ⟨packetId, putString c.command⟩

/-- The command with its leading slash. -/
def normalizedCommand (c : ServerboundChatCommand) : String :=
  if RustStr.startsWith c.command "/" then c.command else "/" ++ c.command

theorem isCommandPacket_encode (c : ServerboundChatCommand) (v : Int) :
    isCommandPacket (c.encodeWithVersion v).id v = true := by
  rw [isCommandPacket, encodeWithVersion]
  split_ifs <;> rfl

theorem decode_encode {v : Int} {c : ServerboundChatCommand} (h : StringFits c.command) :
    decodeWithVersion (c.encodeWithVersion v) v = .ok c := by
  rw [decodeWithVersion, if_neg (not_not_intro (c.isCommandPacket_encode v)), encodeWithVersion,
    readString_putString_nil _ _ h]
  rfl

end ServerboundChatCommand

/-! ## Tab completion -/

structure TabCompleteRequestPacket where
  transactionId : Int32
  text : String
  deriving DecidableEq

namespace TabCompleteRequestPacket

def isTabCompleteRequest (id : Int32) (protocolVersion : Int) : Bool :=
  if protocolVersion ≥ 776 then id == 0x0F
  else if protocolVersion ≥ 768 then id == 0x0D || id == 0x0F
  else if protocolVersion ≥ 766 then id == 0x0B
  else if protocolVersion ≥ 764 then id == 0x0A
  else id == 0x09 || id == 0x08 || id == 0x06 || id == 0x05

def decode (packet : RawPacket) (protocolVersion : Int) : Outcome ProxyError TabCompleteRequestPacket :=
  if ¬ isTabCompleteRequest packet.id protocolVersion then .err (.invalidPacketId packet.id)
  else do
    let (transactionId, cursor) ← decodeVarint packet.payload
    let (text, _) ← readString "unexpected EOF reading tab complete request text"
      "invalid UTF-8 in tab complete request text" cursor
    .ok ⟨transactionId, text⟩

def encodeWithVersion (p : TabCompleteRequestPacket) (protocolVersion : Int) : RawPacket :=
  let packetId : Int32 :=
    if protocolVersion ≥ 776 then 0x0F
    else if protocolVersion ≥ 768 then 0x0D
    else if protocolVersion ≥ 766 then 0x0B
    else if protocolVersion ≥ 764 then 0x0A
    else 0x06
  ⟨packetId, encodeVarint p.transactionId ++ putString p.text⟩

theorem isTabCompleteRequest_encode (p : TabCompleteRequestPacket) (v : Int) :
    isTabCompleteRequest (p.encodeWithVersion v).id v = true := by
  rw [isTabCompleteRequest, encodeWithVersion]
  split_ifs <;> rfl

theorem decode_encode {v : Int} {p : TabCompleteRequestPacket} (h : StringFits p.text) :
    decode (p.encodeWithVersion v) v = .ok p := by
  rw [decode, if_neg (not_not_intro (p.isTabCompleteRequest_encode v)), encodeWithVersion, decodeVarint_encodeVarint,
    Outcome.ok_bind]
  dsimp only
  rw [readString_putString_nil _ _ h]
  rfl

end TabCompleteRequestPacket

structure TabCompleteResponsePacket where
  transactionId : Int32
  start : Int32
  length : Int32
  matches' : List String

namespace TabCompleteResponsePacket

def packetIdForVersion (protocolVersion : Int) : Int32 :=
  if protocolVersion ≥ 776 then 0x0F
  else if protocolVersion ≥ 764 then 0x10
  else 0x0F

def encodeWithVersion (p : TabCompleteResponsePacket) (protocolVersion : Int) : RawPacket :=
  ⟨packetIdForVersion protocolVersion,
    encodeVarint p.transactionId ++ encodeVarint p.start ++ encodeVarint p.length ++
      encodeVarint (asI32 p.matches'.length) ++ p.matches'.flatMap fun m => putString m ++ [0x00]⟩

/-- `for _ in 0..count`. -/
def readMatches : Nat → Decoder ProxyError (List String)
  | 0 => pure []
  | n + 1 => do
    let matchStr ← readString "unexpected EOF reading match string" "invalid UTF-8 in match string"
    let remaining ← Decoder.remaining
    let _hasTooltip ← if remaining > 0 then Decoder.getU8 else pure 0
    let matches' ← readMatches n
    pure (matchStr :: matches')

def decode (packet : RawPacket) (protocolVersion : Int) : Outcome ProxyError TabCompleteResponsePacket :=
  let expectedId := packetIdForVersion protocolVersion
  if packet.id ≠ expectedId ∧ packet.id ≠ 0x0F ∧ packet.id ≠ 0x10 then .err (.invalidPacketId packet.id)
  else do
    let (packet, _) ← body packet.payload
    .ok packet
where
  body : Decoder ProxyError TabCompleteResponsePacket := do
    let transactionId ← decodeVarint
    let start ← decodeVarint
    let length ← decodeVarint
    let count ← decodeVarint
    if ¬ (0 ≤ count ∧ count ≤ 4096) then Decoder.fail (.io .invalidData "invalid suggestion match count")
    else do
      let matches' ← readMatches (asUsize count)
      pure ⟨transactionId, start, length, matches'⟩

/-- The loop over the matches takes each of them with its flag. -/
theorem readMatches_putMatches {ms : List String} (h : ∀ m ∈ ms, StringFits m) (rest : List UInt8) :
    readMatches ms.length ((ms.flatMap fun m => putString m ++ [0x00]) ++ rest) = .ok (ms, rest) := by
  induction ms with
  | nil => rfl
  | cons m ms ih =>
    rw [List.forall_mem_cons] at h
    simp only [List.length_cons, readMatches, List.flatMap_cons, List.append_assoc, List.cons_append, List.nil_append,
      Decoder.bind_apply, readString_putString _ _ h.1, Outcome.ok_bind, Decoder.remaining_apply, gt_iff_lt,
      Nat.zero_lt_succ, if_true, Decoder.getU8_cons, ih h.2, Decoder.pure_apply]

theorem decode_encode {v : Int} {p : TabCompleteResponsePacket} (hcount : p.matches'.length ≤ 4096)
    (h : ∀ m ∈ p.matches', StringFits m) : decode (p.encodeWithVersion v) v = .ok p := by
  have hrange : 0 ≤ asI32 p.matches'.length ∧ asI32 p.matches'.length ≤ 4096 := by
    refine ⟨asI32_nonneg (by omega), ?_⟩
    rw [Int32.le_iff_toInt_le, toInt_asI32 (by omega)]
    change _ ≤ (4096 : Int)
    omega
  have hmatches := readMatches_putMatches h []
  rw [List.append_nil] at hmatches
  rw [decode, encodeWithVersion, if_neg (fun hid => hid.1 rfl), decode.body]
  simp only [List.append_assoc, Decoder.bind_apply, decodeVarint_encodeVarint, Outcome.ok_bind, Decoder.ite_apply,
    if_neg (not_not_intro hrange), asUsize_asI32 (show p.matches'.length < 2 ^ 31 by omega), hmatches,
    Decoder.pure_apply]

end TabCompleteResponsePacket

/-! ## Respawn -/

def keepAttributes : UInt8 := 0x01

def keepMetadata : UInt8 := 0x02

def keepAllData : UInt8 := keepAttributes ||| keepMetadata

structure RespawnPacket where
  dimensionType : String
  dimensionName : String
  hashedSeed : Int64
  gamemode : UInt8
  previousGamemode : Int8
  isDebug : Bool
  isFlat : Bool
  dataKept : UInt8
  deriving DecidableEq

namespace RespawnPacket

def defaultReset : RespawnPacket where
  dimensionType := "minecraft:overworld"
  dimensionName := "minecraft:overworld"
  hashedSeed := 0
  gamemode := 0
  previousGamemode := -1
  isDebug := false
  isFlat := false
  dataKept := 0

def packetIdForVersion (protocolVersion : Int) : Int32 :=
  if protocolVersion ≥ 776 then 0x52
  else if protocolVersion ≥ 768 then 0x4C
  else if protocolVersion ≥ 766 then 0x47
  else if protocolVersion ≥ 764 then 0x45
  else if protocolVersion ≥ 762 then 0x43
  else if protocolVersion = 761 then 0x3F
  else if protocolVersion ≥ 759 then 0x3E
  else if protocolVersion ≥ 755 then 0x3D
  else if protocolVersion ≥ 751 then 0x39
  else if protocolVersion ≥ 340 then 0x35
  else 0x45

def isValidRespawnId (id : Int32) : Bool :=
  [0x52, 0x51, 0x4C, 0x4A, 0x47, 0x45, 0x43, 0x3F, 0x3E, 0x3D, 0x39, 0x35].contains id

/-- One byte, with the error text of its field. -/
def fieldU8 (eof : String) : Decoder ProxyError UInt8 := do
  need 1 eof
  Decoder.getU8

def decodeWithVersion (packet : RawPacket) (protocolVersion : Int) : Outcome ProxyError RespawnPacket :=
  let expectedId := packetIdForVersion protocolVersion
  if packet.id ≠ expectedId ∧ ¬ isValidRespawnId packet.id then .err (.invalidPacketId packet.id)
  else do
    let (packet, _) ← if protocolVersion ≥ 766 then modern packet.payload else legacy packet.payload
    .ok packet
where
  hashedSeed : Decoder ProxyError Int64 := do
    need 8 "EOF reading hashed_seed"
    getI64
  deathPos (hasDeath : UInt8) : Decoder ProxyError Unit :=
    if hasDeath ≠ 0 then do
      let deathDimLen ← decodeVarint
      let remaining ← Decoder.remaining
      if deathDimLen < 0 ∨ remaining < asUsize deathDimLen + 8 then
        Decoder.fail (.io .unexpectedEof "EOF reading death pos")
      else Decoder.advance (asUsize deathDimLen + 8)
    else pure ()
  seaLevel : Decoder ProxyError Unit :=
    if protocolVersion ≥ 768 then do
      let _ ← decodeVarint
      pure ()
    else pure ()
  modern : Decoder ProxyError RespawnPacket := do
    let _ ← decodeVarint
    let dimensionName ← readString "unexpected EOF reading dimension_name" "invalid UTF-8 in dimension_name"
    let seed ← hashedSeed
    let gamemode ← fieldU8 "EOF reading gamemode"
    let prevU8 ← fieldU8 "EOF reading previous_gamemode"
    let previousGamemode := if prevU8 = 255 then -1 else prevU8.toInt8
    let isDebug ← fieldU8 "EOF reading is_debug"
    let isFlat ← fieldU8 "EOF reading is_flat"
    let hasDeath ← fieldU8 "EOF reading death option"
    deathPos hasDeath
    let _ ← decodeVarint
    seaLevel
    let dataKept ← fieldU8 "EOF reading data_kept"
    pure ⟨dimensionName, dimensionName, seed, gamemode, previousGamemode, isDebug ≠ 0, isFlat ≠ 0, dataKept⟩
  legacy : Decoder ProxyError RespawnPacket := do
    let dimensionType ← readString "unexpected EOF reading dimension_type" "invalid UTF-8 in dimension_type"
    let dimensionName ← readString "unexpected EOF reading dimension_name" "invalid UTF-8 in dimension_name"
    let seed ← hashedSeed
    let gamemode ← fieldU8 "EOF reading gamemode"
    let previousGamemode ← fieldU8 "EOF reading previous_gamemode"
    let isDebug ← fieldU8 "EOF reading is_debug"
    let isFlat ← fieldU8 "EOF reading is_flat"
    let dataKept ← fieldU8 "EOF reading data_kept"
    pure ⟨dimensionType, dimensionName, seed, gamemode, previousGamemode.toInt8, isDebug ≠ 0, isFlat ≠ 0, dataKept⟩

def putBool (b : Bool) : List UInt8 := [if b then 1 else 0]

def encodeWithVersion (p : RespawnPacket) (protocolVersion : Int) : RawPacket :=
  ⟨packetIdForVersion protocolVersion,
    if protocolVersion ≥ 766 then
      encodeVarint 0 ++ putString p.dimensionName ++ putI64 p.hashedSeed ++ [p.gamemode] ++
        [if p.previousGamemode < 0 then 255 else p.previousGamemode.toUInt8] ++ putBool p.isDebug ++
        putBool p.isFlat ++ [0] ++ encodeVarint 0 ++
        (if protocolVersion ≥ 768 then encodeVarint 63 else []) ++ [p.dataKept]
    else
      putString p.dimensionType ++ putString p.dimensionName ++ putI64 p.hashedSeed ++ [p.gamemode] ++
        [p.previousGamemode.toUInt8] ++ putBool p.isDebug ++ putBool p.isFlat ++ [p.dataKept] ++ [0] ++
        encodeVarint 0⟩

end RespawnPacket

def isLoginPlayPacket (id : Int32) (protocolVersion : Int) : Bool :=
  if protocolVersion ≥ 776 then id == 0x31
  else if protocolVersion ≥ 768 then id == 0x2C
  else if protocolVersion ≥ 766 then id == 0x2B
  else if protocolVersion ≥ 764 then id == 0x29
  else if protocolVersion ≥ 762 then id == 0x28
  else if protocolVersion = 761 then id == 0x24
  else if protocolVersion ≥ 759 then id == 0x25
  else if protocolVersion ≥ 755 then id == 0x26
  else if protocolVersion ≥ 735 then id == 0x24
  else if protocolVersion ≥ 573 then id == 0x26
  else if protocolVersion ≥ 393 then id == 0x25
  else id == 0x23

section ExtractRespawn

/-- `return None`; which error it is does not matter. -/
def noRespawn : ProxyError := .io .invalidData "no respawn"

/-- Step over `n` bytes, if they are there. -/
def skip (n : Nat) : Decoder ProxyError Unit := do
  let remaining ← Decoder.remaining
  if remaining < n then Decoder.fail noRespawn
  else Decoder.advance n

/-- Step over a VarInt. -/
def skipVarint : Decoder ProxyError Unit := do
  let _ ← decodeVarint
  pure ()

/-- Step over a length-prefixed string, of which `extra` more bytes follow. -/
def skipString (extra : Nat) : Decoder ProxyError Unit := do
  let len ← decodeVarint
  let remaining ← Decoder.remaining
  if len < 0 ∨ remaining < asUsize len + extra then Decoder.fail noRespawn
  else Decoder.advance (asUsize len + extra)

def skipStrings : Nat → Decoder ProxyError Unit
  | 0 => pure ()
  | n + 1 => do
    skipString 0
    skipStrings n

def takeU8 : Decoder ProxyError UInt8 := do
  let remaining ← Decoder.remaining
  if remaining < 1 then Decoder.fail noRespawn
  else Decoder.getU8

def takeI64 : Decoder ProxyError Int64 := do
  let remaining ← Decoder.remaining
  if remaining < 8 then Decoder.fail noRespawn
  else getI64

/-- The fields of Login (Play) in front of the spawn info. -/
def skipLoginHeader : Decoder ProxyError Unit := do
  skip 4
  skip 1
  let dimCount ← decodeVarint
  if dimCount < 0 ∨ dimCount > 1024 then Decoder.fail noRespawn
  else do
    skipStrings (asUsize dimCount)
    skipVarint
    skipVarint
    skipVarint
    skip 1
    skip 1
    skip 1

/-- The spawn info from protocol 766 on. -/
def skipSpawnInfo (protocolVersion : Int) : Decoder ProxyError Unit := do
  skipVarint
  skipString 0
  skip 8
  skip 1
  skip 1
  skip 1
  skip 1
  let hasDeath ← takeU8
  if hasDeath ≠ 0 then skipString 8
  else pure ()
  skipVarint
  if protocolVersion ≥ 768 then skipVarint
  else pure ()

/-- The spawn info of protocols 764 and 765. -/
def readSpawnInfo (dataToKeep : UInt8) : Decoder ProxyError RespawnPacket := do
  let dimensionType ← readString "" ""
  let dimensionName ← readString "" ""
  let hashedSeed ← takeI64
  let gamemode ← takeU8
  let previousGamemode ← takeU8
  let isDebug ← takeU8
  let isFlat ← takeU8
  pure ⟨dimensionType, dimensionName, hashedSeed, gamemode, previousGamemode.toInt8, isDebug ≠ 0, isFlat ≠ 0,
    dataToKeep⟩

/-- The Respawn made of a Login (Play), with its slices. -/
def extractRespawn (loginPkt : RawPacket) (protocolVersion : Int) (dataToKeep : UInt8) :
    Outcome ProxyError RawPacket :=
  if protocolVersion ≥ 766 then do
    let payload := loginPkt.payload
    let ((), cursor) ← skipLoginHeader payload
    let spawnInfoStart := payload.length - cursor.length
    let ((), cursor) ← skipSpawnInfo protocolVersion cursor
    let spawnInfoEnd := payload.length - cursor.length
    -- `payload[spawn_info_start..spawn_info_end]`
    if spawnInfoStart ≤ spawnInfoEnd ∧ spawnInfoEnd ≤ payload.length then
      let spawnInfo := (payload.take spawnInfoEnd).drop spawnInfoStart
      .ok ⟨RespawnPacket.packetIdForVersion protocolVersion, spawnInfo ++ [dataToKeep]⟩
    else .panic
  else if protocolVersion ≥ 764 then do
    let ((), cursor) ← skipLoginHeader loginPkt.payload
    let (respawn, _) ← readSpawnInfo dataToKeep cursor
    .ok (respawn.encodeWithVersion protocolVersion)
  else
    .ok ({ RespawnPacket.defaultReset with dataKept := dataToKeep }.encodeWithVersion protocolVersion)

def extractRespawnFromLoginWithDataKept (loginPkt : RawPacket) (protocolVersion : Int) (dataToKeep : UInt8) :
    Option RawPacket :=
  (extractRespawn loginPkt protocolVersion dataToKeep).toOption

end ExtractRespawn

/-! ## System chat -/

structure SystemChatMessagePacket where
  message : String
  overlay : Bool

namespace SystemChatMessagePacket

def packetIdForVersion (protocolVersion : Int) : Int32 :=
  if protocolVersion ≥ 776 then 0x79
  else if protocolVersion ≥ 768 then 0x73
  else if protocolVersion ≥ 766 then 0x6C
  else if protocolVersion ≥ 764 then 0x69
  else if protocolVersion = 763 then 0x67
  else if protocolVersion = 762 then 0x64
  else if protocolVersion = 761 then 0x60
  else if protocolVersion ≥ 759 then 0x5F
  else 0x69

def encodeWithVersion (textJson : String → String) (p : SystemChatMessagePacket) (protocolVersion : Int) :
    RawPacket :=
  ⟨packetIdForVersion protocolVersion,
    (if protocolVersion ≥ 766 then textCompound p.message else putString (textJson p.message)) ++
      [if p.overlay then 1 else 0]⟩

end SystemChatMessagePacket

/-! ## What a server leaves on the client's screen -/

structure CloseContainerPacket where
  windowId : UInt8
  deriving DecidableEq

namespace CloseContainerPacket

def packetIdForVersion (protocolVersion : Int) : Int32 :=
  if protocolVersion ≥ 776 then 0x11
  else if protocolVersion ≥ 764 then 0x12
  else if protocolVersion ≥ 762 then 0x11
  else if protocolVersion = 761 then 0x0F
  else if protocolVersion ≥ 759 then 0x10
  else 0x12

def encodeWithVersion (p : CloseContainerPacket) (protocolVersion : Int) : RawPacket :=
  ⟨packetIdForVersion protocolVersion, [p.windowId]⟩

def decode (packet : RawPacket) (protocolVersion : Int) : Outcome ProxyError CloseContainerPacket :=
  if packet.id ≠ packetIdForVersion protocolVersion then .err (.invalidPacketId packet.id)
  else do
    let (packet, _) ← body packet.payload
    .ok packet
where
  body : Decoder ProxyError CloseContainerPacket := do
    need 1 "Unexpected EOF reading window_id in CloseContainer"
    let windowId ← Decoder.getU8
    pure ⟨windowId⟩

theorem decode_encode (p : CloseContainerPacket) (v : Int) :
    decode (p.encodeWithVersion v) v = .ok p := by
  rw [decode, encodeWithVersion, if_neg (not_not_intro rfl), decode.body, Decoder.bind_apply, need_one]
  rfl

end CloseContainerPacket

structure StopSoundPacket where
  flags : UInt8
  source : Option Int32
  sound : Option String
  deriving DecidableEq

namespace StopSoundPacket

def all : StopSoundPacket := ⟨0, none, none⟩

def packetIdForVersion (protocolVersion : Int) : Int32 :=
  if protocolVersion ≥ 776 then 0x77
  else if protocolVersion ≥ 768 then 0x71
  else if protocolVersion ≥ 766 then 0x6A
  else if protocolVersion ≥ 765 then 0x68
  else if protocolVersion ≥ 764 then 0x66
  else if protocolVersion ≥ 762 then 0x63
  else if protocolVersion = 761 then 0x5F
  else if protocolVersion ≥ 759 then 0x61
  else 0x66

def encodeWithVersion (p : StopSoundPacket) (protocolVersion : Int) : RawPacket :=
  ⟨packetIdForVersion protocolVersion,
    [p.flags] ++ (if p.flags &&& 1 ≠ 0 then p.source.elim [] encodeVarint else []) ++
      (if p.flags &&& 2 ≠ 0 then p.sound.elim [] putString else [])⟩

def decode (packet : RawPacket) (protocolVersion : Int) : Outcome ProxyError StopSoundPacket :=
  if packet.id ≠ packetIdForVersion protocolVersion then .err (.invalidPacketId packet.id)
  else do
    let (packet, _) ← body packet.payload
    .ok packet
where
  body : Decoder ProxyError StopSoundPacket := do
    need 1 "Unexpected EOF reading flags in StopSound"
    let flags ← Decoder.getU8
    let source ← if flags &&& 1 ≠ 0 then some <$> decodeVarint else pure none
    let sound ← if flags &&& 2 ≠ 0 then
        some <$> readString "Unexpected EOF reading sound in StopSound" "Invalid UTF-8 in sound"
      else pure none
    pure ⟨flags, source, sound⟩

theorem decode_encode {v : Int} {p : StopSoundPacket} (hsource : p.flags &&& 1 ≠ 0 ↔ p.source.isSome)
    (hsound : p.flags &&& 2 ≠ 0 ↔ p.sound.isSome) (h : ∀ s, p.sound = some s → StringFits s) :
    decode (p.encodeWithVersion v) v = .ok p := by
  obtain ⟨flags, source, sound⟩ := p
  dsimp only at hsource hsound h
  -- what is left to do for the sound, once the source has been read
  have hreadSound (source : Option Int32) : (if flags &&& 2 ≠ 0 then do
        let sound ← some <$> readString "Unexpected EOF reading sound in StopSound" "Invalid UTF-8 in sound"
        pure ⟨flags, source, sound⟩
      else do
        let sound ← pure none
        pure ⟨flags, source, sound⟩ : Decoder ProxyError StopSoundPacket)
        (if flags &&& 2 ≠ 0 then sound.elim [] putString else []) = .ok (⟨flags, source, sound⟩, []) := by
    cases sound with
    | none =>
      have hnone : ¬ flags &&& 2 ≠ 0 := fun hc => Bool.false_ne_true (hsound.mp hc)
      rw [if_neg hnone, if_neg hnone]
      rfl
    | some s =>
      rw [if_pos (hsound.mpr rfl), if_pos (hsound.mpr rfl), Decoder.bind_apply, Decoder.map_apply, Option.elim_some,
        readString_putString_nil _ _ (h s rfl)]
      rfl
  rw [decode, encodeWithVersion, if_neg (not_not_intro rfl), decode.body]
  simp only [List.cons_append, List.nil_append, Decoder.bind_apply, need_one, Outcome.ok_bind, Decoder.getU8_cons]
  cases source with
  | none =>
    have hnone : ¬ flags &&& 1 ≠ 0 := fun hc => Bool.false_ne_true (hsource.mp hc)
    rw [if_neg hnone, if_neg hnone, List.nil_append, Decoder.bind_apply, Decoder.pure_apply, Outcome.ok_bind,
      hreadSound]
    rfl
  | some x =>
    rw [if_pos (hsource.mpr rfl), if_pos (hsource.mpr rfl), Decoder.bind_apply, Decoder.map_apply, Option.elim_some,
      decodeVarint_encodeVarint, Outcome.ok_bind, Outcome.ok_bind, hreadSound]
    rfl

end StopSoundPacket

structure BossBarPacket where
  uuid : Uuid
  action : Int32
  deriving DecidableEq

namespace BossBarPacket

def actionAdd : Int32 := 0

def actionRemove : Int32 := 1

def remove (uuid : Uuid) : BossBarPacket := ⟨uuid, actionRemove⟩

def packetIdForVersion (protocolVersion : Int) : Int32 :=
  if protocolVersion ≥ 776 then 0x09
  else if protocolVersion ≥ 764 then 0x0A
  else if protocolVersion ≥ 762 then 0x0B
  else 0x0A

def encodeWithVersion (p : BossBarPacket) (protocolVersion : Int) : RawPacket :=
  ⟨packetIdForVersion protocolVersion, p.uuid.val ++ encodeVarint p.action⟩

def decode (packet : RawPacket) (protocolVersion : Int) : Outcome ProxyError BossBarPacket :=
  if packet.id ≠ packetIdForVersion protocolVersion then .err (.invalidPacketId packet.id)
  else do
    let (packet, _) ← body packet.payload
    .ok packet
where
  body : Decoder ProxyError BossBarPacket := do
    need 16 "Unexpected EOF reading UUID in BossBar"
    let uuid ← getUuid
    let action ← decodeVarint
    pure ⟨uuid, action⟩

theorem decode_encode (p : BossBarPacket) (v : Int) : decode (p.encodeWithVersion v) v = .ok p := by
  have hle : ¬ (p.uuid.val ++ encodeVarint p.action).length < 16 := by
    rw [List.length_append, p.uuid.property]
    omega
  rw [decode, encodeWithVersion, if_neg (not_not_intro rfl), decode.body]
  simp only [Decoder.bind_apply, need_apply, if_neg hle, Outcome.ok_bind, getUuid_append,
    decodeVarint_encodeVarint_nil, Decoder.pure_apply]

end BossBarPacket

structure ScoreboardObjectivePacket where
  name : String
  action : UInt8
  deriving DecidableEq

namespace ScoreboardObjectivePacket

def actionCreate : UInt8 := 0

def actionRemove : UInt8 := 1

def remove (name : String) : ScoreboardObjectivePacket := ⟨name, actionRemove⟩

def packetIdForVersion (protocolVersion : Int) : Int32 :=
  if protocolVersion ≥ 776 then 0x6A
  else if protocolVersion ≥ 768 then 0x64
  else if protocolVersion ≥ 766 then 0x5E
  else if protocolVersion ≥ 765 then 0x5C
  else if protocolVersion ≥ 764 then 0x5A
  else if protocolVersion ≥ 762 then 0x58
  else if protocolVersion = 761 then 0x54
  else 0x56

def encodeWithVersion (p : ScoreboardObjectivePacket) (protocolVersion : Int) : RawPacket :=
  ⟨packetIdForVersion protocolVersion, putString p.name ++ [p.action]⟩

def decode (packet : RawPacket) (protocolVersion : Int) : Outcome ProxyError ScoreboardObjectivePacket :=
  if packet.id ≠ packetIdForVersion protocolVersion then .err (.invalidPacketId packet.id)
  else do
    let (packet, _) ← body packet.payload
    .ok packet
where
  body : Decoder ProxyError ScoreboardObjectivePacket := do
    let name ← readString "Unexpected EOF reading name in ScoreboardObjective"
      "Invalid UTF-8 in ScoreboardObjective name"
    need 1 "Unexpected EOF reading action in ScoreboardObjective"
    let action ← Decoder.getU8
    pure ⟨name, action⟩

theorem decode_name_length {packet : RawPacket} {v : Int} {obj : ScoreboardObjectivePacket}
    (h : decode packet v = .ok obj) : (asBytes obj.name).length < 2 ^ 31 := by
  unfold decode at h
  split at h
  · cases h
  · obtain ⟨⟨obj', _⟩, hbody, hobj⟩ := Outcome.bind_eq_ok.mp h
    obtain ⟨⟨name, _⟩, hname, hbody⟩ := Outcome.bind_eq_ok.mp hbody
    obtain ⟨⟨_, _⟩, -, hbody⟩ := Outcome.bind_eq_ok.mp hbody
    obtain ⟨⟨action, _⟩, -, hbody⟩ := Outcome.bind_eq_ok.mp hbody
    cases hbody
    cases hobj
    exact readString_length_lt hname

theorem decode_encode {v : Int} {p : ScoreboardObjectivePacket} (h : StringFits p.name) :
    decode (p.encodeWithVersion v) v = .ok p := by
  rw [decode, encodeWithVersion, if_neg (not_not_intro rfl), decode.body]
  simp only [Decoder.bind_apply, readString_putString _ _ h, Outcome.ok_bind, need_one, Decoder.getU8_cons,
    Decoder.pure_apply]

end ScoreboardObjectivePacket

structure DisplayObjectivePacket where
  position : Int32
  name : String
  deriving DecidableEq

namespace DisplayObjectivePacket

def clear (position : Int32) : DisplayObjectivePacket := ⟨position, ""⟩

def packetIdForVersion (protocolVersion : Int) : Int32 :=
  if protocolVersion ≥ 776 then 0x62
  else if protocolVersion ≥ 768 then 0x5C
  else if protocolVersion ≥ 766 then 0x57
  else if protocolVersion ≥ 765 then 0x55
  else if protocolVersion ≥ 764 then 0x53
  else if protocolVersion ≥ 762 then 0x51
  else if protocolVersion = 761 then 0x4D
  else 0x4F

def encodeWithVersion (p : DisplayObjectivePacket) (protocolVersion : Int) : RawPacket :=
  ⟨packetIdForVersion protocolVersion, encodeVarint p.position ++ putString p.name⟩

def decode (packet : RawPacket) (protocolVersion : Int) : Outcome ProxyError DisplayObjectivePacket :=
  if packet.id ≠ packetIdForVersion protocolVersion then .err (.invalidPacketId packet.id)
  else do
    let (position, cursor) ← decodeVarint packet.payload
    let (name, _) ← readString "Unexpected EOF reading name in DisplayObjective"
      "Invalid UTF-8 in DisplayObjective name" cursor
    .ok ⟨position, name⟩

theorem decode_encode {v : Int} {p : DisplayObjectivePacket} (h : StringFits p.name) :
    decode (p.encodeWithVersion v) v = .ok p := by
  rw [decode, encodeWithVersion, if_neg (not_not_intro rfl), decodeVarint_encodeVarint, Outcome.ok_bind]
  dsimp only
  rw [readString_putString_nil _ _ h]
  rfl

end DisplayObjectivePacket

def isOpenWindowPacket (id : Int32) (protocolVersion : Int) : Bool :=
  if protocolVersion ≥ 776 then id == 0x3B
  else if protocolVersion ≥ 768 then id == 0x35
  else if protocolVersion ≥ 766 then id == 0x33
  else if protocolVersion ≥ 764 then id == 0x31
  else if protocolVersion ≥ 762 then id == 0x30
  else if protocolVersion = 761 then id == 0x2D
  else id == 0x2E

def isSoundPacket (id : Int32) (protocolVersion : Int) : Bool :=
  if protocolVersion ≥ 776 then id == 0x75 || id == 0x74
  else if protocolVersion ≥ 768 then id == 0x6F || id == 0x6E
  else if protocolVersion ≥ 766 then id == 0x68 || id == 0x67
  else if protocolVersion ≥ 765 then id == 0x66 || id == 0x65
  else if protocolVersion ≥ 764 then id == 0x64 || id == 0x63
  else id == 0x61 || id == 0x60

def isServerboundCloseContainerPacket (id : Int32) (protocolVersion : Int) : Bool :=
  if protocolVersion ≥ 776 then id == 0x13
  else if protocolVersion ≥ 768 then id == 0x11
  else if protocolVersion ≥ 766 then id == 0x0F
  else if protocolVersion ≥ 764 then id == 0x0E
  else if protocolVersion ≥ 762 then id == 0x0D
  else id == 0x0C || id == 0x0A || id == 0x09

end FrameMC

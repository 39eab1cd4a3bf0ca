import FrameMC.Crypto.MojangAuth

/-!
# The packets of the Login state

`src/protocol/login.rs`.
-/

namespace FrameMC

open ByteStream

/-! ## LoginStart -/

/-- `{:?}` of a byte taken as a character. -/
def debugChar (b : UInt8) : String :=
  let shown :=
    if b = 0 then "\\0"
    else if b = 0x09 then "\\t"
    else if b = 0x0A then "\\n"
    else if b = 0x0D then "\\r"
    else if b = 0x27 then "\\'"
    else if b = 0x5C then "\\\\"
    else if b < 0x20 ∨ (0x7F ≤ b ∧ b ≤ 0xA0) ∨ b = 0xAD then
      "\\u\x7b" ++ String.ofList (Nat.toDigits 16 b.toNat) ++ "\x7d"
    else String.singleton (Char.ofNat b.toNat)
  "'" ++ shown ++ "'"

/-- `[a-zA-Z0-9_]`. -/
def isNameByte (b : UInt8) : Bool :=
  (0x30 ≤ b && b ≤ 0x39) || (0x41 ≤ b && b ≤ 0x5A) || (0x61 ≤ b && b ≤ 0x7A) || b == 0x5F

structure LoginStartPacket where
  username : String
  playerUuid : Uuid
  deriving DecidableEq

namespace LoginStartPacket

def decode (packet : RawPacket) : Outcome ProxyError LoginStartPacket :=
  if packet.id ≠ 0x00 then .err (.invalidPacketId packet.id)
  else do
    let (packet, _) ← body packet.payload
    .ok packet
where
  body : Decoder ProxyError LoginStartPacket := do
    let nameLen ← decodeVarint
    if ¬ (1 ≤ nameLen ∧ nameLen ≤ 16) then
      Decoder.fail (.io .invalidData s!"Username byte length {nameLen} is out of bounds (1..=16)")
    else do
      need (asUsize nameLen) "unexpected EOF reading username"
      let nameBytes ← Decoder.slice (asUsize nameLen)
      match nameBytes.find? fun b => ! isNameByte b with
      | some b => Decoder.fail (.io .invalidData ("Invalid character in username: " ++ debugChar b))
      | none => do
        let username ← Decoder.lift
          (Outcome.ofOption (.io .invalidData "invalid UTF-8 in username") (fromUtf8 nameBytes))
        Decoder.advance (asUsize nameLen)
        let remaining ← Decoder.remaining
        let playerUuid ← if remaining ≥ 16 then getUuid else pure Uuid.nil
        pure ⟨username, playerUuid⟩

def encode (p : LoginStartPacket) : RawPacket := ⟨0x00, putString p.username ++ p.playerUuid.val⟩

end LoginStartPacket

/-! ## Encryption -/

structure EncryptionRequestPacket where
  serverId : String
  publicKey : List UInt8
  verifyToken : List UInt8
  shouldAuthenticate : Bool
  deriving DecidableEq

namespace EncryptionRequestPacket

def new (serverId : String) (publicKey verifyToken : List UInt8) : EncryptionRequestPacket :=
  ⟨serverId, publicKey, verifyToken, true⟩

def encodeWithVersion (p : EncryptionRequestPacket) (protocolVersion : Int) : RawPacket :=
  ⟨0x01, putString p.serverId ++ putBytes p.publicKey ++ putBytes p.verifyToken ++
    if protocolVersion ≥ 766 then [if p.shouldAuthenticate then 1 else 0] else []⟩

def decode (packet : RawPacket) : Outcome ProxyError EncryptionRequestPacket :=
  if packet.id ≠ 0x01 then .err (.invalidPacketId packet.id)
  else do
    let (packet, _) ← body packet.payload
    .ok packet
where
  body : Decoder ProxyError EncryptionRequestPacket := do
    let serverId ← readString "unexpected EOF reading server_id" "invalid UTF-8 in server_id"
    let publicKey ← readBytes "unexpected EOF reading public_key"
    let verifyToken ← readBytes "unexpected EOF reading verify_token"
    let remaining ← Decoder.remaining
    if remaining > 0 then do
      let shouldAuthenticate ← Decoder.getU8
      pure ⟨serverId, publicKey, verifyToken, shouldAuthenticate ≠ 0⟩
    else pure ⟨serverId, publicKey, verifyToken, true⟩

end EncryptionRequestPacket

structure EncryptionResponsePacket where
  sharedSecret : List UInt8
  verifyToken : List UInt8
  deriving DecidableEq

def EncryptionResponsePacket.encode (p : EncryptionResponsePacket) : RawPacket :=
  ⟨0x01, putBytes p.sharedSecret ++ putBytes p.verifyToken⟩

def EncryptionResponsePacket.decode (packet : RawPacket) : Outcome ProxyError EncryptionResponsePacket :=
  if packet.id ≠ 0x01 then .err (.invalidPacketId packet.id)
  else do
    let (packet, _) ← body packet.payload
    .ok packet
where
  body : Decoder ProxyError EncryptionResponsePacket := do
    let sharedSecret ← readBytes "unexpected EOF reading encrypted shared_secret"
    let verifyToken ← readBytes "unexpected EOF reading encrypted verify_token"
    pure ⟨sharedSecret, verifyToken⟩

/-! ## LoginSuccess -/

structure LoginSuccessPacket where
  uuid : Uuid
  username : String
  properties : List ProfileProperty
  sessionId : Option Uuid
  deriving DecidableEq

/-- A packet in a frame without compression. -/
def encodeFramePacket (packet : RawPacket) : List UInt8 :=
  let idLen := varintSize packet.id
  let totalLength := idLen + packet.payload.length
  encodeVarint (asI32 totalLength) ++ encodeVarint packet.id ++ packet.payload

/-- A property, and its signature behind a flag. -/
def putProperty (prop : ProfileProperty) : List UInt8 :=
  putString prop.name ++ putString prop.value ++ match prop.signature with
    | some signature => 1 :: putString signature
    | none => [0]

namespace LoginSuccessPacket

/-- `newV4` is the session id made up where none is given. -/
def encodeWithVersion (newV4 : Uuid) (p : LoginSuccessPacket) (protocolVersion : Int) : RawPacket :=
  if protocolVersion ≥ 707 then
    ⟨0x02, p.uuid.val ++ putString p.username ++ encodeVarint (asI32 p.properties.length) ++
      p.properties.flatMap putProperty ++
      if protocolVersion ≥ 776 then (p.sessionId.getD newV4).val else []⟩
  else ⟨0x02, putString p.uuid.hyphenated ++ putString p.username⟩

/-- `for _ in 0..prop_count`. -/
def readProperties : Nat → Decoder ProxyError (List ProfileProperty)
  | 0 => pure []
  | n + 1 => do
    let name ← readString "EOF reading property name" "invalid UTF-8 in property name"
    let value ← readString "EOF reading property value" "invalid UTF-8 in property value"
    need 1 "EOF reading property is_signed"
    let isSigned ← Decoder.getU8
    let signature ← if isSigned ≠ 0 then
        some <$> readString "EOF reading property signature" "invalid UTF-8 in property signature"
      else pure none
    let properties ← readProperties n
    pure (⟨name, value, signature⟩ :: properties)

def decodeWithVersion (packet : RawPacket) (protocolVersion : Int) : Outcome ProxyError LoginSuccessPacket :=
  if packet.id ≠ 0x02 then .err (.invalidPacketId packet.id)
  else do
    let (packet, _) ← body packet.payload
    .ok packet
where
  readUuid : Decoder ProxyError Uuid :=
    if protocolVersion ≥ 707 then do
      need 16 "unexpected EOF reading UUID bytes"
      getUuid
    else do
      let text ← readString "unexpected EOF reading UUID string" "invalid UTF-8 in UUID string"
      Decoder.lift (Outcome.ofOption (.io .invalidData "invalid UUID format") (Uuid.parseStr text))
  properties : Decoder ProxyError (List ProfileProperty) := do
    let remaining ← Decoder.remaining
    if protocolVersion ≥ 759 ∧ remaining > 0 then do
      let propCount ← decodeVarint
      if propCount < 0 then Decoder.fail (.io .invalidData "negative property count")
      else readProperties (asUsize propCount)
    else pure []
  readSessionId : Decoder ProxyError (Option Uuid) :=
    if protocolVersion ≥ 776 then do
      need 16 "unexpected EOF reading session_id in LoginSuccess"
      some <$> getUuid
    else pure none
  body : Decoder ProxyError LoginSuccessPacket := do
    let uuid ← readUuid
    let username ← readString "unexpected EOF reading username" "invalid UTF-8 in username"
    let properties ← properties
    let sessionId ← readSessionId
    let remaining ← Decoder.remaining
    if remaining > 0 then
      Decoder.fail (.io .invalidData s!"Unexpected trailing data ({remaining} bytes) in LoginSuccess packet")
    else pure ⟨uuid, username, properties, sessionId⟩

def encodeFrameWithVersion (newV4 : Uuid) (p : LoginSuccessPacket) (protocolVersion : Int) : List UInt8 :=
  encodeFramePacket (encodeWithVersion newV4 p protocolVersion)

/-- Whatever follows the id is the payload: the length is only a lower bound. -/
def decodeFrameWithVersion (frame : List UInt8) (protocolVersion : Int) : Outcome ProxyError LoginSuccessPacket := do
  let (raw, _) ← body frame
  decodeWithVersion raw protocolVersion
where
  body : Decoder ProxyError RawPacket := do
    let totalLength ← decodeVarint
    need (asUsize totalLength) "unexpected EOF reading framed packet"
    let packetId ← decodeVarint
    if packetId ≠ 0x02 then Decoder.fail (.invalidPacketId packetId)
    else do
      let payload ← Decoder.takeRest
      pure ⟨packetId, payload⟩

end LoginSuccessPacket

def encodeLoginSuccessWithSession (newV4 : Uuid) (profile : PlayerProfile) (sessionId : Option Uuid)
    (protocolVersion : Int) : RawPacket :=
  LoginSuccessPacket.encodeWithVersion newV4 ⟨profile.id, profile.name, profile.properties, sessionId⟩
    protocolVersion

/-! ## LoginAcknowledged -/

structure LoginAcknowledgedPacket where

namespace LoginAcknowledgedPacket

def decode (packet : RawPacket) : Outcome ProxyError LoginAcknowledgedPacket :=
  if packet.id ≠ 0x03 then .err (.invalidPacketId packet.id) else .ok ⟨⟩

def encode (_ : LoginAcknowledgedPacket) : RawPacket := ⟨0x03, []⟩

end LoginAcknowledgedPacket

end FrameMC

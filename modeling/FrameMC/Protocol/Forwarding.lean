import FrameMC.Config
import FrameMC.Network.Peer
import FrameMC.Protocol.Handshake
import FrameMC.Protocol.Login

/-!
# Forwarding to a backend

`src/protocol/forwarding.rs`: what the proxy tells a backend about the player,
in the handshake address (BungeeCord) or in the answer to a login plugin
request (Velocity), and the connection that starts with it.
-/

namespace FrameMC

open ByteStream

/-! ## Login plugin messages -/

def velocityForwardingChannel : String := "velocity:player_info"

def velocityForwardingVersion : Int32 := 4

structure LoginPluginRequestPacket where
  messageId : Int32
  channel : String
  data : List UInt8
  deriving DecidableEq

namespace LoginPluginRequestPacket

def encode (p : LoginPluginRequestPacket) : RawPacket :=
  ⟨0x04, encodeVarint p.messageId ++ putString p.channel ++ p.data⟩

def decode (packet : RawPacket) : Outcome ProxyError LoginPluginRequestPacket :=
  if packet.id ≠ 0x04 then .err (.invalidPacketId packet.id)
  else do
    let (packet, _) ← body packet.payload
    .ok packet
where
  body : Decoder ProxyError LoginPluginRequestPacket := do
    let messageId ← decodeVarint
    let channel ← readString "unexpected EOF reading channel in LoginPluginRequest" "invalid UTF-8 in channel"
    let data ← Decoder.takeRest
    pure ⟨messageId, channel, data⟩

end LoginPluginRequestPacket

structure LoginPluginResponsePacket where
  messageId : Int32
  successful : Bool
  data : List UInt8
  deriving DecidableEq

def LoginPluginResponsePacket.encode (p : LoginPluginResponsePacket) : RawPacket :=
  ⟨0x02, encodeVarint p.messageId ++ (if p.successful then 1 :: p.data else [0])⟩

def LoginPluginResponsePacket.decode (packet : RawPacket) : Outcome ProxyError LoginPluginResponsePacket :=
  if packet.id ≠ 0x02 then .err (.invalidPacketId packet.id)
  else do
    let (packet, _) ← body packet.payload
    .ok packet
where
  body : Decoder ProxyError LoginPluginResponsePacket := do
    let messageId ← decodeVarint
    need 1 "unexpected EOF reading successful flag in LoginPluginResponse"
    let successful ← Decoder.getU8
    let data ← Decoder.takeRest
    pure ⟨messageId, successful ≠ 0, if successful ≠ 0 then data else []⟩

/-! ## The player's data -/

/-- Functions of third-party crates: `serde_json` for a text component and for
properties, lower-casing, lossy UTF-8 decoding, HMAC-SHA256 of a key and a
payload, SHA-1, and version-3 UUIDs in the OID namespace. -/
structure Library where
  textJson : String → String
  propertiesJson : List ProfileProperty → Except String String
  toLowercase : String → String
  fromUtf8Lossy : List UInt8 → String
  hmacSha256 : List UInt8 → List UInt8 → Except String { signature : List UInt8 // signature.length = 32 }
  sha1 : List UInt8 → { hash : List UInt8 // hash.length = 20 }
  newV3 : List UInt8 → Uuid

def createVelocityForwardingPayload (profile : PlayerProfile) (clientIp : String) : List UInt8 :=
  encodeVarint velocityForwardingVersion ++ putString clientIp ++ profile.id.val ++ putString profile.name ++
    encodeVarint (asI32 profile.properties.length) ++ profile.properties.flatMap putProperty

def calculateVelocityHmac (lib : Library) (secret payload : List UInt8) : Outcome ProxyError (List UInt8) :=
  match lib.hmacSha256 secret payload with
  | .ok signature => .ok signature.val
  | .error e => .err (.cryptoError ("Invalid HMAC-SHA256 key: " ++ e))

def createVelocityResponseData (lib : Library) (secret : String) (profile : PlayerProfile) (clientIp : String) :
    Outcome ProxyError (List UInt8) := do
  let payload := createVelocityForwardingPayload profile clientIp
  let hmacSig ← calculateVelocityHmac lib (asBytes secret) payload
  .ok (hmacSig ++ payload)

def createBungeecordHandshakeAddress (lib : Library) (targetHost clientIp : String) (profile : PlayerProfile) :
    Outcome ProxyError String :=
  match lib.propertiesJson profile.properties with
  | .ok json => .ok (targetHost ++ "\x00" ++ clientIp ++ "\x00" ++ profile.id.simple ++ "\x00" ++ json)
  | .error e =>
    .err (.configError ("Failed to serialize profile properties for BungeeCord forwarding: " ++ e))

/-! ## The conversation -/

/-- `{:02X}` of an `i32`. -/
def hexUpper (x : Int32) : String :=
  let digits := (Nat.toDigits 16 x.toUInt32.toNat).map Char.toUpper
  String.ofList (if digits.length < 2 then '0' :: digits else digits)

def onlineModeBackend : String :=
  "Downstream backend server has online-mode=true enabled! Set online-mode=false in the backend server configuration."

/-- The answer to the backend's plugin request. -/
def forwardVelocity (lib : Library) (secret : String) (profile : PlayerProfile) (clientIp : String) : Talk Unit := do
  let incoming ← Talk.readWithin none
    (.backendConnectionFailed "Timeout waiting for backend forwarding response")
  if incoming.id = 0x04 then do
    let req ← Talk.lift (LoginPluginRequestPacket.decode incoming)
    if req.channel = velocityForwardingChannel then do
      let forwardingData ← Talk.lift (createVelocityResponseData lib secret profile clientIp)
      Talk.write (LoginPluginResponsePacket.encode ⟨req.messageId, true, forwardingData⟩) none .own
    else Effect.throw (.authenticationFailed ("Unexpected LoginPluginRequest channel: '" ++ req.channel ++
      "', expected '" ++ velocityForwardingChannel ++ "'"))
  else if incoming.id = 0x01 then Effect.throw (.authenticationFailed onlineModeBackend)
  else if incoming.id = 0x00 then Effect.throw (.authenticationFailed
    ("Backend rejected connection during login: " ++ lib.fromUtf8Lossy incoming.payload))
  else Effect.throw (.authenticationFailed
    ("Expected LoginPluginRequest (0x04) from backend, got packet 0x" ++ hexUpper incoming.id))

/-- The address in the handshake, according to the forwarding mode. -/
def handshakeAddress (lib : Library) (backend : BackendConfig) (profile : PlayerProfile) (clientIp : String) :
    Outcome ProxyError String :=
  match backend.forwardingMode with
  | .legacyBungee => createBungeecordHandshakeAddress lib backend.address clientIp profile
  | .velocityModern => .ok backend.address
  | .none => .ok backend.address

def dispatchForwarding (lib : Library) (backend : BackendConfig) (profile : PlayerProfile) (clientIp : String)
    (protocolVersion : Int32) : Talk Unit := do
  let handshakeAddr ← Talk.lift (handshakeAddress lib backend profile clientIp)
  Talk.write (HandshakePacket.encode ⟨protocolVersion, handshakeAddr, backend.port, .login⟩) none .own
  Talk.write (LoginStartPacket.encode ⟨profile.name, profile.id⟩) none .own
  if backend.forwardingMode = .velocityModern then
    match backend.forwardingSecret with
    | none => Effect.throw (.configError ("Backend server at " ++ backend.address ++ ":" ++
        toString backend.port.toNat ++ " requires 'forwarding_secret' for velocity_modern forwarding"))
    | some secret => forwardVelocity lib secret profile clientIp
  else pure ()

/-- What `TcpStream::connect` comes to within ten seconds. -/
inductive Dial where
  | timedOut
  | refused (kind : IoErrorKind) (message : String)
  | connected (fate : Nat → WriteFate) (reads : List PeerRead)

/-- What a conversation with a backend comes to, and the connection, if one was made. -/
inductive Reached (α : Type) where
  | ok (a : α) (peer : Peer)
  | failed (e : ProxyError) (dropped : Option Peer)

/-- Go on talking on a connection that was made. -/
def Reached.andThen {α β : Type} (reached : Reached α) (talk : α → Talk β) : Reached β :=
  match reached with
  | .failed e dropped => .failed e dropped
  | .ok a peer => match talk a peer with
    | (.ok b, peer) => .ok b peer
    | (.error e, peer) => .failed e (some peer)

/-- `dial` is the network: what connecting to an address comes to. -/
def connectAndForward (lib : Library) (dial : String → Dial) (backend : BackendConfig) (profile : PlayerProfile)
    (clientIp : String) (protocolVersion : Int32) : Reached Unit :=
  let target := backend.address ++ ":" ++ toString backend.port.toNat
  match dial target with
  | .timedOut => .failed (.backendConnectionFailed ("Connection to backend " ++ target ++ " timed out")) none
  | .refused kind message =>
    .failed (.io kind ("Failed to connect to backend server at " ++ target ++ ": " ++ message)) none
  | .connected fate reads => (Reached.ok () (.connected fate reads)).andThen fun _ =>
    dispatchForwarding lib backend profile clientIp protocolVersion

end FrameMC

import FrameMC.Protocol.Forwarding
import FrameMC.Routing.StateMachine

/-!
# From the handshake to the Play state

`handle_login_auth` and `process_connection` of `src/network/listener.rs`: the
client logs in, the proxy connects to the backend and logs in there, the two
are bridged through the Configuration state, and the Play state machine takes
over. As in the state machine, flushes whose result is ignored are left out.
The server list ping is not modelled.
-/

namespace FrameMC

open ByteStream

/-! ## The surroundings -/

/-- What `tokio::select!` finds ready. -/
inductive Turn where
  | client
  | backend
  | shutdown
  deriving DecidableEq, Repr

/-- The outside world as one step meets it: third-party functions, the scripts, the network. -/
structure World where
  lib : Library
  scriptHost : ScriptHost
  dial : String → Dial

/-- What a connection meets on its way to the Play state. RSA decryption may
fail or bring its task down, with `joinError`; `verifySession` is the request
to the session server, with the username, the server hash, the client's
address and the URL. `turns` is the order in which the Configuration loop
finds its peers ready. -/
structure LoginEnv extends World where
  config : ProxyConfig
  clientIp : String
  publicKeyDer : List UInt8
  rsaDecrypt : List UInt8 → Outcome ProxyError (List UInt8)
  joinError : String
  verifyToken : { token : List UInt8 // token.length = 4 }
  verifySession : String → String → String → String → Except ProxyError PlayerProfile
  newV4 : Uuid
  hashers : Hashers
  shutdownAtAck : Bool
  turns : List Turn

/-- A connection to a client, and the key it is encrypted with if it is. -/
structure ActiveStream where
  peer : Peer
  secret : Option (List UInt8)

abbrev Accept (α : Type) : Type := Effect ActiveStream ProxyError α

def onStream {α : Type} (m : Talk α) : Accept α :=
  Effect.focus ActiveStream.peer (fun s peer => { s with peer := peer }) m

/-- `EncryptedStream::new`. -/
def encrypt (secret : List UInt8) : Accept Unit := Effect.modify fun s => { s with secret := some secret }

/-- A time limit of ten seconds has run out. -/
def timedOut (text : String) : ProxyError := .io .timedOut text

/-- Tell the client why it is turned away; whether that goes out does not matter. -/
def sendDisconnect (packet : RawPacket) (threshold : Option Nat) : Talk Unit :=
  Effect.attempt (Talk.write packet threshold .own)

def loginDisconnect (lib : Library) (reason : String) : RawPacket :=
  DisconnectPacket.encodeLogin lib.textJson ⟨reason⟩

/-! ## Authentication -/

def constantTimeEq (a b : List UInt8) : Bool :=
  if a.length ≠ b.length then false
  else (a.zip b).foldl (fun diff xy => diff ||| (xy.1 ^^^ xy.2)) 0 == 0

def eqIgnoreAsciiCase (a b : String) : Bool := a.toLower == b.toLower

/-- The encryption handshake of `handle_login_auth`: the shared secret. -/
def agreeSecret (env : LoginEnv) (protocolVersion : Int) : Accept (List UInt8) := do
  let encReq := EncryptionRequestPacket.new "" env.publicKeyDer env.verifyToken.val
  onStream (Talk.write (encReq.encodeWithVersion protocolVersion) none .own)
  let respRaw ← onStream (Talk.readWithin none (timedOut "EncryptionResponse read timed out"))
  let encResp ← Talk.lift (EncryptionResponsePacket.decode respRaw)
  match env.rsaDecrypt encResp.sharedSecret, env.rsaDecrypt encResp.verifyToken with
  | .ok decryptedSecret, .ok decryptedToken =>
    if ¬ constantTimeEq decryptedToken env.verifyToken.val then
      Effect.throw (.authenticationFailed "Encryption verification token mismatch")
    else if decryptedSecret.length ≠ 16 then
      Effect.throw (.authenticationFailed
        s!"Invalid shared secret length: {decryptedSecret.length} bytes (expected 16)")
    else pure decryptedSecret
  | .panic, _ => Effect.throw (.cryptoError ("RSA decryption task panicked: " ++ env.joinError))
  | _, .panic => Effect.throw (.cryptoError ("RSA decryption task panicked: " ++ env.joinError))
  | .err e, _ => Effect.throw e
  | _, .err e => Effect.throw e

/-- The rest of `handle_login_auth` in online mode. -/
def verifyProfile (env : LoginEnv) (username : String) (secret : List UInt8) : Accept PlayerProfile := do
  let serverHash := mojangSha1Digest env.lib.sha1 "" secret env.publicKeyDer
  let endpointUrl := env.config.sessionServerUrl.getD defaultMojangSessionServer
  match env.verifySession username serverHash env.clientIp endpointUrl with
  | .error e => do
    encrypt secret
    onStream (sendDisconnect (loginDisconnect env.lib ("§cFailed to verify username: " ++ e.display)) none)
    Effect.throw e
  | .ok verifiedProfile =>
    if ¬ eqIgnoreAsciiCase verifiedProfile.name username then
      Effect.throw (.authenticationFailed ("Username mismatch: client requested '" ++ username ++
        "', Mojang authenticated as '" ++ verifiedProfile.name ++ "'"))
    else do
      let s ← Effect.get
      match s.secret with
      | some _ => Effect.throw (.authenticationFailed "Stream is already encrypted")
      | none => do
        encrypt secret
        pure verifiedProfile

def handleLoginAuth (env : LoginEnv) (handshake : HandshakePacket) : Accept PlayerProfile := do
  let rawPacket ← onStream (Talk.readWithin none (timedOut "LoginStart read timed out"))
  let loginStart ← Talk.lift (LoginStartPacket.decode rawPacket)
  if env.config.onlineMode then do
    let secret ← agreeSecret env handshake.protocolVersion.toInt
    verifyProfile env loginStart.username secret
  else pure (offlineProfile env.lib.newV3 loginStart.username)

/-! ## The target server -/

/-- The player and where they are to go. -/
structure Admission where
  profile : PlayerProfile
  targetServerName : String
  backendConfig : BackendConfig

/-- The join hooks and the choice of the server. -/
def chooseServer (env : LoginEnv) (protocolVersion : Int) (profile : PlayerProfile) : Accept Admission := do
  let joinDecision := env.scriptHost.evalJoin
    ⟨profile.name, profile.id.hyphenated, env.clientIp, protocolVersion⟩
  if joinDecision.allow = false then do
    let reason :=
      if joinDecision.disconnectReason = "" then "Disconnected by proxy script" else joinDecision.disconnectReason
    onStream (sendDisconnect (loginDisconnect env.lib reason) none)
    Effect.throw (.authenticationFailed "Rejected by script")
  else do
    let targetServerName :=
      if joinDecision.targetServer ≠ "" ∧ (env.config.servers.lookup joinDecision.targetServer).isSome then
        joinDecision.targetServer
      else env.config.defaultServer
    match env.config.servers.lookup targetServerName with
    | some backendConfig => pure ⟨profile, targetServerName, backendConfig⟩
    | none => do
      onStream (Effect.attempt (Talk.write
        (encodeLoginSuccessWithSession env.newV4 profile (some env.newV4) protocolVersion) none .own))
      onStream (sendDisconnect (DisconnectPacket.encodeForClient env.lib.textJson
        ⟨"§cTarget server '" ++ targetServerName ++ "' not configured"⟩ protocolVersion true) none)
      Effect.throw (.configError ("Target server '" ++ targetServerName ++ "' not found"))

def logIn (env : LoginEnv) (handshake : HandshakePacket) : Accept Admission := do
  let profile ← handleLoginAuth env handshake
  chooseServer env handshake.protocolVersion.toInt profile

/-! ## Both peers -/

/-- A client and the backend it is being connected to. -/
structure Linked where
  client : ActiveStream
  backend : Peer

/-- Why a connection is over before the Play state. -/
inductive Exit where
  | failed (e : ProxyError)
  | ended
  /-- The client asked for the server list. -/
  | status
  /-- It is not over: nothing more has happened. -/
  | waiting

abbrev Bridge (α : Type) : Type := Effect Linked Exit α

def onClient {α : Type} (m : Talk α) : Bridge α :=
  (Effect.focus (fun s => s.client.peer) (fun s peer => { s with client := { s.client with peer := peer } }) m).handle
    fun e => Effect.throw (.failed e)

/-- On the backend, and what to do if that fails. -/
def onBackendOr {α : Type} (m : Talk α) (h : ProxyError → Bridge α) : Bridge α :=
  (Effect.focus Linked.backend (fun s peer => { s with backend := peer }) m).handle h

def onBackend {α : Type} (m : Talk α) : Bridge α := onBackendOr m fun e => Effect.throw (.failed e)

/-- Turn the client away. -/
def refuse {α : Type} (packet : RawPacket) (threshold : Option Nat) (exit : Exit) : Bridge α := do
  onClient (sendDisconnect packet threshold)
  Effect.throw exit

/-- A packet the backend must send next, or the client is told that it is lost. -/
def expectBackend (lib : Library) (threshold : Option Nat) : Bridge RawPacket :=
  onBackendOr (Talk.read threshold) fun e =>
    refuse (loginDisconnect lib ("§cBackend connection lost: " ++ e.display)) threshold (.failed e)

def negativeThreshold : ProxyError := .io .invalidData "Negative compression threshold from backend"

/-- The backend's answer to the login, behind a SetCompression if it sends one. -/
def negotiate (lib : Library) : Bridge (Option Nat × RawPacket) := do
  let backendLoginPkt ← expectBackend lib none
  if backendLoginPkt.id = 0x03 then do
    let thresh ← onClient (Talk.lift (decodeVarint backendLoginPkt.payload))
    if thresh.1 < 0 then Effect.throw (.failed negativeThreshold)
    else do
      let compressionThreshold := some (asUsize thresh.1)
      onClient (Talk.write backendLoginPkt none .relayed)
      let backendLoginPkt ← expectBackend lib compressionThreshold
      pure (compressionThreshold, backendLoginPkt)
  else pure (none, backendLoginPkt)

def encryptedBackend : String :=
  "Downstream backend server has online-mode or encryption enabled! Set encryption=false in the backend server configuration."

/-- Anything but a LoginSuccess turns the client away. -/
def checkAccepted (lib : Library) (threshold : Option Nat) (packet : RawPacket) : Bridge Unit :=
  if packet.id = 0x01 then
    refuse (loginDisconnect lib ("§c" ++ encryptedBackend)) threshold
      (.failed (.authenticationFailed encryptedBackend))
  else if packet.id = 0x00 then
    let reason := lib.fromUtf8Lossy packet.payload
    refuse (loginDisconnect lib reason) threshold
      (.failed (.authenticationFailed ("Backend disconnected during login: " ++ reason)))
  else if packet.id ≠ 0x02 then
    refuse (loginDisconnect lib ("§cBackend sent unexpected login packet 0x" ++ hexUpper packet.id)) threshold
      (.failed (.invalidPacketId packet.id))
  else pure ()

/-- The client's own LoginSuccess, with the backend's session id if it has one. -/
def sendLoginSuccess (newV4 : Uuid) (profile : PlayerProfile) (protocolVersion : Int) (threshold : Option Nat)
    (packet : RawPacket) : Bridge Unit := do
  let backendSuccess := (LoginSuccessPacket.decodeWithVersion packet protocolVersion).toOption
  let sessionId := (backendSuccess.bind (·.sessionId)).getD newV4
  onClient (Talk.write (encodeLoginSuccessWithSession newV4 profile (some sessionId) protocolVersion) threshold .own)
  onClient Talk.flush

def shutdownNotice (lib : Library) (protocolVersion : Int) : RawPacket :=
  DisconnectPacket.encodeForClient lib.textJson ⟨"§cServer is shutting down"⟩ protocolVersion true

/-- The client's LoginAcknowledged, passed on to the backend. -/
def acknowledge (env : LoginEnv) (protocolVersion : Int) (threshold : Option Nat) : Bridge Unit := do
  if env.shutdownAtAck then refuse (shutdownNotice env.lib protocolVersion) threshold .ended
  else do
    let clientAckRaw ← onClient (Talk.readWithin threshold (timedOut "LoginAcknowledged read timed out"))
    let ack ← onClient (Talk.lift (LoginAcknowledgedPacket.decode clientAckRaw))
    onBackend (Talk.write ack.encode threshold .own)

/-! ## Configuration -/

/-- Where the Configuration loop stands. -/
structure Bridging where
  clientFinished : Bool
  backendFinished : Bool
  cache : SessionRegistryCache

/-- What a backend packet changes in the loop's variables. -/
def noteConfiguration (protocolVersion : Int) (packet : RawPacket) (b : Bridging) : Bridging :=
  { b with
    cache := if packet.id = registryDataPacketId ∨ (protocolVersion < 766 ∧ packet.id = 0x05) then
        (b.cache.cachePacket packet).2
      else b.cache
    backendFinished := packet.id = finishId protocolVersion ∨ b.backendFinished }

/-- One round of the Configuration loop. -/
def bridgeTurn (lib : Library) (protocolVersion : Int) (threshold : Option Nat) (b : Bridging) :
    Turn → Bridge Bridging
  | .backend => do
    let packet ← onBackend (Talk.read threshold)
    if isProtectedPluginChannel packet then pure b
    else do
      onClient (Talk.write packet threshold .relayed)
      if packet.id = disconnectId protocolVersion then Effect.throw .ended
      else pure (noteConfiguration protocolVersion packet b)
  | .client => do
    let packet ← onClient (Talk.read threshold)
    if isProtectedPluginChannel packet then pure b
    else do
      onBackend (Talk.write packet threshold .relayed)
      if (protocolVersion ≥ 766 ∧ packet.id = 0x03) ∨ (protocolVersion < 766 ∧ packet.id = 0x02) then
        pure { b with clientFinished := true }
      else pure b
  | .shutdown => refuse (shutdownNotice lib protocolVersion) threshold .ended

/-- The Configuration loop, until both sides have finished. -/
def bridge (lib : Library) (protocolVersion : Int) (threshold : Option Nat) :
    List Turn → Bridging → Bridge SessionRegistryCache
  | [], b => if b.clientFinished ∧ b.backendFinished then pure b.cache else Effect.throw .waiting
  | turn :: turns, b =>
    if b.clientFinished ∧ b.backendFinished then pure b.cache
    else do
      let b ← bridgeTurn lib protocolVersion threshold b turn
      bridge lib protocolVersion threshold turns b

/-- From the backend's first answer to the Play state: the threshold and the registries. -/
def settle (env : LoginEnv) (protocolVersion : Int) (profile : PlayerProfile) :
    Bridge (Option Nat × SessionRegistryCache) := do
  let (compressionThreshold, backendLoginPkt) ← negotiate env.lib
  checkAccepted env.lib compressionThreshold backendLoginPkt
  sendLoginSuccess env.newV4 profile protocolVersion compressionThreshold backendLoginPkt
  if protocolVersion ≥ 764 then do
    acknowledge env protocolVersion compressionThreshold
    let cache ← bridge env.lib protocolVersion compressionThreshold env.turns ⟨false, false, .new⟩
    pure (compressionThreshold, cache)
  else pure (compressionThreshold, .new)

/-! ## The whole way -/

/-- What becomes of a connection, and how its streams are left. -/
structure Processed where
  result : Except Exit PlayStateMachine
  client : ActiveStream
  backend : Option Peer

/-- The machine for a client and a backend that came through. -/
def enterPlay (env : LoginEnv) (protocolVersion : Int) (admission : Admission) (threshold : Option Nat)
    (cache : SessionRegistryCache) (s : Linked) : PlayStateMachine :=
  .new env.hashers s.client.peer.wire s.backend.wire
    { profile := admission.profile
      clientIp := env.clientIp
      protocolVersion := protocolVersion
      currentServer := admission.targetServerName
      registryCache := cache }
    env.config threshold

/-- The Login arm of `process_connection`. -/
def processLogin (env : LoginEnv) (handshake : HandshakePacket) (stream : ActiveStream) : Processed :=
  match logIn env handshake stream with
  | (.error e, client) => ⟨.error (.failed e), client, none⟩
  | (.ok admission, client) =>
    match connectAndForward env.lib env.dial admission.backendConfig admission.profile env.clientIp
        handshake.protocolVersion with
    | .failed e dropped =>
      let text := "§cCould not connect to " ++ admission.targetServerName ++ ": " ++ e.display
      let client := (onStream (sendDisconnect (loginDisconnect env.lib text) none) client).2
      ⟨.error (.failed e), client, dropped⟩
    | .ok () backend =>
      let protocolVersion := handshake.protocolVersion.toInt
      match settle env protocolVersion admission.profile ⟨client, backend⟩ with
      | (.error exit, s) => ⟨.error exit, s.client, some s.backend⟩
      | (.ok (threshold, cache), s) =>
        ⟨.ok (enterPlay env protocolVersion admission threshold cache s), s.client, some s.backend⟩

def readHandshake : Accept HandshakePacket := do
  let rawPacket ← onStream (Talk.readWithin none (timedOut "Handshake read timed out"))
  Talk.lift (HandshakePacket.decode rawPacket)

def processConnection (env : LoginEnv) (client : Peer) : Processed :=
  match readHandshake ⟨client, none⟩ with
  | (.error e, client) => ⟨.error (.failed e), client, none⟩
  | (.ok handshake, client) =>
    match handshake.nextState with
    | .status => ⟨.error .status, client, none⟩
    | .login => processLogin env handshake client
    | .handshake => ⟨.error (.failed (.invalidConnectionState 0)), client, none⟩
    | .configuration => ⟨.error (.failed (.invalidConnectionState 3)), client, none⟩
    | .play => ⟨.error (.failed (.invalidConnectionState 4)), client, none⟩
    | .closed => ⟨.error (.failed (.invalidConnectionState 5)), client, none⟩

/-! ## A small login -/

/-- A player who logs in, unencrypted and before the Configuration state, to a
backend that sets the threshold 256. -/
def smallLogin : LoginEnv where
  lib :=
    { textJson := fun text => "\x7b\"text\":\"" ++ text ++ "\"\x7d"
      propertiesJson := fun _ => .ok "[]"
      toLowercase := String.toLower
      fromUtf8Lossy := fun bytes => (fromUtf8 bytes).getD ""
      hmacSha256 := fun _ _ => .ok ⟨List.replicate 32 0, rfl⟩
      sha1 := fun _ => ⟨List.replicate 20 0, rfl⟩
      newV3 := fun _ => .nil }
  scriptHost := ⟨[], ⟨none, none, none⟩⟩
  dial := fun _ => .connected (fun _ => .done) [.packet ⟨0x03, encodeVarint 256⟩, .packet accepted]
  config :=
    { onlineMode := false
      sessionServerUrl := none
      servers := [("lobby", ⟨"127.0.0.1", 25566, .none, none⟩)]
      defaultServer := "lobby" }
  clientIp := "127.0.0.1"
  publicKeyDer := []
  rsaDecrypt := fun _ => .err (.cryptoError "RSA decryption failed")
  joinError := ""
  verifyToken := ⟨[1, 2, 3, 4], rfl⟩
  verifySession := fun _ _ _ _ => .error (.authenticationFailed "no session")
  newV4 := .nil
  hashers := ⟨plainHasher _, plainHasher _, plainHasher _⟩
  shutdownAtAck := false
  turns := []
where
  accepted : RawPacket := encodeLoginSuccessWithSession .nil ⟨.nil, "Steve", []⟩ none 763

/-- What the player's client sends. -/
def smallLoginReads : List PeerRead :=
  [.packet (HandshakePacket.encode ⟨763, "localhost", 25565, .login⟩),
    .packet (LoginStartPacket.encode ⟨"Steve", .nil⟩)]

end FrameMC

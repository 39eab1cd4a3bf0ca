import FrameMC.Network.Listener

/-!
# The Play loop

`TcpBackendConnector::connect` and `PlayStateMachine::run` of
`src/routing/state_machine.rs`. A run is given by what each round of its
`select!` comes to, and by the world as the round meets it.
-/

namespace FrameMC

open ByteStream

/-! ## Connecting to another backend -/

def encryptedTarget : String :=
  "Downstream backend server has online-mode or encryption enabled! Set online-mode=false in backend configuration."

/-- The backend's answer to the login, behind a SetCompression if it sends one. -/
def readLoginAnswer : Talk (Option Nat × RawPacket) := do
  let firstPkt ← Talk.read none
  if firstPkt.id = 0x03 then do
    let thresh ← Talk.lift (decodeVarint firstPkt.payload)
    if thresh.1 < 0 then Effect.throw negativeThreshold
    else do
      let threshold := some (asUsize thresh.1)
      let nextPkt ← Talk.read threshold
      pure (threshold, nextPkt)
  else pure (none, firstPkt)

/-- Log in to a backend: the threshold it has set. -/
def loginToBackend (lib : Library) (protocolVersion : Int) : Talk (Option Nat) := do
  let (compressionThreshold, loginPkt) ← readLoginAnswer
  if loginPkt.id = 0x01 then Effect.throw (.authenticationFailed encryptedTarget)
  else if loginPkt.id = 0x00 then
    Effect.throw (.authenticationFailed ("Backend rejected login: " ++ lib.fromUtf8Lossy loginPkt.payload))
  else if loginPkt.id ≠ 0x02 then Effect.throw (.invalidPacketId loginPkt.id)
  else if protocolVersion ≥ 764 then do
    Talk.write (LoginAcknowledgedPacket.encode ⟨⟩) compressionThreshold .own
    Talk.flush
    pure compressionThreshold
  else pure compressionThreshold

/-- `TcpBackendConnector::connect`. -/
def tcpConnect (world : World) (backendConfig : BackendConfig) (profile : PlayerProfile) (clientIp : String)
    (protocolVersion : Int) : Connected :=
  let reached := connectAndForward world.lib world.dial backendConfig profile clientIp (Int32.ofInt protocolVersion)
  match reached.andThen fun _ => loginToBackend world.lib protocolVersion with
  | .ok threshold peer => .ok ⟨peer.wire, threshold, peer.reads⟩
  | .failed e dropped => .failed e (dropped.toList.map (·.wire))

/-- The surroundings of a step of the machine; `connect` is asked for configured servers only. -/
def World.env (world : World) (s : PlayStateMachine) : Env where
  scriptHost := world.scriptHost
  connect := fun targetServer =>
    match s.config.servers.lookup targetServer with
    | some backendConfig =>
      tcpConnect world backendConfig s.session.profile s.session.clientIp s.session.protocolVersion
    | none => .failed (.configError targetServer) []
  textJson := world.lib.textJson
  toLowercase := world.lib.toLowercase
  fromUtf8Lossy := world.lib.fromUtf8Lossy

/-! ## The loop -/

/-- What a round of the loop is about. -/
inductive Input where
  | client (res : Except ProxyError RawPacket)
  | backend (res : Except ProxyError RawPacket)
  | shutdown

/-- A packet read from the client. -/
def clientReceived (packet : RawPacket) (s : PlayStateMachine) : PlayStateMachine :=
  { s with client := s.client.received packet s.clientCompressionThreshold }

/-- A packet read from the current backend. -/
def backendReceived (packet : RawPacket) (s : PlayStateMachine) : PlayStateMachine :=
  { s with backend := s.backend.map fun b => b.received packet s.backendCompressionThreshold }

/-- One round of the loop: whether it goes on. -/
def runRound (env : Env) : Input → Play Bool
  | .client (.ok packet) => do
    Effect.modify (clientReceived packet)
    handleClientPacket env packet
  | .client (.error _) => pure false
  | .backend (.ok packet) => do
    Effect.modify (backendReceived packet)
    if isProtectedPluginChannel packet then pure true
    else handleBackendPacket env packet
  | .backend (.error _) => handleBackendEof env
  | .shutdown => do
    let s ← Effect.get
    let pkt := DisconnectPacket.encodeForClient env.textJson ⟨"§cServer is shutting down"⟩
      s.session.protocolVersion true
    Effect.attempt (writeClient pkt .own)
    pure false

/-- Both streams are shut down, and the backend is gone. -/
def shutStreams : Play Unit :=
  Effect.modify fun s => { s with backend := none, closed := s.closed ++ s.backend.toList }

/-- `PlayStateMachine::run`, as far as it has come. -/
def run : List (World × Input) → Play Unit
  | [] => pure ()
  | (world, input) :: inputs => do
    let s ← Effect.get
    match s.backend with
    | none => shutStreams
    | some _ => do
      let goesOn ← runRound (world.env s) input
      if goesOn then run inputs else shutStreams

end FrameMC

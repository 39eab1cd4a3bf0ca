import FrameMC.Config
import FrameMC.Crypto.MojangAuth
import FrameMC.Lib.HashSet
import FrameMC.Network.Peer
import FrameMC.Protocol.Configuration
import FrameMC.Routing.DeclareCommands
import FrameMC.Routing.Packets
import FrameMC.Script.Events

/-!
# The Play state machine

`PlayStateMachine` of `src/routing/state_machine.rs`: interception of client
packets, translation of backend packets, and the transfer to another server.
Each method is an effect on the machine; an error leaves what it changed.
Flushes whose result the source ignores leave no trace and are left out.

`attached` and `closed` are not fields of the source. They keep apart what a
stream's identity keeps apart there: how many backends have been attached, and
what was exchanged on the connections that were given up.
-/

namespace FrameMC

open ByteStream

/-! ## The machine -/

structure PlayerSession where
  profile : PlayerProfile
  clientIp : String
  protocolVersion : Int
  currentServer : String
  registryCache : SessionRegistryCache

structure PlayStateMachine where
  client : Wire
  backend : Option Wire
  session : PlayerSession
  config : ProxyConfig
  clientCompressionThreshold : Option Nat
  backendCompressionThreshold : Option Nat
  compressionThreshold : Option Nat
  serverTransferred : Bool
  openContainerId : Option UInt8
  hasActiveAudio : Bool
  activeBossBars : HashSet Uuid
  activeScoreboardObjectives : HashSet String
  activeDisplaySlots : HashSet Int32
  attached : Nat
  closed : List Wire

/-- The hashers of the three sets. -/
structure Hashers where
  bossBars : Hasher Uuid
  objectives : Hasher String
  slots : Hasher Int32

def PlayStateMachine.new (hashers : Hashers) (client backend : Wire) (session : PlayerSession)
    (config : ProxyConfig) (compressionThreshold : Option Nat) : PlayStateMachine where
  client := client
  backend := some backend
  session := session
  config := config
  clientCompressionThreshold := compressionThreshold
  backendCompressionThreshold := compressionThreshold
  compressionThreshold := compressionThreshold
  serverTransferred := false
  openContainerId := none
  hasActiveAudio := false
  activeBossBars := .new hashers.bossBars
  activeScoreboardObjectives := .new hashers.objectives
  activeDisplaySlots := .new hashers.slots
  attached := 0
  closed := []

/-- A backend that has accepted the login: its wire and threshold, and what
reading from it gives next. -/
structure NewBackend where
  wire : Wire
  threshold : Option Nat
  reads : List PeerRead

/-- The outcome of `BackendConnector::connect`. -/
inductive Connected where
  | ok (backend : NewBackend)
  | failed (e : ProxyError) (dropped : List Wire)

/-- What a step of the machine meets outside of it: the scripts, the connector,
and three library functions (`serde_json` for a text component, lower-casing,
lossy decoding). -/
structure Env where
  scriptHost : ScriptHost
  connect : String → Connected
  textJson : String → String
  toLowercase : String → String
  fromUtf8Lossy : List UInt8 → String

abbrev Play (α : Type) : Type := Effect PlayStateMachine ProxyError α

/-! ## Writing -/

def writeClient (p : RawPacket) (origin : Origin) : Play Unit := fun s =>
  let (r, w) := s.client.write p s.clientCompressionThreshold origin
  (r, { s with client := w })

def flushClient : Play Unit := fun s =>
  let (r, w) := s.client.flush
  (r, { s with client := w })

/-- To the current backend, if there is one. -/
def writeBackend (p : RawPacket) : Play Unit := fun s =>
  match s.backend with
  | some b =>
    let (r, w) := b.write p s.backendCompressionThreshold .relayed
    (r, { s with backend := some w })
  | none => (.ok (), s)

/-- A chat message of the proxy's. -/
def writeChat (env : Env) (message : String) : Play Unit := do
  let s ← Effect.get
  writeClient (SystemChatMessagePacket.encodeWithVersion env.textJson ⟨message, false⟩
    s.session.protocolVersion) .own

/-! ## Leaving a server -/

/-- The `for … in set.drain()` loops: one packet for each element. -/
def writeEach {α : Type} (set : HashSet α) (encode : α → RawPacket) : Play Unit :=
  Effect.forEach set.iter fun x => Effect.attempt (writeClient (encode x) .own)

def closeContainer : Play Unit := do
  let s ← Effect.get
  match s.openContainerId with
  | some windowId => do
    Effect.modify fun s => { s with openContainerId := none }
    Effect.attempt (writeClient (CloseContainerPacket.encodeWithVersion ⟨windowId⟩ s.session.protocolVersion) .own)
  | none => pure ()

def silence : Play Unit := do
  let s ← Effect.get
  if s.hasActiveAudio then do
    Effect.modify fun s => { s with hasActiveAudio := false }
    Effect.attempt (writeClient (StopSoundPacket.all.encodeWithVersion s.session.protocolVersion) .own)
  else pure ()

def removeObjectives : Play Unit := do
  let s ← Effect.get
  Effect.modify fun s => { s with activeScoreboardObjectives := s.activeScoreboardObjectives.clear }
  writeEach s.activeScoreboardObjectives fun name =>
    (ScoreboardObjectivePacket.remove name).encodeWithVersion s.session.protocolVersion

def clearSlots : Play Unit := do
  let s ← Effect.get
  Effect.modify fun s => { s with activeDisplaySlots := s.activeDisplaySlots.clear }
  writeEach s.activeDisplaySlots fun slot =>
    (DisplayObjectivePacket.clear slot).encodeWithVersion s.session.protocolVersion

def removeBossBars : Play Unit := do
  let s ← Effect.get
  Effect.modify fun s => { s with activeBossBars := s.activeBossBars.clear }
  writeEach s.activeBossBars fun uuid =>
    (BossBarPacket.remove uuid).encodeWithVersion s.session.protocolVersion

def teardownTransferredState : Play Unit := do
  closeContainer
  silence
  removeObjectives
  clearSlots
  removeBossBars

/-! ## Transfer -/

/-- What one packet of the Configuration phase leads to. -/
inductive ConfigStep where
  | next (cache : SessionRegistryCache) (wire : Wire)
  | finished (wire : Wire)
  | failed (reason : String) (wire : Wire)

/-- Write a packet to the new backend; a failing write is a failing exit. -/
def replyThen (wire : Wire) (p : RawPacket) (threshold : Option Nat) (after : Wire → ConfigStep) : ConfigStep :=
  match wire.write p threshold .own with
  | (.error e, wire) => .failed e.display wire
  | (.ok (), wire) => after wire

def finishId (protocolVersion : Int) : Int32 := if protocolVersion ≥ 766 then 0x03 else 0x02

def disconnectId (protocolVersion : Int) : Int32 := if protocolVersion ≥ 766 then 0x02 else 0x01

/-- The body of the Configuration loop of `switch_server`. Its failing exits
differ in the reason only. -/
def configureStep (env : Env) (protocolVersion : Int) (threshold : Option Nat) (packet : RawPacket)
    (cache : SessionRegistryCache) (wire : Wire) : ConfigStep :=
  if packet.id = registryDataPacketId ∨ (protocolVersion < 766 ∧ packet.id = 0x05) then
    .next (cache.cachePacket packet).2 wire
  else if protocolVersion ≥ 766 ∧ packet.id = 0x0E then
    replyThen wire ⟨0x07, encodeVarint 0⟩ threshold (.next cache)
  else if packet.id = 0x04 then replyThen wire packet threshold (.next cache)
  else if packet.id = 0x05 then replyThen wire packet threshold (.next cache)
  else if packet.id = finishId protocolVersion then
    replyThen wire ⟨finishId protocolVersion, []⟩ threshold .finished
  else if packet.id = disconnectId protocolVersion then .failed (env.fromUtf8Lossy packet.payload) wire
  else .next cache wire

/-- The outcome of the Configuration phase with a new backend: whether it was
finished or why not, the registry cache and the wire. -/
structure Configured where
  result : Except String Unit
  cache : SessionRegistryCache
  wire : Wire

/-- The Configuration loop of `switch_server`. -/
def configure (env : Env) (protocolVersion : Int) (threshold : Option Nat) :
    List PeerRead → SessionRegistryCache → Wire → Configured
  | [], cache, wire => ⟨.error streamEof.display, cache, wire⟩
  | .pause :: _, cache, wire => ⟨.error "connection timed out", cache, wire⟩
  | .failed e :: _, cache, wire => ⟨.error e.display, cache, wire⟩
  | .packet packet :: reads, cache, wire =>
    match configureStep env protocolVersion threshold packet cache (wire.received packet threshold) with
    | .next cache wire => configure env protocolVersion threshold reads cache wire
    | .finished wire => ⟨.ok (), cache, wire⟩
    | .failed reason wire => ⟨.error reason, cache, wire⟩

/-- Steps 3 and 4 of `switch_server`: leave the old backend, clean up, attach the new one. -/
def attachBackend (targetServer : String) (wire : Wire) (threshold : Option Nat) : Play Bool := do
  Effect.modify fun s => { s with backend := none, closed := s.closed ++ s.backend.toList }
  Effect.attempt teardownTransferredState
  Effect.modify fun s => { s with
    backend := some wire
    backendCompressionThreshold := threshold
    compressionThreshold := s.clientCompressionThreshold
    session := { s.session with currentServer := targetServer }
    serverTransferred := true
    attached := s.attached + 1 }
  pure true

/-- A failing exit: the connection made is dropped and the player told why. -/
def giveUp (env : Env) (targetServer reason : String) (dropped : List Wire) : Play Bool := do
  Effect.modify fun s => { s with closed := s.closed ++ dropped }
  Effect.attempt (writeChat env ("§cCould not connect to " ++ targetServer ++ ": " ++ reason))
  pure false

def switchServer (env : Env) (targetServer : String) : Play Bool := do
  let s ← Effect.get
  match s.config.servers.lookup targetServer with
  | none => do
    writeChat env ("§cServer '" ++ targetServer ++ "' not found.")
    pure false
  | some _ =>
    match env.connect targetServer with
    | .failed e dropped => giveUp env targetServer e.display dropped
    | .ok new =>
      if s.session.protocolVersion ≥ 764 then do
        let configured := configure env s.session.protocolVersion new.threshold new.reads
          s.session.registryCache new.wire
        Effect.modify fun s => { s with session := { s.session with registryCache := configured.cache } }
        match configured.result with
        | .error reason => giveUp env targetServer reason [configured.wire]
        | .ok () => attachBackend targetServer configured.wire new.threshold
      else attachBackend targetServer new.wire new.threshold

/-! ## Client packets -/

/-- A chat message, as opposed to a command. -/
def isChatPacket (id : Int32) (protocolVersion : Int) : Bool :=
  (protocolVersion < 766 && id == 0x06) ||
    (protocolVersion ≥ 766 && protocolVersion < 768 && id == 0x06) ||
    (protocolVersion ≥ 768 && protocolVersion < 776 && id == 0x07) ||
    (protocolVersion ≥ 776 && id == 0x09)

/-- The command interception of `handle_client_packet`: a result if it returns there. -/
def interceptCommand (env : Env) (packet : RawPacket) : Play (Option Bool) := do
  let s ← Effect.get
  let v := s.session.protocolVersion
  if ¬ ServerboundChatCommand.isCommandPacket packet.id v then pure none
  else match ServerboundChatCommand.decodeWithVersion packet v with
    | .ok cmdPacket =>
      if isChatPacket packet.id v ∧ ¬ RustStr.startsWith cmdPacket.command "/" then pure none
      else do
        let cmdRes := env.scriptHost.evalCommand
          ⟨s.session.profile.name, cmdPacket.normalizedCommand, s.session.currentServer⟩
        if cmdRes.sendMessage ≠ "" then writeChat env cmdRes.sendMessage
        else pure ()
        if cmdRes.rerouteServer ≠ "" then do
          let _ ← switchServer env cmdRes.rerouteServer
          pure (some true)
        else if cmdRes.cancel then pure (some true)
        else pure none
    | _ => pure none

/-- The proxy's own suggestions, for what no script completes. -/
def fallbackSuggestions (servers : List String) (cmd : String) : List String :=
  match RustStr.stripPrefix cmd "/server " with
  | some arg =>
    let arg := RustStr.trim arg
    servers.filter fun name => arg = "" || RustStr.startsWith name arg
  | none =>
    if cmd = "/server" then ["/server"]
    else if cmd = "/" then ["/server", "/hub", "/lobby"]
    else ["/server", "/hub", "/lobby"].filter fun s => RustStr.startsWith s cmd

/-- `text.rfind(' ')`: the byte index of the last space. -/
def rfindSpace (text : String) : Option Nat :=
  let bytes := asBytes text
  ((List.range bytes.length).filter fun i => bytes[i]? = some 0x20).getLast?

/-- The range a completion replaces: what follows the last space. -/
def completionRange (text : String) : Int32 × Int32 :=
  let len := (asBytes text).length
  match rfindSpace text with
  | some lastSpace => (asI32 (lastSpace + 1), asI32 (len - lastSpace - 1))
  | none => (0, asI32 len)

/-- The tab-completion part of `handle_client_packet`. -/
def interceptTabComplete (env : Env) (packet : RawPacket) : Play (Option Bool) := do
  let s ← Effect.get
  let v := s.session.protocolVersion
  if ¬ TabCompleteRequestPacket.isTabCompleteRequest packet.id v then pure none
  else match TabCompleteRequestPacket.decode packet v with
    | .ok req => do
      let suggestions := env.scriptHost.evalTabComplete ⟨s.session.profile.name, req.text, s.session.currentServer⟩
      let suggestions :=
        if suggestions.isEmpty then fallbackSuggestions (s.config.servers.map (·.1)) req.text else suggestions
      if suggestions.isEmpty then pure none
      else do
        let (start, length) := completionRange req.text
        writeClient (TabCompleteResponsePacket.encodeWithVersion ⟨req.transactionId, start, length, suggestions⟩ v)
          .own
        pure (some true)
    | _ => pure none

/-- The player closed a window. -/
def noteClose (packet : RawPacket) (s : PlayStateMachine) : PlayStateMachine :=
  if isServerboundCloseContainerPacket packet.id s.session.protocolVersion then { s with openContainerId := none }
  else s

/-- What is neither a command nor a completion goes to the backend. -/
def routeClientPacket (env : Env) (packet : RawPacket) : Play Bool := do
  match ← interceptCommand env packet with
  | some b => pure b
  | none =>
    match ← interceptTabComplete env packet with
    | some b => pure b
    | none => do
      writeBackend packet
      pure true

def handleClientPacket (env : Env) (packet : RawPacket) : Play Bool := do
  if isProtectedPluginChannel packet then pure true
  else do
    Effect.modify (noteClose packet)
    routeClientPacket env packet

/-! ## Backend packets -/

def trackContainer (packet : RawPacket) (s : PlayStateMachine) : PlayStateMachine :=
  if isOpenWindowPacket packet.id s.session.protocolVersion then
    match decodeVarint packet.payload with
    -- `win_id as u8`
    | .ok (winId, _) => { s with openContainerId := some winId.toUInt32.toUInt8 }
    | _ => s
  else if packet.id = CloseContainerPacket.packetIdForVersion s.session.protocolVersion then
    { s with openContainerId := none }
  else s

def trackAudio (packet : RawPacket) (s : PlayStateMachine) : PlayStateMachine :=
  if isSoundPacket packet.id s.session.protocolVersion then { s with hasActiveAudio := true }
  else if packet.id = StopSoundPacket.packetIdForVersion s.session.protocolVersion ∧
      packet.payload.head? = some 0 then { s with hasActiveAudio := false }
  else s

def trackBossBars (packet : RawPacket) (s : PlayStateMachine) : PlayStateMachine :=
  if packet.id = BossBarPacket.packetIdForVersion s.session.protocolVersion then
    match BossBarPacket.decode packet s.session.protocolVersion with
    | .ok bb =>
      if bb.action = BossBarPacket.actionAdd then { s with activeBossBars := s.activeBossBars.insert bb.uuid }
      else if bb.action = BossBarPacket.actionRemove then
        { s with activeBossBars := s.activeBossBars.remove bb.uuid }
      else s
    | _ => s
  else s

def trackObjectives (packet : RawPacket) (s : PlayStateMachine) : PlayStateMachine :=
  if packet.id = ScoreboardObjectivePacket.packetIdForVersion s.session.protocolVersion then
    match ScoreboardObjectivePacket.decode packet s.session.protocolVersion with
    | .ok obj =>
      if obj.action = ScoreboardObjectivePacket.actionCreate then
        { s with activeScoreboardObjectives := s.activeScoreboardObjectives.insert obj.name }
      else if obj.action = ScoreboardObjectivePacket.actionRemove then
        { s with activeScoreboardObjectives := s.activeScoreboardObjectives.remove obj.name }
      else s
    | _ => s
  else s

def trackSlots (packet : RawPacket) (s : PlayStateMachine) : PlayStateMachine :=
  if packet.id = DisplayObjectivePacket.packetIdForVersion s.session.protocolVersion then
    match DisplayObjectivePacket.decode packet s.session.protocolVersion with
    | .ok disp =>
      if disp.name = "" then { s with activeDisplaySlots := s.activeDisplaySlots.remove disp.position }
      else { s with activeDisplaySlots := s.activeDisplaySlots.insert disp.position }
    | _ => s
  else s

/-- What a backend packet changes in the machine's picture of the client. -/
def track (packet : RawPacket) (s : PlayStateMachine) : PlayStateMachine :=
  trackSlots packet (trackObjectives packet (trackBossBars packet (trackAudio packet (trackContainer packet s))))

/-- Leave for the fallback server, with a notice; `atFallback` is for the fallback server itself. -/
def recover (env : Env) (before after : String) (atFallback : Play Bool) : Play Bool := do
  let s ← Effect.get
  if s.session.currentServer ≠ s.config.defaultServer then do
    Effect.attempt (writeChat env (before ++ s.session.currentServer ++ after))
    switchServer env s.config.defaultServer
  else atFallback

/-- The Respawn that stands for a Login (Play). -/
def respawnFor (packet : RawPacket) (protocolVersion : Int) : RawPacket :=
  let dataKept := if protocolVersion ≥ 764 then keepAllData else 0x01
  (extractRespawnFromLoginWithDataKept packet protocolVersion dataKept).getD
    ({ RespawnPacket.defaultReset with dataKept := dataKept }.encodeWithVersion protocolVersion)

/-- The DeclareCommands packet the client gets: with the proxy's commands, or
the original where they cannot be injected. -/
def declareCommandsFor (env : Env) (config : ProxyConfig) (packet : RawPacket) (protocolVersion : Int) : RawPacket :=
  let servers := (config.servers.map (·.1)).mergeSort (· ≤ ·)
  match injectProxyCommandsIntoDeclareCommands env.toLowercase packet protocolVersion servers with
  | .ok injected => injected
  | _ => packet

/-- Disconnect, in the Play state. -/
def isDisconnectPacket (id : Int32) : Bool := id == 0x1A || id == 0x1B

/-- A Login (Play): after a transfer the client gets a Respawn in its place. -/
def deliverLogin (packet : RawPacket) : Play Bool := do
  let s ← Effect.get
  if s.serverTransferred then do
    Effect.modify fun s => { s with serverTransferred := false }
    writeClient (respawnFor packet s.session.protocolVersion) .respawn
    pure true
  else do
    writeClient packet .relayed
    pure true

/-- Pass a packet on to the client, commands with the proxy's own added. -/
def deliver (env : Env) (packet : RawPacket) : Play Bool := do
  let s ← Effect.get
  if isDeclareCommandsPacket packet.id s.session.protocolVersion then do
    writeClient (declareCommandsFor env s.config packet s.session.protocolVersion) .relayed
    pure true
  else do
    writeClient packet .relayed
    pure true

def handleBackendPacket (env : Env) (packet : RawPacket) : Play Bool := do
  if isProtectedPluginChannel packet then pure true
  else do
    Effect.modify (track packet)
    let s ← Effect.get
    if isDisconnectPacket packet.id then
      recover env "§eDisconnected from " ". Reconnecting to fallback server..."
        (Effect.throw (.backendConnectionFailed "Fallback server disconnected"))
    else if isLoginPlayPacket packet.id s.session.protocolVersion then deliverLogin packet
    else deliver env packet

def handleBackendEof (env : Env) : Play Bool :=
  recover env "§eLost connection to " ". Returning to fallback server..." (pure false)

/-! ## Single resets -/

def sanitizeScreen (windowId : UInt8) : Play Unit := do
  Effect.modify fun s => { s with openContainerId := none }
  let s ← Effect.get
  writeClient (CloseContainerPacket.encodeWithVersion ⟨windowId⟩ s.session.protocolVersion) .own
  flushClient

def stopAudio : Play Unit := do
  Effect.modify fun s => { s with hasActiveAudio := false }
  let s ← Effect.get
  writeClient (StopSoundPacket.all.encodeWithVersion s.session.protocolVersion) .own
  flushClient

def clearDisplayObjective (position : Int32) : Play Unit := do
  Effect.modify fun s => { s with activeDisplaySlots := s.activeDisplaySlots.remove position }
  let s ← Effect.get
  writeClient ((DisplayObjectivePacket.clear position).encodeWithVersion s.session.protocolVersion) .own
  flushClient

/-! ## A small session -/

/-- A fresh connection on which everything goes out. -/
def quietWire : Wire := ⟨[], fun _ => .done, 0⟩

def plainHasher (α : Type) : Hasher α := ⟨id, fun l => List.Perm.refl l⟩

/-- A player on `survival`, with `lobby` to fall back to. -/
def smallSession (protocolVersion : Int) : PlayStateMachine :=
  .new ⟨plainHasher _, plainHasher _, plainHasher _⟩ quietWire quietWire
    { profile := ⟨.nil, "Steve", []⟩
      clientIp := "127.0.0.1"
      protocolVersion := protocolVersion
      currentServer := "survival"
      registryCache := .new }
    { onlineMode := true
      sessionServerUrl := none
      servers := [("lobby", ⟨"127.0.0.1", 25566, .none, none⟩), ("survival", ⟨"127.0.0.1", 25567, .none, none⟩)]
      defaultServer := "lobby" }
    none

/-- No scripts, and backends that send `reads` in their Configuration phase. -/
def smallEnv (reads : List PeerRead) : Env where
  scriptHost := ⟨[], ⟨none, none, none⟩⟩
  connect := fun _ => .ok ⟨quietWire, none, reads⟩
  textJson := fun text => "\x7b\"text\":\"" ++ text ++ "\"\x7d"
  toLowercase := String.toLower
  fromUtf8Lossy := fun bytes => (fromUtf8 bytes).getD ""

end FrameMC

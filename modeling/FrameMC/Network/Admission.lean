import FrameMC.Network.Listener
import FrameMC.Script.Composition

/-!
# Who is let in, and where to

Behind the authentication the scripts decide. `join_hooks_decide` says what
they can bring about: one denial turns the player away, with its reason and
before any backend is dialed; otherwise the player goes to the last server that
was asked for, or to the default server where that one is not configured.
-/

namespace FrameMC

open ByteStream Effect

/-- What the scripts are told of a player who joins. -/
def joinEvent (env : LoginEnv) (profile : PlayerProfile) (protocolVersion : Int) : PlayerJoinEvent :=
  ⟨profile.name, profile.id.hyphenated, env.clientIp, protocolVersion⟩

/-- The reason a player is given. -/
def denialReason (denial : JoinResult) : String :=
  if denial.disconnectReason = "" then "Disconnected by proxy script" else denial.disconnectReason

/-- The server for a player whom nobody denies. -/
def destination (config : ProxyConfig) (answers : List JoinResult) : String :=
  if lastTarget answers ≠ "" ∧ (config.servers.lookup (lastTarget answers)).isSome then lastTarget answers
  else config.defaultServer

/-- The address a backend is dialed at. -/
def BackendConfig.target (backend : BackendConfig) : String := backend.address ++ ":" ++ toString backend.port.toNat

/-- The connection of a player who is turned away with one packet, and no backend. -/
def turnedAway (client : ActiveStream) (packet : RawPacket) (e : ProxyError) : Processed :=
  ⟨.error (.failed e), (onStream (sendDisconnect packet none) client).2, none⟩

/-- What becomes of a player who is authenticated. -/
structure JoinDecided (env : LoginEnv) (handshake : HandshakePacket) (stream client : ActiveStream)
    (profile : PlayerProfile) (answers : List JoinResult) : Prop where
  denied : ∀ denial, answers.find? (·.allow = false) = some denial →
    processLogin env handshake stream = turnedAway client (loginDisconnect env.lib (denialReason denial))
      (.authenticationFailed "Rejected by script")
  admitted : (∀ answer ∈ answers, answer.allow = true) → ∀ backendConfig,
    env.config.servers.lookup (destination env.config answers) = some backendConfig →
      logIn env handshake stream = (.ok ⟨profile, destination env.config answers, backendConfig⟩, client) ∧
        ∀ dial, dial backendConfig.target = env.dial backendConfig.target →
          processLogin { env with dial := dial } handshake stream = processLogin env handshake stream
  nowhere : (∀ answer ∈ answers, answer.allow = true) →
    env.config.servers.lookup (destination env.config answers) = none →
      ∃ left, processLogin env handshake stream =
        ⟨.error (.failed (.configError ("Target server '" ++ destination env.config answers ++ "' not found"))), left, none⟩

section Decided

variable {env : LoginEnv} {handshake : HandshakePacket} {stream client : ActiveStream} {profile : PlayerProfile}

theorem logIn_of_auth (hauth : handleLoginAuth env handshake stream = (.ok profile, client)) :
    logIn env handshake stream = chooseServer env handshake.protocolVersion.toInt profile client := by
  rw [logIn, Effect.bind_apply, hauth]

theorem processLogin_failed {e : ProxyError} {left : ActiveStream} (h : logIn env handshake stream = (.error e, left)) :
    processLogin env handshake stream = ⟨.error (.failed e), left, none⟩ := by
  rw [processLogin, h]

/-- Turning a client away does not fail. -/
theorem onStream_sendDisconnect (packet : RawPacket) (threshold : Option Nat) (client : ActiveStream) :
    onStream (sendDisconnect packet threshold) client =
      (.ok (), (onStream (sendDisconnect packet threshold) client).2) := rfl

/-- Of the network, a login needs only what dialing the player's server comes to. -/
theorem processLogin_dial {admission : Admission} {left : ActiveStream} {dial : String → Dial}
    (hlogin : logIn env handshake stream = (.ok admission, left))
    (hdial : dial admission.backendConfig.target = env.dial admission.backendConfig.target) :
    processLogin { env with dial := dial } handshake stream = processLogin env handshake stream := by
  have hlogin' : logIn { env with dial := dial } handshake stream = (.ok admission, left) := hlogin
  have hreached : connectAndForward env.lib dial admission.backendConfig admission.profile env.clientIp
      handshake.protocolVersion = connectAndForward env.lib env.dial admission.backendConfig admission.profile
        env.clientIp handshake.protocolVersion := by
    rw [BackendConfig.target] at hdial
    rw [connectAndForward, connectAndForward, hdial]
  rw [processLogin, processLogin, hlogin, hlogin']
  dsimp only
  rw [hreached]
  rfl

/-- For every player that is authenticated, whatever the scripts answer: the
first denial turns the player away and no backend is asked; without one, the
player is admitted to the last server asked for if it is configured, to the
default server if not, and no other server is dialed; where the default server
is not configured either, the login fails. -/
theorem join_hooks_decide (hauth : handleLoginAuth env handshake stream = (.ok profile, client)) :
    JoinDecided env handshake stream client profile
      (joinAnswers env.scriptHost (joinEvent env profile handshake.protocolVersion.toInt)) := by
  have hlogin := logIn_of_auth hauth
  have hdecision := evalJoin_eq env.scriptHost (joinEvent env profile handshake.protocolVersion.toInt)
  rw [joinEvent] at hdecision
  rw [chooseServer, hdecision] at hlogin
  rw [joinEvent]
  generalize joinAnswers env.scriptHost _ = answers at hlogin ⊢
  have hnobody : (∀ answer ∈ answers, answer.allow = true) → joinDecision answers =
      { targetServer := lastTarget answers } := by
    intro hall
    have hnone : answers.find? (·.allow = false) = none := by
      rw [List.find?_eq_none]
      intro answer hanswer
      simp [hall answer hanswer]
    rw [joinDecision, hnone]
  refine ⟨fun denial hdenial => ?_, fun hall backendConfig hlookup => ?_, fun hall hlookup => ?_⟩
  · have hdenied : denial.allow = false := by simpa using List.find?_some hdenial
    rw [joinDecision, hdenial] at hlogin
    dsimp only at hlogin
    rw [if_pos hdenied, Effect.bind_apply, onStream_sendDisconnect] at hlogin
    exact processLogin_failed hlogin
  · rw [hnobody hall] at hlogin
    dsimp only at hlogin
    rw [if_neg (by decide)] at hlogin
    rw [destination] at hlookup ⊢
    rw [hlookup] at hlogin
    exact ⟨hlogin, fun _ => processLogin_dial hlogin⟩
  · rw [hnobody hall] at hlogin
    dsimp only at hlogin
    rw [if_neg (by decide)] at hlogin
    rw [destination] at hlookup ⊢
    rw [hlookup] at hlogin
    exact ⟨_, processLogin_failed hlogin⟩

end Decided

/-- A login with two scripts: the first sends everyone to the hub, the second turns everyone away. -/
def strictLogin : LoginEnv :=
  { smallLogin with
    scriptHost :=
      ⟨[⟨some fun _ => some { targetServer := "hub" }, none, none⟩,
        ⟨some fun _ => some { allow := false, disconnectReason := "§cClosed" }, none, none⟩], ⟨none, none, none⟩⟩ }

/-- A client whose next packet is its LoginStart. -/
def starting : ActiveStream := ⟨.connected (fun _ => .done) [.packet (LoginStartPacket.encode ⟨"Steve", .nil⟩)], none⟩

theorem join_hooks_decide_closed :
    JoinDecided strictLogin ⟨763, "localhost", 25565, .login⟩ starting
      (handleLoginAuth strictLogin ⟨763, "localhost", 25565, .login⟩ starting).2 ⟨.nil, "Steve", []⟩
      [{ targetServer := "hub" }, { allow := false, disconnectReason := "§cClosed" }] := by
  have h : (handleLoginAuth strictLogin ⟨763, "localhost", 25565, .login⟩ starting).1 = .ok ⟨.nil, "Steve", []⟩ := by
    decide +kernel
  exact join_hooks_decide (Prod.ext h rfl)

end FrameMC

import FrameMC.Routing.Chat
import FrameMC.Routing.RegistryCapture
import FrameMC.Routing.Run

/-!
# Packets on protected channels

Everything the bridging loop and the Play loop read, with what it was read in.
A packet that names a protected channel should come to nothing wherever it is
read. The relay loops see to that on all four paths; the Configuration loop of
a transfer, which the Play loop enters, does not look, and there such a packet
comes to nothing exactly where its id and the registry cache leave it no use
(`spoofed_unheard_iff`).
-/

namespace FrameMC

open ByteStream Effect

/-! ## What the bridging loop reads -/

/-- A round of the bridging loop and where it starts. -/
structure BridgeRound where
  turn : Turn
  before : Bridging
  state : Linked

def bridgeRounds (lib : Library) (v : Int) (t : Option Nat) : List Turn → Bridging → Linked → List BridgeRound
  | [], _, _ => []
  | turn :: turns, b, s =>
    if b.clientFinished ∧ b.backendFinished then []
    else ⟨turn, b, s⟩ :: match bridgeTurn lib v t b turn s with
      | (.ok b', s') => bridgeRounds lib v t turns b' s'
      | (.error _, _) => []

namespace BridgeRound

/-- The packet the round reads is `packet`, and `taken` is the state with that and no more done. -/
inductive Reads (t : Option Nat) : BridgeRound → RawPacket → Linked → Prop where
  | client (b : Bridging) (s : Linked) (packet : RawPacket) (reads : List PeerRead) :
      nextRead s.client.peer.reads = (.ok packet, reads) →
      Reads t ⟨.client, b, s⟩ packet
        { s with client := { s.client with peer := ⟨s.client.peer.wire.received packet t, reads⟩ } }
  | backend (b : Bridging) (s : Linked) (packet : RawPacket) (reads : List PeerRead) :
      nextRead s.backend.reads = (.ok packet, reads) →
      Reads t ⟨.backend, b, s⟩ packet { s with backend := ⟨s.backend.wire.received packet t, reads⟩ }

end BridgeRound

/-- A round that reads a packet on a protected channel does nothing else. -/
theorem bridgeTurn_protected (lib : Library) (v : Int) {t : Option Nat} {round : BridgeRound} {packet : RawPacket}
    {taken : Linked} (hreads : round.Reads t packet taken) (h : isProtectedPluginChannel packet = true) :
    bridgeTurn lib v t round.before round.turn round.state = (.ok round.before, taken) := by
  cases hreads with
  | client b s packet reads hread =>
    rw [bridgeTurn, Effect.bind_apply, readClient_ok hread]
    simp only [if_pos h]
    rfl
  | backend b s packet reads hread =>
    rw [bridgeTurn, Effect.bind_apply, readBackend_ok hread]
    simp only [if_pos h]
    rfl

/-! ## What the Play loop reads -/

/-- A packet that is read in the course of the Play loop: from the client or the
backend, in the state given, or from the backend of a transfer, by the
Configuration loop as it stands. -/
inductive Reading where
  | fromClient (packet : RawPacket) (s : PlayStateMachine)
  | fromBackend (packet : RawPacket) (s : PlayStateMachine)
  | configuring (packet : RawPacket) (cache : SessionRegistryCache) (wire : Wire) (env : Env) (v : Int)
      (threshold : Option Nat)

namespace Reading

def packet : Reading → RawPacket
  | fromClient packet _ => packet
  | fromBackend packet _ => packet
  | configuring packet _ _ _ _ _ => packet

/-- The packet comes to nothing: whatever the scripts and the network would
answer, no script is asked, and the loop goes on with the packet read and nothing
else changed. The Configuration loop goes on with its cache unchanged, or fails over a reply that
does not go out. -/
def Unheard : Reading → Prop
  | fromClient packet s => ∀ env, hooksAsked env packet (clientReceived packet s) = [] ∧
      runRound env (.client (.ok packet)) s = (.ok true, clientReceived packet s)
  | fromBackend packet s => ∀ env, runRound env (.backend (.ok packet)) s = (.ok true, backendReceived packet s)
  | configuring packet cache wire env v threshold =>
    match configureStep env v threshold packet cache wire with
    | .next cache' _ => cache' = cache
    | .finished _ => False
    | .failed _ wire' => ∃ reply e, wire.write reply threshold .own = (.error e, wire')

/-- The Configuration loop has no use for the packet: it is no Disconnect, no
FinishConfiguration that can be acknowledged, and no registry that is not
recorded as it is. -/
def Idle : Reading → Prop
  | fromClient _ _ => True
  | fromBackend _ _ => True
  | configuring packet cache wire _ v threshold => packet.id ≠ disconnectId v ∧
      (packet.id = finishId v → ∃ e wire', wire.write ⟨finishId v, []⟩ threshold .own = (.error e, wire')) ∧
      ∀ reg, SessionRegistryCache.carried packet = some reg → cache.get reg.registryId = some reg

end Reading

section Transfer

variable (env : Env)

/-- The readings of a Configuration phase. -/
def configReadings (v : Int) (threshold : Option Nat) : List PeerRead → SessionRegistryCache → Wire → List Reading
  | .packet packet :: reads, cache, wire =>
    .configuring packet cache (wire.received packet threshold) env v threshold ::
      match configureStep env v threshold packet cache (wire.received packet threshold) with
      | .next cache wire => configReadings v threshold reads cache wire
      | _ => []
  | _, _, _ => []

/-- The readings of a transfer. -/
def switchReadings (targetServer : String) (s : PlayStateMachine) : List Reading :=
  match s.config.servers.lookup targetServer, env.connect targetServer with
  | some _, .ok new =>
    if s.session.protocolVersion ≥ 764 then
      configReadings env s.session.protocolVersion new.threshold new.reads s.session.registryCache new.wire
    else []
  | _, _ => []

/-- What the scripts have to say to the player. -/
def speak (cmdRes : CommandResult) : Play Unit :=
  if cmdRes.sendMessage ≠ "" then writeChat env cmdRes.sendMessage else pure ()

/-- The transfer the scripts answer with: where to, and from which state. -/
def answerTransfer (cmdRes : CommandResult) (s : PlayStateMachine) : Option (String × PlayStateMachine) :=
  match speak env cmdRes s with
  | (.ok _, s') => if cmdRes.rerouteServer ≠ "" then some (cmdRes.rerouteServer, s') else none
  | (.error _, _) => none

/-- The transfer a command leads to. -/
def commandTransfer (packet : RawPacket) (s : PlayStateMachine) : Option (String × PlayStateMachine) :=
  if ¬ ServerboundChatCommand.isCommandPacket packet.id s.session.protocolVersion then none
  else match ServerboundChatCommand.decodeWithVersion packet s.session.protocolVersion with
    | .ok cmdPacket =>
      if isChatPacket packet.id s.session.protocolVersion ∧ ¬ RustStr.startsWith cmdPacket.command "/" then none
      else answerTransfer env (commandResult env s cmdPacket.command) s
    | _ => none

/-- The transfer to the fallback server. -/
def fallbackTransfer (before after : String) (s : PlayStateMachine) : Option (String × PlayStateMachine) :=
  if s.session.currentServer ≠ s.config.defaultServer then
    some (s.config.defaultServer, (writeChat env (before ++ s.session.currentServer ++ after) s).2)
  else none

/-- The transfer a round makes, if it makes one. -/
def transferIn : Input → PlayStateMachine → Option (String × PlayStateMachine)
  | .client (.ok packet), s =>
    if isProtectedPluginChannel packet then none
    else commandTransfer env packet (noteClose packet (clientReceived packet s))
  | .backend (.ok packet), s =>
    if isProtectedPluginChannel packet then none
    else if isDisconnectPacket packet.id then
      fallbackTransfer env "§eDisconnected from " ". Reconnecting to fallback server..."
        (track packet (backendReceived packet s))
    else none
  | .backend (.error _), s => fallbackTransfer env "§eLost connection to " ". Returning to fallback server..." s
  | .client (.error _), _ => none
  | .shutdown, _ => none

/-- The readings of a round. -/
def roundReadings (input : Input) (s : PlayStateMachine) : List Reading :=
  (match input with
    | .client (.ok packet) => [.fromClient packet s]
    | .backend (.ok packet) => [.fromBackend packet s]
    | _ => []) ++
  match transferIn env input s with
  | some (targetServer, s') => switchReadings env targetServer s'
  | none => []

end Transfer

/-- The readings of a run. -/
def readings : List (World × Input) → PlayStateMachine → List Reading
  | [], _ => []
  | (world, input) :: inputs, s =>
    match s.backend with
    | none => []
    | some _ => roundReadings (world.env s) input s ++ match runRound (world.env s) input s with
      | (.ok true, s') => readings inputs s'
      | _ => []

/-! ## The transfers are those that are made -/

section Made

variable {env : Env} {s : PlayStateMachine}

/-- The same surroundings with other connections to be had. -/
def Env.reconnected (env : Env) (connect : String → Connected) : Env := { env with connect := connect }

/-- A computation makes the transfer, and does nothing to the state behind it; or
it makes none, and asks for no connection. -/
def Makes (m : Env → Play Bool) (env : Env) (s : PlayStateMachine) : Option (String × PlayStateMachine) → Prop
  | some (targetServer, s') => (m env s).2 = (switchServer env targetServer s').2
  | none => ∀ connect, m (env.reconnected connect) s = m env s

theorem recover_makes (before after : String) (atFallback : Play Bool) :
    Makes (fun env => recover env before after atFallback) env s (fallbackTransfer env before after s) := by
  rw [fallbackTransfer]
  split
  · next h =>
    show (recover env before after atFallback s).2 = _
    rw [recover, Effect.get_bind, if_pos h, Effect.attempt_bind]
  · next h =>
    intro connect
    simp only [recover, Effect.get_bind, if_neg h]

/-- What the machine does on the answer of the scripts. -/
def obey (env : Env) (cmdRes : CommandResult) : Play (Option Bool) :=
  if cmdRes.rerouteServer ≠ "" then do
    let _ ← switchServer env cmdRes.rerouteServer
    pure (some true)
  else if cmdRes.cancel then pure (some true)
  else pure none

/-- Transfers that commands lead to end the interception. -/
def Intercepts (m : Env → Play (Option Bool)) (env : Env) (s : PlayStateMachine) :
    Option (String × PlayStateMachine) → Prop
  | some (targetServer, s') => (m env s).1 ≠ .ok none ∧ (m env s).2 = (switchServer env targetServer s').2
  | none => ∀ connect, m (env.reconnected connect) s = m env s

theorem answer_intercepts (cmdRes : CommandResult) :
    Intercepts (fun env => speak env cmdRes >>= fun _ => obey env cmdRes) env s (answerTransfer env cmdRes s) := by
  have hspeak : ∀ connect, speak (env.reconnected connect) cmdRes = speak env cmdRes := fun _ => rfl
  rw [answerTransfer]
  rcases hs : speak env cmdRes s with ⟨_ | _, s'⟩
  · intro connect
    simp only [Effect.bind_apply, hspeak, hs]
  · by_cases hreroute : cmdRes.rerouteServer ≠ ""
    · simp only [if_pos hreroute]
      show _ ∧ _
      simp only [Effect.bind_apply, hs, obey, if_pos hreroute]
      rcases switchServer env cmdRes.rerouteServer s' with ⟨_ | _, s''⟩
      · exact ⟨nofun, rfl⟩
      · exact ⟨nofun, rfl⟩
    · simp only [if_neg hreroute]
      intro connect
      simp only [Effect.bind_apply, hspeak, hs, obey, if_neg hreroute]

/-- A command the scripts are asked about. -/
theorem interceptCommand_asked {packet : RawPacket} {cmdPacket : ServerboundChatCommand}
    (hid : ServerboundChatCommand.isCommandPacket packet.id s.session.protocolVersion = true)
    (hdecode : ServerboundChatCommand.decodeWithVersion packet s.session.protocolVersion = .ok cmdPacket)
    (hchat : ¬ (isChatPacket packet.id s.session.protocolVersion = true ∧
      ¬ RustStr.startsWith cmdPacket.command "/" = true)) :
    interceptCommand env packet s = (speak env (commandResult env s cmdPacket.command) >>= fun _ =>
      obey env (commandResult env s cmdPacket.command)) s := by
  rw [interceptCommand, Effect.get_bind]
  simp only [hid, not_true_eq_false, if_false, hdecode, if_neg hchat]
  rw [speak]
  by_cases hmessage : (commandResult env s cmdPacket.command).sendMessage ≠ ""
  · rw [if_pos hmessage]
    exact congrFun (if_pos hmessage) s
  · rw [if_neg hmessage]
    exact congrFun (if_neg hmessage) s

theorem interceptCommand_intercepts (packet : RawPacket) :
    Intercepts (fun env => interceptCommand env packet) env s (commandTransfer env packet s) := by
  by_cases hid : ServerboundChatCommand.isCommandPacket packet.id s.session.protocolVersion = true
  · rw [commandTransfer, if_neg (not_not.mpr hid)]
    cases hdecode : ServerboundChatCommand.decodeWithVersion packet s.session.protocolVersion with
    | err e =>
      intro connect
      simp only [interceptCommand, Effect.get_bind, hid, not_true_eq_false, if_false, hdecode]
    | panic =>
      intro connect
      simp only [interceptCommand, Effect.get_bind, hid, not_true_eq_false, if_false, hdecode]
    | ok cmdPacket =>
      simp only
      by_cases hchat : isChatPacket packet.id s.session.protocolVersion = true ∧
          ¬ RustStr.startsWith cmdPacket.command "/" = true
      · rw [if_pos hchat]
        intro connect
        simp only [interceptCommand, Effect.get_bind, hid, not_true_eq_false, if_false, hdecode, if_pos hchat]
      · rw [if_neg hchat]
        have hanswer := @answer_intercepts env s (commandResult env s cmdPacket.command)
        have hasked := fun env => @interceptCommand_asked env s packet cmdPacket hid hdecode hchat
        have hsame : ∀ connect, commandResult (env.reconnected connect) s cmdPacket.command =
            commandResult env s cmdPacket.command := fun _ => rfl
        cases htransfer : answerTransfer env (commandResult env s cmdPacket.command) s with
        | none =>
          rw [htransfer] at hanswer
          intro connect
          simp only [hasked, hsame]
          exact hanswer connect
        | some transfer =>
          rw [htransfer] at hanswer
          show _ ∧ _
          simp only [hasked]
          exact hanswer
  · rw [commandTransfer, if_pos hid]
    intro connect
    have hnone : ∀ env', interceptCommand env' packet s = (.ok none, s) := by
      intro env'
      rw [interceptCommand, Effect.get_bind, if_pos hid]
      rfl
    simp only [hnone]

theorem clientRound_makes (packet : RawPacket) :
    Makes (fun env => runRound env (.client (.ok packet))) env s (transferIn env (.client (.ok packet)) s) := by
  rw [transferIn]
  by_cases hprotected : isProtectedPluginChannel packet = true
  · rw [if_pos hprotected]
    intro connect
    simp only [runRound, Effect.modify_bind, handleClientPacket_protected _ _ hprotected]
  · rw [if_neg hprotected]
    have hintercept := @interceptCommand_intercepts env (noteClose packet (clientReceived packet s)) packet
    have hround : ∀ env, runRound env (.client (.ok packet)) s =
        routeClientPacket env packet (noteClose packet (clientReceived packet s)) := by
      intro env
      rw [runRound, Effect.modify_bind, handleClientPacket, if_neg hprotected, Effect.modify_bind]
    generalize noteClose packet (clientReceived packet s) = s₀ at hintercept hround
    have htab : ∀ connect, interceptTabComplete (env.reconnected connect) packet =
        interceptTabComplete env packet := fun _ => rfl
    cases htransfer : commandTransfer env packet s₀ with
    | none =>
      rw [htransfer] at hintercept
      intro connect
      simp only [hround, routeClientPacket, Effect.bind_apply, htab]
      rw [show interceptCommand (env.reconnected connect) packet s₀ = interceptCommand env packet s₀ from
        hintercept connect]
    | some transfer =>
      rw [htransfer] at hintercept
      change (interceptCommand env packet s₀).1 ≠ _ ∧ (interceptCommand env packet s₀).2 = _ at hintercept
      obtain ⟨hne, hstate⟩ := hintercept
      show (runRound env (.client (.ok packet)) s).2 = _
      rw [hround, routeClientPacket, Effect.bind_apply, ← hstate]
      rcases hr : interceptCommand env packet s₀ with ⟨_ | (_ | _), s'⟩
      · rfl
      · rw [hr] at hne
        exact absurd rfl hne
      · rfl

theorem backendRound_makes (packet : RawPacket) :
    Makes (fun env => runRound env (.backend (.ok packet))) env s (transferIn env (.backend (.ok packet)) s) := by
  rw [transferIn]
  by_cases hprotected : isProtectedPluginChannel packet = true
  · rw [if_pos hprotected]
    intro connect
    simp only [runRound, Effect.modify_bind, if_pos hprotected]
  · rw [if_neg hprotected]
    have hround : ∀ env, runRound env (.backend (.ok packet)) s =
        (if isDisconnectPacket packet.id then
          recover env "§eDisconnected from " ". Reconnecting to fallback server..."
            (Effect.throw (.backendConnectionFailed "Fallback server disconnected"))
        else if isLoginPlayPacket packet.id (track packet (backendReceived packet s)).session.protocolVersion then
          deliverLogin packet
        else deliver env packet) (track packet (backendReceived packet s)) := by
      intro env
      rw [runRound, Effect.modify_bind, if_neg hprotected, handleBackendPacket, if_neg hprotected,
        Effect.modify_bind, Effect.get_bind]
    generalize track packet (backendReceived packet s) = s₀ at hround
    by_cases hdisconnect : isDisconnectPacket packet.id = true
    · rw [if_pos hdisconnect]
      have hrecover := @recover_makes env s₀ "§eDisconnected from " ". Reconnecting to fallback server..."
        (Effect.throw (.backendConnectionFailed "Fallback server disconnected"))
      cases htransfer : fallbackTransfer env "§eDisconnected from " ". Reconnecting to fallback server..." s₀ with
      | none =>
        rw [htransfer] at hrecover
        intro connect
        simp only [hround, if_pos hdisconnect]
        exact hrecover connect
      | some transfer =>
        rw [htransfer] at hrecover
        show (runRound env (.backend (.ok packet)) s).2 = _
        rw [hround, if_pos hdisconnect]
        exact hrecover
    · rw [if_neg hdisconnect]
      intro connect
      simp only [hround, if_neg hdisconnect]
      rfl

/-- A round makes the transfer that is laid down for it, as the last thing it
does to the machine. -/
theorem runRound_makes (input : Input) :
    Makes (fun env => runRound env input) env s (transferIn env input s) := by
  rcases input with (_ | packet) | (_ | packet) | _
  · exact fun _ => rfl
  · exact clientRound_makes packet
  · exact recover_makes _ _ _
  · exact backendRound_makes packet
  · exact fun _ => rfl

theorem switchReadings_packets (env : Env) (targetServer : String) (s : PlayStateMachine) :
    (switchReadings env targetServer s).map Reading.packet = receivedInSwitch env s targetServer := by
  have hconfig : ∀ v threshold reads cache wire,
      (configReadings env v threshold reads cache wire).map Reading.packet =
        packetsRead env v threshold reads cache wire := by
    intro v threshold reads
    induction reads with
    | nil => exact fun _ _ => rfl
    | cons read reads ih =>
      intro cache wire
      cases read with
      | pause => rfl
      | failed e => rfl
      | packet packet =>
        rw [configReadings, packetsRead, List.map_cons, Reading.packet]
        congr 1
        cases configureStep env v threshold packet cache (wire.received packet threshold) with
        | next cache wire => exact ih cache wire
        | finished wire => rfl
        | failed reason wire => rfl
  rw [switchReadings, receivedInSwitch]
  cases s.config.servers.lookup targetServer with
  | none => rfl
  | some config =>
    cases env.connect targetServer with
    | failed e dropped => rfl
    | ok new =>
      simp only
      split
      · exact hconfig ..
      · rfl

end Made

/-! ## Coming to nothing -/

theorem cachePacket_eq_iff (cache : SessionRegistryCache) (packet : RawPacket) :
    (cache.cachePacket packet).2 = cache ↔
      ∀ reg, SessionRegistryCache.carried packet = some reg → cache.get reg.registryId = some reg := by
  have hone := SessionRegistryCache.foldl_cachePacket_eq_iff [packet] cache
  rw [List.foldl_cons, List.foldl_nil] at hone
  rw [hone]
  constructor
  · intro h reg hreg
    apply h
    rw [lastCarried_singleton, hreg, Option.filter_eq_some_iff]
    simp
  · intro h id reg hreg
    rw [lastCarried_singleton, Option.filter_eq_some_iff, decide_eq_true_iff] at hreg
    rw [← hreg.2]
    exact h reg hreg.1

/-- The loop answers a packet and goes on, or fails over the answer. -/
theorem unheard_reply {packet p : RawPacket} {cache : SessionRegistryCache} {wire : Wire} {env : Env} {v : Int}
    {threshold : Option Nat}
    (h : configureStep env v threshold packet cache wire = replyThen wire p threshold (.next cache)) :
    (Reading.configuring packet cache wire env v threshold).Unheard := by
  rw [Reading.Unheard, h, replyThen]
  rcases hwrite : wire.write p threshold .own with ⟨e | _, wire'⟩
  · exact ⟨p, e, hwrite⟩
  · rfl

theorem write_writes (w : Wire) (p : RawPacket) (t : Option Nat) (origin : Origin) :
    (w.write p t origin).2.writes = w.writes + 1 := by
  rw [Wire.write]
  split <;> rfl

theorem configuring_unheard_iff (packet : RawPacket) (cache : SessionRegistryCache) (wire : Wire) (env : Env) (v : Int)
    (threshold : Option Nat) :
    (Reading.configuring packet cache wire env v threshold).Unheard ↔
      (Reading.configuring packet cache wire env v threshold).Idle := by
  -- the ids of the phase's end are no others of the loop's
  have hends : ∀ id : Int32, id ∉ [0x01, 0x02, 0x03] → id ≠ disconnectId v ∧ id ≠ finishId v := by
    intro id hid
    unfold disconnectId finishId
    constructor <;> split <;> rintro rfl <;> exact hid (by decide)
  by_cases hselected : packet.id = registryDataPacketId ∨ (v < 766 ∧ packet.id = 0x05)
  · have hstep : configureStep env v threshold packet cache wire = .next (cache.cachePacket packet).2 wire := by
      rw [configureStep, if_pos hselected]
    have hid : packet.id ∉ [0x01, 0x02, 0x03] := by
      rcases hselected with h | ⟨-, h⟩
      · rw [h]
        decide
      · rw [h]
        decide
    rw [Reading.Unheard, Reading.Idle, hstep, ← cachePacket_eq_iff]
    simp [hends packet.id hid]
  · have hnone : SessionRegistryCache.carried packet = none := carried_of_ne (mt Or.inl hselected)
    have hidle : (Reading.configuring packet cache wire env v threshold).Idle ↔ packet.id ≠ disconnectId v ∧
        (packet.id = finishId v → ∃ e wire', wire.write ⟨finishId v, []⟩ threshold .own = (.error e, wire')) := by
      simp [Reading.Idle, hnone]
    have hunheard : ∀ {p}, packet.id ∉ [0x01, 0x02, 0x03] →
        configureStep env v threshold packet cache wire = replyThen wire p threshold (.next cache) →
          ((Reading.configuring packet cache wire env v threshold).Unheard ↔
            (Reading.configuring packet cache wire env v threshold).Idle) := by
      intro p hid hstep
      obtain ⟨hdisconnect, hfinish⟩ := hends packet.id hid
      exact iff_of_true (unheard_reply hstep) (hidle.mpr ⟨hdisconnect, fun h => absurd h hfinish⟩)
    by_cases hpacks : v ≥ 766 ∧ packet.id = 0x0E
    · apply hunheard (by rw [hpacks.2]; decide)
      rw [configureStep, if_neg hselected, if_pos hpacks]
    by_cases halive : packet.id = 0x04
    · apply hunheard (by rw [halive]; decide)
      rw [configureStep, if_neg hselected, if_neg hpacks, if_pos halive]
    by_cases hping : packet.id = 0x05
    · apply hunheard (by rw [hping]; decide)
      rw [configureStep, if_neg hselected, if_neg hpacks, if_neg halive, if_pos hping]
    rw [hidle, Reading.Unheard, configureStep, if_neg hselected, if_neg hpacks, if_neg halive, if_neg hping]
    by_cases hfinish : packet.id = finishId v
    · have hne : packet.id ≠ disconnectId v := by
        rw [hfinish]
        unfold disconnectId finishId
        split <;> decide
      rw [if_pos hfinish, replyThen]
      rcases hwrite : wire.write ⟨finishId v, []⟩ threshold .own with ⟨e | _, wire'⟩
      · exact iff_of_true ⟨_, e, hwrite⟩ ⟨hne, fun _ => ⟨e, wire', rfl⟩⟩
      · refine iff_of_false id fun h => ?_
        obtain ⟨e, wire'', h⟩ := h.2 hfinish
        cases h
    · rw [if_neg hfinish]
      by_cases hdisconnect : packet.id = disconnectId v
      · rw [if_pos hdisconnect]
        refine iff_of_false ?_ fun h => h.1 hdisconnect
        rintro ⟨reply, e, hwrite⟩
        have hwrites := write_writes wire reply threshold .own
        rw [hwrite] at hwrites
        exact absurd hwrites (by simp)
      · rw [if_neg hdisconnect]
        exact iff_of_true rfl ⟨hdisconnect, fun h => absurd h hfinish⟩

/-- Whatever the two loops read, in every run: the bridging loop does nothing
with a packet on a protected channel but take it off its wire. The Play loop
does nothing with one either, except in the Configuration loop of a transfer,
and there exactly where the packet is none the loop has a use for. -/
theorem spoofed_unheard_iff (lib : Library) (v : Int) (t : Option Nat) (turns : List Turn) (b : Bridging) (s : Linked)
    (inputs : List (World × Input)) (machine : PlayStateMachine) :
    (∀ round ∈ bridgeRounds lib v t turns b s, ∀ packet taken,
      round.Reads t packet taken → NamesProtectedChannel packet.payload →
        bridgeTurn lib v t round.before round.turn round.state = (.ok round.before, taken)) ∧
    ∀ reading ∈ readings inputs machine, NamesProtectedChannel reading.packet.payload →
      (reading.Unheard ↔ reading.Idle) := by
  refine ⟨fun round _ packet taken hreads h => ?_, fun reading _ h => ?_⟩
  · exact bridgeTurn_protected lib v hreads ((isProtectedPluginChannel_iff packet).mpr h)
  · have hprotected := (isProtectedPluginChannel_iff _).mpr h
    cases reading with
    | fromClient packet s =>
      refine iff_of_true (fun env => ?_) trivial
      change isProtectedPluginChannel packet = true at hprotected
      refine ⟨hooksAsked_protected env _ hprotected, ?_⟩
      rw [runRound, Effect.modify_bind, handleClientPacket_protected _ _ hprotected]
    | fromBackend packet s =>
      refine iff_of_true (fun env => ?_) trivial
      change isProtectedPluginChannel packet = true at hprotected
      rw [runRound, Effect.modify_bind, if_pos hprotected]
      rfl
    | configuring packet cache wire env v threshold => exact configuring_unheard_iff ..

/-- A backend that sends `sent` in its Configuration phase, behind the login. -/
def configuringWorld (sent : List RawPacket) : World :=
  { smallLogin.toWorld with dial := fun _ => .connected (fun _ => .done) (.packet ⟨0x02, []⟩ :: sent.map .packet) }

/-- A payload that names a protected channel, with a padded length and in mixed case. -/
def spoofed : RawPacket := ⟨0x19, [0x8A, 0x00] ++ asBytes "BungeeCord"⟩

theorem spoofed_named : NamesProtectedChannel spoofed.payload :=
  (isProtectedPluginChannel_iff spoofed).mp (by decide +kernel)

/-- The client sends it in either loop. -/
theorem spoofed_unheard_client :
    bridgeTurn smallLogin.lib 767 none ⟨false, false, .new⟩ .client (smallLinked [.packet spoofed] []) =
        (.ok ⟨false, false, .new⟩, { smallLinked [.packet spoofed] [] with
          client := ⟨⟨(Wire.mk [] (fun _ => .done) 0).received spoofed none, []⟩, none⟩ }) ∧
      ((Reading.fromClient spoofed (smallSession 767)).Unheard ↔
        (Reading.fromClient spoofed (smallSession 767)).Idle) :=
  have h := spoofed_unheard_iff smallLogin.lib 767 none [.client] ⟨false, false, .new⟩ (smallLinked [.packet spoofed] [])
    [(configuringWorld [], .client (.ok spoofed))] (smallSession 767)
  ⟨h.1 ⟨.client, ⟨false, false, .new⟩, smallLinked [.packet spoofed] []⟩ (List.mem_cons_self ..) spoofed _
      (.client _ _ _ _ rfl) spoofed_named,
    h.2 (.fromClient spoofed (smallSession 767)) (List.mem_cons_self ..) spoofed_named⟩

/-- A backend's registry that names a protected channel. -/
def spoofedRegistry : RawPacket := ⟨0x07, putString "bungeecord"⟩

/-- The backend is lost, and the fallback server sends the registry and finishes:
it is recorded. -/
theorem registry_spoofed :
    (∃ reading ∈ readings [(configuringWorld [spoofedRegistry, ⟨0x03, []⟩], .backend (.error streamEof))]
        (smallSession 767),
      reading.packet = spoofedRegistry ∧ NamesProtectedChannel reading.packet.payload ∧ ¬ reading.Unheard) ∧
    (run [(configuringWorld [spoofedRegistry, ⟨0x03, []⟩], .backend (.error streamEof))]
      (smallSession 767)).2.session.registryCache.get "bungeecord" = some ⟨"bungeecord", []⟩ := by
  have hreadings : ∃ wire env rest,
      readings [(configuringWorld [spoofedRegistry, ⟨0x03, []⟩], .backend (.error streamEof))] (smallSession 767) =
        .configuring spoofedRegistry .new wire env 767 none :: rest := ⟨_, _, _, rfl⟩
  have hcache : (run [(configuringWorld [spoofedRegistry, ⟨0x03, []⟩], .backend (.error streamEof))]
      (smallSession 767)).2.session.registryCache = (SessionRegistryCache.new.cachePacket spoofedRegistry).2 := rfl
  have hcarried : SessionRegistryCache.carried spoofedRegistry = some ⟨"bungeecord", []⟩ := by decide +kernel
  constructor
  · obtain ⟨wire, env, rest, hreadings⟩ := hreadings
    rw [hreadings]
    refine ⟨_, List.mem_cons_self .., rfl, (isProtectedPluginChannel_iff spoofedRegistry).mp (by decide +kernel), ?_⟩
    rw [configuring_unheard_iff]
    intro h
    have hnew : SessionRegistryCache.new.get "bungeecord" = none := Std.ExtTreeMap.getElem?_empty
    rw [h.2.2 _ hcarried] at hnew
    cases hnew
  · rw [hcache, SessionRegistryCache.cachePacket_snd, hcarried]
    show (SessionRegistryCache.new.insert _).get _ = _
    rw [SessionRegistryCache.get_insert, if_pos rfl]

end FrameMC

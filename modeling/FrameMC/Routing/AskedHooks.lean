import FrameMC.Lib.Recorded
import FrameMC.Routing.StateMachine

/-!
# The hooks that are asked

`handle_client_packet` with a record of the hooks it has the script host
evaluate, with which event and in which order. But for the record it is
`handleClientPacket` (`asking_handleClientPacket`), so that a packet for which
nothing is written down is one no script hears of.
-/

namespace FrameMC

open Effect

/-- A call of the script host. -/
inductive HookCall where
  | onPlayerJoin (event : PlayerJoinEvent)
  | onPlayerCommand (event : PlayerCommandEvent)
  | onTabComplete (event : PlayerTabCompleteEvent)
  deriving DecidableEq

abbrev AskingPlay (α : Type) : Type := Effect (PlayStateMachine × List HookCall) ProxyError α

namespace Asking

def interceptCommand (env : Env) (packet : RawPacket) : AskingPlay (Option Bool) := do
  let s ← silently get
  let v := s.session.protocolVersion
  if ¬ ServerboundChatCommand.isCommandPacket packet.id v then pure none
  else match ServerboundChatCommand.decodeWithVersion packet v with
    | .ok cmdPacket =>
      if isChatPacket packet.id v ∧ ¬ RustStr.startsWith cmdPacket.command "/" then pure none
      else do
        let event : PlayerCommandEvent :=
          ⟨s.session.profile.name, cmdPacket.normalizedCommand, s.session.currentServer⟩
        let cmdRes ← asking (.onPlayerCommand event) (env.scriptHost.evalCommand event)
        if cmdRes.sendMessage ≠ "" then silently (writeChat env cmdRes.sendMessage)
        else pure ()
        if cmdRes.rerouteServer ≠ "" then do
          let _ ← silently (switchServer env cmdRes.rerouteServer)
          pure (some true)
        else if cmdRes.cancel then pure (some true)
        else pure none
    | _ => pure none

def interceptTabComplete (env : Env) (packet : RawPacket) : AskingPlay (Option Bool) := do
  let s ← silently get
  let v := s.session.protocolVersion
  if ¬ TabCompleteRequestPacket.isTabCompleteRequest packet.id v then pure none
  else match TabCompleteRequestPacket.decode packet v with
    | .ok req => do
      let event : PlayerTabCompleteEvent := ⟨s.session.profile.name, req.text, s.session.currentServer⟩
      let suggestions ← asking (.onTabComplete event) (env.scriptHost.evalTabComplete event)
      let suggestions :=
        if suggestions.isEmpty then fallbackSuggestions (s.config.servers.map (·.1)) req.text else suggestions
      if suggestions.isEmpty then pure none
      else do
        let (start, length) := completionRange req.text
        silently (writeClient
          (TabCompleteResponsePacket.encodeWithVersion ⟨req.transactionId, start, length, suggestions⟩ v) .own)
        pure (some true)
    | _ => pure none

def routeClientPacket (env : Env) (packet : RawPacket) : AskingPlay Bool := do
  match ← interceptCommand env packet with
  | some b => pure b
  | none =>
    match ← interceptTabComplete env packet with
    | some b => pure b
    | none => do
      silently (writeBackend packet)
      pure true

def handleClientPacket (env : Env) (packet : RawPacket) : AskingPlay Bool := do
  if isProtectedPluginChannel packet then pure true
  else do
    silently (modify (noteClose packet))
    routeClientPacket env packet

end Asking

section Asking

variable (env : Env) (packet : RawPacket)

theorem asking_interceptCommand : Records (Asking.interceptCommand env packet) (interceptCommand env packet) := by
  refine records_bind (records_silently _) fun s => records_ite (fun _ => records_pure _) fun _ => ?_
  cases ServerboundChatCommand.decodeWithVersion packet s.session.protocolVersion with
  | err e => exact records_pure _
  | panic => exact records_pure _
  | ok cmdPacket =>
    refine records_ite (fun _ => records_pure _) fun _ => records_asking _ ?_
    have hrest : ∀ cmdRes : CommandResult, Records
        (if cmdRes.rerouteServer ≠ "" then do
          let _ ← silently (switchServer env cmdRes.rerouteServer)
          pure (some true)
        else if cmdRes.cancel then pure (some true)
        else pure none : AskingPlay (Option Bool))
        (if cmdRes.rerouteServer ≠ "" then do
          let _ ← switchServer env cmdRes.rerouteServer
          pure (some true)
        else if cmdRes.cancel then pure (some true)
        else pure none) := fun cmdRes =>
      records_ite (fun _ => records_bind (records_silently _) fun _ => records_pure _) fun _ =>
        records_ite (fun _ => records_pure _) fun _ => records_pure _
    exact records_ite (fun _ => records_bind (records_silently _) fun _ => hrest _) fun _ => hrest _

theorem asking_interceptTabComplete :
    Records (Asking.interceptTabComplete env packet) (interceptTabComplete env packet) := by
  refine records_bind (records_silently _) fun s => records_ite (fun _ => records_pure _) fun _ => ?_
  cases TabCompleteRequestPacket.decode packet s.session.protocolVersion with
  | err e => exact records_pure _
  | panic => exact records_pure _
  | ok req =>
    refine records_asking _ (records_ite (fun _ => records_pure _) fun _ => ?_)
    exact records_bind (records_silently _) fun _ => records_pure _

theorem asking_routeClientPacket : Records (Asking.routeClientPacket env packet) (routeClientPacket env packet) := by
  refine records_bind (asking_interceptCommand env packet) fun decided => ?_
  cases decided with
  | some b => exact records_pure b
  | none =>
    refine records_bind (asking_interceptTabComplete env packet) fun completed => ?_
    cases completed with
    | some b => exact records_pure b
    | none => exact records_bind (records_silently _) fun _ => records_pure _

/-- But for the record this is `handleClientPacket`. -/
theorem asking_handleClientPacket :
    Records (Asking.handleClientPacket env packet) (handleClientPacket env packet) :=
  records_ite (fun _ => records_pure _) fun _ =>
    records_bind (records_silently _) fun _ => asking_routeClientPacket env packet

end Asking

/-- The hooks that are asked about a client's packet. -/
def hooksAsked (env : Env) (packet : RawPacket) (s : PlayStateMachine) : List HookCall :=
  (Asking.handleClientPacket env packet).calls s

/-- What is dropped for its channel no script hears of. -/
theorem hooksAsked_protected (env : Env) {packet : RawPacket} (s : PlayStateMachine)
    (h : isProtectedPluginChannel packet = true) : hooksAsked env packet s = [] := by
  rw [hooksAsked, Asking.handleClientPacket, if_pos h, calls_pure]

end FrameMC

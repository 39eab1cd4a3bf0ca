import FrameMC.Routing.Chat

/-!
# Command hooks, one after another

What the scripting guide says of `on_player_command`: the hooks are asked in
order up to the first that claims the command, whose answer decides, and what
a hook has to say reaches the player's chat (`documentedCommand`). The code
drops the message of every hook that does not claim (`command_hooks_compose_iff`).
-/

namespace FrameMC

open ByteStream

/-! ## What is documented -/

/-- The command is this hook's: it cancels it or sends the player elsewhere. -/
def CommandResult.claims (res : CommandResult) : Bool := res.cancel || res.rerouteServer ≠ ""

/-- The answers of the scripts that have the hook and do not fail in it, in order. -/
def answers (host : ScriptHost) (event : PlayerCommandEvent) : List CommandResult :=
  host.scripts.filterMap fun hooks => hooks.onPlayerCommand.bind (· event)

/-- The hooks run up to and including the first that claims the command. -/
def upToClaim : List CommandResult → List CommandResult
  | [] => []
  | res :: rest => if res.claims then [res] else res :: upToClaim rest

/-- The answer that decides: the claim, or that there is none. -/
def decision : List CommandResult → CommandResult
  | [] => {}
  | res :: rest => if res.claims then res else decision rest

/-- A message for the player, if there is one. -/
def say (env : Env) (res : CommandResult) : Play Unit :=
  if res.sendMessage ≠ "" then writeChat env res.sendMessage else pure ()

/-- Transfer, cancel or forward. -/
def carryOut (env : Env) (packet : RawPacket) (res : CommandResult) : Play Bool :=
  if res.rerouteServer ≠ "" then do
    let _ ← switchServer env res.rerouteServer
    pure true
  else if res.cancel then pure true
  else do
    writeBackend packet
    pure true

/-- The documented effect of a command packet. -/
def documentedCommand (env : Env) (packet : RawPacket) (event : PlayerCommandEvent) : Play Bool := do
  Effect.modify (noteClose packet)
  Effect.forEach (upToClaim (answers env.scriptHost event)) (say env)
  carryOut env packet (decision (answers env.scriptHost event))

/-- A packet the code has evaluated as the command `text`. -/
structure RaisesCommand (packet : RawPacket) (v : Int) (text : String) : Prop where
  command : ServerboundChatCommand.decodeWithVersion packet v = .ok ⟨text⟩
  slash : isChatPacket packet.id v = true → RustStr.startsWith text "/" = true
  unprotected : isProtectedPluginChannel packet = false

def commandEvent (session : PlayerSession) (text : String) : PlayerCommandEvent :=
  ⟨session.profile.name, ServerboundChatCommand.normalizedCommand ⟨text⟩, session.currentServer⟩

/-- The answer that decides about the command `text`. -/
def decided (env : Env) (session : PlayerSession) (text : String) : CommandResult :=
  decision (answers env.scriptHost (commandEvent session text))

/-- What the proxy answers if the packet is a completion request as well. Below
protocol 764 two ids of commands are. -/
def completions (env : Env) (session : PlayerSession) (config : ProxyConfig) (packet : RawPacket) : List String :=
  match TabCompleteRequestPacket.decode packet session.protocolVersion with
  | .ok req =>
    let suggestions := env.scriptHost.evalTabComplete ⟨session.profile.name, req.text, session.currentServer⟩
    if suggestions.isEmpty then fallbackSuggestions (config.servers.map (·.1)) req.text else suggestions
  | _ => []

/-! ## What the code does -/

/-- `eval_command` gives the answer that decides, and nothing where there is none. -/
theorem evalCommand_eq (host : ScriptHost) (event : PlayerCommandEvent) :
    host.evalCommand event = decision (answers host event) := by
  have key : ∀ scripts : List Hooks, ScriptHost.evalCommand.go event scripts =
      decision (scripts.filterMap fun hooks => hooks.onPlayerCommand.bind (· event)) := by
    intro scripts
    induction scripts with
    | nil => rfl
    | cons hooks rest ih =>
      rw [ScriptHost.evalCommand.go, List.filterMap_cons]
      cases hooks.onPlayerCommand with
      | none => exact ih
      | some hook =>
        dsimp only
        rw [Option.bind_some]
        cases hook event with
        | none => exact ih
        | some res =>
          dsimp only
          have hclaims : res.claims = true ↔ res.cancel = true ∨ res.rerouteServer ≠ "" := by
            rw [CommandResult.claims, Bool.or_eq_true, decide_eq_true_iff]
          by_cases h : res.cancel = true ∨ res.rerouteServer ≠ ""
          · rw [if_pos h, decision, if_pos (hclaims.mpr h)]
          · have hnot : res.claims = false := by
              rw [Bool.eq_false_iff]
              exact fun hc => h (hclaims.mp hc)
            rw [if_neg h, decision, hnot, if_neg Bool.false_ne_true, ih]
  exact key host.scripts

theorem decision_unclaimed {as : List CommandResult} (h : (decision as).claims = false) : decision as = {} := by
  induction as with
  | nil => rfl
  | cons a as ih =>
    rw [decision] at h ⊢
    cases ha : a.claims with
    | true =>
      rw [ha, if_pos rfl, ha] at h
      cases h
    | false =>
      rw [ha, if_neg Bool.false_ne_true] at h
      exact ih h

section Code

variable {env : Env} {packet : RawPacket} {text : String} {s : PlayStateMachine}

@[simp] theorem noteClose_config (packet : RawPacket) (s : PlayStateMachine) :
    (noteClose packet s).config = s.config := by
  rw [noteClose_frame]

/-- What the interception does with the answer that decides. -/
theorem interceptCommand_eq (h : RaisesCommand packet s.session.protocolVersion text) :
    interceptCommand env packet s = (say env (decided env s.session text) >>= fun _ =>
      if (decided env s.session text).rerouteServer ≠ "" then
        switchServer env (decided env s.session text).rerouteServer >>= fun _ => pure (some true)
      else if (decided env s.session text).cancel then pure (some true)
      else pure none) s := by
  have hcommand : ServerboundChatCommand.isCommandPacket packet.id s.session.protocolVersion = true := by
    by_contra hnot
    have := h.command
    rw [ServerboundChatCommand.decodeWithVersion, if_pos hnot] at this
    cases this
  have hnotChat : ¬ (isChatPacket packet.id s.session.protocolVersion = true ∧ ¬ RustStr.startsWith text "/" = true) :=
    fun hc => hc.2 (h.slash hc.1)
  have heval : env.scriptHost.evalCommand ⟨s.session.profile.name,
      ServerboundChatCommand.normalizedCommand ⟨text⟩, s.session.currentServer⟩ = decided env s.session text :=
    evalCommand_eq _ _
  rw [interceptCommand, Effect.get_bind]
  simp only [hcommand, not_true_eq_false, if_false, h.command, hnotChat, heval]
  generalize decided env s.session text = res
  rw [say]
  by_cases hmessage : res.sendMessage ≠ ""
  · simp only [if_pos hmessage]
  · simp only [if_neg hmessage]
    rfl

/-- What becomes of a packet no script claims. -/
def completeOrForward (env : Env) (packet : RawPacket) : Play Bool := do
  match ← interceptTabComplete env packet with
  | some b => pure b
  | none => do
    writeBackend packet
    pure true

/-- The code's effect on a command: the answer that decides, and nothing else of what the hooks say. -/
theorem handle_command (h : RaisesCommand packet s.session.protocolVersion text) :
    handleClientPacket env packet s = (say env (decided env s.session text) >>= fun _ =>
      if (decided env s.session text).claims then carryOut env packet (decided env s.session text)
      else completeOrForward env packet) (noteClose packet s) := by
  have hsession : (noteClose packet s).session = s.session := noteClose_session packet s
  have hintercept := @interceptCommand_eq env packet text (noteClose packet s) (hsession ▸ h)
  rw [hsession] at hintercept
  rw [handleClientPacket, h.unprotected, if_neg Bool.false_ne_true, Effect.modify_bind, routeClientPacket,
    Effect.bind_apply, hintercept]
  generalize decided env s.session text = res
  rw [Effect.bind_apply, Effect.bind_apply]
  rcases say env res (noteClose packet s) with ⟨_ | _, s'⟩
  · rfl
  dsimp only
  by_cases hreroute : res.rerouteServer ≠ ""
  · have hclaims : res.claims = true := by
      rw [CommandResult.claims, decide_eq_true hreroute, Bool.or_true]
    rw [if_pos hreroute, if_pos hclaims, carryOut, if_pos hreroute, Effect.bind_apply, Effect.bind_apply]
    rcases switchServer env res.rerouteServer s' with ⟨_ | _, s''⟩
    · rfl
    · rfl
  · rw [if_neg hreroute]
    by_cases hcancel : res.cancel = true
    · have hclaims : res.claims = true := by
        rw [CommandResult.claims, hcancel, Bool.true_or]
      rw [if_pos hcancel, if_pos hclaims, carryOut, if_neg hreroute, if_pos hcancel]
      rfl
    · have hclaims : ¬ res.claims = true := by
        rw [CommandResult.claims, Bool.or_eq_true, decide_eq_true_iff]
        exact fun hc => hc.elim hcancel hreroute
      rw [if_neg hcancel, if_neg hclaims]
      rfl

/-- Without completions an unclaimed packet is forwarded. -/
theorem completeOrForward_none (h : completions env s.session s.config packet = []) :
    completeOrForward env packet s = carryOut env packet {} s := by
  have htab : interceptTabComplete env packet s = (.ok none, s) := by
    rw [interceptTabComplete, Effect.get_bind]
    by_cases hid : TabCompleteRequestPacket.isTabCompleteRequest packet.id s.session.protocolVersion = true
    · rw [completions] at h
      rw [if_neg (not_not_intro hid)]
      cases hdecode : TabCompleteRequestPacket.decode packet s.session.protocolVersion with
      | ok req =>
        rw [hdecode] at h
        dsimp only at h ⊢
        rw [h]
        rfl
      | err e => rfl
      | panic => rfl
    · rw [if_pos hid]
      rfl
  rw [completeOrForward, Effect.bind_apply, htab]
  rfl

/-- With completions it is answered, and the backend hears nothing. -/
theorem completeOrForward_some (h : completions env s.session s.config packet ≠ []) :
    (completeOrForward env packet s).2.backend = s.backend := by
  have htab : (interceptTabComplete env packet s).2.backend = s.backend ∧
      (interceptTabComplete env packet s).1 ≠ .ok none := by
    rw [interceptTabComplete, Effect.get_bind]
    rw [completions] at h
    cases hdecode : TabCompleteRequestPacket.decode packet s.session.protocolVersion with
    | ok req =>
      have hid : TabCompleteRequestPacket.isTabCompleteRequest packet.id s.session.protocolVersion = true := by
        by_contra hnot
        rw [TabCompleteRequestPacket.decode, if_pos hnot] at hdecode
        cases hdecode
      rw [hdecode] at h
      dsimp only at h ⊢
      rw [if_neg (not_not_intro hid)]
      have hne := mt List.isEmpty_iff.mp h
      rw [if_neg hne, Effect.bind_apply, writeClient]
      rcases s.client.write _ s.clientCompressionThreshold .own with ⟨_ | _, w⟩
      · refine ⟨rfl, fun hnone => ?_⟩
        cases hnone
      · refine ⟨rfl, fun hnone => ?_⟩
        cases hnone
    | err e =>
      rw [hdecode] at h
      exact absurd rfl h
    | panic =>
      rw [hdecode] at h
      exact absurd rfl h
  rw [completeOrForward, Effect.bind_apply]
  rcases hrun : interceptTabComplete env packet s with ⟨_ | r, s'⟩
  · rw [hrun] at htab
    exact htab.1
  · rw [hrun] at htab
    cases r with
    | none => exact absurd rfl htab.2
    | some b => exact htab.1

/-! ## Hooks that keep quiet -/

theorem forEach_singleton {α : Type} (x : α) (f : α → Play Unit) : Effect.forEach [x] f = f x := by
  funext s
  rw [Effect.forEach, Effect.bind_apply]
  rcases f x s with ⟨_ | _, _⟩ <;> rfl

/-- Where no hook speaks but the one that claims, all that is said is in the answer that decides. -/
theorem says_quiet {as : List CommandResult}
    (h : ∀ res ∈ upToClaim as, res.claims = false → res.sendMessage = "") :
    Effect.forEach (upToClaim as) (say env) = say env (decision as) := by
  induction as with
  | nil => rfl
  | cons a as ih =>
    rw [upToClaim] at h ⊢
    rw [decision]
    cases ha : a.claims with
    | true => rw [if_pos rfl, if_pos rfl, forEach_singleton]
    | false =>
      rw [ha, if_neg Bool.false_ne_true, List.forall_mem_cons] at h
      have hsilent : say env a = pure () := by rw [say, if_neg (not_not_intro (h.1 ha))]
      rw [if_neg Bool.false_ne_true, if_neg Bool.false_ne_true, ← ih h.2, Effect.forEach, hsilent]
      rfl

end Code

/-! ## A hook that speaks without claiming

The two effects are told apart on a connection to the client on which some
writes go out and all behind them are lost: the code, which writes less, comes
to the end. -/

/-- The first `n` writes go out. -/
def FrailAfter (n : Nat) (w : Wire) : Prop := ∀ i, w.fate i = if i < n then .done else .lost streamEof

/-- The messages among the answers. -/
def spoken (as : List CommandResult) : Nat := (as.filter (·.sendMessage ≠ "")).length

theorem spoken_cons {a : CommandResult} (as : List CommandResult) (ha : a.sendMessage ≠ "") :
    spoken (a :: as) = spoken as + 1 := by
  rw [spoken, List.filter_cons_of_pos (by simpa using ha), List.length_cons, spoken]

theorem spoken_cons_silent {a : CommandResult} (as : List CommandResult) (ha : ¬ a.sendMessage ≠ "") :
    spoken (a :: as) = spoken as := by
  rw [spoken, List.filter_cons_of_neg (by simpa using ha), spoken]

theorem spoken_le_cons (a : CommandResult) (as : List CommandResult) : spoken as ≤ spoken (a :: as) := by
  by_cases ha : a.sendMessage ≠ ""
  · rw [spoken_cons as ha]
    exact Nat.le_succ _
  · rw [spoken_cons_silent as ha]

section Frail

variable {env : Env} {n : Nat} {s : PlayStateMachine}

theorem FrailAfter.write_ok {w : Wire} (h : FrailAfter n w) (hlt : w.writes < n) (p : RawPacket) (t : Option Nat)
    (origin : Origin) :
    ∃ w', FrailAfter n w' ∧ w'.writes = w.writes + 1 ∧ w.write p t origin = (.ok (), w') := by
  refine ⟨_, ?_, ?_, by rw [Wire.write, h, if_pos hlt]⟩
  · exact h
  · rfl

theorem FrailAfter.write_error {w : Wire} (h : FrailAfter n w) (hle : n ≤ w.writes) (p : RawPacket) (t : Option Nat)
    (origin : Origin) : (w.write p t origin).1 = .error streamEof := by
  rw [Wire.write, h, if_neg (Nat.not_lt.mpr hle)]

theorem writeChat_frail (env : Env) (h : FrailAfter n s.client) (hlt : s.client.writes < n) (message : String) :
    ∃ w, FrailAfter n w ∧ w.writes = s.client.writes + 1 ∧
      writeChat env message s = (.ok (), { s with client := w }) := by
  obtain ⟨w, hw, hwrites, hwrite⟩ := h.write_ok hlt (chatPacket env s message) s.clientCompressionThreshold .own
  exact ⟨w, hw, hwrites, by rw [writeChat_apply, hwrite]⟩

theorem writeChat_lost (h : FrailAfter n s.client) (hle : n ≤ s.client.writes) (message : String) :
    (writeChat env message s).1 = .error streamEof := by
  rw [writeChat_apply]
  exact h.write_error hle _ _ _

theorem bind_fails {α β : Type} {m : Play α} {f : α → Play β} {e : ProxyError} (h : (m s).1 = .error e) :
    ((m >>= f) s).1 = .error e := by
  rw [Effect.bind_apply]
  rcases hm : m s with ⟨r, s'⟩
  rw [hm] at h
  cases h
  rfl

/-- As many messages get through as there are writes left, and no more. -/
theorem says_frail (env : Env) (as : List CommandResult) : ∀ {s : PlayStateMachine}, FrailAfter n s.client →
    (s.client.writes + spoken as ≤ n → ∃ w, FrailAfter n w ∧ w.writes = s.client.writes + spoken as ∧
      Effect.forEach as (say env) s = (.ok (), { s with client := w })) ∧
    (s.client.writes ≤ n → n < s.client.writes + spoken as →
      (Effect.forEach as (say env) s).1 = .error streamEof) := by
  induction as with
  | nil =>
    intro s h
    exact ⟨fun _ => ⟨s.client, h, rfl, rfl⟩, fun hle hlt => absurd hle (Nat.not_le.mpr hlt)⟩
  | cons a as ih =>
    intro s h
    rw [Effect.forEach]
    by_cases ha : a.sendMessage ≠ ""
    · rw [spoken_cons as ha, say, if_pos ha]
      by_cases hlt : s.client.writes < n
      · obtain ⟨w, hw, hwrites, hwrite⟩ := writeChat_frail env h hlt a.sendMessage
        obtain ⟨hall, hlost⟩ := ih (s := { s with client := w }) hw
        dsimp only at hall hlost
        rw [hwrites] at hall hlost
        rw [Effect.bind_apply, hwrite]
        constructor
        · intro hle
          obtain ⟨w', hw', hwrites', hrest⟩ := hall (by omega)
          exact ⟨w', hw', by omega, hrest⟩
        · intro hle hmore
          exact hlost (by omega) (by omega)
      · constructor
        · omega
        · exact fun _ _ => bind_fails (writeChat_lost h (Nat.le_of_not_lt hlt) a.sendMessage)
    · rw [spoken_cons_silent as ha, say, if_neg ha]
      exact ih h

/-- The answer that decides is spoken at most once, and so are the others. -/
theorem spoken_decision_le (as : List CommandResult) : spoken [decision as] ≤ spoken (upToClaim as) := by
  induction as with
  | nil => exact Nat.le_refl 0
  | cons a as ih =>
    rw [decision, upToClaim]
    cases a.claims with
    | true => exact Nat.le_refl _
    | false => exact Nat.le_trans ih (spoken_le_cons a _)

/-- A hook that speaks without claiming says more than the answer that decides. -/
theorem spoken_decision_lt {as : List CommandResult} {res : CommandResult} (hmem : res ∈ upToClaim as)
    (hclaims : res.claims = false) (hspeaks : res.sendMessage ≠ "") :
    spoken [decision as] < spoken (upToClaim as) := by
  induction as with
  | nil => cases hmem
  | cons a as ih =>
    rw [upToClaim] at hmem ⊢
    rw [decision]
    cases ha : a.claims with
    | true =>
      rw [ha, if_pos rfl, List.mem_singleton] at hmem
      rw [hmem, ha] at hclaims
      cases hclaims
    | false =>
      rw [ha, if_neg Bool.false_ne_true] at hmem
      rw [if_neg Bool.false_ne_true, if_neg Bool.false_ne_true]
      rcases List.mem_cons.mp hmem with rfl | hmem
      · rw [spoken_cons _ hspeaks]
        exact Nat.lt_succ_of_le (spoken_decision_le as)
      · exact Nat.lt_of_lt_of_le (ih hmem) (spoken_le_cons a _)

/-- A machine with this session on a frail connection to the client. -/
def frailMachine (n : Nat) (backend : Option Wire) (session : PlayerSession) (config : ProxyConfig) :
    PlayStateMachine where
  client := ⟨[], fun i => if i < n then .done else .lost streamEof, 0⟩
  backend := backend
  session := session
  config := config
  clientCompressionThreshold := none
  backendCompressionThreshold := none
  compressionThreshold := none
  serverTransferred := false
  openContainerId := none
  hasActiveAudio := false
  activeBossBars := .new (plainHasher _)
  activeScoreboardObjectives := .new (plainHasher _)
  activeDisplaySlots := .new (plainHasher _)
  attached := 0
  closed := []

/-- Noting a packet leaves it frail, with all its writes before it. -/
theorem noteClose_frailMachine (packet : RawPacket) (n : Nat) (backend : Option Wire) (session : PlayerSession)
    (config : ProxyConfig) :
    ∃ s, noteClose packet (frailMachine n backend session config) = s ∧ FrailAfter n s.client ∧
      s.client.writes = 0 ∧ s.backend = backend ∧ s.session = session ∧ s.config = config ∧
      s.backendCompressionThreshold = none := by
  rw [noteClose_frame]
  exact ⟨_, rfl, fun _ => rfl, rfl, rfl, rfl, rfl, rfl⟩

/-- To a server that is configured, the transfer comes to an end, whatever end. -/
theorem switchServer_known {targetServer : String} (h : s.config.servers.lookup targetServer ≠ none) :
    ∃ b, (switchServer env targetServer s).1 = .ok b := by
  have hcases := switchServer_cases env targetServer s
  generalize (switchServer env targetServer s).1 = r at hcases ⊢
  generalize (switchServer env targetServer s).2 = s' at hcases
  cases hcases with
  | unknown r hl _ => exact absurd hl h
  | failed reason dropped _ => exact ⟨false, rfl⟩
  | attached wire threshold _ => exact ⟨true, rfl⟩

theorem switchServer_unknown {targetServer : String} (h : s.config.servers.lookup targetServer = none) :
    switchServer env targetServer s =
      (writeChat env ("§cServer '" ++ targetServer ++ "' not found.") >>= fun _ => pure false) s := by
  rw [switchServer, Effect.get_bind, h]

/-- The writes to the client that are left to settling the answer: the notice about an unknown server. -/
def noticesLeft (config : ProxyConfig) (res : CommandResult) : Nat :=
  if res.rerouteServer ≠ "" ∧ config.servers.lookup res.rerouteServer = none then 1 else 0

/-- With enough writes left the answer is settled. -/
theorem carryOut_ok {packet : RawPacket} {res : CommandResult} (h : FrailAfter n s.client) (hbackend : s.backend = none)
    (hle : s.client.writes + noticesLeft s.config res ≤ n) : (carryOut env packet res s).1 = .ok true := by
  rw [carryOut]
  by_cases hreroute : res.rerouteServer ≠ ""
  · rw [if_pos hreroute, Effect.bind_apply]
    obtain ⟨b, hb⟩ : ∃ b, (switchServer env res.rerouteServer s).1 = .ok b := by
      by_cases hknown : s.config.servers.lookup res.rerouteServer = none
      · rw [noticesLeft, if_pos ⟨hreroute, hknown⟩] at hle
        obtain ⟨w, -, -, hwrite⟩ := writeChat_frail env h (by omega)
          ("§cServer '" ++ res.rerouteServer ++ "' not found.")
        refine ⟨false, ?_⟩
        rw [switchServer_unknown hknown, Effect.bind_apply, hwrite]
        rfl
      · exact switchServer_known hknown
    rcases hrun : switchServer env res.rerouteServer s with ⟨r, s'⟩
    rw [hrun] at hb
    cases hb
    rfl
  · rw [if_neg hreroute]
    by_cases hcancel : res.cancel = true
    · rw [if_pos hcancel]
      rfl
    · rw [if_neg hcancel, Effect.bind_apply, writeBackend, hbackend]
      rfl

/-- With too few the notice is lost. -/
theorem carryOut_lost {packet : RawPacket} {res : CommandResult} (h : FrailAfter n s.client)
    (hle : n ≤ s.client.writes) (hnotice : 0 < noticesLeft s.config res) :
    (carryOut env packet res s).1 = .error streamEof := by
  have hunknown : res.rerouteServer ≠ "" ∧ s.config.servers.lookup res.rerouteServer = none := by
    by_contra hknown
    rw [noticesLeft, if_neg hknown] at hnotice
    exact absurd hnotice (Nat.lt_irrefl 0)
  rw [carryOut, if_pos hunknown.1]
  apply bind_fails
  rw [switchServer_unknown hunknown.2]
  exact bind_fails (writeChat_lost h hle _)

end Frail

/-! ## The two effects -/

section Compose

variable {env : Env} {packet : RawPacket} {text : String} {session : PlayerSession} {config : ProxyConfig}

/-- Told apart by what becomes of it: the code gets through, the documented effect does not. -/
theorem speaking_unclaimed_ne (h : RaisesCommand packet session.protocolVersion text)
    (hforward : (decided env session text).claims = false → completions env session config packet = [])
    {res : CommandResult} (hmem : res ∈ upToClaim (answers env.scriptHost (commandEvent session text)))
    (hclaims : res.claims = false) (hspeaks : res.sendMessage ≠ "") :
    ∃ s : PlayStateMachine, s.session = session ∧ s.config = config ∧
      handleClientPacket env packet s ≠ documentedCommand env packet (commandEvent session text) s := by
  have hmore := spoken_decision_lt hmem hclaims hspeaks
  rw [← decided] at hmore
  generalize hn : spoken [decided env session text] + noticesLeft config (decided env session text) = n
  refine ⟨frailMachine n none session config, rfl, rfl, ?_⟩
  obtain ⟨s, hnoted, hfrail, hzero, hbackend, hsession, hconfig, -⟩ :=
    noteClose_frailMachine packet n none session config
  have hcode : (handleClientPacket env packet (frailMachine n none session config)).1 = .ok true := by
    rw [@handle_command env packet text _ h, hnoted]
    change ((say env (decided env session text) >>= fun _ => if (decided env session text).claims then
      carryOut env packet (decided env session text) else completeOrForward env packet) s).1 = .ok true
    obtain ⟨w, hw, hwrites, hsay⟩ := (says_frail env [decided env session text] hfrail).1 (by omega)
    rw [forEach_singleton] at hsay
    rw [Effect.bind_apply, hsay]
    dsimp only
    by_cases hclaim : (decided env session text).claims = true
    · rw [if_pos hclaim]
      exact carryOut_ok hw hbackend (by dsimp only; rw [hconfig]; omega)
    · have hunclaimed := Bool.eq_false_iff.mpr hclaim
      have hnothing : completions env session config packet = [] := hforward hunclaimed
      rw [← hsession, ← hconfig] at hnothing
      have hforwarded := @completeOrForward_none env packet { s with client := w } hnothing
      rw [if_neg hclaim, hforwarded]
      exact carryOut_ok hw hbackend (by dsimp only; simp [noticesLeft]; omega)
  have hdocumented : (documentedCommand env packet (commandEvent session text)
      (frailMachine n none session config)).1 = .error streamEof := by
    rw [documentedCommand, Effect.modify_bind, hnoted]
    obtain ⟨hall, hlost⟩ := says_frail env (upToClaim (answers env.scriptHost (commandEvent session text))) hfrail
    rw [hzero, Nat.zero_add] at hall hlost
    by_cases hfit : spoken (upToClaim (answers env.scriptHost (commandEvent session text))) ≤ n
    · obtain ⟨w, hw, hwrites, hsays⟩ := hall hfit
      rw [Effect.bind_apply, hsays]
      apply carryOut_lost hw
      · have hnotice : noticesLeft config (decided env session text) ≤ 1 := by
          rw [noticesLeft]
          split_ifs
          · exact Nat.le_refl 1
          · exact Nat.zero_le 1
        change n ≤ w.writes
        omega
      · change 0 < noticesLeft s.config (decided env session text)
        rw [hconfig]
        omega
    · exact bind_fails (hlost (Nat.zero_le n) (by omega))
  intro heq
  rw [heq, hdocumented] at hcode
  cases hcode

/-- Told apart by the backend, which hears of the command or does not. -/
theorem completed_ne (h : RaisesCommand packet session.protocolVersion text)
    (hunclaimed : (decided env session text).claims = false)
    (hcompletions : completions env session config packet ≠ []) :
    ∃ s : PlayStateMachine, s.session = session ∧ s.config = config ∧
      handleClientPacket env packet s ≠ documentedCommand env packet (commandEvent session text) s := by
  have hnothing : decided env session text = {} := decision_unclaimed hunclaimed
  generalize hn : spoken (upToClaim (answers env.scriptHost (commandEvent session text))) = n
  refine ⟨frailMachine n (some quietWire) session config, rfl, rfl, ?_⟩
  obtain ⟨s, hnoted, hfrail, hzero, hbackend, hsession, hconfig, hthreshold⟩ :=
    noteClose_frailMachine packet n (some quietWire) session config
  have hcode : (handleClientPacket env packet (frailMachine n (some quietWire) session config)).2.backend =
      some quietWire := by
    rw [@handle_command env packet text _ h, hnoted]
    change ((say env (decided env session text) >>= fun _ => if (decided env session text).claims then
      carryOut env packet (decided env session text) else completeOrForward env packet) s).2.backend = _
    rw [← hsession, ← hconfig] at hcompletions
    rw [if_neg (Bool.eq_false_iff.mp hunclaimed), hnothing, ← hbackend]
    exact completeOrForward_some hcompletions
  have hdocumented : (documentedCommand env packet (commandEvent session text)
      (frailMachine n (some quietWire) session config)).2.backend =
        some (quietWire.write packet none .relayed).2 := by
    rw [documentedCommand, Effect.modify_bind, hnoted]
    obtain ⟨w, -, -, hsays⟩ := (says_frail env
      (upToClaim (answers env.scriptHost (commandEvent session text))) hfrail).1 (by omega)
    rw [Effect.bind_apply, hsays]
    change (carryOut env packet (decided env session text) { s with client := w }).2.backend = _
    rw [hnothing, carryOut, if_neg (by simp), if_neg (by simp), Effect.bind_apply, writeBackend]
    dsimp only
    rw [hbackend, hthreshold]
    rfl
  have hheard : (quietWire.write packet none .relayed).2.writes = 1 := rfl
  intro heq
  rw [heq, hdocumented] at hcode
  rw [Option.some.inj hcode] at hheard
  exact absurd hheard (by decide)

/-- The effect of a command is the documented one, whatever the connections are
like, exactly when no hook speaks that runs and does not claim, and a command
nobody claims is not taken for a completion request. -/
theorem command_hooks_compose_iff (h : RaisesCommand packet session.protocolVersion text) :
    (∀ s : PlayStateMachine, s.session = session → s.config = config →
      handleClientPacket env packet s = documentedCommand env packet (commandEvent session text) s) ↔
      (∀ res ∈ upToClaim (answers env.scriptHost (commandEvent session text)),
        res.claims = false → res.sendMessage = "") ∧
      ((decided env session text).claims = false → completions env session config packet = []) := by
  constructor
  · intro hsame
    have hforward (hunclaimed : (decided env session text).claims = false) :
        completions env session config packet = [] := by
      by_contra hcompletions
      obtain ⟨s, hsession, hconfig, hne⟩ := completed_ne h hunclaimed hcompletions
      exact hne (hsame s hsession hconfig)
    refine ⟨?_, hforward⟩
    intro res hmem hclaims
    by_contra hspeaks
    obtain ⟨s, hsession, hconfig, hne⟩ := speaking_unclaimed_ne h hforward hmem hclaims hspeaks
    exact hne (hsame s hsession hconfig)
  · rintro ⟨hquiet, hforward⟩ s rfl rfl
    rw [handle_command h, documentedCommand, Effect.modify_bind, says_quiet hquiet]
    change _ = (say env (decided env s.session text) >>= fun _ => carryOut env packet (decided env s.session text))
      (noteClose packet s)
    by_cases hclaims : (decided env s.session text).claims = true
    · rw [if_pos hclaims]
    · have hunclaimed := Bool.eq_false_iff.mpr hclaims
      have hnothing : decided env s.session text = {} := decision_unclaimed hunclaimed
      have hcompletions := hforward hunclaimed
      rw [← noteClose_session packet s, ← noteClose_config packet s] at hcompletions
      rw [if_neg hclaims, hnothing]
      exact completeOrForward_none hcompletions

/-- The command `/help` at protocol 776. -/
def helpCommand : RawPacket := ⟨0x07, putString "help"⟩

/-- One plugin that answers every command with `res`. -/
def answeringEnv (res : CommandResult) : Env :=
  { smallEnv [] with scriptHost := ⟨[⟨none, some fun _ => some res, none⟩], ⟨none, none, none⟩⟩ }

theorem helpCommand_raises : RaisesCommand helpCommand (smallSession 776).session.protocolVersion "help" where
  command := by decide +kernel
  slash := by decide +kernel
  unprotected := by decide +kernel

theorem command_hooks_compose_cancel :
    (∀ s : PlayStateMachine, s.session = (smallSession 776).session → s.config = (smallSession 776).config →
      handleClientPacket (answeringEnv { cancel := true }) helpCommand s =
        documentedCommand (answeringEnv { cancel := true }) helpCommand
          (commandEvent (smallSession 776).session "help") s) ↔
      (∀ res ∈ upToClaim (answers (answeringEnv { cancel := true }).scriptHost
        (commandEvent (smallSession 776).session "help")), res.claims = false → res.sendMessage = "") ∧
      ((decided (answeringEnv { cancel := true }) (smallSession 776).session "help").claims = false →
        completions (answeringEnv { cancel := true }) (smallSession 776).session (smallSession 776).config
          helpCommand = []) :=
  command_hooks_compose_iff helpCommand_raises

/-- A plugin that has something to say about a command, and leaves it to the
server, is not heard. -/
theorem command_message_dropped :
    answers (answeringEnv { sendMessage := "Logged" }).scriptHost (commandEvent (smallSession 776).session "help") =
        [{ sendMessage := "Logged" }] ∧
      (handleClientPacket (answeringEnv { sendMessage := "Logged" }) helpCommand (smallSession 776)).2.client.writes =
        0 ∧
      (documentedCommand (answeringEnv { sendMessage := "Logged" }) helpCommand
        (commandEvent (smallSession 776).session "help") (smallSession 776)).2.client.writes = 1 := by
  refine ⟨rfl, ?_, by decide +kernel⟩
  rw [handle_command helpCommand_raises]
  decide +kernel

end Compose

end FrameMC

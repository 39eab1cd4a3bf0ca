import FrameMC.Protocol.Channel
import FrameMC.Routing.AskedHooks
import FrameMC.Routing.Residue

/-!
# Chat and commands

What `handle_client_packet` does with a packet that carries a text. Chat that
is no command ought to reach the backend without any script being asked; it
does from protocol 766 on, and below it never does, as the table of chat ids
disagrees with the id of a chat message (`chat_not_evaluated_iff`). A command
that no script claims ought to reach the backend as it is, and does unless its
text is the name of a protected channel (`unclaimed_command_passes_iff`).
-/

namespace FrameMC

open ByteStream

def serverboundChatMessagePacketId : Int32 := 0x05

/-- The id of a serverbound chat message. -/
def chatMessageId (protocolVersion : Int) : Int32 :=
  if protocolVersion ≥ 776 then 0x09
  else if protocolVersion ≥ 768 then 0x07
  else if protocolVersion ≥ 766 then 0x06
  else serverboundChatMessagePacketId

/-- The payload begins with a length-prefixed text. -/
def HasText (packet : RawPacket) (text : String) : Prop :=
  ∃ u len rest, packet.payload = u ++ asBytes text ++ rest ∧ IsVarint u len ∧ 0 ≤ len ∧
    asUsize len = (asBytes text).length

/-- The packet goes to the backend as it is, and nothing else happens. -/
def passOn (packet : RawPacket) : Play Bool := do
  Effect.modify (noteClose packet)
  writeBackend packet
  pure true

/-- A command packet's text is the command. -/
theorem decodeWithVersion_iff {packet : RawPacket} {v : Int}
    (hid : ServerboundChatCommand.isCommandPacket packet.id v = true) {text : String} :
    ServerboundChatCommand.decodeWithVersion packet v = .ok ⟨text⟩ ↔ HasText packet text := by
  rw [ServerboundChatCommand.decodeWithVersion, if_neg (by simpa using hid)]
  constructor
  · intro h
    obtain ⟨⟨text', rest⟩, hread, heq⟩ := Outcome.bind_eq_ok.mp h
    obtain ⟨u, len, hpayload, hrest⟩ := readString_ok_iff.mp hread
    cases heq
    exact ⟨u, len, rest, hpayload, hrest⟩
  · rintro ⟨u, len, rest, hpayload, hrest⟩
    rw [readString_ok_iff.mpr ⟨u, len, hpayload, hrest⟩]
    rfl

/-- A text is the name of a protected channel where the packet that carries it is kept back. -/
theorem HasText.protected_iff {packet : RawPacket} {text : String} (h : HasText packet text) :
    isProtectedPluginChannel packet = true ↔ text.toLower ∈ protectedChannels := by
  obtain ⟨u, len, rest, hpayload, hu, hnonneg, hsize⟩ := h
  rw [isProtectedPluginChannel_iff]
  constructor
  · rintro ⟨u', len', name, rest', hpayload', hu', -, hsize', channel, hmem, hname⟩
    rw [hpayload, List.append_assoc, List.append_assoc] at hpayload'
    obtain ⟨rfl, rfl, hbehind⟩ := hu.append_inj hu' hpayload'
    obtain ⟨rfl, -⟩ := List.append_inj hbehind (by omega)
    rwa [(toLower_eq_iff (protectedChannels_ascii channel hmem)).mpr hname]
  · intro hmem
    exact ⟨u, len, asBytes text, rest, hpayload, hu, hnonneg, hsize, _, hmem,
      (toLower_eq_iff (protectedChannels_ascii _ hmem)).mp rfl⟩

/-! ## Interception -/

section Intercept

variable {env : Env} {packet : RawPacket} {s : PlayStateMachine} {v : Int}

theorem noteClose_frame (packet : RawPacket) (s : PlayStateMachine) :
    noteClose packet s = { s with openContainerId := (noteClose packet s).openContainerId } := by
  unfold noteClose
  split_ifs <;> rfl

@[simp] theorem noteClose_session (packet : RawPacket) (s : PlayStateMachine) :
    (noteClose packet s).session = s.session := by
  rw [noteClose_frame]

@[simp] theorem noteClose_backend (packet : RawPacket) (s : PlayStateMachine) :
    (noteClose packet s).backend = s.backend := by
  rw [noteClose_frame]

/-- What is neither claimed as a command nor a completion request is passed on. -/
theorem handleClientPacket_passOn (hprotected : isProtectedPluginChannel packet = false)
    (hcommand : interceptCommand env packet (noteClose packet s) = (.ok none, noteClose packet s))
    (htab : TabCompleteRequestPacket.isTabCompleteRequest packet.id s.session.protocolVersion = false) :
    handleClientPacket env packet s = passOn packet s := by
  have hcomplete : interceptTabComplete env packet (noteClose packet s) = (.ok none, noteClose packet s) := by
    rw [interceptTabComplete, Effect.get_bind, if_pos (by rw [noteClose_session, htab]; exact Bool.false_ne_true)]
    rfl
  rw [handleClientPacket, hprotected, if_neg Bool.false_ne_true, Effect.modify_bind, routeClientPacket,
    Effect.bind_apply, hcommand]
  simp only
  rw [Effect.bind_apply, hcomplete]
  rfl

/-- Chat that is no command goes past the scripts. -/
theorem interceptCommand_chat {text : String} (hv : s.session.protocolVersion = v) (htext : HasText packet text)
    (hcommand : ServerboundChatCommand.isCommandPacket packet.id v = true)
    (hchat : isChatPacket packet.id v = true) (hslash : RustStr.startsWith text "/" = false) :
    interceptCommand env packet s = (.ok none, s) := by
  have hdecode := (decodeWithVersion_iff hcommand).mpr htext
  have hplain : isChatPacket packet.id v = true ∧ ¬ RustStr.startsWith text "/" = true := ⟨hchat, by simp [hslash]⟩
  rw [interceptCommand, Effect.get_bind]
  simp only [hv, hcommand, not_true_eq_false, if_false, hdecode, hplain]
  rfl

/-- And no script is asked about it. -/
theorem hooksAsked_chat {text : String} (hprotected : isProtectedPluginChannel packet = false)
    (hv : s.session.protocolVersion = v) (htext : HasText packet text)
    (hcommand : ServerboundChatCommand.isCommandPacket packet.id v = true)
    (hchat : isChatPacket packet.id v = true) (hslash : RustStr.startsWith text "/" = false)
    (htab : TabCompleteRequestPacket.isTabCompleteRequest packet.id v = false) : hooksAsked env packet s = [] := by
  have hdecode := (decodeWithVersion_iff hcommand).mpr htext
  have hplain : isChatPacket packet.id v = true ∧ ¬ RustStr.startsWith text "/" = true := ⟨hchat, by simp [hslash]⟩
  have hnoted : (noteClose packet s).session.protocolVersion = v := by rw [noteClose_session, hv]
  have hunasked : Asking.interceptCommand env packet (noteClose packet s, []) =
      (.ok none, (noteClose packet s, [])) := by
    rw [Asking.interceptCommand, Effect.silently_get_bind]
    simp only [hnoted, hcommand, not_true_eq_false, if_false, hdecode, hplain]
    rfl
  have huncompleted : Asking.interceptTabComplete env packet (noteClose packet s, []) =
      (.ok none, (noteClose packet s, [])) := by
    rw [Asking.interceptTabComplete, Effect.silently_get_bind]
    simp only [hnoted, htab, Bool.false_eq_true, not_false_eq_true, if_true]
    rfl
  rw [hooksAsked, Effect.calls, Asking.handleClientPacket, hprotected, if_neg Bool.false_ne_true,
    Effect.silently_modify_bind, Asking.routeClientPacket, Effect.bind_apply, hunasked]
  dsimp only
  rw [Effect.bind_apply, huncompleted]
  exact Effect.silently_bind_pure_snd ..

/-- The answer of the scripts to a command. -/
def commandResult (env : Env) (s : PlayStateMachine) (text : String) : CommandResult :=
  env.scriptHost.evalCommand
    ⟨s.session.profile.name, ServerboundChatCommand.normalizedCommand ⟨text⟩, s.session.currentServer⟩

/-- Scripts either claim a command or have nothing to say about it. -/
theorem evalCommand_cases (host : ScriptHost) (event : PlayerCommandEvent) :
    (host.evalCommand event).cancel = true ∨ (host.evalCommand event).rerouteServer ≠ "" ∨
      host.evalCommand event = {} := by
  have key : ∀ scripts, (ScriptHost.evalCommand.go event scripts).cancel = true ∨
      (ScriptHost.evalCommand.go event scripts).rerouteServer ≠ "" ∨
      ScriptHost.evalCommand.go event scripts = {} := by
    intro scripts
    induction scripts with
    | nil => exact Or.inr (Or.inr rfl)
    | cons hooks rest ih =>
      rw [ScriptHost.evalCommand.go]
      split
      · exact ih
      · split
        · exact ih
        · split
          · next hclaims => exact hclaims.imp_right Or.inl
          · exact ih
  exact key host.scripts

/-- A command no script claims goes past the scripts too. -/
theorem interceptCommand_unclaimed {text : String} (hv : s.session.protocolVersion = v)
    (htext : HasText packet text) (hcommand : ServerboundChatCommand.isCommandPacket packet.id v = true)
    (hcancel : (commandResult env s text).cancel = false) (hreroute : (commandResult env s text).rerouteServer = "") :
    interceptCommand env packet s = (.ok none, s) := by
  have hdecode := (decodeWithVersion_iff hcommand).mpr htext
  have hnothing : commandResult env s text = {} := by
    rcases evalCommand_cases env.scriptHost _ with h | h | h
    · rw [commandResult, h] at hcancel
      cases hcancel
    · exact absurd hreroute h
    · exact h
  rw [commandResult] at hnothing
  rw [interceptCommand, Effect.get_bind]
  simp only [hv, hcommand, not_true_eq_false, if_false, hdecode, hnothing]
  split <;> rfl

/-- A command that a script cancels without a word goes nowhere. -/
theorem interceptCommand_cancelled {text : String} (hv : s.session.protocolVersion = v)
    (htext : HasText packet text) (hcommand : ServerboundChatCommand.isCommandPacket packet.id v = true)
    (hchat : isChatPacket packet.id v = false) (hcancel : commandResult env s text = { cancel := true }) :
    interceptCommand env packet s = (.ok (some true), s) := by
  have hdecode := (decodeWithVersion_iff hcommand).mpr htext
  rw [commandResult] at hcancel
  rw [interceptCommand, Effect.get_bind]
  simp only [hv, hcommand, not_true_eq_false, if_false, hdecode, hchat, Bool.false_eq_true, false_and, hcancel]
  rfl

end Intercept

/-! ## Chat -/

/-- Whatever the scripts are and wherever the session stands, none is asked, and
the packet is passed on or, on a protected channel, dropped. -/
def NeverEvaluated (v : Int) (packet : RawPacket) : Prop :=
  ∀ env s, Reachable v s → hooksAsked env packet s = [] ∧ handleClientPacket env packet s =
    if isProtectedPluginChannel packet then (.ok true, s) else passOn packet s

theorem handleClientPacket_protected (env : Env) {packet : RawPacket} (s : PlayStateMachine)
    (h : isProtectedPluginChannel packet = true) : handleClientPacket env packet s = (.ok true, s) := by
  rw [handleClientPacket, h, if_pos rfl]
  rfl

theorem chatMessageId_tables {v : Int} (hv : 766 ≤ v) :
    ServerboundChatCommand.isCommandPacket (chatMessageId v) v = true ∧ isChatPacket (chatMessageId v) v = true ∧
      TabCompleteRequestPacket.isTabCompleteRequest (chatMessageId v) v = false := by
  unfold chatMessageId ServerboundChatCommand.isCommandPacket isChatPacket TabCompleteRequestPacket.isTabCompleteRequest
  by_cases h776 : v ≥ 776
  · simp [h776]
  · by_cases h768 : v ≥ 768
    · simp [h776, h768]
      omega
    · have hlt : ¬ 768 ≤ v := by omega
      simp [h776, hlt, hv]
      omega

/-- Below 766 the id of a chat message is taken for a command's. -/
theorem chatMessageId_legacy {v : Int} (hv : v < 766) :
    ServerboundChatCommand.isCommandPacket (chatMessageId v) v = true ∧ isChatPacket (chatMessageId v) v = false := by
  have h766 : ¬ v ≥ 766 := by omega
  have h768 : ¬ v ≥ 768 := by omega
  have h776 : ¬ v ≥ 776 := by omega
  simp only [chatMessageId, ServerboundChatCommand.isCommandPacket, isChatPacket, h766, h768, h776, if_false]
  simp [serverboundChatMessagePacketId]

/-- What passing on does to the backend's wire. -/
theorem passOn_backend {s : PlayStateMachine} {w : Wire} (packet : RawPacket) (h : s.backend = some w) :
    ∃ threshold, (passOn packet s).2.backend = some (w.write packet threshold .relayed).2 := by
  have hb : (noteClose packet s).backend = some w := by rw [noteClose_backend, h]
  refine ⟨(noteClose packet s).backendCompressionThreshold, ?_⟩
  rw [passOn, Effect.modify_bind, Effect.bind_pure_snd, writeBackend, hb]

/-- Passing on is seen on the wire. -/
theorem passOn_ne {s : PlayStateMachine} {w : Wire} {packet : RawPacket} (h : s.backend = some w)
    {s' : PlayStateMachine} (hs' : s'.backend = some w) : (passOn packet s).2 ≠ s' := by
  intro heq
  obtain ⟨threshold, hw⟩ := passOn_backend packet h
  rw [heq, hs'] at hw
  have hwrites := congrArg Wire.writes (Option.some.inj hw)
  have hcount : (w.write packet threshold .relayed).2.writes = w.writes + 1 := by
    unfold Wire.write
    split <;> rfl
  omega

/-- Below 766 a script that cancels every command takes the message for one. -/
theorem evaluated_legacy {v : Int} (hv : v < 766) {packet : RawPacket} {text : String}
    (hid : packet.id = chatMessageId v) (htext : HasText packet text)
    (hprotected : isProtectedPluginChannel packet = false) : ¬ NeverEvaluated v packet := by
  intro h
  let env : Env := { smallEnv [] with scriptHost := ⟨[], ⟨none, some fun _ => some { cancel := true }, none⟩⟩ }
  obtain ⟨-, heq⟩ := h env (smallSession v) ⟨_, _, _, _, _, _, [], rfl, rfl⟩
  obtain ⟨hcommand, hchat⟩ := chatMessageId_legacy hv
  rw [← hid] at hcommand hchat
  have hcancelled := @interceptCommand_cancelled env packet (noteClose packet (smallSession v)) v text
    (by rw [noteClose_session]; rfl) htext hcommand hchat rfl
  rw [hprotected, if_neg Bool.false_ne_true, handleClientPacket, hprotected, if_neg Bool.false_ne_true,
    Effect.modify_bind, routeClientPacket, Effect.bind_apply, hcancelled] at heq
  have hbackend : (noteClose packet (smallSession v)).backend = some quietWire := noteClose_backend ..
  exact passOn_ne (s := smallSession v) rfl hbackend (congrArg Prod.snd heq).symm

/-- A chat message that is no command is never evaluated as one exactly from
protocol 766 on, or where it is dropped for its channel. -/
theorem chat_not_evaluated_iff {v : Int} {packet : RawPacket} {text : String} (hid : packet.id = chatMessageId v)
    (htext : HasText packet text) (hslash : RustStr.startsWith text "/" = false) :
    NeverEvaluated v packet ↔ 766 ≤ v ∨ isProtectedPluginChannel packet = true := by
  constructor
  · intro h
    by_contra hnot
    rw [not_or, Bool.not_eq_true] at hnot
    exact evaluated_legacy (by omega) hid htext hnot.2 h
  · intro h env s hreach
    have hsession := hreach.version
    by_cases hprotected : isProtectedPluginChannel packet = true
    · rw [if_pos hprotected]
      exact ⟨hooksAsked_protected env s hprotected, handleClientPacket_protected env s hprotected⟩
    · have hv : 766 ≤ v := h.resolve_right hprotected
      rw [Bool.not_eq_true] at hprotected
      obtain ⟨hcommand, hchat, htab⟩ := chatMessageId_tables hv
      rw [← hid] at hcommand hchat htab
      rw [hprotected, if_neg Bool.false_ne_true]
      refine ⟨hooksAsked_chat hprotected hsession htext hcommand hchat hslash htab, ?_⟩
      apply handleClientPacket_passOn hprotected
      · exact interceptCommand_chat (by rw [noteClose_session, hsession]) htext hcommand hchat hslash
      · rw [hsession, htab]

theorem hasText_putString {id : Int32} {text : String} (h : (asBytes text).length < 2 ^ 31) :
    HasText ⟨id, putString text⟩ text :=
  ⟨_, _, [], (List.append_nil _).symm, encodeVarint_isVarint _, asI32_nonneg h, asUsize_asI32 h⟩

/-- A chat message of the current protocol. -/
theorem chat_not_evaluated_hello :
    NeverEvaluated 776 ⟨0x09, putString "hello"⟩ ↔
      (766 : Int) ≤ 776 ∨ isProtectedPluginChannel ⟨0x09, putString "hello"⟩ = true :=
  chat_not_evaluated_iff rfl (hasText_putString (by decide)) (by decide)

/-- In protocol 765 a player who says `stop` is taken to command it. -/
theorem chat_evaluated_stop : ¬ NeverEvaluated 765 ⟨0x05, putString "stop"⟩ :=
  evaluated_legacy (by decide) rfl (hasText_putString (by decide)) (by decide +kernel)

/-! ## Commands -/

/-- No script claims the packet's text: it is chat, or their answer neither
cancels nor reroutes. -/
def Unclaimed (env : Env) (packet : RawPacket) (text : String) (s : PlayStateMachine) : Prop :=
  (isChatPacket packet.id s.session.protocolVersion = true ∧ RustStr.startsWith text "/" = false) ∨
    ((commandResult env s text).cancel = false ∧ (commandResult env s text).rerouteServer = "")

/-- No id is both a command's and a completion request's. -/
theorem command_not_tab {id : Int32} {v : Int} (hv : 764 ≤ v)
    (h : ServerboundChatCommand.isCommandPacket id v = true) :
    TabCompleteRequestPacket.isTabCompleteRequest id v = false := by
  unfold ServerboundChatCommand.isCommandPacket at h
  have hid : id = 0x04 ∨ id = 0x05 ∨ id = 0x06 ∨ id = 0x07 ∨ id = 0x08 ∨ (v ≥ 776 ∧ id = 0x09) := by
    split_ifs at h <;> simp [serverboundChatCommandPacketId] at h <;> tauto
  unfold TabCompleteRequestPacket.isTabCompleteRequest
  rcases hid with rfl | rfl | rfl | rfl | rfl | ⟨hge, rfl⟩
  all_goals simp [hv]

/-- An unclaimed command reaches the backend as it is, once and with nothing
else done, exactly where its text is not the name of a protected channel. -/
theorem unclaimed_command_passes_iff {v : Int} (hv : 764 ≤ v) {packet : RawPacket} {text : String}
    (hid : ServerboundChatCommand.isCommandPacket packet.id v = true) (htext : HasText packet text) (env : Env)
    {s : PlayStateMachine} (hs : s.session.protocolVersion = v) {w : Wire} (hbackend : s.backend = some w)
    (hunclaimed : Unclaimed env packet text s) :
    handleClientPacket env packet s = passOn packet s ↔ text.toLower ∉ protectedChannels := by
  rw [← htext.protected_iff]
  constructor
  · intro heq hprotected
    rw [handleClientPacket_protected env s hprotected] at heq
    exact passOn_ne hbackend hbackend (congrArg Prod.snd heq).symm
  · intro hprotected
    rw [Bool.not_eq_true] at hprotected
    apply handleClientPacket_passOn hprotected
    · have hsession : (noteClose packet s).session.protocolVersion = v := by rw [noteClose_session, hs]
      rcases hunclaimed with ⟨hchat, hslash⟩ | ⟨hcancel, hreroute⟩
      · exact interceptCommand_chat hsession htext hid (hs ▸ hchat) hslash
      · have hsame : commandResult env (noteClose packet s) text = commandResult env s text := by
          rw [commandResult, commandResult, noteClose_session]
        exact interceptCommand_unclaimed hsession htext hid (hsame ▸ hcancel) (hsame ▸ hreroute)
    · rw [hs]
      exact command_not_tab hv hid

/-- `/help`, with no scripts. -/
theorem unclaimed_command_passes_help :
    handleClientPacket (smallEnv []) ⟨0x07, putString "help"⟩ (smallSession 776) =
        passOn ⟨0x07, putString "help"⟩ (smallSession 776) ↔
      "help".toLower ∉ protectedChannels :=
  unclaimed_command_passes_iff (v := 776) (by decide) (by decide) (hasText_putString (by decide)) (smallEnv []) rfl rfl
    (Or.inr ⟨rfl, rfl⟩)

/-- `/bungeecord` never reaches the backend. -/
theorem unclaimed_command_dropped :
    Unclaimed (smallEnv []) ⟨0x07, putString "bungeecord"⟩ "bungeecord" (smallSession 776) ∧
      handleClientPacket (smallEnv []) ⟨0x07, putString "bungeecord"⟩ (smallSession 776) =
        (.ok true, smallSession 776) ∧
      passOn ⟨0x07, putString "bungeecord"⟩ (smallSession 776) ≠ (.ok true, smallSession 776) := by
  have hprotected : isProtectedPluginChannel ⟨0x07, putString "bungeecord"⟩ = true := by
    rw [HasText.protected_iff (hasText_putString (by decide))]
    decide +kernel
  refine ⟨Or.inr ⟨rfl, rfl⟩, handleClientPacket_protected _ _ hprotected, fun h => ?_⟩
  exact passOn_ne (s := smallSession 776) (w := quietWire) rfl (by rfl) (congrArg Prod.snd h)

end FrameMC

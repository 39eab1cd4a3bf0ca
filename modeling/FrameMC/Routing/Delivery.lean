import FrameMC.Lib.Transducer
import FrameMC.Routing.CommandHooks
import FrameMC.Routing.Steps

/-!
# What the Play state delivers

The Play state as a relay, in both directions and over whole runs. Towards the
client it is a machine with one bit (`playRelay`): whether a transfer's Login is
still to come. Whatever else the state machine keeps, and whatever it has to say
of its own, the packets it passes on are the outputs of that machine
(`play_relays_client`). Towards a backend it passes on the client's packets that
nobody has claimed (`Unclaimed`), each to the backend of its time
(`play_relays_backend`).
-/

namespace FrameMC

open ByteStream Effect

/-! ## The relay towards the client -/

/-- The packets a peer was sent that are not the proxy's own: passed on, or in
the place of a Login (Play). -/
def Event.passedOn (log : List Event) : List RawPacket := log.filterMap fun
  | sent p _ origin => if origin = .own then none else some p
  | received _ _ => none

@[simp] theorem Event.passedOn_nil : Event.passedOn [] = [] := rfl

@[simp] theorem Event.passedOn_append (log more : List Event) :
    Event.passedOn (log ++ more) = Event.passedOn log ++ Event.passedOn more := List.filterMap_append

theorem Event.passedOn_sent (p : RawPacket) (t : Option Nat) (origin : Origin) :
    Event.passedOn [.sent p t origin] = if origin = .own then [] else [p] := by
  cases origin <;> rfl

/-- What the client's side of the proxy is about: the packets of the backends,
and the transfers between them. -/
inductive Arrived where
  | packet (env : Env) (packet : RawPacket)
  | transfer

/-- Withheld from the client. -/
def withheld (packet : RawPacket) : Bool := isProtectedPluginChannel packet || isDisconnectPacket packet.id

/-- The relay: its bit says that a transfer's Login is still to come. -/
def playRelay (config : ProxyConfig) (v : Int) : Transducer Bool Arrived (List RawPacket) where
  output owed
    | .transfer => []
    | .packet env packet =>
      if withheld packet then []
      else if isLoginPlayPacket packet.id v then [if owed then respawnFor packet v else packet]
      else [if isDeclareCommandsPacket packet.id v then declareCommandsFor env config packet v else packet]
  next owed
    | .transfer => true
    | .packet _ packet => owed && (withheld packet || !isLoginPlayPacket packet.id v)

/-- What a call brings for the client: a transfer shows in the count of backends attached. -/
def Action.arrivals (s : PlayStateMachine) (call : Env × Action) : List Arrived :=
  (match call.2 with
    | .backendPacket packet => [.packet call.1 packet]
    | _ => []) ++
  if (Action.step s call).attached = s.attached then [] else [.transfer]

/-- What a run brings. -/
def arrivedIn (s : PlayStateMachine) : List (Env × Action) → List Arrived
  | [] => []
  | call :: calls => Action.arrivals s call ++ arrivedIn (Action.step s call) calls

/-- From `s` to `s'` the client was sent `passed` and packets of the proxy's own.
A write that fails loses a packet and moves none. -/
structure Passes (s s' : PlayStateMachine) (passed : List RawPacket) : Prop where
  sent : ∃ more, s'.client.log = s.client.log ++ more ∧ (Event.passedOn more).Sublist passed ∧
    (s.client.Reliable → Event.passedOn more = passed)
  fate : s'.client.fate = s.client.fate
  config : s'.config = s.config
  version : s'.session.protocolVersion = s.session.protocolVersion

namespace Passes

variable {s s' s'' : PlayStateMachine} {passed passed' : List RawPacket}

theorem refl (s : PlayStateMachine) : Passes s s [] :=
  ⟨⟨[], (List.append_nil _).symm, List.Sublist.refl _, fun _ => rfl⟩, rfl, rfl, rfl⟩

theorem trans (h : Passes s s' passed) (h' : Passes s' s'' passed') : Passes s s'' (passed ++ passed') := by
  obtain ⟨more, hlog, hsub, hall⟩ := h.sent
  obtain ⟨more', hlog', hsub', hall'⟩ := h'.sent
  refine ⟨⟨more ++ more', ?_, ?_, ?_⟩, h'.fate.trans h.fate, h'.config.trans h.config, h'.version.trans h.version⟩
  · rw [hlog', hlog, List.append_assoc]
  · rw [Event.passedOn_append]
    exact hsub.append hsub'
  · intro hreliable
    have hreliable' : s'.client.Reliable := by
      rw [Wire.Reliable, h.fate]
      exact hreliable
    rw [Event.passedOn_append, hall hreliable, hall' hreliable']

/-- One packet that is not the proxy's own. -/
theorem write (packet : RawPacket) {origin : Origin} (h : origin ≠ .own) (s : PlayStateMachine) :
    Passes s (writeClient packet origin s).2 [packet] := by
  refine ⟨⟨_, Wire.write_log_eq s.client packet s.clientCompressionThreshold origin, ?_, ?_⟩,
    Wire.write_fate .., rfl, rfl⟩
  · split
    · exact List.nil_sublist _
    · rw [Event.passedOn_sent, if_neg h]
  · intro hreliable
    rw [Wire.losesNext, hreliable, if_neg Bool.false_ne_true, Event.passedOn_sent, if_neg h]

end Passes

/-- Nothing is passed on, and the bit goes up with a transfer and not otherwise. -/
structure Aside (s s' : PlayStateMachine) : Prop where
  quiet : Passes s s' []
  attached : s.attached ≤ s'.attached
  owed : s'.serverTransferred = (s.serverTransferred || s'.attached != s.attached)

namespace Aside

theorem of_eq {s s' : PlayStateMachine} (hquiet : Passes s s' []) (hattached : s'.attached = s.attached)
    (howed : s'.serverTransferred = s.serverTransferred) : Aside s s' := by
  refine ⟨hquiet, hattached.ge, ?_⟩
  rw [howed, hattached, bne_self_eq_false, Bool.or_false]

theorem steps : Effect.Steps Aside := by
  refine ⟨fun s => of_eq (Passes.refl s) rfl rfl, ?_⟩
  intro s s' s'' h h'
  refine ⟨h.quiet.trans h'.quiet, h.attached.trans h'.attached, ?_⟩
  have hbound := h.attached
  have hbound' := h'.attached
  rw [h'.owed, h.owed, Bool.or_assoc]
  congr 1
  rw [Bool.eq_iff_iff]
  simp only [Bool.or_eq_true, bne_iff_ne]
  omega

theorem write (packet : RawPacket) : Keeps Aside (writeClient packet .own) := by
  intro s
  refine of_eq ⟨⟨_, Wire.write_log_eq s.client packet s.clientCompressionThreshold .own, ?_, fun _ => ?_⟩,
    Wire.write_fate .., rfl, rfl⟩ rfl rfl
  · split <;> exact List.Sublist.refl _
  · split <;> rfl

theorem flush : Keeps Aside flushClient := by
  intro s
  refine of_eq ⟨⟨[], ?_, List.Sublist.refl _, fun _ => rfl⟩, Wire.flush_fate .., rfl, rfl⟩ rfl rfl
  rw [List.append_nil]
  exact Wire.flush_log ..

/-- A change to what the client has no part in. -/
theorem same {s s' : PlayStateMachine} (hclient : s'.client = s.client) (hconfig : s'.config = s.config)
    (hversion : s'.session.protocolVersion = s.session.protocolVersion) (hattached : s'.attached = s.attached)
    (howed : s'.serverTransferred = s.serverTransferred) : Aside s s' := by
  refine of_eq ⟨⟨[], ?_, List.Sublist.refl _, fun _ => rfl⟩, ?_, hconfig, hversion⟩ hattached howed
  · rw [hclient, List.append_nil]
  · rw [hclient]

theorem teardown : Keeps Aside teardownTransferredState := by
  have heach : ∀ {α : Type} (set : HashSet α) (encode : α → RawPacket), Keeps Aside (writeEach set encode) :=
    fun set encode => keeps_forEach steps fun x _ => keeps_attempt (write (encode x))
  refine keeps_teardown steps ?_ ?_ ?_ ?_ ?_
  · refine keeps_get_bind fun s => ?_
    cases s.openContainerId with
    | none => exact steps.refl s
    | some windowId =>
      refine steps.trans ?_ (keeps_attempt (write _) _)
      exact same rfl rfl rfl rfl rfl
  · refine keeps_get_bind fun s => ?_
    split
    · refine steps.trans ?_ (keeps_attempt (write _) _)
      exact same rfl rfl rfl rfl rfl
    · exact steps.refl s
  all_goals
    refine keeps_get_bind fun s => ?_
    refine steps.trans ?_ (heach _ _ _)
    exact same rfl rfl rfl rfl rfl

theorem stepRel (env : Env) : StepRel env Aside where
  toSteps := steps
  chat := fun _ => keeps_get_bind fun _ => write _ _
  complete := fun s _ => write _ s
  toBackend := by
    intro packet s
    unfold writeBackend
    split
    · exact same rfl rfl rfl rfl rfl
    · exact steps.refl s
  giveUp := fun _ _ _ _ => same rfl rfl rfl rfl rfl
  transfer := by
    intro s targetServer wire threshold cache _
    have hleft : Aside s (rearrange none (s.closed ++ s.backend.toList) cache s) := same rfl rfl rfl rfl rfl
    have hclean := steps.trans hleft (teardown (rearrange none (s.closed ++ s.backend.toList) cache s))
    have hattached : (transferred targetServer wire threshold cache s).attached = s.attached + 1 := by
      rw [transferred, reattach, teardown_frame]
      rfl
    refine ⟨⟨hclean.quiet.sent, hclean.quiet.fate, hclean.quiet.config, hclean.quiet.version⟩, by omega, ?_⟩
    have hne : (transferred targetServer wire threshold cache s).attached ≠ s.attached := by omega
    rw [bne_iff_ne.mpr hne, Bool.or_true]
    rfl

end Aside

/-- From `s` to `s'` the relay has gone through `arrived`. -/
structure Relays (s s' : PlayStateMachine) (arrived : List Arrived) : Prop where
  passes : Passes s s' ((playRelay s.config s.session.protocolVersion).outputs s.serverTransferred arrived).flatten
  owed : s'.serverTransferred = (playRelay s.config s.session.protocolVersion).after s.serverTransferred arrived

namespace Relays

variable {s s' s'' : PlayStateMachine} {arrived arrived' : List Arrived}

theorem refl (s : PlayStateMachine) : Relays s s [] := ⟨Passes.refl s, rfl⟩

theorem trans (h : Relays s s' arrived) (h' : Relays s' s'' arrived') : Relays s s'' (arrived ++ arrived') := by
  have hpasses := h'.passes
  have howed := h'.owed
  rw [h.passes.config, h.passes.version, h.owed] at hpasses howed
  refine ⟨?_, ?_⟩
  · rw [Transducer.outputs_append, List.flatten_append]
    exact h.passes.trans hpasses
  · rw [Transducer.after_append, howed]

theorem packet {env : Env} {packet : RawPacket}
    (hpasses : Passes s s' ((playRelay s.config s.session.protocolVersion).output s.serverTransferred
      (.packet env packet)))
    (howed : s'.serverTransferred = (playRelay s.config s.session.protocolVersion).next s.serverTransferred
      (.packet env packet)) : Relays s s' [.packet env packet] := by
  refine ⟨?_, howed⟩
  rw [Transducer.outputs, Transducer.outputs, List.flatten_singleton]
  exact hpasses

/-- Asides are a transfer to the relay, or nothing. -/
theorem of_aside (h : Aside s s') : Relays s s' (if s'.attached = s.attached then [] else [.transfer]) := by
  have howed := h.owed
  split
  · next heq =>
    rw [heq, bne_self_eq_false, Bool.or_false] at howed
    exact ⟨h.quiet, howed⟩
  · next hne =>
    rw [bne_iff_ne.mpr hne, Bool.or_true] at howed
    exact ⟨h.quiet, howed⟩

end Relays

section Calls

variable (env : Env) (packet : RawPacket) (s : PlayStateMachine)

theorem track_aside : Aside s (track packet s) := .same (by simp) (by simp) (by simp) (by simp) (by simp)

theorem clientPacket_aside : Aside s (handleClientPacket env packet s).2 := by
  rw [handleClientPacket_state]
  split
  · exact Aside.steps.refl s
  · have hclose : Aside s (noteClose packet s) := by
      rw [noteClose_frame]
      exact .same rfl rfl rfl rfl rfl
    exact Aside.steps.trans hclose ((Aside.stepRel env).routeClientPacket packet _)

/-- A call that is not about a packet of the backend's passes nothing on. -/
theorem exec_aside {action : Action} (h : ∀ packet, action ≠ .backendPacket packet) :
    Aside s (action.exec env s) := by
  have hreset : ∀ {f : PlayStateMachine → PlayStateMachine} {p : PlayStateMachine → RawPacket},
      (∀ s, Aside s (writeClient (p (f s)) .own (f s)).2) → Keeps Aside (do
        Effect.modify f
        let s ← Effect.get
        writeClient (p s) .own
        flushClient : Play Unit) := keeps_reset Aside.steps Aside.flush
  cases action with
  | clientPacket packet => exact clientPacket_aside env packet s
  | backendPacket packet => exact absurd rfl (h packet)
  | backendEof => exact (Aside.stepRel env).handleBackendEof s
  | switchServer targetServer => exact (Aside.stepRel env).switchServer targetServer s
  | sanitizeScreen windowId =>
    refine hreset (fun s => Aside.steps.trans ?_ (Aside.write _ _)) s
    exact .same rfl rfl rfl rfl rfl
  | stopAudio =>
    refine hreset (fun s => Aside.steps.trans ?_ (Aside.write _ _)) s
    exact .same rfl rfl rfl rfl rfl
  | clearDisplayObjective position =>
    refine hreset (fun s => Aside.steps.trans ?_ (Aside.write _ _)) s
    exact .same rfl rfl rfl rfl rfl

/-- What the relay withholds is gone, and what follows is an aside. -/
theorem Relays.withheld {s' : PlayStateMachine} (h : withheld packet = true) (haside : Aside s s') :
    Relays s s' ([.packet env packet] ++ if s'.attached = s.attached then [] else [.transfer]) := by
  refine Relays.trans (Relays.packet ?_ ?_) (Relays.of_aside haside)
  · simp only [playRelay, h, if_true]
    exact Passes.refl s
  · simp only [playRelay, h, Bool.true_or, Bool.and_true]

/-- What is passed on makes no transfer. -/
theorem Relays.written {s₁ s' : PlayStateMachine} (htrack : Passes s s₁ []) (hattached : s₁.attached = s.attached)
    (out : RawPacket) (origin : Origin) (owed : Bool) (horigin : origin ≠ .own)
    (hout : (playRelay s.config s.session.protocolVersion).output s.serverTransferred (.packet env packet) = [out])
    (howed : owed = (playRelay s.config s.session.protocolVersion).next s.serverTransferred (.packet env packet))
    (hs' : s' = (writeClient out origin { s₁ with serverTransferred := owed }).2) :
    Relays s s' ([.packet env packet] ++ if s'.attached = s.attached then [] else [.transfer]) := by
  have hfirst : Passes s { s₁ with serverTransferred := owed } [] :=
    ⟨htrack.sent, htrack.fate, htrack.config, htrack.version⟩
  have hsame : s'.attached = s.attached := by
    rw [hs']
    exact hattached
  rw [if_pos hsame, List.append_nil]
  subst hs'
  refine Relays.packet ?_ howed
  rw [hout]
  exact hfirst.trans (Passes.write out horigin _)

/-- A backend's packet is what the relay does on it, and on the transfer it may lead to. -/
theorem backendPacket_relays :
    Relays s (handleBackendPacket env packet s).2 ([.packet env packet] ++
      if (handleBackendPacket env packet s).2.attached = s.attached then [] else [.transfer]) := by
  rw [handleBackendPacket_state]
  by_cases hprotected : isProtectedPluginChannel packet = true
  · rw [if_pos hprotected]
    exact Relays.withheld env packet s (by rw [FrameMC.withheld, hprotected, Bool.true_or]) (Aside.steps.refl s)
  rw [if_neg hprotected]
  by_cases hdisconnect : isDisconnectPacket packet.id = true
  · rw [if_pos hdisconnect]
    refine Relays.withheld env packet s (by rw [FrameMC.withheld, hdisconnect, Bool.or_true]) ?_
    have hleave : Keeps Aside (afterDisconnect env) :=
      (Aside.stepRel env).recover _ _ (keeps_throw Aside.steps _)
    exact Aside.steps.trans (track_aside packet s) (hleave _)
  rw [if_neg hdisconnect]
  have hopen : FrameMC.withheld packet = false := by
    rw [FrameMC.withheld, Bool.eq_false_iff.mpr hprotected, Bool.eq_false_iff.mpr hdisconnect, Bool.or_false]
  have htrack := (track_aside packet s).quiet
  have hattached := track_attached packet s
  have howed := track_serverTransferred packet s
  have hsession := track_session packet s
  have hconfig := track_config packet s
  generalize track packet s = s₁ at htrack hattached howed hsession hconfig ⊢
  rw [hsession]
  by_cases hlogin : isLoginPlayPacket packet.id s.session.protocolVersion = true
  · rw [if_pos hlogin, deliverLogin_state]
    split
    · next hbit =>
      refine Relays.written env packet s htrack hattached _ .respawn false nofun ?_ ?_ rfl
      · simp only [playRelay, hopen, hlogin, ← howed, hbit, hsession, Bool.false_eq_true, if_false, if_true]
      · simp only [playRelay, hopen, hlogin, Bool.false_or, Bool.not_true, Bool.and_false]
    · next hbit =>
      refine Relays.written env packet s htrack hattached packet .relayed s₁.serverTransferred nofun ?_ ?_ rfl
      · simp only [playRelay, hopen, hlogin, ← howed, hbit, Bool.false_eq_true, if_false, if_true]
      · simp only [playRelay, ← howed, Bool.eq_false_iff.mpr hbit, Bool.false_and]
  · rw [if_neg hlogin, deliver_state]
    refine Relays.written env packet s htrack hattached (delivery env packet s₁) .relayed s₁.serverTransferred nofun
      ?_ ?_ rfl
    · simp only [playRelay, hopen, hlogin, Bool.false_eq_true, if_false, delivery, hsession, hconfig]
    · simp only [playRelay, hopen, hlogin, howed, Bool.false_or, Bool.not_false, Bool.and_true]

/-- One call is what the relay does on what the call brings. -/
theorem call_relays (call : Env × Action) : Relays s (Action.step s call) (Action.arrivals s call) := by
  obtain ⟨env, action⟩ := call
  by_cases hpacket : ∃ packet, action = .backendPacket packet
  · obtain ⟨packet, rfl⟩ := hpacket
    exact backendPacket_relays env packet s
  · have haside := exec_aside env s fun packet heq => hpacket ⟨packet, heq⟩
    have harrivals : Action.arrivals s (env, action) =
        if (Action.step s (env, action)).attached = s.attached then [] else [.transfer] := by
      cases action with
      | backendPacket packet => exact absurd ⟨packet, rfl⟩ hpacket
      | _ => rfl
    rw [harrivals]
    exact Relays.of_aside haside

end Calls

/-- In every run, whatever the environments it meets: the client is sent, in
order, the outputs of the relay on the packets of the backends and the
transfers between them, and beside them packets of the proxy's own only. A
failing write loses some of them; with none, not one is missing. The relay's
bit is the machine's. -/
theorem play_relays_client (s : PlayStateMachine) (calls : List (Env × Action)) :
    ∃ more, (runAll Action.step s calls).client.log = s.client.log ++ more ∧
      (Event.passedOn more).Sublist
        ((playRelay s.config s.session.protocolVersion).outputs s.serverTransferred (arrivedIn s calls)).flatten ∧
      (s.client.Reliable → Event.passedOn more =
        ((playRelay s.config s.session.protocolVersion).outputs s.serverTransferred (arrivedIn s calls)).flatten) ∧
      (runAll Action.step s calls).serverTransferred =
        (playRelay s.config s.session.protocolVersion).after s.serverTransferred (arrivedIn s calls) := by
  have hrun : ∀ (calls : List (Env × Action)) (s : PlayStateMachine),
      Relays s (runAll Action.step s calls) (arrivedIn s calls) := by
    intro calls
    induction calls with
    | nil => exact Relays.refl
    | cons call calls ih => exact fun s => (call_relays s call).trans (ih (Action.step s call))
  obtain ⟨⟨⟨more, hlog, hsub, hall⟩, -, -, -⟩, howed⟩ := hrun calls s
  exact ⟨more, hlog, hsub, hall, howed⟩

/-! ## The relay towards a backend -/

/-- The text of the command a client's packet raises. -/
def commandText (packet : RawPacket) (v : Int) : Option String :=
  match ServerboundChatCommand.decodeWithVersion packet v with
  | .ok cmdPacket =>
    if isChatPacket packet.id v ∧ ¬ RustStr.startsWith cmdPacket.command "/" then none else some cmdPacket.command
  | _ => none

/-- The packet is not on a protected channel, no script claims it as a command,
and there is nothing to complete. -/
def unclaimed (env : Env) (packet : RawPacket) (s : PlayStateMachine) : Bool :=
  !isProtectedPluginChannel packet &&
    ((commandText packet s.session.protocolVersion).all fun text => !(decided env s.session text).claims) &&
      (completions env s.session s.config packet).isEmpty

/-- What a call passes on to the backend. -/
def Action.routed (s : PlayStateMachine) : Env × Action → List RawPacket
  | (env, .clientPacket packet) => if unclaimed env packet s then [packet] else []
  | _ => []

/-- What the calls of a run pass on. -/
def routedIn (s : PlayStateMachine) : List (Env × Action) → List RawPacket
  | [] => []
  | call :: calls => Action.routed s call ++ routedIn (Action.step s call) calls

/-- From `b` to `b'` the backend was sent the packets, as they are and nothing
else. A write that fails loses a packet and moves none. -/
structure Hears (threshold : Option Nat) (b b' : Wire) (packets : List RawPacket) : Prop where
  sent : ∃ more, b'.log = b.log ++ more ∧ more.Sublist (packets.map (.sent · threshold .relayed)) ∧
    (b.Reliable → more = packets.map (.sent · threshold .relayed))
  fate : b'.fate = b.fate

namespace Hears

variable {threshold : Option Nat} {b b' b'' : Wire} {packets packets' : List RawPacket}

theorem refl (threshold : Option Nat) (b : Wire) : Hears threshold b b [] :=
  ⟨⟨[], (List.append_nil _).symm, List.Sublist.refl _, fun _ => rfl⟩, rfl⟩

theorem trans (h : Hears threshold b b' packets) (h' : Hears threshold b' b'' packets') :
    Hears threshold b b'' (packets ++ packets') := by
  obtain ⟨more, hlog, hsub, hall⟩ := h.sent
  obtain ⟨more', hlog', hsub', hall'⟩ := h'.sent
  refine ⟨⟨more ++ more', ?_, ?_, fun hreliable => ?_⟩, h'.fate.trans h.fate⟩
  · rw [hlog', hlog, List.append_assoc]
  · rw [List.map_append]
    exact hsub.append hsub'
  · have hreliable' : b'.Reliable := by
      rw [Wire.Reliable, h.fate]
      exact hreliable
    rw [List.map_append, hall hreliable, hall' hreliable']

theorem write (threshold : Option Nat) (b : Wire) (packet : RawPacket) :
    Hears threshold b (b.write packet threshold .relayed).2 [packet] := by
  refine ⟨⟨_, Wire.write_log_eq b packet threshold .relayed, ?_, fun hreliable => ?_⟩, Wire.write_fate ..⟩
  · split
    · exact List.nil_sublist _
    · exact List.Sublist.refl _
  · rw [Wire.losesNext, hreliable]
    rfl

end Hears

/-! ### Commands and completions -/

section Calls

variable {env : Env} {packet : RawPacket} {text : String} {s : PlayStateMachine}

theorem raisesCommand (hprotected : isProtectedPluginChannel packet = false)
    (h : commandText packet s.session.protocolVersion = some text) :
    RaisesCommand packet s.session.protocolVersion text := by
  rw [commandText] at h
  split at h
  · next cmdPacket hdecode =>
    split at h
    · cases h
    · next hslash =>
      cases h
      refine ⟨hdecode, fun hchat => ?_, hprotected⟩
      by_contra hnot
      exact hslash ⟨hchat, hnot⟩
  · cases h

/-- What raises no command is completed or forwarded. -/
theorem handle_uncommanded (hprotected : isProtectedPluginChannel packet = false)
    (h : commandText packet s.session.protocolVersion = none) :
    handleClientPacket env packet s = completeOrForward env packet (noteClose packet s) := by
  have hcommand : interceptCommand env packet (noteClose packet s) = (.ok none, noteClose packet s) := by
    rw [interceptCommand, Effect.get_bind, noteClose_session]
    rw [commandText] at h
    by_cases hid : ServerboundChatCommand.isCommandPacket packet.id s.session.protocolVersion = true
    · simp only [hid, not_true_eq_false, if_false]
      cases hdecode : ServerboundChatCommand.decodeWithVersion packet s.session.protocolVersion with
      | ok cmdPacket =>
        rw [hdecode] at h
        dsimp only at h ⊢
        split at h
        · next hchat =>
          rw [if_pos hchat]
          rfl
        · cases h
      | err e => rfl
      | panic => rfl
    · rw [if_pos hid]
      rfl
  rw [handleClientPacket, hprotected, if_neg Bool.false_ne_true, Effect.modify_bind, routeClientPacket,
    Effect.bind_apply, hcommand]
  rfl

theorem unclaimed_iff : unclaimed env packet s = true ↔ isProtectedPluginChannel packet = false ∧
    (∀ text, commandText packet s.session.protocolVersion = some text →
      (decided env s.session text).claims = false) ∧ completions env s.session s.config packet = [] := by
  rw [unclaimed, Bool.and_eq_true, Bool.and_eq_true, Bool.not_eq_true', List.isEmpty_iff, and_assoc]
  refine and_congr_right fun _ => and_congr_left fun _ => ?_
  cases commandText packet s.session.protocolVersion with
  | none => exact iff_of_true rfl nofun
  | some text => simp

/-- What nobody claims is written to the backend, and that is all. -/
theorem handle_unclaimed (h : unclaimed env packet s = true) :
    handleClientPacket env packet s = carryOut env packet {} (noteClose packet s) := by
  obtain ⟨hprotected, hcommand, hcompletions⟩ := unclaimed_iff.mp h
  rw [← noteClose_session packet s, ← noteClose_config packet s] at hcompletions
  cases htext : commandText packet s.session.protocolVersion with
  | none => rw [handle_uncommanded hprotected htext, completeOrForward_none hcompletions]
  | some text =>
    have hquiet : decided env s.session text = {} := decision_unclaimed (hcommand text htext)
    have hclaims : (({} : CommandResult)).claims = false := rfl
    have hsay : say env {} = pure () := rfl
    rw [handle_command (raisesCommand hprotected htext), hquiet, hclaims, if_neg Bool.false_ne_true, hsay,
      Effect.pure_bind_apply, completeOrForward_none hcompletions]

/-- With completions it is answered with them, and that is all. -/
theorem completeOrForward_answer (h : completions env s.session s.config packet ≠ []) :
    ∃ req, TabCompleteRequestPacket.decode packet s.session.protocolVersion = .ok req ∧
      completeOrForward env packet s = (writeClient (TabCompleteResponsePacket.encodeWithVersion ⟨req.transactionId,
        (completionRange req.text).1, (completionRange req.text).2, completions env s.session s.config packet⟩
          s.session.protocolVersion) .own >>= fun _ => pure true) s := by
  rw [completions] at h
  cases hdecode : TabCompleteRequestPacket.decode packet s.session.protocolVersion with
  | err e =>
    rw [hdecode] at h
    exact absurd rfl h
  | panic =>
    rw [hdecode] at h
    exact absurd rfl h
  | ok req =>
    have hid : TabCompleteRequestPacket.isTabCompleteRequest packet.id s.session.protocolVersion = true := by
      by_contra hnot
      rw [TabCompleteRequestPacket.decode, if_pos hnot] at hdecode
      cases hdecode
    rw [hdecode] at h
    dsimp only at h
    have hne := mt List.isEmpty_iff.mp h
    refine ⟨req, rfl, ?_⟩
    rw [completeOrForward, Effect.bind_apply, interceptTabComplete, Effect.get_bind, completions]
    dsimp only
    rw [if_neg (not_not_intro hid), hdecode]
    dsimp only
    rw [if_neg hne, Effect.bind_apply, Effect.bind_apply]
    rcases writeClient _ .own s with ⟨_ | _, _⟩
    · rfl
    · rfl

end Calls

/-! ### What nobody hears of -/

/-- The backends, the session and the configuration are left alone. -/
structure Elsewhere (s s' : PlayStateMachine) : Prop where
  attached : s'.attached = s.attached
  backend : s'.backend = s.backend
  threshold : s'.backendCompressionThreshold = s.backendCompressionThreshold
  closed : s'.closed = s.closed
  session : s'.session = s.session
  config : s'.config = s.config

theorem Elsewhere.steps : Effect.Steps Elsewhere := by
  refine ⟨fun s => ⟨rfl, rfl, rfl, rfl, rfl, rfl⟩, fun h h' => ?_⟩
  exact ⟨h'.attached.trans h.attached, h'.backend.trans h.backend, h'.threshold.trans h.threshold,
    h'.closed.trans h.closed, h'.session.trans h.session, h'.config.trans h.config⟩

/-- A relation between the states around a call that passes nothing on to the
backend: such a call is a transfer, with writes to the client before it, or no
more than those. -/
structure CallRel (env : Env) (R : PlayStateMachine → PlayStateMachine → Prop) : Prop where
  refl : ∀ s, R s s
  after : ∀ {s s₁ s'}, R s₁ s' → Elsewhere s s₁ → R s s'
  switchServer : ∀ targetServer, Keeps R (switchServer env targetServer)

namespace CallRel

variable {env : Env} {R : PlayStateMachine → PlayStateMachine → Prop} (h : CallRel env R) {packet : RawPacket}
  {s : PlayStateMachine}

include h

theorem of_elsewhere {s' : PlayStateMachine} (helsewhere : Elsewhere s s') : R s s' := h.after (h.refl s') helsewhere

theorem recover (before after : String) {atFallback : Play Bool} (hfallback : Keeps R atFallback) :
    Keeps R (recover env before after atFallback) := by
  intro s
  rw [FrameMC.recover, Effect.get_bind, Effect.ite_apply]
  split
  · exact h.after (h.switchServer _ _) ⟨rfl, rfl, rfl, rfl, rfl, rfl⟩
  · exact hfallback s

theorem say (res : CommandResult) {f : Unit → Play Bool} (hf : Keeps R (f ())) : Keeps R (say env res >>= f) := by
  intro s
  rw [FrameMC.say]
  split
  · rw [Effect.bind_apply, writeChat_apply]
    rcases s.client.write _ s.clientCompressionThreshold .own with ⟨_ | _, w⟩
    · exact h.of_elsewhere ⟨rfl, rfl, rfl, rfl, rfl, rfl⟩
    · exact h.after (hf _) ⟨rfl, rfl, rfl, rfl, rfl, rfl⟩
  · exact hf s

theorem completeOrForward (hcompletions : completions env s.session s.config packet ≠ []) :
    R s (completeOrForward env packet s).2 := by
  obtain ⟨req, -, heq⟩ := completeOrForward_answer hcompletions
  rw [heq, Effect.bind_pure_snd]
  exact h.of_elsewhere ⟨rfl, rfl, rfl, rfl, rfl, rfl⟩

theorem carryOut {res : CommandResult} (hclaims : res.claims = true) : Keeps R (carryOut env packet res) := by
  intro s
  rw [FrameMC.carryOut, Effect.ite_apply]
  split
  · rw [Effect.bind_pure_snd]
    exact h.switchServer _ s
  · next hreroute =>
    have hcancel : res.cancel = true := by
      rwa [CommandResult.claims, decide_eq_false hreroute, Bool.or_false] at hclaims
    rw [if_pos hcancel]
    exact h.refl s

/-- A packet that somebody claims, as a command or for a completion. -/
theorem claimed (hclaimed : unclaimed env packet s = false) : R s (handleClientPacket env packet s).2 := by
  have hnoted : ∀ {s'}, R (noteClose packet s) s' → R s s' := by
    intro s' hrel
    rw [noteClose_frame] at hrel
    exact h.after hrel ⟨rfl, rfl, rfl, rfl, rfl, rfl⟩
  by_cases hprotected : isProtectedPluginChannel packet = true
  · rw [handleClientPacket_state, if_pos hprotected]
    exact h.refl s
  have hopen := Bool.eq_false_iff.mpr hprotected
  have hcompletions : (∀ text, commandText packet s.session.protocolVersion = some text →
      (decided env s.session text).claims = false) → completions env (noteClose packet s).session
        (noteClose packet s).config packet ≠ [] := by
    rw [noteClose_session, noteClose_config]
    intro hcommand hnone
    exact Bool.false_ne_true (hclaimed ▸ unclaimed_iff.mpr ⟨hopen, hcommand, hnone⟩)
  cases htext : commandText packet s.session.protocolVersion with
  | none =>
    rw [handle_uncommanded hopen htext]
    exact hnoted (h.completeOrForward (hcompletions fun text heq => nomatch htext ▸ heq))
  | some text =>
    rw [handle_command (raisesCommand hopen htext)]
    cases hclaims : (decided env s.session text).claims with
    | true =>
      rw [if_pos rfl]
      exact hnoted (h.say _ (h.carryOut hclaims) _)
    | false =>
      have hsay : FrameMC.say env (decided env s.session text) = pure () := by
        rw [decided, decision_unclaimed hclaims]
        rfl
      rw [if_neg Bool.false_ne_true, hsay, Effect.pure_bind_apply]
      refine hnoted (h.completeOrForward (hcompletions fun text' heq => ?_))
      rw [htext, Option.some.injEq] at heq
      exact heq ▸ hclaims

theorem backendPacket (packet : RawPacket) : Keeps R (handleBackendPacket env packet) := by
  intro s
  have htracked : Elsewhere s (track packet s) :=
    ⟨track_attached packet s, track_backend packet s, track_backendThreshold packet s, track_closed packet s,
      track_session packet s, track_config packet s⟩
  rw [handleBackendPacket_state]
  split_ifs
  · exact h.refl s
  · exact h.after (h.recover _ _ (fun s => h.refl s) _) htracked
  · refine h.after ?_ htracked
    generalize track packet s = s₁
    rw [deliverLogin_state]
    split
    · exact h.of_elsewhere ⟨rfl, rfl, rfl, rfl, rfl, rfl⟩
    · exact h.of_elsewhere ⟨rfl, rfl, rfl, rfl, rfl, rfl⟩
  · refine h.after ?_ htracked
    generalize track packet s = s₁
    rw [deliver_state]
    exact h.of_elsewhere ⟨rfl, rfl, rfl, rfl, rfl, rfl⟩

theorem handleBackendEof : Keeps R (handleBackendEof env) := h.recover _ _ fun s => h.refl s

theorem exec (action : Action) (hrouted : Action.routed s (env, action) = []) : R s (action.exec env s) := by
  have hflush : Keeps Elsewhere flushClient := fun _ => ⟨rfl, rfl, rfl, rfl, rfl, rfl⟩
  have hreset : ∀ {f : PlayStateMachine → PlayStateMachine} {p : PlayStateMachine → RawPacket},
      (∀ s, Elsewhere s (writeClient (p (f s)) .own (f s)).2) → Keeps Elsewhere (do
        Effect.modify f
        let s ← Effect.get
        writeClient (p s) .own
        flushClient : Play Unit) := keeps_reset Elsewhere.steps hflush
  cases action with
  | clientPacket packet =>
    refine h.claimed (Bool.eq_false_iff.mpr fun hunclaimed => ?_)
    rw [Action.routed, if_pos hunclaimed] at hrouted
    cases hrouted
  | backendPacket packet => exact h.backendPacket packet s
  | backendEof => exact h.handleBackendEof s
  | switchServer targetServer => exact h.switchServer targetServer s
  | sanitizeScreen windowId =>
    refine h.of_elsewhere (hreset (fun _ => ?_) s)
    exact ⟨rfl, rfl, rfl, rfl, rfl, rfl⟩
  | stopAudio =>
    refine h.of_elsewhere (hreset (fun _ => ?_) s)
    exact ⟨rfl, rfl, rfl, rfl, rfl, rfl⟩
  | clearDisplayObjective position =>
    refine h.of_elsewhere (hreset (fun _ => ?_) s)
    exact ⟨rfl, rfl, rfl, rfl, rfl, rfl⟩

end CallRel

/-! ### Whole runs -/

/-- What a transfer does to the connections, if one is made: the backend is left
as it is for another one. -/
inductive Moves (s s' : PlayStateMachine) : Prop where
  | stays (hattached : s'.attached = s.attached) (hbackend : s'.backend = s.backend)
      (hthreshold : s'.backendCompressionThreshold = s.backendCompressionThreshold) (hclosed : s.closed <+: s'.closed)
  | leaves (hattached : s'.attached = s.attached + 1) (hbackend : s'.backend.isSome)
      (hclosed : s.closed ++ s.backend.toList <+: s'.closed)

theorem moves_callRel (env : Env) : CallRel env Moves where
  refl := fun _ => .stays rfl rfl rfl (List.prefix_refl _)
  after := by
    intro s s₁ s' h helsewhere
    cases h with
    | stays hattached hbackend hthreshold hclosed =>
      refine .stays (hattached.trans helsewhere.attached) (hbackend.trans helsewhere.backend)
        (hthreshold.trans helsewhere.threshold) ?_
      rwa [← helsewhere.closed]
    | leaves hattached hbackend hclosed =>
      refine .leaves (helsewhere.attached ▸ hattached) hbackend ?_
      rwa [← helsewhere.closed, ← helsewhere.backend]
  switchServer := by
    intro targetServer s
    have hcases := switchServer_cases env targetServer s
    generalize (switchServer env targetServer s).1 = r at hcases
    generalize (switchServer env targetServer s).2 = s' at hcases ⊢
    cases hcases with
    | unknown _ _ _ =>
      rw [writeChat_apply]
      exact .stays rfl rfl rfl (List.prefix_refl _)
    | failed reason dropped _ =>
      rw [writeChat_apply]
      exact .stays rfl rfl rfl (List.prefix_append ..)
    | attached wire threshold _ =>
      rw [reattach, teardown_frame]
      exact .leaves rfl rfl (List.prefix_refl _)

/-- One call: the backend hears what is passed on; or nothing is, and it is left as it is. -/
inductive Handles (b : Wire) (s s' : PlayStateMachine) (packets : List RawPacket) : Prop where
  | stays {b' : Wire} (hattached : s'.attached = s.attached) (hbackend : s'.backend = some b')
      (hthreshold : s'.backendCompressionThreshold = s.backendCompressionThreshold) (hclosed : s.closed <+: s'.closed)
      (hears : Hears s.backendCompressionThreshold b b' packets)
  | leaves (hattached : s'.attached = s.attached + 1) (hbackend : s'.backend.isSome)
      (hclosed : s.closed ++ [b] <+: s'.closed) (hpackets : packets = [])

/-- What nobody claims is written to the backend, and the backend is all that changes. -/
theorem forwards {env : Env} {packet : RawPacket} {s : PlayStateMachine} {b : Wire} (hb : s.backend = some b)
    (h : unclaimed env packet s = true) :
    Elsewhere { s with backend := some (b.write packet s.backendCompressionThreshold .relayed).2 }
      (handleClientPacket env packet s).2 := by
  have hwrite : (writeBackend packet (noteClose packet s)).2 = { noteClose packet s with
      backend := some (b.write packet s.backendCompressionThreshold .relayed).2 } := by
    rw [writeBackend, noteClose_backend, hb, noteClose_frame]
  have hwritten : (handleClientPacket env packet s).2 = { noteClose packet s with
      backend := some (b.write packet s.backendCompressionThreshold .relayed).2 } := by
    rw [handle_unclaimed h]
    exact (Effect.bind_pure_snd _ _ _).trans hwrite
  rw [hwritten, noteClose_frame]
  exact ⟨rfl, rfl, rfl, rfl, rfl, rfl⟩

theorem call_handles {s : PlayStateMachine} {b : Wire} (hb : s.backend = some b) (call : Env × Action) :
    Handles b s (Action.step s call) (Action.routed s call) := by
  obtain ⟨env, action⟩ := call
  by_cases hrouted : Action.routed s (env, action) = []
  · have hmoves : Moves s (Action.step s (env, action)) := (moves_callRel env).exec action hrouted
    rw [hrouted]
    cases hmoves with
    | stays hattached hbackend hthreshold hclosed =>
      exact .stays hattached (hbackend.trans hb) hthreshold hclosed (Hears.refl _ b)
    | leaves hattached hbackend hclosed =>
      rw [hb, Option.toList_some] at hclosed
      exact .leaves hattached hbackend hclosed rfl
  · cases action with
    | clientPacket packet =>
      rw [Action.routed] at hrouted ⊢
      split at hrouted
      · next hunclaimed =>
        have helsewhere : Elsewhere _ (Action.step s (env, .clientPacket packet)) := forwards hb hunclaimed
        rw [if_pos hunclaimed]
        exact .stays helsewhere.attached helsewhere.backend helsewhere.threshold
          (helsewhere.closed ▸ List.prefix_refl _) (Hears.write s.backendCompressionThreshold b packet)
      · exact absurd rfl hrouted
    | _ => exact absurd rfl hrouted

/-- Connections that were given up are kept as they were. -/
theorem closed_run {s : PlayStateMachine} (h : s.backend.isSome) (calls : List (Env × Action)) :
    s.closed <+: (runAll Action.step s calls).closed := by
  induction calls generalizing s with
  | nil => exact List.prefix_refl _
  | cons call calls ih =>
    obtain ⟨b, hb⟩ := Option.isSome_iff_exists.mp h
    cases call_handles hb call with
    | stays _ hbackend _ hclosed _ => exact hclosed.trans (ih (by rw [hbackend]; rfl))
    | leaves _ hbackend hclosed _ => exact ((List.prefix_append ..).trans hclosed).trans (ih hbackend)

/-- In every run, whatever the environments it meets: the backend is sent, in
order and unchanged, the client's packets that nobody claims, and nothing else,
for as long as the player is on it. Either the player still is at the end; or a
call that passes nothing on has given the connection up, and it has been left as
it was ever since. A failing write loses packets; with none, not one is missing. -/
theorem play_relays_backend {s : PlayStateMachine} {b : Wire} (hb : s.backend = some b)
    (calls : List (Env × Action)) :
    ∃ mine rest b', calls = mine ++ rest ∧ Hears s.backendCompressionThreshold b b' (routedIn s mine) ∧
      (runAll Action.step s mine).attached = s.attached ∧ (runAll Action.step s mine).backend = some b' ∧
      (rest = [] ∨ ∃ call later, rest = call :: later ∧ Action.routed (runAll Action.step s mine) call = [] ∧
        (Action.step (runAll Action.step s mine) call).attached = s.attached + 1 ∧
        b' ∈ (runAll Action.step s calls).closed) := by
  induction calls generalizing s b with
  | nil => exact ⟨[], [], b, rfl, Hears.refl _ b, rfl, hb, Or.inl rfl⟩
  | cons call calls ih =>
    cases call_handles hb call with
    | leaves hattached hbackend hclosed hrouted =>
      refine ⟨[], call :: calls, b, rfl, Hears.refl _ b, rfl, hb, Or.inr ⟨call, calls, rfl, hrouted, hattached, ?_⟩⟩
      have hkept := hclosed.trans (closed_run hbackend calls)
      exact hkept.subset (List.mem_append_right _ (List.mem_singleton_self b))
    | stays hattached hbackend hthreshold _ hears =>
      obtain ⟨mine, rest, b', rfl, hears', hattached', hbackend', hend⟩ := ih hbackend
      rw [hthreshold] at hears'
      refine ⟨call :: mine, rest, b', rfl, hears.trans hears', hattached'.trans hattached, hbackend', ?_⟩
      rw [← hattached]
      exact hend

/-- The player moves, and then the backend is lost. -/
def moveThenLost : List (Env × Action) :=
  [(smallEnv [], .clientPacket ⟨0x1D, [0x00]⟩), (smallEnv [], .backendEof)]

theorem play_relays_backend_lost :
    ∃ mine rest b', moveThenLost = mine ++ rest ∧ Hears none quietWire b' (routedIn (smallSession 763) mine) ∧
      (runAll Action.step (smallSession 763) mine).attached = 0 ∧
      (runAll Action.step (smallSession 763) mine).backend = some b' ∧
      (rest = [] ∨ ∃ call later, rest = call :: later ∧
        Action.routed (runAll Action.step (smallSession 763) mine) call = [] ∧
        (Action.step (runAll Action.step (smallSession 763) mine) call).attached = 1 ∧
        b' ∈ (runAll Action.step (smallSession 763) moveThenLost).closed) :=
  play_relays_backend (s := smallSession 763) (b := quietWire) rfl moveThenLost

end FrameMC

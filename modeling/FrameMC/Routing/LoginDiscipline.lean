import FrameMC.Routing.Steps

/-!
# Logins and Respawns

What the client may be sent of a backend's Login (Play): the first one as it
is, every later one as a Respawn. The machine remembers one thing, that a
transfer's Login is still to come, and `login_discipline_iff` says for which
orders of Logins and transfers this is enough.
-/

namespace FrameMC

open ByteStream Effect

/-! ## The discipline -/

namespace Event

/-- A Login (Play), as the client reads it. -/
def isLogin (v : Int) (e : Event) : Bool := isLoginPlayPacket e.packet.id v

/-- A Respawn that stands for a Login (Play). -/
def isRespawn : Event → Bool
  | sent _ _ origin => origin = .respawn
  | received _ _ => false

/-- Neither a Login (Play) nor what stands for one. -/
def Plain (v : Int) (e : Event) : Prop := e.isLogin v = false ∧ e.isRespawn = false

end Event

/-- No Respawn stands for a Login (Play) before one was delivered, and no Login
(Play) follows another. -/
structure LoginDiscipline (v : Int) (log : List Event) : Prop where
  loginBeforeRespawn : ∀ before e after, log = before ++ e :: after → e.isRespawn →
    ∃ login ∈ before, login.isLogin v
  loginOnce : ∀ before e after, log = before ++ e :: after → e.isLogin v → ∀ earlier ∈ before, ¬ earlier.isLogin v

namespace LoginDiscipline

variable {v : Int}

theorem nil : LoginDiscipline v [] :=
  ⟨fun _ _ _ h => by simp at h, fun _ _ _ h => by simp at h⟩

theorem of_append {log more : List Event} (h : LoginDiscipline v (log ++ more)) : LoginDiscipline v log := by
  refine ⟨fun before e after heq => ?_, fun before e after heq => ?_⟩
  · exact h.loginBeforeRespawn before e (after ++ more) (by simp [heq])
  · exact h.loginOnce before e (after ++ more) (by simp [heq])

theorem snoc_iff {log : List Event} {e : Event} :
    LoginDiscipline v (log ++ [e]) ↔ LoginDiscipline v log ∧
      (e.isRespawn → ∃ login ∈ log, login.isLogin v) ∧ (e.isLogin v → ∀ earlier ∈ log, ¬ earlier.isLogin v) := by
  constructor
  · intro h
    exact ⟨h.of_append, h.loginBeforeRespawn log e [] rfl, h.loginOnce log e [] rfl⟩
  · rintro ⟨h, hrespawn, hlogin⟩
    have hsplit : ∀ before x after, log ++ [e] = before ++ x :: after →
        (∃ after', log = before ++ x :: after') ∨ before = log ∧ x = e := by
      intro before x after heq
      rcases List.eq_nil_or_concat after with rfl | ⟨after', y, rfl⟩
      · obtain ⟨rfl, hx⟩ := List.append_inj' heq rfl
        exact Or.inr ⟨rfl, (List.singleton_inj.mp hx).symm⟩
      · refine Or.inl ⟨after', ?_⟩
        rw [List.concat_eq_append, ← List.cons_append, ← List.append_assoc] at heq
        exact (List.append_inj' heq rfl).1
    refine ⟨fun before x after heq hx => ?_, fun before x after heq hx => ?_⟩
    · rcases hsplit before x after heq with ⟨after', h'⟩ | ⟨rfl, rfl⟩
      · exact h.loginBeforeRespawn before x after' h' hx
      · exact hrespawn hx
    · rcases hsplit before x after heq with ⟨after', h'⟩ | ⟨rfl, rfl⟩
      · exact h.loginOnce before x after' h' hx
      · exact hlogin hx

theorem append_plain {log more : List Event} (h : LoginDiscipline v log) (hplain : ∀ e ∈ more, e.Plain v) :
    LoginDiscipline v (log ++ more) := by
  induction more using List.reverseRecOn with
  | nil => rwa [List.append_nil]
  | append_singleton more e ih =>
    have hmore := ih fun x hx => hplain x (List.mem_append_left [e] hx)
    obtain ⟨hlogin, hrespawn⟩ := hplain e (List.mem_append_right more (List.mem_singleton_self e))
    rw [← List.append_assoc, snoc_iff]
    refine ⟨hmore, fun he => ?_, fun he => ?_⟩
    · rw [hrespawn] at he
      cases he
    · rw [hlogin] at he
      cases he

end LoginDiscipline

/-! ## Packets of the proxy's own -/

/-- Outside the range all the ids of Login (Play) lie in. -/
def OutOfRange (id : Int32) : Prop := id < 0x23 ∨ 0x31 < id

instance (id : Int32) : Decidable (OutOfRange id) := inferInstanceAs (Decidable (_ ∨ _))

theorem OutOfRange.not_login {id : Int32} (h : OutOfRange id) (v : Int) : isLoginPlayPacket id v = false := by
  have hne : ∀ n, ¬ OutOfRange n → (id == n) = false := by
    intro n hn
    exact beq_false_of_ne fun heq => hn (heq ▸ h)
  unfold isLoginPlayPacket
  repeat' first
    | exact hne _ (by decide)
    | refine iteInduction (motive := fun b => b = false) (fun _ => ?_) fun _ => ?_

section Ids

variable (v : Int)

theorem respawnId_outOfRange : OutOfRange (RespawnPacket.packetIdForVersion v) := by
  unfold RespawnPacket.packetIdForVersion
  repeat' apply iteInduction <;> intro
  all_goals decide

theorem chatId_outOfRange : OutOfRange (SystemChatMessagePacket.packetIdForVersion v) := by
  unfold SystemChatMessagePacket.packetIdForVersion
  repeat' apply iteInduction <;> intro
  all_goals decide

theorem tabCompleteId_outOfRange : OutOfRange (TabCompleteResponsePacket.packetIdForVersion v) := by
  unfold TabCompleteResponsePacket.packetIdForVersion
  repeat' apply iteInduction <;> intro
  all_goals decide

theorem closeContainerId_outOfRange : OutOfRange (CloseContainerPacket.packetIdForVersion v) := by
  unfold CloseContainerPacket.packetIdForVersion
  repeat' apply iteInduction <;> intro
  all_goals decide

theorem stopSoundId_outOfRange : OutOfRange (StopSoundPacket.packetIdForVersion v) := by
  unfold StopSoundPacket.packetIdForVersion
  repeat' apply iteInduction <;> intro
  all_goals decide

theorem bossBarId_outOfRange : OutOfRange (BossBarPacket.packetIdForVersion v) := by
  unfold BossBarPacket.packetIdForVersion
  repeat' apply iteInduction <;> intro
  all_goals decide

theorem objectiveId_outOfRange : OutOfRange (ScoreboardObjectivePacket.packetIdForVersion v) := by
  unfold ScoreboardObjectivePacket.packetIdForVersion
  repeat' apply iteInduction <;> intro
  all_goals decide

theorem slotId_outOfRange : OutOfRange (DisplayObjectivePacket.packetIdForVersion v) := by
  unfold DisplayObjectivePacket.packetIdForVersion
  repeat' apply iteInduction <;> intro
  all_goals decide

end Ids

/-! ## Quiet steps -/

/-- A step that delivers nothing of a Login (Play): at most it attaches another backend. -/
structure Quiet (s s' : PlayStateMachine) : Prop where
  version : s'.session.protocolVersion = s.session.protocolVersion
  log : ∃ more, s'.client.log = s.client.log ++ more ∧ ∀ e ∈ more, e.Plain s.session.protocolVersion
  transfer : (s'.serverTransferred = s.serverTransferred ∧ s'.attached = s.attached) ∨
    (s'.serverTransferred = true ∧ s.attached < s'.attached)

namespace Quiet

theorem steps : Effect.Steps Quiet where
  refl s := ⟨rfl, ⟨[], (List.append_nil _).symm, fun _ h => absurd h List.not_mem_nil⟩, Or.inl ⟨rfl, rfl⟩⟩
  trans := by
    rintro s s' s'' ⟨hv, ⟨more, hlog, hplain⟩, ht⟩ ⟨hv', ⟨more', hlog', hplain'⟩, ht'⟩
    refine ⟨hv'.trans hv, ⟨more ++ more', ?_, ?_⟩, ?_⟩
    · rw [hlog', hlog, List.append_assoc]
    · intro e he
      rcases List.mem_append.mp he with he | he
      · exact hplain e he
      · exact hv ▸ hplain' e he
    · rcases ht with ⟨ht, ha⟩ | ⟨ht, ha⟩ <;> rcases ht' with ⟨ht', ha'⟩ | ⟨ht', ha'⟩
      · exact Or.inl ⟨ht'.trans ht, ha'.trans ha⟩
      · exact Or.inr ⟨ht', by omega⟩
      · exact Or.inr ⟨ht'.trans ht, by omega⟩
      · exact Or.inr ⟨ht', by omega⟩

/-- A step that only touches what is not watched. -/
theorem of_eq {s s' : PlayStateMachine} (hv : s'.session.protocolVersion = s.session.protocolVersion)
    (hlog : s'.client.log = s.client.log) (ht : s'.serverTransferred = s.serverTransferred)
    (ha : s'.attached = s.attached) : Quiet s s' :=
  ⟨hv, ⟨[], by rw [hlog, List.append_nil], fun _ h => absurd h List.not_mem_nil⟩, Or.inl ⟨ht, ha⟩⟩

theorem writeClient {s : PlayStateMachine} {p : RawPacket} {origin : Origin}
    (hid : isLoginPlayPacket p.id s.session.protocolVersion = false) (ho : origin ≠ .respawn) :
    Quiet s (writeClient p origin s).2 := by
  refine ⟨rfl, ⟨if s.client.losesNext then [] else [.sent p s.clientCompressionThreshold origin], ?_, ?_⟩,
    Or.inl ⟨rfl, rfl⟩⟩
  · exact Wire.write_log_eq ..
  · intro e he
    split at he
    · cases he
    · rw [List.mem_singleton.mp he]
      exact ⟨hid, decide_eq_false ho⟩

theorem own {s : PlayStateMachine} {p : RawPacket} (hid : OutOfRange p.id) :
    Quiet s (FrameMC.writeClient p .own s).2 :=
  writeClient (hid.not_login _) (by decide)

theorem writeEach {α : Type} {set : HashSet α} {encode : α → RawPacket} (hid : ∀ x, OutOfRange (encode x).id) :
    Keeps Quiet (writeEach set encode) :=
  keeps_forEach steps fun x _ => keeps_attempt fun _ => own (hid x)

theorem closeContainer : Keeps Quiet closeContainer := by
  refine keeps_get_bind fun s => ?_
  cases s.openContainerId with
  | some windowId =>
    have hclear : Quiet s { s with openContainerId := none } := of_eq rfl rfl rfl rfl
    exact steps.trans hclear (own (closeContainerId_outOfRange s.session.protocolVersion))
  | none => exact steps.refl s

theorem silence : Keeps Quiet silence := by
  refine keeps_get_bind fun s => ?_
  split
  · have hclear : Quiet s { s with hasActiveAudio := false } := of_eq rfl rfl rfl rfl
    exact steps.trans hclear (own (stopSoundId_outOfRange s.session.protocolVersion))
  · exact steps.refl s

theorem removeObjectives : Keeps Quiet removeObjectives := by
  refine keeps_get_bind fun s => ?_
  refine keeps_bind steps (keeps_modify fun _ => ?_) (fun _ => ?_) s
  · exact of_eq rfl rfl rfl rfl
  · exact writeEach fun _ => objectiveId_outOfRange s.session.protocolVersion

theorem clearSlots : Keeps Quiet clearSlots := by
  refine keeps_get_bind fun s => ?_
  refine keeps_bind steps (keeps_modify fun _ => ?_) (fun _ => ?_) s
  · exact of_eq rfl rfl rfl rfl
  · exact writeEach fun _ => slotId_outOfRange s.session.protocolVersion

theorem removeBossBars : Keeps Quiet removeBossBars := by
  refine keeps_get_bind fun s => ?_
  refine keeps_bind steps (keeps_modify fun _ => ?_) (fun _ => ?_) s
  · exact of_eq rfl rfl rfl rfl
  · exact writeEach fun _ => bossBarId_outOfRange s.session.protocolVersion

theorem writeBackend (packet : RawPacket) : Keeps Quiet (writeBackend packet) := by
  intro s
  unfold FrameMC.writeBackend
  split
  · exact of_eq rfl rfl rfl rfl
  · exact steps.refl s

theorem chat (env : Env) (message : String) : Keeps Quiet (writeChat env message) := fun s =>
  own (chatId_outOfRange s.session.protocolVersion)

theorem teardown : Keeps Quiet teardownTransferredState :=
  keeps_teardown steps closeContainer silence removeObjectives clearSlots removeBossBars

theorem transferred (s : PlayStateMachine) (targetServer : String) (wire : Wire) (threshold : Option Nat)
    (cache : SessionRegistryCache) : Quiet s (FrameMC.transferred targetServer wire threshold cache s) := by
  have hdetach : Quiet s (rearrange none (s.closed ++ s.backend.toList) cache s) := of_eq rfl rfl rfl rfl
  have hattach : ∀ s, Quiet s (reattach targetServer wire threshold s) := fun _ =>
    ⟨rfl, ⟨[], (List.append_nil _).symm, fun _ h => absurd h List.not_mem_nil⟩, Or.inr ⟨rfl, Nat.lt_succ_self _⟩⟩
  exact steps.trans (steps.trans hdetach (teardown _)) (hattach _)

theorem attached_transferred (s : PlayStateMachine) (targetServer : String) (wire : Wire) (threshold : Option Nat)
    (cache : SessionRegistryCache) : s.attached < (FrameMC.transferred targetServer wire threshold cache s).attached := by
  have hteardown : s.attached ≤
      (teardownTransferredState (rearrange none (s.closed ++ s.backend.toList) cache s)).2.attached := by
    rcases (teardown (rearrange none (s.closed ++ s.backend.toList) cache s)).transfer with ⟨-, ha⟩ | ⟨-, ha⟩
    · exact Nat.le_of_eq ha.symm
    · exact Nat.le_of_lt ha
  exact Nat.lt_succ_of_le hteardown

theorem stepRel (env : Env) : StepRel env Quiet where
  toSteps := steps
  chat := chat env
  complete s _ := own (tabCompleteId_outOfRange s.session.protocolVersion)
  toBackend := writeBackend
  giveUp _ _ _ _ := of_eq rfl rfl rfl rfl
  transfer s targetServer wire threshold cache _ := transferred s targetServer wire threshold cache

end Quiet

/-! ## Calls -/

/-- The call hands the machine a Login (Play) of its backend's. -/
def Action.bringsLogin (v : Int) : Action → Bool
  | backendPacket packet => !isProtectedPluginChannel packet && isLoginPlayPacket packet.id v
  | _ => false

theorem disconnect_not_login {id : Int32} (h : isDisconnectPacket id = true) (v : Int) :
    isLoginPlayPacket id v = false := by
  unfold isDisconnectPacket at h
  rcases Bool.or_eq_true_iff.mp h with h | h
  · rw [beq_iff_eq.mp h]
    exact OutOfRange.not_login (by decide) v
  · rw [beq_iff_eq.mp h]
    exact OutOfRange.not_login (by decide) v

theorem quiet_track (packet : RawPacket) (s : PlayStateMachine) : Quiet s (track packet s) :=
  .of_eq (by simp) (by simp) (by simp) (by simp)

theorem quiet_noteClose (packet : RawPacket) (s : PlayStateMachine) : Quiet s (noteClose packet s) := by
  unfold noteClose
  split
  · exact .of_eq rfl rfl rfl rfl
  · exact Quiet.steps.refl s

theorem quiet_flushClient : Keeps Quiet flushClient := fun s => .of_eq rfl (Wire.flush_log s.client) rfl rfl

theorem quiet_backendPacket (env : Env) {packet : RawPacket} {s : PlayStateMachine}
    (h : isProtectedPluginChannel packet ∨ isLoginPlayPacket packet.id s.session.protocolVersion = false) :
    Quiet s (handleBackendPacket env packet s).2 := by
  have hrecover : Keeps Quiet (afterDisconnect env) :=
    (Quiet.stepRel env).recover _ _ (keeps_throw Quiet.steps _)
  rw [handleBackendPacket_state]
  split
  · exact Quiet.steps.refl s
  · next hprotected =>
    have hlogin := h.resolve_left hprotected
    split
    · exact Quiet.steps.trans (quiet_track packet s) (hrecover _)
    · rw [track_session, hlogin]
      simp only [Bool.false_eq_true, if_false]
      rw [deliver_state]
      refine Quiet.steps.trans (quiet_track packet s) (Quiet.writeClient ?_ (by decide))
      rw [delivery_id, track_session]
      exact hlogin

theorem quiet_exec (env : Env) {a : Action} {s : PlayStateMachine}
    (h : a.bringsLogin s.session.protocolVersion = false) : Quiet s (a.exec env s) := by
  cases a with
  | clientPacket packet =>
    rw [Action.exec, handleClientPacket_state]
    split
    · exact Quiet.steps.refl s
    · exact Quiet.steps.trans (quiet_noteClose packet s) ((Quiet.stepRel env).routeClientPacket packet _)
  | backendPacket packet =>
    refine quiet_backendPacket env ?_
    rw [Action.bringsLogin, Bool.and_eq_false_iff, Bool.not_eq_false'] at h
    exact h
  | backendEof => exact (Quiet.stepRel env).handleBackendEof s
  | switchServer targetServer => exact (Quiet.stepRel env).switchServer targetServer s
  | sanitizeScreen windowId =>
    refine keeps_reset Quiet.steps quiet_flushClient (fun s => ?_) s
    have hclear : Quiet s { s with openContainerId := none } := .of_eq rfl rfl rfl rfl
    exact Quiet.steps.trans hclear (Quiet.own (closeContainerId_outOfRange s.session.protocolVersion))
  | stopAudio =>
    refine keeps_reset Quiet.steps quiet_flushClient (fun s => ?_) s
    have hclear : Quiet s { s with hasActiveAudio := false } := .of_eq rfl rfl rfl rfl
    exact Quiet.steps.trans hclear (Quiet.own (stopSoundId_outOfRange s.session.protocolVersion))
  | clearDisplayObjective position =>
    refine keeps_reset Quiet.steps quiet_flushClient (fun s => ?_) s
    have hclear : Quiet s { s with activeDisplaySlots := s.activeDisplaySlots.remove position } :=
      .of_eq rfl rfl rfl rfl
    exact Quiet.steps.trans hclear (Quiet.own (slotId_outOfRange s.session.protocolVersion))

/-- A Login (Play) is written to the client as it is, or after a transfer as a
Respawn; either way none is awaited any more. -/
theorem exec_login (env : Env) {a : Action} {s : PlayStateMachine}
    (h : a.bringsLogin s.session.protocolVersion = true) :
    ∃ e : Event, (a.exec env s).client.log = s.client.log ++ (if s.client.losesNext then [] else [e]) ∧
      e.isRespawn = s.serverTransferred ∧ e.isLogin s.session.protocolVersion = !s.serverTransferred ∧
      (a.exec env s).session.protocolVersion = s.session.protocolVersion ∧
      (a.exec env s).serverTransferred = false ∧ (a.exec env s).attached = s.attached := by
  cases a with
  | backendPacket packet =>
    rw [Action.bringsLogin, Bool.and_eq_true, Bool.not_eq_true'] at h
    obtain ⟨hprotected, hlogin⟩ := h
    have hdisconnect : isDisconnectPacket packet.id = false := by
      by_contra hd
      have := disconnect_not_login (Bool.eq_true_of_not_eq_false hd) s.session.protocolVersion
      rw [this] at hlogin
      cases hlogin
    rw [Action.exec, handleBackendPacket_state, hprotected, hdisconnect, track_session, hlogin]
    simp only [Bool.false_eq_true, if_false, if_true]
    rw [deliverLogin_state, track_serverTransferred, track_session]
    cases ht : s.serverTransferred with
    | true =>
      refine ⟨.sent (respawnFor packet s.session.protocolVersion) s.clientCompressionThreshold .respawn, ?_, rfl, ?_, ?_⟩
      · have hw := Wire.write_log_eq s.client (respawnFor packet s.session.protocolVersion)
          s.clientCompressionThreshold .respawn
        simpa [writeClient] using hw
      · have hid : OutOfRange (respawnFor packet s.session.protocolVersion).id := by
          rw [respawnFor_id]
          exact respawnId_outOfRange _
        exact hid.not_login _
      · simp [writeClient]
    | false =>
      refine ⟨.sent packet s.clientCompressionThreshold .relayed, ?_, rfl, hlogin, ?_⟩
      · have hw := Wire.write_log_eq s.client packet s.clientCompressionThreshold .relayed
        simpa [writeClient] using hw
      · simp [writeClient, ht]
  | clientPacket _ => cases h
  | backendEof => cases h
  | switchServer _ => cases h
  | sanitizeScreen _ => cases h
  | stopAudio => cases h
  | clearDisplayObjective _ => cases h

/-! ## Runs -/

/-- A machine and what an onlooker knows of its backend: it came with a
transfer, and its Login (Play) is still to come. -/
structure Watched where
  machine : PlayStateMachine
  awaitsLogin : Bool

def Watched.step (w : Watched) (call : Env × Action) : Watched where
  machine := call.2.exec call.1 w.machine
  awaitsLogin :=
    if w.machine.attached < (call.2.exec call.1 w.machine).attached then true
    else if call.2.bringsLogin w.machine.session.protocolVersion then false
    else w.awaitsLogin

/-- If the call brings a Login (Play) that goes out: it is its backend's first
since a transfer if and only if the client has had one. -/
def LoginInOrder (start : Wire) (w : Watched) (call : Env × Action) : Prop :=
  call.2.bringsLogin w.machine.session.protocolVersion → w.machine.client.losesNext = false →
    (w.awaitsLogin = true ↔ ∃ login ∈ start.since w.machine.client, login.isLogin w.machine.session.protocolVersion)

/-- The machine's flag is what the onlooker knows. -/
structure Watching (start : Wire) (v : Int) (w : Watched) : Prop where
  flag : w.machine.serverTransferred = w.awaitsLogin
  version : w.machine.session.protocolVersion = v
  log : w.machine.client.log = start.log ++ start.since w.machine.client

section Step

variable {start : Wire} {v : Int} {w : Watched} (call : Env × Action) (h : Watching start v w)

include h

theorem Watching.step : Watching start v (w.step call) := by
  cases hlogin : call.2.bringsLogin w.machine.session.protocolVersion with
  | true =>
    obtain ⟨e, hlog, -, -, hv, hflag, ha⟩ := exec_login call.1 hlogin
    refine ⟨?_, hv.trans h.version, (Wire.since_append h.log hlog).2⟩
    simp only [Watched.step, hflag, ha, Nat.lt_irrefl, hlogin, if_true, if_false]
  | false =>
    obtain ⟨hv, ⟨more, hlog, -⟩, ht⟩ := quiet_exec call.1 hlogin
    refine ⟨?_, hv.trans h.version, (Wire.since_append h.log hlog).2⟩
    rcases ht with ⟨ht, ha⟩ | ⟨ht, ha⟩
    · simp only [Watched.step, ht, ha, Nat.lt_irrefl, hlogin, if_false, h.flag, Bool.false_eq_true]
    · simp only [Watched.step, ht, ha, if_true]

/-- A call keeps the discipline if and only if it brings no Login (Play) out of order. -/
theorem Watching.discipline_step_iff (hd : LoginDiscipline v (start.since w.machine.client)) :
    LoginDiscipline v (start.since (w.step call).machine.client) ↔ LoginInOrder start w call := by
  cases hlogin : call.2.bringsLogin w.machine.session.protocolVersion with
  | true =>
    obtain ⟨e, hlog, hrespawn, hislogin, -⟩ := exec_login call.1 hlogin
    rw [Watched.step, (Wire.since_append h.log hlog).1, LoginInOrder]
    cases hlost : w.machine.client.losesNext with
    | true =>
      simp only [if_true, List.append_nil]
      exact iff_of_true hd fun _ hl => by cases hl
    | false =>
      rw [h.flag] at hrespawn hislogin
      rw [h.version] at hislogin hlogin ⊢
      simp only [Bool.false_eq_true, if_false, LoginDiscipline.snoc_iff, hrespawn, hislogin, hlogin, forall_const]
      constructor
      · rintro ⟨-, hr, hl⟩
        refine ⟨hr, fun ⟨login, hmem, hlog⟩ => ?_⟩
        by_contra hawaits
        exact hl (by simpa using hawaits) login hmem hlog
      · intro hiff
        refine ⟨hd, hiff.mp, fun hawaits earlier hmem hlog => ?_⟩
        rw [hiff.mpr ⟨earlier, hmem, hlog⟩] at hawaits
        cases hawaits
  | false =>
    obtain ⟨-, ⟨more, hlog, hplain⟩, -⟩ := quiet_exec call.1 hlogin
    rw [Watched.step, (Wire.since_append h.log hlog).1]
    refine iff_of_true (hd.append_plain fun e he => h.version ▸ hplain e he) ?_
    intro hl
    rw [hlogin] at hl
    cases hl

theorem Watching.discipline_back (hd : LoginDiscipline v (start.since (w.step call).machine.client)) :
    LoginDiscipline v (start.since w.machine.client) := by
  cases hlogin : call.2.bringsLogin w.machine.session.protocolVersion with
  | true =>
    obtain ⟨e, hlog, -⟩ := exec_login call.1 hlogin
    rw [Watched.step, (Wire.since_append h.log hlog).1] at hd
    exact hd.of_append
  | false =>
    obtain ⟨-, ⟨more, hlog, -⟩, -⟩ := quiet_exec call.1 hlogin
    rw [Watched.step, (Wire.since_append h.log hlog).1] at hd
    exact hd.of_append

end Step

/-- From a new machine, the client sees Logins and Respawns in discipline if and
only if every Login (Play) that goes out comes in order: the first before any
transfer is through, each later one as the first of a backend transferred to. -/
theorem login_discipline_iff (hashers : Hashers) (client backend : Wire) (session : PlayerSession)
    (config : ProxyConfig) (compressionThreshold : Option Nat) (calls : List (Env × Action)) :
    let start : Watched := ⟨.new hashers client backend session config compressionThreshold, false⟩
    LoginDiscipline session.protocolVersion (client.since (runAll Watched.step start calls).machine.client) ↔
      Along Watched.step (LoginInOrder client) start calls := by
  intro start
  have hsince : client.since client = [] := Wire.since_self client
  have hwatching : Watching client session.protocolVersion start :=
    ⟨rfl, rfl, by rw [show start.machine.client = client from rfl, hsince, List.append_nil]⟩
  refine runAll_iff_along (I := Watching client session.protocolVersion)
    (P := fun w => LoginDiscipline session.protocolVersion (client.since w.machine.client))
    (fun w call h => h.step call) (fun w call h hd => h.discipline_step_iff call hd)
    (fun w call h hd => h.discipline_back call hd) hwatching ?_ calls
  rw [show start.machine.client = client from rfl, hsince]
  exact .nil

/-- A backend that says Login (Play) twice. -/
def loginTwice : List (Env × Action) :=
  [(smallEnv [], .backendPacket ⟨0x2B, [0, 0, 0, 1]⟩), (smallEnv [], .backendPacket ⟨0x2B, [0, 0, 0, 1]⟩)]

/-- A backend that breaks off before its Login (Play), and a fallback that says it. -/
def transferFirst : List (Env × Action) :=
  [(smallEnv [.packet ⟨0x03, []⟩], .backendEof), (smallEnv [], .backendPacket ⟨0x2B, [0, 0, 0, 1]⟩)]

/-- The second Login (Play) reaches the client like the first; the fallback's
reaches a client that had none as a Respawn. -/
theorem login_discipline_broken :
    ¬ LoginDiscipline 767
        (quietWire.since (runAll Watched.step ⟨smallSession 767, false⟩ loginTwice).machine.client) ∧
      ¬ LoginDiscipline 767
        (quietWire.since (runAll Watched.step ⟨smallSession 767, false⟩ transferFirst).machine.client) := by
  have htwice : quietWire.since (runAll Watched.step ⟨smallSession 767, false⟩ loginTwice).machine.client =
      [.sent ⟨0x2B, [0, 0, 0, 1]⟩ none .relayed, .sent ⟨0x2B, [0, 0, 0, 1]⟩ none .relayed] := rfl
  have hfirst : quietWire.since (runAll Watched.step ⟨smallSession 767, false⟩ transferFirst).machine.client =
      [.sent (chatPacket (smallEnv []) (smallSession 767)
          "§eLost connection to survival. Returning to fallback server...") none .own,
        .sent (respawnFor ⟨0x2B, [0, 0, 0, 1]⟩ 767) none .respawn] := rfl
  constructor
  · intro h
    rw [htwice] at h
    exact h.loginOnce [_] _ [] rfl rfl _ (List.mem_singleton_self _) rfl
  · intro h
    rw [hfirst] at h
    obtain ⟨login, hmem, hlogin⟩ := h.loginBeforeRespawn [_] _ [] rfl rfl
    rw [List.mem_singleton.mp hmem] at hlogin
    cases hlogin

end FrameMC

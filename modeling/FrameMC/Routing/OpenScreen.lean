import FrameMC.Routing.Residue

/-!
# Windows and messages in flight

The machine remembers the window the client has open, by the packets that pass
it, which the client sees later and the machine hears of later still. A
`Connection` is the machine, the client and what is under way between them.
`open_screen_agrees_iff` says which runs keep machine and client agreed: those
in which no Close Container of the client's comes in while a window is, or is
about to be, open.
-/

namespace FrameMC

open ByteStream Effect

/-! ## The client's window -/

/-- `win_id as u8`. -/
def windowByte (winId : Int32) : UInt8 := winId.toUInt32.toUInt8

/-- From 0 to 255 this is the window id itself. -/
theorem windowByte_toNat {winId : Int32} (h₀ : 0 ≤ winId) (h : asUsize winId ≤ 255) :
    (windowByte winId).toNat = asUsize winId := by
  rw [asUsize_eq h₀] at h ⊢
  rw [windowByte, UInt32.toNat_toUInt8]
  omega

/-- The client's open window after a packet. -/
def look (v : Int) (opened : Option Int32) (p : RawPacket) : Option Int32 :=
  if isOpenWindowPacket p.id v then
    match decodeVarint p.payload with
    | .ok (winId, _) => some winId
    | _ => opened
  else if p.id = CloseContainerPacket.packetIdForVersion v then none
  else opened

/-- An id the client's window does not depend on. -/
structure Screenless (v : Int) (id : Int32) : Prop where
  openWindow : isOpenWindowPacket id v = false
  closeContainer : id ≠ CloseContainerPacket.packetIdForVersion v

theorem Screenless.look {v : Int} {p : RawPacket} (h : Screenless v p.id) (opened : Option Int32) :
    look v opened p = opened := by
  rw [FrameMC.look, h.openWindow, if_neg Bool.false_ne_true, if_neg h.closeContainer]

/-- A packet sets the window whatever it was, or leaves it. -/
theorem look_cases (v : Int) (p : RawPacket) :
    (∃ result, ∀ opened, look v opened p = result) ∨ ∀ opened, look v opened p = opened := by
  unfold look
  split
  · cases decodeVarint p.payload with
    | ok r => exact Or.inl ⟨some r.1, fun _ => rfl⟩
    | err e => exact Or.inr fun _ => rfl
    | panic => exact Or.inr fun _ => rfl
  · split
    · exact Or.inl ⟨none, fun _ => rfl⟩
    · exact Or.inr fun _ => rfl

/-- A client that had no window ends up with one only if any client does. -/
theorem foldl_look_none {v : Int} {ps : List RawPacket} {winId : Int32}
    (h : ps.foldl (look v) none = some winId) (opened : Option Int32) : ps.foldl (look v) opened = some winId := by
  induction ps generalizing opened with
  | nil => cases h
  | cons p ps ih =>
    rw [List.foldl_cons] at h ⊢
    rcases look_cases v p with ⟨result, hp⟩ | hp
    · rwa [hp, ← hp none]
    · rw [hp] at h ⊢
      exact ih h opened

section Ids

variable {v : Int} (hv : 764 ≤ v)

include hv

theorem own_screenless : Screenless v (SystemChatMessagePacket.packetIdForVersion v) ∧
    Screenless v (TabCompleteResponsePacket.packetIdForVersion v) ∧
    Screenless v (RespawnPacket.packetIdForVersion v) ∧ Screenless v (StopSoundPacket.packetIdForVersion v) ∧
    Screenless v (BossBarPacket.packetIdForVersion v) ∧
    Screenless v (ScoreboardObjectivePacket.packetIdForVersion v) ∧
    Screenless v (DisplayObjectivePacket.packetIdForVersion v) := by
  rcases versions hv with ⟨h776, h768, h766, h765, h764⟩ | ⟨h776, h768, h766, h765, h764⟩ |
    ⟨h776, h768, h766, h765, h764⟩ | ⟨h776, h768, h766, h765, h764⟩ | ⟨h776, h768, h766, h765, h764⟩
  all_goals
    refine ⟨?_, ?_, ?_, ?_, ?_, ?_, ?_⟩ <;> constructor <;>
      simp only [isOpenWindowPacket, CloseContainerPacket.packetIdForVersion,
        SystemChatMessagePacket.packetIdForVersion, TabCompleteResponsePacket.packetIdForVersion,
        RespawnPacket.packetIdForVersion, StopSoundPacket.packetIdForVersion, BossBarPacket.packetIdForVersion,
        ScoreboardObjectivePacket.packetIdForVersion, DisplayObjectivePacket.packetIdForVersion,
        h776, h768, h766, h765, h764, if_true, if_false] <;> decide

theorem special_screenless {id : Int32} (h : isDisconnectPacket id = true ∨ isLoginPlayPacket id v = true ∨
    isDeclareCommandsPacket id v = true) : Screenless v id := by
  rcases versions hv with ⟨h776, h768, h766, h765, h764⟩ | ⟨h776, h768, h766, h765, h764⟩ |
    ⟨h776, h768, h766, h765, h764⟩ | ⟨h776, h768, h766, h765, h764⟩ | ⟨h776, h768, h766, h765, h764⟩
  all_goals
    simp only [isDisconnectPacket, isLoginPlayPacket, isDeclareCommandsPacket, h776, h768, h766, h764, if_true,
      if_false, Bool.or_eq_true, beq_iff_eq] at h
    rcases h with (rfl | rfl) | rfl | rfl <;> constructor <;>
      simp only [isOpenWindowPacket, CloseContainerPacket.packetIdForVersion, h776, h768, h766, h764, if_true,
        if_false] <;> decide

theorem closeId_not_open : isOpenWindowPacket (CloseContainerPacket.packetIdForVersion v) v = false := by
  rcases versions hv with ⟨h776, h768, h766, h765, h764⟩ | ⟨h776, h768, h766, h765, h764⟩ |
    ⟨h776, h768, h766, h765, h764⟩ | ⟨h776, h768, h766, h765, h764⟩ | ⟨h776, h768, h766, h765, h764⟩
  all_goals
    simp only [isOpenWindowPacket, CloseContainerPacket.packetIdForVersion, h776, h768, h766, h764, if_true, if_false]
    decide

/-- A Close Container of the client's is neither a command nor a completion request. -/
theorem close_not_intercepted {id : Int32} (h : isServerboundCloseContainerPacket id v = true) :
    ServerboundChatCommand.isCommandPacket id v = false ∧
      TabCompleteRequestPacket.isTabCompleteRequest id v = false := by
  rcases versions hv with ⟨h776, h768, h766, h765, h764⟩ | ⟨h776, h768, h766, h765, h764⟩ |
    ⟨h776, h768, h766, h765, h764⟩ | ⟨h776, h768, h766, h765, h764⟩ | ⟨h776, h768, h766, h765, h764⟩
  all_goals
    simp only [isServerboundCloseContainerPacket, h776, h768, h766, h764, if_true, if_false, beq_iff_eq] at h
    subst h
    simp only [ServerboundChatCommand.isCommandPacket, TabCompleteRequestPacket.isTabCompleteRequest,
      serverboundChatCommandPacketId, h776, h768, h766, h764, if_true, if_false]
    decide

end Ids

/-! ## The machine's memory of it -/

/-- If the client has a window open, the machine remembers it. -/
def Agree (opened : Option Int32) (containerId : Option UInt8) : Prop :=
  ∀ winId, opened = some winId → containerId = some (windowByte winId)

theorem agree_none (containerId : Option UInt8) : Agree none containerId := fun _ h => by cases h

/-- The step sends the client nothing of a window the machine does not remember after it. -/
structure Shows (s s' : PlayStateMachine) : Prop where
  version : s'.session.protocolVersion = s.session.protocolVersion
  shown : 764 ≤ s.session.protocolVersion → s.client.Reliable → ∃ more,
    s'.client.log = s.client.log ++ more ∧ s'.client.Reliable ∧ ∀ opened, Agree opened s.openContainerId →
      Agree ((Event.delivered more).foldl (look s.session.protocolVersion) opened) s'.openContainerId

namespace Shows

theorem steps : Effect.Steps Shows where
  refl s := ⟨rfl, fun _ hc => ⟨[], (List.append_nil _).symm, hc, fun _ h => h⟩⟩
  trans := by
    rintro s s' s'' ⟨hv, h⟩ ⟨hv', h'⟩
    refine ⟨hv'.trans hv, fun h764 hc => ?_⟩
    obtain ⟨more, hlog, hc', hagree⟩ := h h764 hc
    obtain ⟨more', hlog', hc'', hagree'⟩ := h' (hv ▸ h764) hc'
    refine ⟨more ++ more', by rw [hlog', hlog, List.append_assoc], hc'', fun opened ho => ?_⟩
    rw [Event.delivered_append, List.foldl_append, ← hv]
    exact hagree' _ (hv.symm ▸ hagree opened ho)

/-- A step the client does not see, in which the machine forgets no window. -/
theorem of_eq {s s' : PlayStateMachine} (hv : s'.session.protocolVersion = s.session.protocolVersion)
    (hlog : s'.client.log = s.client.log) (hfate : s'.client.fate = s.client.fate)
    (ho : s'.openContainerId = s.openContainerId) : Shows s s' := by
  refine ⟨hv, fun _ hc => ⟨[], by rw [hlog, List.append_nil], ?_, fun opened h => by rw [ho]; exact h⟩⟩
  rwa [Wire.Reliable, hfate]

theorem write {s u : PlayStateMachine} {p : RawPacket} (origin : Origin)
    (hv : u.session.protocolVersion = s.session.protocolVersion) (hclient : u.client = s.client)
    (h : 764 ≤ s.session.protocolVersion → ∀ opened, Agree opened s.openContainerId →
      Agree (look s.session.protocolVersion opened p) u.openContainerId) :
    Shows s (writeClient p origin u).2 := by
  refine ⟨hv, fun h764 hc => ⟨[.sent p u.clientCompressionThreshold origin], ?_, ?_, h h764⟩⟩
  · rw [writeClient, hclient, hc.write]
  · rw [writeClient, hclient]
    exact fun n => by rw [Wire.write_fate]; exact hc n

/-- A write that has nothing to do with windows. -/
theorem screenless {s u : PlayStateMachine} {p : RawPacket} (origin : Origin)
    (hv : u.session.protocolVersion = s.session.protocolVersion) (hclient : u.client = s.client)
    (ho : u.openContainerId = s.openContainerId)
    (hid : 764 ≤ s.session.protocolVersion → Screenless s.session.protocolVersion p.id) :
    Shows s (writeClient p origin u).2 := by
  refine write origin hv hclient fun h764 opened h => ?_
  rw [(hid h764).look, ho]
  exact h

/-- A write that closes the client's window. -/
theorem closing {s u : PlayStateMachine} (windowId : UInt8)
    (hv : u.session.protocolVersion = s.session.protocolVersion) (hclient : u.client = s.client) :
    Shows s (writeClient (CloseContainerPacket.encodeWithVersion ⟨windowId⟩ s.session.protocolVersion) .own u).2 := by
  refine write .own hv hclient fun h764 opened _ => ?_
  have hid : isOpenWindowPacket (CloseContainerPacket.packetIdForVersion s.session.protocolVersion)
      s.session.protocolVersion = false := closeId_not_open h764
  have hlook : look s.session.protocolVersion opened
      (CloseContainerPacket.encodeWithVersion ⟨windowId⟩ s.session.protocolVersion) = none := by
    rw [look, CloseContainerPacket.encodeWithVersion]
    simp only [hid, Bool.false_eq_true, if_false, if_true]
  rw [hlook]
  exact agree_none _

theorem writeEach {α : Type} {set : HashSet α} {encode : α → RawPacket} {v : Int} {s : PlayStateMachine}
    (hs : s.session.protocolVersion = v) (hid : 764 ≤ v → ∀ x, Screenless v (encode x).id) :
    Shows s (FrameMC.writeEach set encode s).2 := by
  unfold FrameMC.writeEach
  generalize set.iter = xs
  induction xs generalizing s with
  | nil => exact steps.refl s
  | cons x xs ih =>
    have hwrite : Shows s (attempt (writeClient (encode x) .own) s).2 :=
      screenless .own rfl rfl rfl fun h764 => hs ▸ hid (hs ▸ h764) x
    exact steps.trans hwrite (ih (hwrite.version.trans hs))

/-! Each thing a teardown does -/

theorem closeContainer : Keeps Shows closeContainer := by
  refine keeps_get_bind fun s => ?_
  cases s.openContainerId with
  | some windowId => exact closing (u := { s with openContainerId := none }) windowId rfl rfl
  | none => exact steps.refl s

theorem silence : Keeps Shows silence := by
  refine keeps_get_bind fun s => ?_
  split
  · exact screenless (u := { s with hasActiveAudio := false }) .own rfl rfl rfl
      fun h764 => (own_screenless h764).2.2.2.1
  · exact steps.refl s

theorem removeObjectives : Keeps Shows removeObjectives := by
  refine keeps_get_bind fun s => ?_
  have hclear : Shows s { s with activeScoreboardObjectives := s.activeScoreboardObjectives.clear } :=
    of_eq rfl rfl rfl rfl
  exact steps.trans hclear (writeEach rfl fun h764 _ => (own_screenless h764).2.2.2.2.2.1)

theorem clearSlots : Keeps Shows clearSlots := by
  refine keeps_get_bind fun s => ?_
  have hclear : Shows s { s with activeDisplaySlots := s.activeDisplaySlots.clear } := of_eq rfl rfl rfl rfl
  exact steps.trans hclear (writeEach rfl fun h764 _ => (own_screenless h764).2.2.2.2.2.2)

theorem removeBossBars : Keeps Shows removeBossBars := by
  refine keeps_get_bind fun s => ?_
  have hclear : Shows s { s with activeBossBars := s.activeBossBars.clear } := of_eq rfl rfl rfl rfl
  exact steps.trans hclear (writeEach rfl fun h764 _ => (own_screenless h764).2.2.2.2.1)

/-! The machine's operations -/

theorem writeBackend (packet : RawPacket) : Keeps Shows (writeBackend packet) := by
  intro s
  unfold FrameMC.writeBackend
  split
  · exact of_eq rfl rfl rfl rfl
  · exact steps.refl s

theorem transferred (s : PlayStateMachine) (targetServer : String) (wire : Wire) (threshold : Option Nat)
    (cache : SessionRegistryCache) : Shows s (FrameMC.transferred targetServer wire threshold cache s) := by
  have hteardown := keeps_teardown steps closeContainer silence removeObjectives clearSlots removeBossBars
  have hdetach : Shows s (rearrange none (s.closed ++ s.backend.toList) cache s) := of_eq rfl rfl rfl rfl
  have hattach : ∀ s, Shows s (reattach targetServer wire threshold s) := fun _ => of_eq rfl rfl rfl rfl
  exact steps.trans (steps.trans hdetach (hteardown _)) (hattach _)

theorem stepRel (env : Env) : StepRel env Shows where
  toSteps := steps
  chat _ _ := screenless .own rfl rfl rfl fun h764 => (own_screenless h764).1
  complete _ _ := screenless .own rfl rfl rfl fun h764 => (own_screenless h764).2.1
  toBackend := writeBackend
  giveUp _ _ _ _ := of_eq rfl rfl rfl rfl
  transfer s targetServer wire threshold cache _ := transferred s targetServer wire threshold cache

/-! Calls -/

theorem track_openContainerId (packet : RawPacket) (s : PlayStateMachine) :
    (track packet s).openContainerId = (trackContainer packet s).openContainerId := by
  rw [track, trackSlots_frame, trackObjectives_frame, trackBossBars_frame, trackAudio_frame]

/-- Tracking a packet does to the machine's memory what receiving it does to the client. -/
theorem agree_track {packet : RawPacket} {s : PlayStateMachine} {opened : Option Int32}
    (h : Agree opened s.openContainerId) :
    Agree (look s.session.protocolVersion opened packet) (track packet s).openContainerId := by
  rw [track_openContainerId, look, trackContainer]
  split
  · cases decodeVarint packet.payload with
    | ok r =>
      intro winId hw
      cases hw
      rfl
    | err e => exact h
    | panic => exact h
  · split
    · exact agree_none _
    · exact h

theorem track_screenless {packet : RawPacket} {s : PlayStateMachine}
    (hid : Screenless s.session.protocolVersion packet.id) :
    (track packet s).openContainerId = s.openContainerId := by
  rw [track_openContainerId, trackContainer, hid.openWindow, if_neg Bool.false_ne_true, if_neg hid.closeContainer]

/-- A packet passed on, or one without windows in place of another. -/
theorem trackWrite {packet p : RawPacket} {s u : PlayStateMachine} (origin : Origin)
    (hu : u.session = s.session ∧ u.client = s.client ∧ u.openContainerId = (track packet s).openContainerId)
    (hp : p = packet ∨ (764 ≤ s.session.protocolVersion →
      Screenless s.session.protocolVersion packet.id ∧ Screenless s.session.protocolVersion p.id)) :
    Shows s (writeClient p origin u).2 := by
  obtain ⟨hsession, hclient, ho⟩ := hu
  refine write origin (by rw [hsession]) hclient fun h764 opened h => ?_
  rw [ho]
  rcases hp with rfl | hid
  · exact agree_track h
  · rw [(hid h764).2.look, track_screenless (hid h764).1]
    exact h

theorem backendPacket (env : Env) (packet : RawPacket) (s : PlayStateMachine) :
    Shows s (handleBackendPacket env packet s).2 := by
  have hrecover : Keeps Shows (afterDisconnect env) := (stepRel env).recover _ _ (keeps_throw steps _)
  rw [handleBackendPacket_state]
  split
  · exact steps.refl s
  · split
    · next hdisconnect =>
      have htrack : Shows s (track packet s) := by
        refine ⟨by simp, fun h764 hc => ⟨[], by simp, by rwa [track_client], fun opened h => ?_⟩⟩
        rw [track_screenless (special_screenless h764 (Or.inl hdisconnect))]
        exact h
      exact steps.trans htrack (hrecover _)
    · split
      · next hlogin =>
        rw [track_session] at hlogin
        rw [deliverLogin_state]
        split
        · refine trackWrite .respawn ⟨track_session packet s, track_client packet s, rfl⟩
            (Or.inr fun h764 => ⟨special_screenless h764 (Or.inr (Or.inl hlogin)), ?_⟩)
          rw [respawnFor_id, track_session]
          exact (own_screenless h764).2.2.1
        · exact trackWrite .relayed ⟨track_session packet s, track_client packet s, rfl⟩ (Or.inl rfl)
      · rw [deliver_state]
        refine trackWrite .relayed ⟨track_session packet s, track_client packet s, rfl⟩ ?_
        by_cases hdeclare : isDeclareCommandsPacket packet.id s.session.protocolVersion
        · refine Or.inr fun h764 => ?_
          rw [delivery_id]
          exact ⟨special_screenless h764 (Or.inr (Or.inr hdeclare)), special_screenless h764 (Or.inr (Or.inr hdeclare))⟩
        · refine Or.inl ?_
          rw [delivery, track_session, if_neg hdeclare]

end Shows

/-- A Close Container of the client's that the machine takes note of. -/
def ClosesContainer (v : Int) (packet : RawPacket) : Prop :=
  isProtectedPluginChannel packet = false ∧ isServerboundCloseContainerPacket packet.id v = true

/-- The call hands the machine such a packet. -/
def Action.ClosesContainer (v : Int) : Action → Prop
  | clientPacket packet => FrameMC.ClosesContainer v packet
  | _ => False

theorem shows_exec (env : Env) {a : Action} {s : PlayStateMachine} (h : ¬ a.ClosesContainer s.session.protocolVersion) :
    Shows s (a.exec env s) := by
  have hflush : Keeps Shows flushClient := fun s => .of_eq rfl (Wire.flush_log s.client) (Wire.flush_fate s.client) rfl
  cases a with
  | clientPacket packet =>
    rw [Action.exec, handleClientPacket_state]
    split
    · exact Shows.steps.refl s
    · next hprotected =>
      have hnote : noteClose packet s = s := by
        rw [noteClose, if_neg fun hid => h ⟨Bool.eq_false_iff.mpr hprotected, hid⟩]
      rw [hnote]
      exact (Shows.stepRel env).routeClientPacket packet s
  | backendPacket packet => exact Shows.backendPacket env packet s
  | backendEof => exact (Shows.stepRel env).handleBackendEof s
  | switchServer targetServer => exact (Shows.stepRel env).switchServer targetServer s
  | sanitizeScreen windowId =>
    refine keeps_reset Shows.steps hflush (fun s => ?_) s
    exact Shows.closing (s := s) windowId rfl rfl
  | stopAudio =>
    refine keeps_reset Shows.steps hflush (fun s => ?_) s
    exact Shows.screenless .own rfl rfl rfl fun h764 => (own_screenless h764).2.2.2.1
  | clearDisplayObjective position =>
    refine keeps_reset Shows.steps hflush (fun s => ?_) s
    exact Shows.screenless .own rfl rfl rfl fun h764 => (own_screenless h764).2.2.2.2.2.2

/-- At a Close Container the machine forgets the window, whichever it was, and
passes the packet on. -/
theorem exec_closes (env : Env) {a : Action} {s : PlayStateMachine} (hv : 764 ≤ s.session.protocolVersion)
    (h : a.ClosesContainer s.session.protocolVersion) :
    ∃ backend, a.exec env s = { s with openContainerId := none, backend := backend } := by
  cases a with
  | clientPacket packet =>
    obtain ⟨hprotected, hclose⟩ := h
    obtain ⟨hcommand, hcomplete⟩ := close_not_intercepted hv hclose
    have hnote : noteClose packet s = { s with openContainerId := none } := by
      rw [noteClose, if_pos hclose]
    rw [Action.exec, handleClientPacket_state, hprotected, if_neg Bool.false_ne_true, hnote]
    generalize hu : ({ s with openContainerId := none } : PlayStateMachine) = u
    have hsession : u.session = s.session := by rw [← hu]
    have hc : interceptCommand env packet u = (.ok none, u) := by
      rw [interceptCommand, Effect.get_bind, hsession]
      simp only [hcommand, Bool.false_eq_true, not_false_eq_true, if_true, Effect.pure_apply]
    have ht : interceptTabComplete env packet u = (.ok none, u) := by
      rw [interceptTabComplete, Effect.get_bind, hsession]
      simp only [hcomplete, Bool.false_eq_true, not_false_eq_true, if_true, Effect.pure_apply]
    have hroute : (routeClientPacket env packet u).2 = (writeBackend packet u).2 := by
      rw [routeClientPacket, Effect.bind_apply, hc]
      simp only
      rw [Effect.bind_apply, ht]
      exact Effect.bind_pure_snd _ _ u
    rw [hroute, ← hu, writeBackend]
    split
    · exact ⟨_, rfl⟩
    · next hb => exact ⟨s.backend, rfl⟩
  | backendPacket _ => cases h
  | backendEof => cases h
  | switchServer _ => cases h
  | sanitizeScreen _ => cases h
  | stopAudio => cases h
  | clearDisplayObjective _ => cases h

/-- A transfer that goes through begins by closing the window the machine remembers. -/
theorem switch_closes {env : Env} {targetServer : String} {s : PlayStateMachine} {windowId : UInt8}
    (h : (switchServer env targetServer s).1 = .ok true) (hopen : s.openContainerId = some windowId)
    (hclient : s.client.Reliable) :
    ∃ more, (switchServer env targetServer s).2.client.log = s.client.log ++
      .sent (CloseContainerPacket.encodeWithVersion ⟨windowId⟩ s.session.protocolVersion)
        s.clientCompressionThreshold .own :: more := by
  have hcases := switchServer_cases env targetServer s
  generalize (switchServer env targetServer s).2 = s' at hcases
  rw [h] at hcases
  cases hcases with
  | unknown r _ hr =>
    rcases hr with hr | ⟨e, hr⟩ <;> cases hr
  | attached wire threshold _ =>
    generalize hu : rearrange none (s.closed ++ s.backend.toList) (cacheAfter env s targetServer) s = u
    have hclose : (closeContainer u).2.client.log = s.client.log ++
        [.sent (CloseContainerPacket.encodeWithVersion ⟨windowId⟩ s.session.protocolVersion)
          s.clientCompressionThreshold .own] := by
      have hopen₁ : u.openContainerId = some windowId := by
        rw [← hu]
        exact hopen
      rw [closeContainer, Effect.get_bind, hopen₁]
      simp only
      rw [Effect.modify_bind, Effect.attempt_apply, writeClient, ← hu]
      simp only [rearrange, hclient.write]
    have hquiet : Quiet (closeContainer u).2 (teardownTransferredState u).2 := by
      have hlast : ∀ s, Quiet s (removeBossBars (clearSlots s).2).2 := fun s =>
        Quiet.steps.trans (Quiet.clearSlots s) (Quiet.removeBossBars _)
      rw [teardown_state]
      exact Quiet.steps.trans (Quiet.silence _) (Quiet.steps.trans (Quiet.removeObjectives _) (hlast _))
    obtain ⟨more, hmore, -⟩ := hquiet.log
    refine ⟨more, ?_⟩
    have hattach : (reattach targetServer wire threshold (teardownTransferredState u).2).client =
        (teardownTransferredState u).2.client := rfl
    rw [hattach, hmore, hclose, List.append_assoc, List.singleton_append]

/-! ## Messages in flight -/

/-- The machine, the client and the packets under way, the oldest first. -/
structure Connection where
  machine : PlayStateMachine
  opened : Option Int32
  toClient : List RawPacket
  toProxy : List RawPacket

/-- The id the client gives its Close Container. -/
def serverboundCloseContainerId (v : Int) : Int32 :=
  if v ≥ 776 then 0x13
  else if v ≥ 768 then 0x11
  else if v ≥ 766 then 0x0F
  else 0x0E

inductive Move where
  /-- A call on the machine, of a backend's packet for example. -/
  | call (env : Env) (a : Action)
  /-- The machine handles the next packet of the client's. -/
  | take (env : Env)
  /-- The client receives the next packet. -/
  | deliver
  /-- The client sends a packet that has nothing to do with its window. -/
  | send (packet : RawPacket)
  /-- The client closes its window and says so. -/
  | close

namespace Connection

def call (c : Connection) (env : Env) (a : Action) : Connection :=
  let machine := a.exec env c.machine
  { c with
    machine := machine
    toClient := c.toClient ++ Event.delivered (c.machine.client.since machine.client) }

def version (c : Connection) : Int := c.machine.session.protocolVersion

def step (c : Connection) : Move → Connection
  | .call env a => c.call env a
  | .take env =>
    match c.toProxy with
    | [] => c
    | packet :: rest => { c with toProxy := rest }.call env (.clientPacket packet)
  | .deliver =>
    match c.toClient with
    | [] => c
    | packet :: rest => { c with opened := look c.version c.opened packet, toClient := rest }
  | .send packet => { c with toProxy := c.toProxy ++ [packet] }
  | .close =>
    match c.opened with
    | none => c
    | some winId =>
      { c with
        opened := none
        toProxy := c.toProxy ++ [⟨serverboundCloseContainerId c.version, [windowByte winId]⟩] }

/-- The client's window once all that is under way to it has arrived. -/
def settled (c : Connection) : Option Int32 := c.toClient.foldl (look c.version) c.opened

/-- Machine and client agree once all has arrived. -/
def Agrees (c : Connection) : Prop := Agree c.settled c.machine.openContainerId

/-- The call a move makes on the machine, if it makes one. -/
def callOf (c : Connection) : Move → Option Action
  | .call _ a => some a
  | .take _ => c.toProxy.head?.map .clientPacket
  | _ => none

/-- A Close Container of the client's finds no window open or about to be. -/
def ClosesNothing (c : Connection) (m : Move) : Prop :=
  ∀ a ∈ c.callOf m, a.ClosesContainer c.version → c.settled = none

def Sound (v : Int) (c : Connection) : Prop := c.version = v ∧ c.machine.client.Reliable

section Step

variable {v : Int} (hv : 764 ≤ v) {c : Connection} (h : Sound v c)

include hv h

theorem Sound.call (env : Env) (a : Action) : Sound v (c.call env a) := by
  have hv' : 764 ≤ c.machine.session.protocolVersion := hv.trans_eq h.1.symm
  by_cases hclose : a.ClosesContainer c.machine.session.protocolVersion
  · obtain ⟨backend, heq⟩ := exec_closes env hv' hclose
    simp only [Sound, Connection.call, version, heq]
    exact h
  · obtain ⟨hversion, hshown⟩ := shows_exec env hclose
    obtain ⟨more, -, hreliable, -⟩ := hshown hv' h.2
    exact ⟨hversion.trans h.1, hreliable⟩

theorem Sound.step (m : Move) : Sound v (c.step m) := by
  cases m with
  | call env a => exact h.call hv env a
  | take env =>
    rw [Connection.step]
    cases hp : c.toProxy with
    | nil => exact h
    | cons packet rest => exact Sound.call hv (c := { c with toProxy := rest }) h env _
  | deliver =>
    rw [Connection.step]
    cases c.toClient with
    | nil => exact h
    | cons packet rest => exact h
  | send packet => exact h
  | close =>
    rw [Connection.step]
    cases c.opened with
    | none => exact h
    | some winId => exact h

/-- A call other than at a Close Container keeps the agreement. At one, the
machine is left without a window and the client with what it had. -/
theorem call_agrees_iff (env : Env) (a : Action) (hagrees : c.Agrees) :
    (c.call env a).Agrees ↔ (a.ClosesContainer c.version → c.settled = none) := by
  have hv' : 764 ≤ c.machine.session.protocolVersion := hv.trans_eq h.1.symm
  by_cases hclose : a.ClosesContainer c.machine.session.protocolVersion
  · obtain ⟨backend, heq⟩ := exec_closes env hv' hclose
    have hsettled : (c.call env a).settled = c.settled := by
      simp only [settled, Connection.call, version, heq, Wire.since_self, Event.delivered_nil, List.append_nil]
    have hforgot : (c.call env a).machine.openContainerId = none := by
      simp only [Connection.call, heq]
    rw [Connection.Agrees, hsettled, hforgot]
    constructor
    · intro hagree _
      by_contra hsome
      obtain ⟨winId, hw⟩ := Option.ne_none_iff_exists'.mp hsome
      cases hagree winId hw
    · intro hnone
      rw [hnone hclose]
      exact agree_none _
  · obtain ⟨hversion, hshown⟩ := shows_exec env hclose
    obtain ⟨more, hlog, -, hagree⟩ := hshown hv' h.2
    refine iff_of_true ?_ fun hc => absurd hc hclose
    have hsettled : (c.call env a).settled =
        (Event.delivered more).foldl (look c.machine.session.protocolVersion) c.settled := by
      simp only [settled, Connection.call, version, hversion, Wire.since_of_append hlog, List.foldl_append]
    rw [Connection.Agrees, hsettled]
    exact hagree _ hagrees

theorem step_agrees_iff (m : Move) (hagrees : c.Agrees) : (c.step m).Agrees ↔ c.ClosesNothing m := by
  cases m with
  | call env a =>
    rw [ClosesNothing, callOf, Connection.step, call_agrees_iff hv h env a hagrees]
    simp
  | take env =>
    rw [ClosesNothing, callOf, Connection.step]
    cases hp : c.toProxy with
    | nil => simpa using hagrees
    | cons packet rest =>
      have hcall := call_agrees_iff hv (c := { c with toProxy := rest }) h env (.clientPacket packet) hagrees
      simp only [List.head?_cons, Option.map_some, Option.mem_some, forall_eq']
      exact hcall
  | deliver =>
    refine iff_of_true ?_ fun a ha => by cases ha
    rw [Connection.step]
    cases hc : c.toClient with
    | nil => exact hagrees
    | cons packet rest =>
      have hsettled : Connection.settled { c with opened := look c.version c.opened packet, toClient := rest } =
          c.settled := by
        simp only [settled, version, hc, List.foldl_cons]
      rw [Connection.Agrees, hsettled]
      exact hagrees
  | send packet => exact iff_of_true hagrees fun a ha => by cases ha
  | close =>
    refine iff_of_true ?_ fun a ha => by cases ha
    rw [Connection.step]
    cases ho : c.opened with
    | none => exact hagrees
    | some winId =>
      intro winId' hw
      exact hagrees winId' (foldl_look_none hw c.opened)

/-- A call in which a transfer is completed leaves the client no window. -/
theorem settled_of_transfer {env : Env} {a : Action} (hagrees : c.Agrees)
    (hgrew : c.machine.attached < (c.call env a).machine.attached) : (c.call env a).settled = none := by
  have hv' : 764 ≤ c.machine.session.protocolVersion := hv.trans_eq h.1.symm
  have hclose : ¬ a.ClosesContainer c.version := by
    intro hclose
    obtain ⟨backend, heq⟩ := exec_closes env hv' hclose
    rw [Connection.call, heq] at hgrew
    exact Nat.lt_irrefl _ hgrew
  have hagrees' := (call_agrees_iff hv h env a hagrees).mpr fun hc => absurd hc hclose
  have hblank := Clears.exec env a c.machine hgrew
  by_contra hsome
  obtain ⟨winId, hw⟩ := Option.ne_none_iff_exists'.mp hsome
  have hremembered := hagrees' winId hw
  rw [Connection.call, hblank.screen] at hremembered
  cases hremembered

theorem settled_of_transfer_step {m : Move} (hagrees : c.Agrees)
    (hgrew : c.machine.attached < (c.step m).machine.attached) : (c.step m).settled = none := by
  cases m with
  | call env a => exact settled_of_transfer hv h hagrees hgrew
  | take env =>
    rw [Connection.step] at hgrew ⊢
    cases hp : c.toProxy with
    | nil =>
      rw [hp] at hgrew
      exact absurd hgrew (Nat.lt_irrefl _)
    | cons packet rest =>
      rw [hp] at hgrew
      exact settled_of_transfer hv (c := { c with toProxy := rest }) h hagrees hgrew
  | deliver =>
    rw [Connection.step] at hgrew
    split at hgrew <;> exact absurd hgrew (Nat.lt_irrefl _)
  | send packet => exact absurd hgrew (Nat.lt_irrefl _)
  | close =>
    rw [Connection.step] at hgrew
    split at hgrew <;> exact absurd hgrew (Nat.lt_irrefl _)

omit hv in
/-- A transfer that goes through sends the Close Container for the window the client has. -/
theorem close_sent {env : Env} {targetServer : String} {winId : Int32} (hagrees : c.Agrees)
    (hopen : c.settled = some winId) (hswitch : (switchServer env targetServer c.machine).1 = .ok true) :
    CloseContainerPacket.encodeWithVersion ⟨windowByte winId⟩ v ∈ (c.call env (.switchServer targetServer)).toClient := by
  obtain ⟨more, hlog⟩ := switch_closes hswitch (hagrees winId hopen) h.2
  rw [Connection.call]
  refine List.mem_append_right _ ?_
  rw [Action.exec, Wire.since_of_append hlog, ← h.1]
  exact List.mem_cons_self

end Step

end Connection

/-- From protocol 764 on: machine and client agree about the client's window all
through a run if and only if each Close Container of the client's comes in while
no window is open or about to be. In such a run a transfer leaves no window of
the old server open, and sends the Close Container for the one there was. -/
theorem open_screen_agrees_iff (hashers : Hashers) (client backend : Wire) (session : PlayerSession)
    (config : ProxyConfig) (compressionThreshold : Option Nat) (hv : 764 ≤ session.protocolVersion)
    (hclient : client.Reliable) (moves : List Move) :
    let start : Connection := ⟨.new hashers client backend session config compressionThreshold, none, [], []⟩
    let c := runAll Connection.step start moves
    ((∀ n, (runAll Connection.step start (moves.take n)).Agrees) ↔
        Along Connection.step Connection.ClosesNothing start moves) ∧
      (Along Connection.step Connection.ClosesNothing start moves →
        (∀ m, c.machine.attached < (c.step m).machine.attached → (c.step m).settled = none) ∧
        ∀ env targetServer winId, c.settled = some winId → (switchServer env targetServer c.machine).1 = .ok true →
          CloseContainerPacket.encodeWithVersion ⟨windowByte winId⟩ session.protocolVersion ∈
            (c.step (.call env (.switchServer targetServer))).toClient) := by
  intro start c
  have hsound : Connection.Sound session.protocolVersion start := ⟨rfl, hclient⟩
  have hagrees : start.Agrees := agree_none _
  have hiff := always_iff_along (P := Connection.Agrees) (fun c m h => Connection.Sound.step hv h m)
    (fun c m h ha => Connection.step_agrees_iff hv h m ha) hsound hagrees moves
  refine ⟨hiff, fun halong => ?_⟩
  have hstep : ∀ c m, Connection.Sound session.protocolVersion c → True →
      Connection.Sound session.protocolVersion (c.step m) := fun c m h _ => h.step hv m
  have hsound' : Connection.Sound session.protocolVersion c :=
    runAll_invariant hstep hsound (along_true _ moves)
  have hagrees' : c.Agrees := by
    have hall := hiff.mpr halong moves.length
    rwa [List.take_length] at hall
  exact ⟨fun m hgrew => Connection.settled_of_transfer_step hv hsound' hagrees' hgrew,
    fun env targetServer winId hopen hswitch => Connection.close_sent hsound' hagrees' hopen hswitch⟩

/-- A window is opened, closed by the client, and another one opened once that is known. -/
def oneAfterTheOther : List Move :=
  [.call (smallEnv []) (.backendPacket ⟨0x33, [1, 2, 8, 0]⟩), .deliver, .close, .take (smallEnv []),
    .call (smallEnv []) (.backendPacket ⟨0x33, [2, 2, 8, 0]⟩)]

theorem open_screen_agrees_oneAfterTheOther :
    let start : Connection := ⟨smallSession 767, none, [], []⟩
    let c := runAll Connection.step start oneAfterTheOther
    ((∀ n, (runAll Connection.step start (oneAfterTheOther.take n)).Agrees) ↔
        Along Connection.step Connection.ClosesNothing start oneAfterTheOther) ∧
      (Along Connection.step Connection.ClosesNothing start oneAfterTheOther →
        (∀ m, c.machine.attached < (c.step m).machine.attached → (c.step m).settled = none) ∧
        ∀ env targetServer winId, c.settled = some winId → (switchServer env targetServer c.machine).1 = .ok true →
          CloseContainerPacket.encodeWithVersion ⟨windowByte winId⟩ 767 ∈
            (c.step (.call env (.switchServer targetServer))).toClient) :=
  open_screen_agrees_iff _ quietWire _ _ _ _ (by decide) (fun _ => rfl) oneAfterTheOther

/-- The client closes window 1 while window 2 is on its way. -/
def crossing : List Move :=
  [.call (smallEnv []) (.backendPacket ⟨0x33, [1, 2, 8, 0]⟩), .deliver, .close,
    .call (smallEnv []) (.backendPacket ⟨0x33, [2, 2, 8, 0]⟩), .take (smallEnv []), .deliver]

/-- The machine then remembers none, and a transfer leaves window 2 open. -/
theorem open_screen_crossed :
    let c := runAll Connection.step ⟨smallSession 767, none, [], []⟩ crossing
    let env := smallEnv [.packet ⟨0x03, []⟩]
    c.toClient = [] ∧ c.opened = some 2 ∧ c.machine.openContainerId = none ∧
      (switchServer env "lobby" c.machine).1 = .ok true ∧
      (c.step (.call env (.switchServer "lobby"))).settled = some 2 := by
  decide +kernel

end FrameMC

import FrameMC.Routing.LoginDiscipline
import FrameMC.Routing.ReferenceClient

/-!
# No residue of the old server

While the writes to the client go out, the machine's picture of the client is
the reference client after every call (`reference_client_agrees`): `Mirrors` is
what a step does to both. After a completed transfer the picture is blank
(`Clears`), and so the client has nothing left of any earlier server.
-/

namespace FrameMC

open ByteStream Effect ReferenceClient

/-! ## Picture and client -/

/-- Names a client reads back: their lengths are an `i32`. -/
def ShortNames (s : PlayStateMachine) : Prop :=
  ∀ name ∈ s.activeScoreboardObjectives, (asBytes name).length < 2 ^ 31

/-- The step sends the client what changes it as the picture changes. -/
structure Mirrors (s s' : PlayStateMachine) : Prop where
  version : s'.session.protocolVersion = s.session.protocolVersion
  mirrored : 764 ≤ s.session.protocolVersion → s.client.Reliable → ShortNames s → ∃ more,
    s'.client.log = s.client.log ++ more ∧ s'.client.Reliable ∧ ShortNames s' ∧
      tracked s' = after s.session.protocolVersion more (tracked s)

namespace Mirrors

theorem steps : Effect.Steps Mirrors where
  refl s := ⟨rfl, fun _ hc hn => ⟨[], (List.append_nil _).symm, hc, hn, rfl⟩⟩
  trans := by
    rintro s s' s'' ⟨hv, h⟩ ⟨hv', h'⟩
    refine ⟨hv'.trans hv, fun h764 hc hn => ?_⟩
    obtain ⟨more, hlog, hc', hn', ht⟩ := h h764 hc hn
    obtain ⟨more', hlog', hc'', hn'', ht'⟩ := h' (hv ▸ h764) hc' hn'
    refine ⟨more ++ more', ?_, hc'', hn'', ?_⟩
    · rw [hlog', hlog, List.append_assoc]
    · rw [ht', ht, hv, after_append]

/-- A step the client does not see and the picture has no part in. -/
theorem of_eq {s s' : PlayStateMachine} (hv : s'.session.protocolVersion = s.session.protocolVersion)
    (hlog : s'.client.log = s.client.log) (hfate : s'.client.fate = s.client.fate)
    (hbars : s'.activeBossBars = s.activeBossBars)
    (hobjectives : s'.activeScoreboardObjectives = s.activeScoreboardObjectives)
    (hslots : s'.activeDisplaySlots = s.activeDisplaySlots) (haudio : s'.hasActiveAudio = s.hasActiveAudio) :
    Mirrors s s' := by
  refine ⟨hv, fun _ hc hn => ⟨[], by rw [hlog, List.append_nil], ?_, ?_, ?_⟩⟩
  · rwa [Wire.Reliable, hfate]
  · rwa [ShortNames, hobjectives]
  · rw [after_nil, tracked, hbars, hobjectives, hslots, haudio]
    rfl

/-- A write after a change to the picture: the packet has to tell the client of the change. -/
theorem write {s u : PlayStateMachine} {p : RawPacket} (origin : Origin)
    (hv : u.session.protocolVersion = s.session.protocolVersion) (hclient : u.client = s.client)
    (hnames : ShortNames s → ShortNames u)
    (ht : 764 ≤ s.session.protocolVersion → tracked u = receive s.session.protocolVersion (tracked s) p) :
    Mirrors s (writeClient p origin u).2 := by
  refine ⟨hv, fun h764 hc hn => ⟨[.sent p u.clientCompressionThreshold origin], ?_, ?_, hnames hn, ht h764⟩⟩
  · rw [writeClient, hclient, hc.write]
  · rw [writeClient, hclient]
    exact fun n => by rw [Wire.write_fate]; exact hc n

/-- A write of a packet that passes the client by. -/
theorem inert {s : PlayStateMachine} {p : RawPacket} (origin : Origin)
    (hid : 764 ≤ s.session.protocolVersion → Inert s.session.protocolVersion p.id) :
    Mirrors s (writeClient p origin s).2 :=
  write origin rfl rfl id fun h764 => ((hid h764).receive _).symm

theorem writeEach_reliable {α : Type} {set : HashSet α} {encode : α → RawPacket} {s : PlayStateMachine}
    (h : s.client.Reliable) :
    ∃ client, (writeEach set encode s).2 = { s with client := client } ∧ client.Reliable ∧
      client.log = s.client.log ++ set.iter.map fun x => .sent (encode x) s.clientCompressionThreshold .own := by
  unfold writeEach
  generalize set.iter = xs
  induction xs generalizing s with
  | nil => exact ⟨s.client, rfl, h, (List.append_nil _).symm⟩
  | cons x xs ih =>
    have hstep : (attempt (writeClient (encode x) .own) s).2 = { s with client :=
        { s.client with
          log := s.client.log ++ [.sent (encode x) s.clientCompressionThreshold .own]
          writes := s.client.writes + 1 } } := by
      rw [attempt_apply, writeClient, h.write]
    obtain ⟨client, heq, hreliable, hlog⟩ := ih (s := (attempt (writeClient (encode x) .own) s).2) (by
      rw [hstep]
      exact h)
    refine ⟨client, ?_, hreliable, ?_⟩
    · rw [forEach, attempt_bind]
      rw [attempt_apply] at heq hstep
      rw [heq, hstep]
    · rw [hlog, hstep, List.map_cons, List.append_assoc]
      rfl

/-- Draining a set: `put` is the client with a given set in its place. -/
theorem drain {α : Type} [DecidableEq α] {set : HashSet α} {encode : α → RawPacket} {s u : PlayStateMachine}
    (put : Finset α → ReferenceClient) (hv : u.session.protocolVersion = s.session.protocolVersion)
    (hclient : u.client = s.client) (hnames : ShortNames s → ShortNames u) (ht : tracked s = put set.toFinset)
    (ht₁ : tracked u = put ∅)
    (hremove : 764 ≤ s.session.protocolVersion → ShortNames s → ∀ x ∈ set, ∀ t,
      receive s.session.protocolVersion (put t) (encode x) = put (t.erase x)) :
    Mirrors s (writeEach set encode u).2 := by
  have hfold : 764 ≤ s.session.protocolVersion → ShortNames s → ∀ (xs : List α) (t : Finset α), (∀ x ∈ xs, x ∈ set) →
      after s.session.protocolVersion
        (xs.map fun x => .sent (encode x) u.clientCompressionThreshold .own) (put t) = put (xs.foldl Finset.erase t) := by
    intro h764 hn xs
    induction xs with
    | nil => exact fun t _ => rfl
    | cons x xs ih =>
      intro t hmem
      rw [List.map_cons, ← List.singleton_append, after_append, after_sent,
        hremove h764 hn x (hmem x List.mem_cons_self) t, ih _ fun y hy => hmem y (List.mem_cons_of_mem x hy)]
      rfl
  by_cases hc : s.client.Reliable
  · obtain ⟨client, heq, hreliable, hlog⟩ := @writeEach_reliable _ set encode u (hclient ▸ hc)
    rw [heq]
    refine ⟨hv, fun h764 _ hn => ⟨_, by rw [hlog, hclient], hreliable, hnames hn, ?_⟩⟩
    rw [ht, hfold h764 hn _ _ fun x hx => HashSet.mem_iter.mp hx, HashSet.foldl_erase_iter]
    exact ht₁
  · refine ⟨?_, fun _ h => absurd h hc⟩
    rw [writeEach_frame]
    exact hv

/-! Each thing a teardown does -/

theorem closeContainer : Keeps Mirrors closeContainer := by
  refine keeps_get_bind fun s => ?_
  cases s.openContainerId with
  | some windowId =>
    exact write (u := { s with openContainerId := none }) .own rfl rfl (fun h => h)
      fun h764 => ((own_inert h764).2.2.1.receive _).symm
  | none => exact steps.refl s

theorem silence : Keeps Mirrors silence := by
  refine keeps_get_bind fun s => ?_
  split
  · exact write (u := { s with hasActiveAudio := false }) .own rfl rfl (fun h => h)
      fun h764 => (receive_all h764 (tracked s)).symm
  · exact steps.refl s

theorem removeObjectives : Keeps Mirrors removeObjectives := by
  refine keeps_get_bind fun s => ?_
  refine drain (u := { s with activeScoreboardObjectives := s.activeScoreboardObjectives.clear })
    (fun names => { tracked s with objectives := names }) rfl rfl ?_ rfl rfl ?_
  · exact fun _ name hname => absurd hname HashSet.not_mem_clear
  · exact fun h764 hnames name hname names => receive_removeObjective h764 _ (hnames name hname)

theorem clearSlots : Keeps Mirrors clearSlots := by
  refine keeps_get_bind fun s => ?_
  refine drain (u := { s with activeDisplaySlots := s.activeDisplaySlots.clear })
    (fun slots => { tracked s with slots := slots }) rfl rfl (fun h => h) rfl rfl ?_
  exact fun h764 _ slot _ slots => receive_clearSlot h764 _ slot

theorem removeBossBars : Keeps Mirrors removeBossBars := by
  refine keeps_get_bind fun s => ?_
  refine drain (u := { s with activeBossBars := s.activeBossBars.clear })
    (fun bars => { tracked s with bossBars := bars }) rfl rfl (fun h => h) rfl rfl ?_
  exact fun h764 _ uuid _ bars => receive_removeBossBar h764 _ uuid

/-! The machine's operations -/

theorem chat (env : Env) (message : String) : Keeps Mirrors (writeChat env message) := fun _ =>
  inert .own fun h764 => (own_inert h764).1

theorem writeBackend (packet : RawPacket) : Keeps Mirrors (writeBackend packet) := by
  intro s
  unfold FrameMC.writeBackend
  split
  · exact of_eq rfl rfl rfl rfl rfl rfl rfl
  · exact steps.refl s

theorem transferred (s : PlayStateMachine) (targetServer : String) (wire : Wire) (threshold : Option Nat)
    (cache : SessionRegistryCache) : Mirrors s (FrameMC.transferred targetServer wire threshold cache s) := by
  have hteardown := keeps_teardown steps closeContainer silence removeObjectives clearSlots removeBossBars
  have hdetach : Mirrors s (rearrange none (s.closed ++ s.backend.toList) cache s) := of_eq rfl rfl rfl rfl rfl rfl rfl
  have hattach : ∀ s, Mirrors s (reattach targetServer wire threshold s) := fun _ => of_eq rfl rfl rfl rfl rfl rfl rfl
  exact steps.trans (steps.trans hdetach (hteardown _)) (hattach _)

theorem stepRel (env : Env) : StepRel env Mirrors where
  toSteps := steps
  chat := chat env
  complete _ _ := inert .own fun h764 => (own_inert h764).2.1
  toBackend := writeBackend
  giveUp _ _ _ _ := of_eq rfl rfl rfl rfl rfl rfl rfl
  transfer s targetServer wire threshold cache _ := transferred s targetServer wire threshold cache

/-! Calls -/

theorem noteClose (packet : RawPacket) (s : PlayStateMachine) : Mirrors s (noteClose packet s) := by
  unfold FrameMC.noteClose
  split
  · exact of_eq rfl rfl rfl rfl rfl rfl rfl
  · exact steps.refl s

theorem flushClient : Keeps Mirrors flushClient := fun s =>
  of_eq rfl (Wire.flush_log s.client) (Wire.flush_fate s.client) rfl rfl rfl rfl

/-- A name that is tracked came with its length. -/
theorem shortNames_track {packet : RawPacket} {s : PlayStateMachine} (h : ShortNames s) :
    ShortNames (FrameMC.track packet s) := by
  have hobjectives : ∀ s, ShortNames s → ShortNames (trackObjectives packet s) := by
    intro s h
    unfold trackObjectives
    split
    · cases hdecode : ScoreboardObjectivePacket.decode packet s.session.protocolVersion with
      | ok obj =>
        simp only
        split_ifs
        · intro name hname
          rcases HashSet.mem_insert.mp hname with rfl | hname
          · exact ScoreboardObjectivePacket.decode_name_length hdecode
          · exact h name hname
        · exact fun name hname => h name (HashSet.mem_remove.mp hname).1
        · exact h
      | err e => exact h
      | panic => exact h
    · exact h
  generalize hbefore : trackBossBars packet (trackAudio packet (trackContainer packet s)) = u
  have hset : u.activeScoreboardObjectives = s.activeScoreboardObjectives := by
    rw [← hbefore, trackBossBars_frame, trackAudio_frame, trackContainer_frame]
  have hlast : (FrameMC.track packet s).activeScoreboardObjectives =
      (trackObjectives packet u).activeScoreboardObjectives := by
    rw [FrameMC.track, hbefore, trackSlots_frame]
  have h₁ : ShortNames u := by rwa [ShortNames, hset]
  rw [ShortNames, hlast]
  exact hobjectives u h₁

/-- A packet kept back: tracked, and not to be noticed by a client. -/
theorem track {packet : RawPacket} {s : PlayStateMachine}
    (hid : 764 ≤ s.session.protocolVersion → Inert s.session.protocolVersion packet.id) :
    Mirrors s (track packet s) := by
  refine ⟨by simp, fun h764 hc hn => ⟨[], by simp, by rwa [track_client], shortNames_track hn, ?_⟩⟩
  rw [tracked_track, (hid h764).receive, after_nil]

/-- A packet passed on: the client receives what was tracked. -/
theorem trackWrite {packet p : RawPacket} {s u : PlayStateMachine} (origin : Origin)
    (hu : u.session = s.session ∧ u.client = s.client ∧ tracked u = tracked (FrameMC.track packet s) ∧
      u.activeScoreboardObjectives = (FrameMC.track packet s).activeScoreboardObjectives)
    (hp : p = packet ∨ (764 ≤ s.session.protocolVersion →
      Inert s.session.protocolVersion packet.id ∧ Inert s.session.protocolVersion p.id)) :
    Mirrors s (writeClient p origin u).2 := by
  obtain ⟨hsession, hclient, ht, hnames⟩ := hu
  refine write origin (by rw [hsession]) hclient (fun hn => ?_) fun h764 => ?_
  · rw [ShortNames, hnames]
    exact shortNames_track hn
  · rw [ht, tracked_track]
    rcases hp with rfl | hinert
    · rfl
    · rw [(hinert h764).1.receive, (hinert h764).2.receive]

theorem backendPacket (env : Env) (packet : RawPacket) (s : PlayStateMachine) :
    Mirrors s (handleBackendPacket env packet s).2 := by
  have hrecover : Keeps Mirrors (afterDisconnect env) := (stepRel env).recover _ _ (keeps_throw steps _)
  -- that a transfer is over has no part in the picture
  have hpicture (u : PlayStateMachine) : tracked { u with serverTransferred := false } = tracked u ∧
      { u with serverTransferred := false }.activeScoreboardObjectives = u.activeScoreboardObjectives := ⟨rfl, rfl⟩
  rw [handleBackendPacket_state]
  split
  · exact steps.refl s
  · split
    · next hdisconnect =>
      exact steps.trans (track fun h764 => special_inert h764 (Or.inl hdisconnect)) (hrecover _)
    · split
      · next hlogin =>
        rw [track_session] at hlogin
        rw [deliverLogin_state]
        split
        · refine trackWrite .respawn ⟨track_session packet s, track_client packet s, hpicture _⟩
            (Or.inr fun h764 => ⟨special_inert h764 (Or.inr (Or.inl hlogin)), ?_⟩)
          rw [respawnFor_id, track_session]
          exact (own_inert h764).2.2.2
        · exact trackWrite .relayed ⟨track_session packet s, track_client packet s, rfl, rfl⟩ (Or.inl rfl)
      · rw [deliver_state]
        refine trackWrite .relayed ⟨track_session packet s, track_client packet s, rfl, rfl⟩ ?_
        by_cases hdeclare : isDeclareCommandsPacket packet.id s.session.protocolVersion
        · refine Or.inr fun h764 => ?_
          rw [delivery_id]
          exact ⟨special_inert h764 (Or.inr (Or.inr hdeclare)), special_inert h764 (Or.inr (Or.inr hdeclare))⟩
        · refine Or.inl ?_
          rw [delivery, track_session, if_neg hdeclare]

theorem exec (env : Env) (a : Action) (s : PlayStateMachine) : Mirrors s (a.exec env s) := by
  cases a with
  | clientPacket packet =>
    rw [Action.exec, handleClientPacket_state]
    split
    · exact steps.refl s
    · exact steps.trans (noteClose packet s) ((stepRel env).routeClientPacket packet _)
  | backendPacket packet => exact backendPacket env packet s
  | backendEof => exact (stepRel env).handleBackendEof s
  | switchServer targetServer => exact (stepRel env).switchServer targetServer s
  | sanitizeScreen windowId =>
    refine keeps_reset steps flushClient (fun s => ?_) s
    exact write .own rfl rfl (fun h => h) fun h764 => ((own_inert h764).2.2.1.receive _).symm
  | stopAudio =>
    refine keeps_reset steps flushClient (fun s => ?_) s
    exact write .own rfl rfl (fun h => h) fun h764 => (receive_all h764 (tracked s)).symm
  | clearDisplayObjective position =>
    refine keeps_reset steps flushClient (fun s => ?_) s
    refine write .own rfl rfl (fun h => h) fun h764 => ?_
    rw [receive_clearSlot h764]
    simp only [tracked, HashSet.toFinset_remove]

end Mirrors

/-- The protocol version is the session's for good. -/
theorem Reachable.version {v : Int} {s : PlayStateMachine} (h : Reachable v s) :
    s.session.protocolVersion = v := by
  obtain ⟨hashers, client, backend, session, config, threshold, calls, hv, rfl⟩ := h
  have hstep : ∀ (s : PlayStateMachine) (call : Env × Action), s.session.protocolVersion = v → True →
      (Action.step s call).session.protocolVersion = v := by
    intro s call hs _
    rw [Action.step, (Mirrors.exec call.1 call.2 s).version, hs]
  exact runAll_invariant (I := fun s : PlayStateMachine => s.session.protocolVersion = v) hstep hv (along_true _ calls)

/-! ## After a transfer -/

/-- Nothing of a server's is left in the machine's picture. -/
structure Blank (s : PlayStateMachine) : Prop where
  picture : tracked s = .empty
  screen : s.openContainerId = none

/-- Once the picture is blank, or a transfer is through, it is blank from then on. -/
structure Clears (s s' : PlayStateMachine) : Prop where
  attached : s.attached ≤ s'.attached
  blank : Blank s ∨ s.attached < s'.attached → Blank s'

namespace Clears

theorem steps : Effect.Steps Clears where
  refl s := ⟨Nat.le_refl _, fun h => h.resolve_right (Nat.lt_irrefl _)⟩
  trans := by
    rintro s s' s'' ⟨ha, hb⟩ ⟨ha', hb'⟩
    refine ⟨Nat.le_trans ha ha', fun h => hb' ?_⟩
    rcases h with h | h
    · exact Or.inl (hb (Or.inl h))
    · by_cases hlt : s.attached < s'.attached
      · exact Or.inl (hb (Or.inr hlt))
      · exact Or.inr (by omega)

theorem of_eq {s s' : PlayStateMachine} (ha : s'.attached = s.attached) (ht : tracked s' = tracked s)
    (ho : s'.openContainerId = s.openContainerId) : Clears s s' := by
  refine ⟨Nat.le_of_eq ha.symm, fun h => ?_⟩
  have hblank := h.resolve_right (by omega)
  exact ⟨ht.trans hblank.picture, ho.trans hblank.screen⟩

/-- The teardown forgets everything, whatever becomes of its writes. -/
theorem blank_teardown (s : PlayStateMachine) : Blank (teardownTransferredState s).2 := by
  have hcontainer : ∀ s, (closeContainer s).2.openContainerId = none := by
    intro s
    rw [closeContainer, Effect.get_bind]
    cases h : s.openContainerId with
    | some windowId => rfl
    | none => exact h
  have haudio : ∀ s, tracked (silence s).2 = { tracked s with sounding := false } ∧
      (silence s).2.openContainerId = s.openContainerId := by
    intro s
    rw [silence, Effect.get_bind]
    split
    · exact ⟨rfl, rfl⟩
    · next h => exact ⟨ReferenceClient.ext rfl rfl rfl (Bool.eq_false_iff.mpr h), rfl⟩
  have hobjectives : ∀ s, tracked (removeObjectives s).2 = { tracked s with objectives := ∅ } ∧
      (removeObjectives s).2.openContainerId = s.openContainerId := by
    intro s
    rw [removeObjectives, Effect.get_bind, Effect.modify_bind, writeEach_frame]
    exact ⟨rfl, rfl⟩
  have hslots : ∀ s, tracked (clearSlots s).2 = { tracked s with slots := ∅ } ∧
      (clearSlots s).2.openContainerId = s.openContainerId := by
    intro s
    rw [clearSlots, Effect.get_bind, Effect.modify_bind, writeEach_frame]
    exact ⟨rfl, rfl⟩
  have hbars : ∀ s, tracked (removeBossBars s).2 = { tracked s with bossBars := ∅ } ∧
      (removeBossBars s).2.openContainerId = s.openContainerId := by
    intro s
    rw [removeBossBars, Effect.get_bind, Effect.modify_bind, writeEach_frame]
    exact ⟨rfl, rfl⟩
  rw [teardown_state]
  constructor
  · rw [(hbars _).1, (hslots _).1, (hobjectives _).1, (haudio _).1]
    rfl
  · rw [(hbars _).2, (hslots _).2, (hobjectives _).2, (haudio _).2, hcontainer]

theorem stepRel (env : Env) : StepRel env Clears where
  toSteps := steps
  chat _ _ := of_eq rfl rfl rfl
  complete _ _ := of_eq rfl rfl rfl
  toBackend packet s := by
    unfold writeBackend
    split
    · exact of_eq rfl rfl rfl
    · exact steps.refl s
  giveUp _ _ _ _ := of_eq rfl rfl rfl
  transfer s targetServer wire threshold cache _ := by
    obtain ⟨ht, ho⟩ := blank_teardown (rearrange none (s.closed ++ s.backend.toList) cache s)
    exact ⟨Nat.le_of_lt (Quiet.attached_transferred s targetServer wire threshold cache), fun _ => ⟨ht, ho⟩⟩

/-- A call in which a transfer is completed leaves the picture blank. -/
theorem exec (env : Env) (a : Action) (s : PlayStateMachine) (h : s.attached < (a.exec env s).attached) :
    Blank (a.exec env s) := by
  have hcalls := stepRel env
  have hwrite : ∀ p origin s, (writeClient p origin s).2.attached = s.attached := fun _ _ _ => rfl
  have hreset : ∀ m : Play Unit, Keeps (fun s s' => s'.attached = s.attached) m → ¬ s.attached < (m s).2.attached :=
    fun m hm hlt => Nat.lt_irrefl _ (hm s ▸ hlt)
  have hsteps : Effect.Steps fun s s' : PlayStateMachine => s'.attached = s.attached :=
    ⟨fun _ => rfl, fun h h' => h'.trans h⟩
  cases a with
  | clientPacket packet =>
    rw [Action.exec, handleClientPacket_state] at h ⊢
    split at h
    · exact absurd h (Nat.lt_irrefl _)
    · next hprotected =>
      have hnote : (noteClose packet s).attached = s.attached := by
        unfold noteClose
        split <;> rfl
      rw [if_neg hprotected]
      exact (hcalls.routeClientPacket packet _).blank (Or.inr (hnote ▸ h))
  | backendPacket packet =>
    rw [Action.exec, handleBackendPacket_state] at h ⊢
    split at h
    · exact absurd h (Nat.lt_irrefl _)
    · next hprotected =>
      rw [if_neg hprotected]
      split at h
      · next hdisconnect =>
        rw [if_pos hdisconnect]
        have hrecover : Keeps Clears (afterDisconnect env) := hcalls.recover _ _ (keeps_throw steps _)
        refine (hrecover _).blank (Or.inr ?_)
        rw [track_attached]
        exact h
      · rw [← track_attached packet s] at h
        split at h
        · rw [deliverLogin_state] at h
          split at h
          · rw [hwrite] at h
            exact absurd h (Nat.lt_irrefl _)
          · rw [hwrite] at h
            exact absurd h (Nat.lt_irrefl _)
        · rw [deliver_state, hwrite] at h
          exact absurd h (Nat.lt_irrefl _)
  | backendEof => exact (hcalls.handleBackendEof s).blank (Or.inr h)
  | switchServer targetServer => exact (hcalls.switchServer targetServer s).blank (Or.inr h)
  | sanitizeScreen windowId => exact absurd h (hreset _ (keeps_reset hsteps (fun _ => rfl) fun _ => rfl))
  | stopAudio => exact absurd h (hreset _ (keeps_reset hsteps (fun _ => rfl) fun _ => rfl))
  | clearDisplayObjective position => exact absurd h (hreset _ (keeps_reset hsteps (fun _ => rfl) fun _ => rfl))

end Clears

/-! ## Runs -/

/-- The reference client on a connection that started as `start`. -/
def clientSince (v : Int) (start : Wire) (s : PlayStateMachine) : ReferenceClient :=
  after v (start.since s.client) .empty

/-- Picture and client agree, and so they will. -/
structure Agrees (v : Int) (start : Wire) (s : PlayStateMachine) : Prop where
  version : s.session.protocolVersion = v
  reliable : s.client.Reliable
  names : ShortNames s
  log : s.client.log = start.log ++ start.since s.client
  agrees : tracked s = clientSince v start s

theorem Agrees.exec {v : Int} (hv : 764 ≤ v) {start : Wire} {s : PlayStateMachine} (h : Agrees v start s) (env : Env)
    (a : Action) : Agrees v start (a.exec env s) := by
  obtain ⟨hversion, hmirrored⟩ := Mirrors.exec env a s
  obtain ⟨more, hlog, hreliable, hnames, ht⟩ := hmirrored (h.version ▸ hv) h.reliable h.names
  obtain ⟨hsince, hstart⟩ := Wire.since_append h.log hlog
  refine ⟨hversion.trans h.version, hreliable, hnames, hstart, ?_⟩
  rw [ht, h.agrees, h.version, clientSince, clientSince, hsince, after_append]

theorem agrees_new (hashers : Hashers) {client : Wire} (hclient : client.Reliable) (backend : Wire)
    (session : PlayerSession) (config : ProxyConfig) (compressionThreshold : Option Nat) :
    Agrees session.protocolVersion client (.new hashers client backend session config compressionThreshold) := by
  have hsince : client.since client = [] := Wire.since_self client
  refine ⟨rfl, hclient, fun name hname => absurd hname HashSet.not_mem_new, ?_, ?_⟩
  · rw [PlayStateMachine.new, hsince, List.append_nil]
  · rw [clientSince, PlayStateMachine.new, hsince]
    rfl

/-- A transfer that says it is through is. -/
theorem attached_of_switch {env : Env} {targetServer : String} {s : PlayStateMachine}
    (h : (switchServer env targetServer s).1 = .ok true) :
    s.attached < (switchServer env targetServer s).2.attached := by
  have hcases := switchServer_cases env targetServer s
  generalize (switchServer env targetServer s).2 = s' at hcases
  rw [h] at hcases
  cases hcases with
  | unknown r _ hr =>
    rcases hr with hr | ⟨e, hr⟩ <;> cases hr
  | attached wire threshold _ => exact Quiet.attached_transferred s targetServer wire threshold _

/-- From protocol 764 on and while its writes go out, the client has after every
run what the machine takes it to have; and after a call in which a transfer was
completed, such as a `switch_server` that returns `Ok(true)`, it has nothing. -/
theorem reference_client_agrees (hashers : Hashers) (client backend : Wire) (session : PlayerSession)
    (config : ProxyConfig) (compressionThreshold : Option Nat) (hv : 764 ≤ session.protocolVersion)
    (hclient : client.Reliable) (calls : List (Env × Action)) :
    let s := runAll Action.step (.new hashers client backend session config compressionThreshold) calls
    tracked s = clientSince session.protocolVersion client s ∧
      (∀ (env : Env) (a : Action), s.attached < (a.exec env s).attached →
        clientSince session.protocolVersion client (a.exec env s) = .empty) ∧
      ∀ env targetServer, (switchServer env targetServer s).1 = .ok true →
        clientSince session.protocolVersion client (switchServer env targetServer s).2 = .empty := by
  intro s
  have hagrees : Agrees session.protocolVersion client s :=
    runAll_invariant (fun s call h _ => h.exec hv call.1 call.2)
      (agrees_new hashers hclient backend session config compressionThreshold) (along_true _ calls)
  have hcleared : ∀ (env : Env) (a : Action), s.attached < (a.exec env s).attached →
      clientSince session.protocolVersion client (a.exec env s) = .empty := by
    intro env a h
    rw [← (hagrees.exec hv env a).agrees]
    exact (Clears.exec env a s h).picture
  refine ⟨hagrees.agrees, hcleared, fun env targetServer h => ?_⟩
  exact hcleared env (.switchServer targetServer) (attached_of_switch h)

/-- A boss bar, an objective on a slot and a sound, and then a transfer. -/
def busyServer : List (Env × Action) :=
  [(smallEnv [], .backendPacket ⟨0x0A, List.replicate 16 7 ++ [0]⟩),
    (smallEnv [], .backendPacket ⟨0x5E, putString "kills" ++ [0]⟩),
    (smallEnv [], .backendPacket ⟨0x57, [1] ++ putString "kills"⟩),
    (smallEnv [], .backendPacket ⟨0x68, []⟩)]

theorem reference_client_agrees_busy :
    let s := runAll Action.step (smallSession 767) busyServer
    tracked s = clientSince 767 quietWire s ∧
      (∀ (env : Env) (a : Action), s.attached < (a.exec env s).attached → clientSince 767 quietWire (a.exec env s) = .empty) ∧
      ∀ env targetServer, (switchServer env targetServer s).1 = .ok true →
        clientSince 767 quietWire (switchServer env targetServer s).2 = .empty :=
  reference_client_agrees _ quietWire _ _ _ _ (by decide) (fun _ => rfl) busyServer

end FrameMC

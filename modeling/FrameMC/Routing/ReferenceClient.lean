import FrameMC.Routing.Steps

/-!
# The reference client

What a client has on its screen and in its ears, read off the packets it is
sent with the proxy's own decoders. From protocol 764 on the machine's picture
of the client is this client, whatever calls are made (`tracked_agrees`), and a
completed transfer leaves it with nothing.
-/

namespace FrameMC

open ByteStream Effect

@[ext] structure ReferenceClient where
  bossBars : Finset Uuid
  objectives : Finset String
  slots : Finset Int32
  /-- A sound was played since everything was last silenced. -/
  sounding : Bool

namespace ReferenceClient

def empty : ReferenceClient := ⟨∅, ∅, ∅, false⟩

variable (v : Int)

def hear (c : ReferenceClient) (p : RawPacket) : ReferenceClient :=
  if isSoundPacket p.id v then { c with sounding := true }
  else match StopSoundPacket.decode p v with
    | .ok stop => if stop.flags = 0 then { c with sounding := false } else c
    | _ => c

def seeBossBar (c : ReferenceClient) (p : RawPacket) : ReferenceClient :=
  match BossBarPacket.decode p v with
  | .ok bb =>
    if bb.action = BossBarPacket.actionAdd then { c with bossBars := insert bb.uuid c.bossBars }
    else if bb.action = BossBarPacket.actionRemove then { c with bossBars := c.bossBars.erase bb.uuid }
    else c
  | _ => c

def seeObjective (c : ReferenceClient) (p : RawPacket) : ReferenceClient :=
  match ScoreboardObjectivePacket.decode p v with
  | .ok obj =>
    if obj.action = ScoreboardObjectivePacket.actionCreate then { c with objectives := insert obj.name c.objectives }
    else if obj.action = ScoreboardObjectivePacket.actionRemove then
      { c with objectives := c.objectives.erase obj.name }
    else c
  | _ => c

def seeSlot (c : ReferenceClient) (p : RawPacket) : ReferenceClient :=
  match DisplayObjectivePacket.decode p v with
  | .ok disp =>
    if disp.name = "" then { c with slots := c.slots.erase disp.position }
    else { c with slots := insert disp.position c.slots }
  | _ => c

/-- The client after a packet. -/
def receive (c : ReferenceClient) (p : RawPacket) : ReferenceClient :=
  seeSlot v (seeObjective v (seeBossBar v (hear v c p) p) p) p

/-- The client after the packets sent on a wire. -/
def after (log : List Event) (c : ReferenceClient) : ReferenceClient := (Event.delivered log).foldl (receive v) c

@[simp] theorem after_nil (c : ReferenceClient) : after v [] c = c := rfl

theorem after_append (log more : List Event) (c : ReferenceClient) :
    after v (log ++ more) c = after v more (after v log c) := by
  rw [after, Event.delivered_append, List.foldl_append]
  rfl

@[simp] theorem after_sent (p : RawPacket) (t : Option Nat) (origin : Origin) (c : ReferenceClient) :
    after v [.sent p t origin] c = receive v c p := rfl

end ReferenceClient

open ReferenceClient

/-! ## Ids -/

/-- An id none of the tracked packets has. -/
structure Inert (v : Int) (id : Int32) : Prop where
  sound : isSoundPacket id v = false
  stopSound : id ≠ StopSoundPacket.packetIdForVersion v
  bossBar : id ≠ BossBarPacket.packetIdForVersion v
  objective : id ≠ ScoreboardObjectivePacket.packetIdForVersion v
  slot : id ≠ DisplayObjectivePacket.packetIdForVersion v

section Decoders

variable {v : Int} {p : RawPacket} (c : ReferenceClient)

theorem seeBossBar_of_ne (h : p.id ≠ BossBarPacket.packetIdForVersion v) : seeBossBar v c p = c := by
  rw [seeBossBar, BossBarPacket.decode, if_pos h]

theorem seeObjective_of_ne (h : p.id ≠ ScoreboardObjectivePacket.packetIdForVersion v) : seeObjective v c p = c := by
  rw [seeObjective, ScoreboardObjectivePacket.decode, if_pos h]

theorem seeSlot_of_ne (h : p.id ≠ DisplayObjectivePacket.packetIdForVersion v) : seeSlot v c p = c := by
  rw [seeSlot, DisplayObjectivePacket.decode, if_pos h]

theorem hear_of_ne (hs : isSoundPacket p.id v = false) (h : p.id ≠ StopSoundPacket.packetIdForVersion v) :
    hear v c p = c := by
  rw [hear, hs, if_neg Bool.false_ne_true, StopSoundPacket.decode, if_pos h]

/-- A packet with such an id passes the client by. -/
theorem Inert.receive (h : Inert v p.id) : receive v c p = c := by
  rw [ReferenceClient.receive, hear_of_ne c h.sound h.stopSound, seeBossBar_of_ne c h.bossBar,
    seeObjective_of_ne c h.objective, seeSlot_of_ne c h.slot]

end Decoders

/-- The versions from 764 on, as far as ids go. -/
theorem versions {v : Int} (hv : 764 ≤ v) :
    ((v ≥ 776) = True ∧ (v ≥ 768) = True ∧ (v ≥ 766) = True ∧ (v ≥ 765) = True ∧ (v ≥ 764) = True) ∨
    ((v ≥ 776) = False ∧ (v ≥ 768) = True ∧ (v ≥ 766) = True ∧ (v ≥ 765) = True ∧ (v ≥ 764) = True) ∨
    ((v ≥ 776) = False ∧ (v ≥ 768) = False ∧ (v ≥ 766) = True ∧ (v ≥ 765) = True ∧ (v ≥ 764) = True) ∨
    ((v ≥ 776) = False ∧ (v ≥ 768) = False ∧ (v ≥ 766) = False ∧ (v ≥ 765) = True ∧ (v ≥ 764) = True) ∨
    ((v ≥ 776) = False ∧ (v ≥ 768) = False ∧ (v ≥ 766) = False ∧ (v ≥ 765) = False ∧ (v ≥ 764) = True) := by
  simp only [eq_iff_iff, iff_true, iff_false]
  omega

section Ids

variable {v : Int} (hv : 764 ≤ v)

include hv

/-- None of the proxy's packets but those that take something away is tracked. -/
theorem own_inert : Inert v (SystemChatMessagePacket.packetIdForVersion v) ∧
    Inert v (TabCompleteResponsePacket.packetIdForVersion v) ∧ Inert v (CloseContainerPacket.packetIdForVersion v) ∧
    Inert v (RespawnPacket.packetIdForVersion v) := by
  rcases versions hv with ⟨h776, h768, h766, h765, h764⟩ | ⟨h776, h768, h766, h765, h764⟩ |
    ⟨h776, h768, h766, h765, h764⟩ | ⟨h776, h768, h766, h765, h764⟩ | ⟨h776, h768, h766, h765, h764⟩
  all_goals
    refine ⟨?_, ?_, ?_, ?_⟩ <;> constructor <;>
      simp only [isSoundPacket, StopSoundPacket.packetIdForVersion, BossBarPacket.packetIdForVersion,
        ScoreboardObjectivePacket.packetIdForVersion, DisplayObjectivePacket.packetIdForVersion,
        SystemChatMessagePacket.packetIdForVersion, TabCompleteResponsePacket.packetIdForVersion,
        CloseContainerPacket.packetIdForVersion, RespawnPacket.packetIdForVersion,
        h776, h768, h766, h765, h764, if_true, if_false] <;> decide

/-- Neither is what the proxy keeps back or rewrites. -/
theorem special_inert {id : Int32} (h : isDisconnectPacket id = true ∨ isLoginPlayPacket id v = true ∨
    isDeclareCommandsPacket id v = true) : Inert v id := by
  rcases versions hv with ⟨h776, h768, h766, h765, h764⟩ | ⟨h776, h768, h766, h765, h764⟩ |
    ⟨h776, h768, h766, h765, h764⟩ | ⟨h776, h768, h766, h765, h764⟩ | ⟨h776, h768, h766, h765, h764⟩
  all_goals
    simp only [isDisconnectPacket, isLoginPlayPacket, isDeclareCommandsPacket, h776, h768, h766, h764, if_true,
      if_false, Bool.or_eq_true, beq_iff_eq] at h
    rcases h with (rfl | rfl) | rfl | rfl <;> constructor <;>
      simp only [isSoundPacket, StopSoundPacket.packetIdForVersion, BossBarPacket.packetIdForVersion,
        ScoreboardObjectivePacket.packetIdForVersion, DisplayObjectivePacket.packetIdForVersion,
        h776, h768, h766, h765, h764, if_true, if_false] <;> decide

/-- No two decoders of the client's take the same packet. -/
theorem tracked_apart :
    (StopSoundPacket.packetIdForVersion v ≠ BossBarPacket.packetIdForVersion v ∧
      StopSoundPacket.packetIdForVersion v ≠ ScoreboardObjectivePacket.packetIdForVersion v ∧
      StopSoundPacket.packetIdForVersion v ≠ DisplayObjectivePacket.packetIdForVersion v) ∧
    (BossBarPacket.packetIdForVersion v ≠ ScoreboardObjectivePacket.packetIdForVersion v ∧
      BossBarPacket.packetIdForVersion v ≠ DisplayObjectivePacket.packetIdForVersion v) ∧
    ScoreboardObjectivePacket.packetIdForVersion v ≠ DisplayObjectivePacket.packetIdForVersion v := by
  rcases versions hv with ⟨h776, h768, h766, h765, h764⟩ | ⟨h776, h768, h766, h765, h764⟩ |
    ⟨h776, h768, h766, h765, h764⟩ | ⟨h776, h768, h766, h765, h764⟩ | ⟨h776, h768, h766, h765, h764⟩
  all_goals
    simp only [StopSoundPacket.packetIdForVersion, BossBarPacket.packetIdForVersion,
      ScoreboardObjectivePacket.packetIdForVersion, DisplayObjectivePacket.packetIdForVersion,
      h776, h768, h766, h765, h764, if_true, if_false]
    decide

/-- None of what they take is a sound. -/
theorem tracked_silent :
    isSoundPacket (StopSoundPacket.packetIdForVersion v) v = false ∧
    isSoundPacket (BossBarPacket.packetIdForVersion v) v = false ∧
    isSoundPacket (ScoreboardObjectivePacket.packetIdForVersion v) v = false ∧
    isSoundPacket (DisplayObjectivePacket.packetIdForVersion v) v = false := by
  rcases versions hv with ⟨h776, h768, h766, h765, h764⟩ | ⟨h776, h768, h766, h765, h764⟩ |
    ⟨h776, h768, h766, h765, h764⟩ | ⟨h776, h768, h766, h765, h764⟩ | ⟨h776, h768, h766, h765, h764⟩
  all_goals
    simp only [isSoundPacket, StopSoundPacket.packetIdForVersion, BossBarPacket.packetIdForVersion,
      ScoreboardObjectivePacket.packetIdForVersion, DisplayObjectivePacket.packetIdForVersion,
      h776, h768, h766, h765, h764, if_true, if_false]
    decide

end Ids

/-! ## Packets that take something away -/

section Removals

variable {v : Int} (hv : 764 ≤ v) (c : ReferenceClient)

include hv

theorem receive_all : receive v c (StopSoundPacket.all.encodeWithVersion v) = { c with sounding := false } := by
  obtain ⟨⟨hbossBar, hobjective, hslot⟩, -⟩ := tracked_apart hv
  have hdecode : StopSoundPacket.decode (StopSoundPacket.all.encodeWithVersion v) v = .ok .all :=
    StopSoundPacket.decode_encode (by decide) (by decide) fun _ h => nomatch h
  have hhear : hear v c (StopSoundPacket.all.encodeWithVersion v) = { c with sounding := false } := by
    rw [hear, hdecode]
    simp only [StopSoundPacket.encodeWithVersion, (tracked_silent hv).1, Bool.false_eq_true, if_false]
    rfl
  rw [ReferenceClient.receive, hhear, seeBossBar_of_ne _ hbossBar, seeObjective_of_ne _ hobjective,
    seeSlot_of_ne _ hslot]

theorem receive_removeBossBar (uuid : Uuid) :
    receive v c ((BossBarPacket.remove uuid).encodeWithVersion v) = { c with bossBars := c.bossBars.erase uuid } := by
  obtain ⟨⟨hstop, -, -⟩, ⟨hobjective, hslot⟩, -⟩ := tracked_apart hv
  have hsee : seeBossBar v c ((BossBarPacket.remove uuid).encodeWithVersion v) =
      { c with bossBars := c.bossBars.erase uuid } := by
    rw [seeBossBar, BossBarPacket.decode_encode]
    rfl
  rw [ReferenceClient.receive, hear_of_ne _ (tracked_silent hv).2.1 hstop.symm, hsee, seeObjective_of_ne _ hobjective,
    seeSlot_of_ne _ hslot]

theorem receive_removeObjective {name : String} (hname : StringFits name) :
    receive v c ((ScoreboardObjectivePacket.remove name).encodeWithVersion v) =
      { c with objectives := c.objectives.erase name } := by
  obtain ⟨⟨-, hstop, -⟩, ⟨hbossBar, -⟩, hslot⟩ := tracked_apart hv
  have hsee : seeObjective v c ((ScoreboardObjectivePacket.remove name).encodeWithVersion v) =
      { c with objectives := c.objectives.erase name } := by
    rw [seeObjective, @ScoreboardObjectivePacket.decode_encode v (.remove name) hname]
    rfl
  rw [ReferenceClient.receive, hear_of_ne _ (tracked_silent hv).2.2.1 hstop.symm, seeBossBar_of_ne _ hbossBar.symm,
    hsee, seeSlot_of_ne _ hslot]

theorem receive_clearSlot (slot : Int32) :
    receive v c ((DisplayObjectivePacket.clear slot).encodeWithVersion v) = { c with slots := c.slots.erase slot } := by
  obtain ⟨⟨-, -, hstop⟩, ⟨-, hbossBar⟩, hobjective⟩ := tracked_apart hv
  have hempty : StringFits "" := by
    rw [StringFits]
    decide
  have hsee : seeSlot v c ((DisplayObjectivePacket.clear slot).encodeWithVersion v) =
      { c with slots := c.slots.erase slot } := by
    rw [seeSlot, @DisplayObjectivePacket.decode_encode v (.clear slot) hempty]
    rfl
  rw [ReferenceClient.receive, hear_of_ne _ (tracked_silent hv).2.2.2 hstop.symm, seeBossBar_of_ne _ hbossBar.symm,
    seeObjective_of_ne _ hobjective.symm, hsee]

end Removals

/-! ## The machine's picture -/

/-- What the machine takes the client to have. -/
def tracked (s : PlayStateMachine) : ReferenceClient where
  bossBars := s.activeBossBars.toFinset
  objectives := s.activeScoreboardObjectives.toFinset
  slots := s.activeDisplaySlots.toFinset
  sounding := s.hasActiveAudio

section Track

variable (p : RawPacket) (s : PlayStateMachine)

theorem tracked_trackContainer : tracked (trackContainer p s) = tracked s := by
  unfold trackContainer
  split
  · split <;> rfl
  · split <;> rfl

/-- Flags 0 is a first byte 0. -/
theorem decode_stopSound_flags {v : Int} (hid : p.id = StopSoundPacket.packetIdForVersion v) :
    (∃ stop, StopSoundPacket.decode p v = .ok stop ∧ stop.flags = 0) ↔ p.payload.head? = some 0 := by
  rw [StopSoundPacket.decode, if_neg (not_not.mpr hid)]
  cases hp : p.payload with
  | nil =>
    simp only [StopSoundPacket.decode.body, need, Decoder.bind_apply, Decoder.remaining_apply, Outcome.ok_bind,
      Decoder.ite_apply, List.length_nil, Nat.zero_lt_one, if_true, Decoder.fail_apply, Outcome.err_bind,
      reduceCtorEq, false_and, exists_false, List.head?_nil]
  | cons flags rest =>
    have hneed : need 1 "Unexpected EOF reading flags in StopSound" (flags :: rest) = .ok ((), flags :: rest) := by
      simp only [need, Decoder.bind_apply, Decoder.remaining_apply, Outcome.ok_bind, Decoder.ite_apply,
        List.length_cons, Nat.not_lt.mpr (Nat.le_add_left 1 rest.length), if_false, Decoder.pure_apply]
    simp only [StopSoundPacket.decode.body, Decoder.bind_apply, hneed, Outcome.ok_bind, Decoder.getU8_cons,
      List.head?_cons, Option.some.injEq]
    constructor
    · rintro ⟨stop, hstop, hflags⟩
      obtain ⟨⟨packet, _⟩, hbody, hpacket⟩ := Outcome.bind_eq_ok.mp hstop
      have hrest : packet.flags = flags := by
        split at hbody
        all_goals
          obtain ⟨⟨source, _⟩, -, hbody⟩ := Outcome.bind_eq_ok.mp hbody
          simp only at hbody
          split at hbody
        all_goals
          obtain ⟨⟨sound, _⟩, -, hbody⟩ := Outcome.bind_eq_ok.mp hbody
          cases hbody
          rfl
      cases hpacket
      exact hrest ▸ hflags
    · rintro rfl
      exact ⟨⟨0, none, none⟩, rfl, rfl⟩

theorem tracked_trackAudio : tracked (trackAudio p s) = hear s.session.protocolVersion (tracked s) p := by
  unfold trackAudio hear
  split
  · rfl
  · by_cases hid : p.id = StopSoundPacket.packetIdForVersion s.session.protocolVersion
    · have hiff := decode_stopSound_flags p hid
      by_cases hhead : p.payload.head? = some 0
      · obtain ⟨stop, hdecode, hflags⟩ := hiff.mpr hhead
        rw [if_pos ⟨hid, hhead⟩, hdecode]
        simp only [hflags, if_true]
        rfl
      · rw [if_neg fun h => hhead h.2]
        cases hdecode : StopSoundPacket.decode p s.session.protocolVersion with
        | ok stop =>
          have hflags : ¬ stop.flags = 0 := fun h => hhead (hiff.mp ⟨stop, hdecode, h⟩)
          simp only [if_neg hflags]
        | err e => rfl
        | panic => rfl
    · rw [if_neg fun h => hid h.1, StopSoundPacket.decode, if_pos hid]

theorem tracked_trackBossBars : tracked (trackBossBars p s) = seeBossBar s.session.protocolVersion (tracked s) p := by
  unfold trackBossBars
  split
  · unfold seeBossBar
    cases BossBarPacket.decode p s.session.protocolVersion with
    | ok bb =>
      simp only
      split_ifs
      · simp only [tracked, HashSet.toFinset_insert]
      · simp only [tracked, HashSet.toFinset_remove]
      · rfl
    | err e => rfl
    | panic => rfl
  · next h => rw [seeBossBar_of_ne _ h]

theorem tracked_trackObjectives :
    tracked (trackObjectives p s) = seeObjective s.session.protocolVersion (tracked s) p := by
  unfold trackObjectives
  split
  · unfold seeObjective
    cases ScoreboardObjectivePacket.decode p s.session.protocolVersion with
    | ok obj =>
      simp only
      split_ifs
      · simp only [tracked, HashSet.toFinset_insert]
      · simp only [tracked, HashSet.toFinset_remove]
      · rfl
    | err e => rfl
    | panic => rfl
  · next h => rw [seeObjective_of_ne _ h]

theorem tracked_trackSlots : tracked (trackSlots p s) = seeSlot s.session.protocolVersion (tracked s) p := by
  unfold trackSlots
  split
  · unfold seeSlot
    cases DisplayObjectivePacket.decode p s.session.protocolVersion with
    | ok disp =>
      simp only
      split_ifs
      · simp only [tracked, HashSet.toFinset_remove]
      · simp only [tracked, HashSet.toFinset_insert]
    | err e => rfl
    | panic => rfl
  · next h => rw [seeSlot_of_ne _ h]

/-- Tracking a packet does to the picture what receiving it does to the client. -/
theorem tracked_track : tracked (track p s) = receive s.session.protocolVersion (tracked s) p := by
  have hcontainer : (trackContainer p s).session = s.session := by rw [trackContainer_frame]
  have haudio : ∀ s, (trackAudio p s).session = s.session := fun s => by rw [trackAudio_frame]
  have hbars : ∀ s, (trackBossBars p s).session = s.session := fun s => by rw [trackBossBars_frame]
  have hobjectives : ∀ s, (trackObjectives p s).session = s.session := fun s => by rw [trackObjectives_frame]
  rw [track, tracked_trackSlots, tracked_trackObjectives, tracked_trackBossBars, tracked_trackAudio,
    tracked_trackContainer, hobjectives, hbars, haudio, hcontainer]
  rfl

end Track

end FrameMC

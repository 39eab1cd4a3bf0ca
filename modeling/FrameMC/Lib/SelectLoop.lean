import FrameMC.Lib.AsyncRead
import FrameMC.Lib.Runs
import Mathlib.Logic.Function.Basic

/-!
# Loops that read two streams at once

Each round starts a read on either stream. The first to come to a result
decides the round; the other is dropped, and the bytes it has taken from its
stream are gone. `Source` is one stream with the read in progress, `Selecting`
the loop between two rounds or in one, and a run is a list of happenings: bytes
arrive, a read is polled, the loop is interrupted.

`Intact` says that every byte that has arrived is accounted for: it belongs to
a result passed on, it is held by the read in progress, or it is unread. A
round keeps a stream intact exactly when it drops no read that holds a byte
(`step_intact_iff`, `intact_iff_along`), and of an intact stream the results
are its framing, as far as it has been read (`Source.Intact.frames`).
-/

namespace ByteStream

/-! ## One stream -/

/-- A stream that is read again and again with `reader`. `arrived` is all there
was to read so far, `held` what the read in progress has taken. -/
structure Source (ε α : Type) where
  reader : Reader ε α
  arrived : List UInt8
  held : List UInt8
  unread : List UInt8
  reading : Reader ε α

/-- The bytes of a sequence of reads determine it: no more are read to the same results. -/
theorem Framed.append_cancel {ε α : Type} {m : Reader ε α} {used more : List UInt8} {as : List α}
    (h : Framed m used as) (h' : Framed m (used ++ more) as) : more = [] := by
  induction h generalizing more with
  | nil =>
    cases h'
    rfl
  | @cons u used a as hu _ ih =>
    generalize hbytes : (u ++ used) ++ more = bytes at h'
    cases h' with
    | @cons u' used' _ _ hu' h' =>
      have hpoll := Reader.poll_append hu (used ++ more)
      have hpoll' := Reader.poll_append hu' used'
      rw [← List.append_assoc, hbytes, hpoll', Reader.poll_done, Reader.poll_done] at hpoll
      simp only [Prod.mk.injEq, true_and] at hpoll
      rw [hpoll] at h'
      exact ih h'

namespace Source

variable {ε α : Type}

def start (m : Reader ε α) : Source ε α := ⟨m, [], [], [], m⟩

/-- More bytes can be read. -/
def arrive (bytes : List UInt8) (s : Source ε α) : Source ε α :=
  { s with arrived := s.arrived ++ bytes, unread := s.unread ++ bytes }

/-- The read in progress is resumed. It comes to a result when it has read
enough, or when the stream has ended behind the unread bytes. -/
def poll (ended : Bool) (s : Source ε α) : Option (Outcome ε α) × Source ε α :=
  let (reading, rest) := s.reading.poll s.unread
  let taken := s.unread.take (s.unread.length - rest.length)
  let polled := { s with held := s.held ++ taken, unread := rest, reading := reading }
  match reading with
  | .done r => (some r, polled)
  | .read eof _ => (if ended then some (.err eof) else none, polled)

/-- A new read is started. Whatever the one before it held is gone. -/
def restart (m : Reader ε α) (s : Source ε α) : Source ε α := { s with reader := m, held := [], reading := m }

/-- Every byte that has arrived went into one of the results `passed`, is held by
the read in progress, or is unread. -/
def Intact (passed : List α) (s : Source ε α) : Prop :=
  ∃ used, Framed s.reader used passed ∧ s.arrived = used ++ (s.held ++ s.unread) ∧
    s.reader.poll s.held = (s.reading, [])

theorem intact_start (m : Reader ε α) : (start m).Intact [] := ⟨[], .nil, rfl, Reader.poll_nil m⟩

theorem Intact.arrive {passed : List α} {s : Source ε α} (h : s.Intact passed) (bytes : List UInt8) :
    (s.arrive bytes).Intact passed := by
  obtain ⟨used, hframed, harrived, hheld⟩ := h
  refine ⟨used, hframed, ?_, hheld⟩
  simp only [Source.arrive, harrived, List.append_assoc]

/-- What a poll does to the source: bytes go over from the unread ones to the read. -/
theorem poll_snd (ended : Bool) (s : Source ε α) :
    ∃ taken rest, s.unread = taken ++ rest ∧ s.reading.poll taken = ((s.poll ended).2.reading, []) ∧
      (s.poll ended).2 =
        { s with held := s.held ++ taken, unread := rest, reading := (s.poll ended).2.reading } := by
  rcases hp : s.reading.poll s.unread with ⟨reading, rest⟩
  obtain ⟨taken, htaken, hpoll⟩ := Reader.poll_suffix hp
  have hsnd : (s.poll ended).2 = { s with held := s.held ++ taken, unread := rest, reading := reading } := by
    have htake : s.unread.take (s.unread.length - rest.length) = taken := by
      rw [htaken, List.length_append, Nat.add_sub_cancel, List.take_left]
    simp only [poll, hp, htake]
    cases reading <;> rfl
  refine ⟨taken, rest, htaken, ?_, ?_⟩
  · rw [hsnd, hpoll]
  · rw [hsnd]

theorem Intact.poll {passed : List α} {s : Source ε α} (h : s.Intact passed) (ended : Bool) :
    (s.poll ended).2.Intact passed := by
  obtain ⟨used, hframed, harrived, hheld⟩ := h
  obtain ⟨taken, rest, hunread, hpoll, hsnd⟩ := poll_snd ended s
  generalize (s.poll ended).2 = s' at hpoll hsnd
  rw [hsnd]
  refine ⟨used, hframed, ?_, ?_⟩
  · simp only [harrived, hunread, List.append_assoc]
  · simp only
    rw [Reader.poll_append hheld, hpoll]

/-- A read that comes to a value has been read to its end. -/
theorem poll_ok {ended : Bool} {s : Source ε α} {a : α} (h : (s.poll ended).1 = some (.ok a)) :
    (s.poll ended).2.reading = .done (.ok a) := by
  rw [Source.poll] at h ⊢
  rcases hp : s.reading.poll s.unread with ⟨reading, rest⟩
  rw [hp] at h
  cases reading with
  | done r =>
    simp only [Option.some.injEq] at h
    rw [h]
  | read eof k =>
    cases ended <;> cases h

@[simp] theorem poll_reader (ended : Bool) (s : Source ε α) : (s.poll ended).2.reader = s.reader := by
  obtain ⟨taken, rest, -, -, hsnd⟩ := poll_snd ended s
  rw [hsnd]

@[simp] theorem poll_arrived (ended : Bool) (s : Source ε α) : (s.poll ended).2.arrived = s.arrived := by
  obtain ⟨taken, rest, -, -, hsnd⟩ := poll_snd ended s
  rw [hsnd]

/-- The bytes of a read that has come to a value belong to it. -/
theorem Intact.pass {passed : List α} {s : Source ε α} {a : α} (h : s.Intact passed)
    (ha : s.reading = .done (.ok a)) : (s.restart s.reader).Intact (passed ++ [a]) := by
  obtain ⟨used, hframed, harrived, hheld⟩ := h
  rw [ha] at hheld
  refine ⟨used ++ s.held, hframed.snoc hheld, ?_, Reader.poll_nil s.reader⟩
  simp only [restart, harrived, List.append_assoc, List.nil_append]

/-- A read can be dropped without loss exactly when it holds nothing. -/
theorem Intact.restart_iff {passed : List α} {s : Source ε α} (h : s.Intact passed) :
    (s.restart s.reader).Intact passed ↔ s.held = [] := by
  obtain ⟨used, hframed, harrived, hheld⟩ := h
  constructor
  · rintro ⟨used', hframed', harrived', -⟩
    simp only [restart, List.nil_append] at hframed' harrived'
    rw [harrived, ← List.append_assoc] at harrived'
    have hused : used' = used ++ s.held := (List.append_cancel_right harrived').symm
    rw [hused] at hframed'
    exact hframed.append_cancel hframed'
  · intro hnone
    refine ⟨used, hframed, ?_, Reader.poll_nil s.reader⟩
    simp only [restart, harrived, hnone]

/-- The results of an intact stream are its framing, as far as it has been read. -/
theorem Intact.frames {passed : List α} {s : Source ε α} (h : s.Intact passed) (hw : s.reader.Waits) :
    ByteStream.frames s.reader s.arrived = passed ++ ByteStream.frames s.reader (s.held ++ s.unread) := by
  obtain ⟨used, hframed, harrived, -⟩ := h
  rw [harrived, hframed.frames hw]

end Source

/-! ## The loop -/

/-- Which of the two streams. -/
inductive Arm where
  | left
  | right
  deriving DecidableEq

/-- What becomes of the loop after a round: it reads both streams on, or one of
them is another stream from now on; it is left, and both are read on elsewhere,
or not at all. -/
inductive Next (σ : Type) where
  | again (s : σ)
  | replaced (gone : Arm) (s : σ)
  | finished (s : σ)
  | closed (s : σ)

namespace Next

variable {σ : Type}

def state : Next σ → σ
  | again s | replaced _ s | finished s | closed s => s

/-- Whether the stream is read on after the round. -/
def ReadsOn : Next σ → Arm → Prop
  | again _, _ => True
  | replaced gone _, arm => arm ≠ gone
  | finished _, _ => True
  | closed _, _ => False

end Next

/-- The code around the `select!`: the reads a round starts, what the body does
with the result that decides it, and what an interruption does. `ω` is what the
surroundings add. -/
structure SelectLoop (ω σ ε α : Type) where
  reader : Arm → σ → Reader ε α
  handle : ω → Arm → Outcome ε α → σ → Next σ
  interrupted : ω → σ → σ

/-- The loop in a round. `passed` are the values the body has been given from the
stream as it is now. -/
structure Selecting (σ ε α : Type) where
  state : σ
  source : Arm → Source ε α
  passed : Arm → List α
  running : Bool

/-- What happens to a loop. The order of the polls is left open. -/
inductive Happening (ω : Type) where
  | arrived (arm : Arm) (bytes : List UInt8)
  | polled (arm : Arm) (ended : Bool) (surroundings : ω)
  | interrupted (surroundings : ω)

/-- What a happening adds to a stream. -/
def Happening.bytes {ω : Type} (arm : Arm) : Happening ω → List UInt8
  | .arrived other bytes => if other = arm then bytes else []
  | .polled _ _ _ => []
  | .interrupted _ => []

namespace Selecting

variable {σ ε α : Type}

def put (arm : Arm) (source : Source ε α) (ℓ : Selecting σ ε α) : Selecting σ ε α :=
  { ℓ with source := Function.update ℓ.source arm source }

/-- A value is passed on to the body; its read is over. -/
def pass (arm : Arm) (r : Outcome ε α) (ℓ : Selecting σ ε α) : Selecting σ ε α :=
  match r with
  | .ok a => { ℓ.put arm ((ℓ.source arm).restart (ℓ.source arm).reader) with
      passed := Function.update ℓ.passed arm (ℓ.passed arm ++ [a]) }
  | _ => ℓ

/-- No byte of either stream is lost. -/
def Intact (ℓ : Selecting σ ε α) : Prop := ∀ arm, (ℓ.source arm).Intact (ℓ.passed arm)

end Selecting

namespace SelectLoop

variable {ω σ ε α : Type} (loop : SelectLoop ω σ ε α)

def start (s : σ) : Selecting σ ε α := ⟨s, fun arm => .start (loop.reader arm s), fun _ => [], true⟩

/-- The round is over: what is still being read is dropped, and new reads are started. -/
def settle (ℓ : Selecting σ ε α) : Next σ → Selecting σ ε α
  | .again s => { ℓ with state := s, source := fun arm => (ℓ.source arm).restart (loop.reader arm s) }
  | .replaced gone s => { ℓ with
      state := s
      source := fun arm =>
        if arm = gone then .start (loop.reader arm s) else (ℓ.source arm).restart (loop.reader arm s)
      passed := fun arm => if arm = gone then [] else ℓ.passed arm }
  | .finished s => { ℓ with
      state := s
      source := fun arm => (ℓ.source arm).restart (ℓ.source arm).reader
      running := false }
  | .closed s => { ℓ with state := s, running := false }

def step (ℓ : Selecting σ ε α) : Happening ω → Selecting σ ε α
  | .arrived arm bytes => ℓ.put arm ((ℓ.source arm).arrive bytes)
  | .polled arm ended w =>
    if ℓ.running then
      match (ℓ.source arm).poll ended with
      | (none, source) => ℓ.put arm source
      | (some r, source) => loop.settle ((ℓ.put arm source).pass arm r) (loop.handle w arm r ℓ.state)
    else ℓ
  | .interrupted w => if ℓ.running then { ℓ with state := loop.interrupted w ℓ.state, running := false } else ℓ

/-- Where a read decides the round, the read that is dropped holds no byte of a
stream that is read on. -/
def Unharmed (ℓ : Selecting σ ε α) : Happening ω → Prop
  | .polled arm ended w => ℓ.running → ∀ r, ((ℓ.source arm).poll ended).1 = some r →
      ∀ other, other ≠ arm → (loop.handle w arm r ℓ.state).ReadsOn other → (ℓ.source other).held = []
  | _ => True

/-- The body leaves alone how a stream is read while it is the same stream, and
does not read on a stream whose read has failed. -/
structure Steady : Prop where
  reader : ∀ w arm r s other, (loop.handle w arm r s).ReadsOn other →
    loop.reader other (loop.handle w arm r s).state = loop.reader other s
  failing : ∀ w arm r s, (loop.handle w arm r s).ReadsOn arm → ∃ a, r = .ok a

/-- The reads in progress are those the state asks for. -/
def Current (ℓ : Selecting σ ε α) : Prop :=
  ℓ.running → ∀ arm, (ℓ.source arm).reader = loop.reader arm ℓ.state

end SelectLoop

namespace Selecting

variable {σ ε α : Type} {ℓ : Selecting σ ε α}

@[simp] theorem put_source_self (arm : Arm) (source : Source ε α) : (ℓ.put arm source).source arm = source :=
  Function.update_self ..

theorem put_source_of_ne {arm other : Arm} (h : other ≠ arm) (source : Source ε α) :
    (ℓ.put arm source).source other = ℓ.source other :=
  Function.update_of_ne h ..

theorem Intact.put (h : ℓ.Intact) {arm : Arm} {source : Source ε α} (hsource : source.Intact (ℓ.passed arm)) :
    (ℓ.put arm source).Intact := by
  intro other
  by_cases heq : other = arm
  · rw [heq, put_source_self]
    exact hsource
  · rw [put_source_of_ne heq]
    exact h other

/-- Passing a value on keeps both streams intact, and its read holds nothing any more. -/
theorem Intact.pass (h : ℓ.Intact) {arm : Arm} {r : Outcome ε α}
    (hr : ∀ a, r = .ok a → (ℓ.source arm).reading = .done (.ok a)) : (ℓ.pass arm r).Intact := by
  cases r with
  | ok a =>
    intro other
    by_cases heq : other = arm
    · rw [heq]
      simp only [Selecting.pass, put_source_self, Function.update_self]
      exact (h arm).pass (hr a rfl)
    · simp only [Selecting.pass, put_source_of_ne heq, Function.update_of_ne heq]
      exact h other
  | err e => exact h
  | panic => exact h

theorem pass_held (arm : Arm) (a : α) : ((ℓ.pass arm (.ok a)).source arm).held = [] := by
  simp only [pass, put_source_self]
  rfl

theorem pass_source_of_ne {arm other : Arm} (h : other ≠ arm) (r : Outcome ε α) :
    (ℓ.pass arm r).source other = ℓ.source other := by
  cases r with
  | ok a => exact put_source_of_ne h _
  | err e => rfl
  | panic => rfl

theorem pass_reader (arm other : Arm) (r : Outcome ε α) :
    ((ℓ.pass arm r).source other).reader = (ℓ.source other).reader := by
  by_cases heq : other = arm
  · cases r with
    | ok a =>
      rw [heq]
      simp only [pass, put_source_self]
      rfl
    | err e => rfl
    | panic => rfl
  · rw [pass_source_of_ne heq]

end Selecting

namespace SelectLoop

variable {ω σ ε α : Type} {loop : SelectLoop ω σ ε α} {ℓ : Selecting σ ε α}

/-- Settling a round keeps intact what it was given intact, except for the bytes of dropped reads. -/
theorem settle_intact_iff {next : Next σ} (h : ℓ.Intact)
    (hreader : ∀ arm, next.ReadsOn arm → loop.reader arm next.state = (ℓ.source arm).reader) :
    (loop.settle ℓ next).Intact ↔ ∀ arm, next.ReadsOn arm → (ℓ.source arm).held = [] := by
  cases next with
  | again s =>
    have harm (arm : Arm) : ((loop.settle ℓ (.again s)).source arm).Intact (ℓ.passed arm) ↔
        (ℓ.source arm).held = [] := by
      rw [← (h arm).restart_iff, ← hreader arm trivial]
      rfl
    exact ⟨fun hs arm _ => (harm arm).mp (hs arm), fun hs arm => (harm arm).mpr (hs arm trivial)⟩
  | replaced gone s =>
    constructor
    · intro hs arm hne
      have hsame : arm ≠ gone := hne
      have hkept := hs arm
      simp only [settle, if_neg hsame] at hkept
      have hr : loop.reader arm s = (ℓ.source arm).reader := hreader arm hne
      rw [hr] at hkept
      exact (h arm).restart_iff.mp hkept
    · intro hs arm
      by_cases hgone : arm = gone
      · simp only [settle, if_pos hgone]
        exact Source.intact_start _
      · have hr : loop.reader arm s = (ℓ.source arm).reader := hreader arm hgone
        simp only [settle, if_neg hgone, hr]
        exact (h arm).restart_iff.mpr (hs arm hgone)
  | finished s =>
    exact ⟨fun hs arm _ => (h arm).restart_iff.mp (hs arm), fun hs arm => (h arm).restart_iff.mpr (hs arm trivial)⟩
  | closed s => exact iff_of_true h fun _ hfalse => hfalse.elim

theorem settle_current (next : Next σ) : loop.Current (loop.settle ℓ next) := by
  intro hrunning arm
  cases next with
  | again s => rfl
  | replaced gone s =>
    simp only [settle]
    split <;> rfl
  | finished s => cases hrunning
  | closed s => cases hrunning

theorem start_intact (s : σ) : (loop.start s).Intact := fun _ => Source.intact_start _

theorem start_current (s : σ) : loop.Current (loop.start s) := fun _ _ => rfl

/-- What a happening does, case by case. -/
inductive Stepped (loop : SelectLoop ω σ ε α) (ℓ : Selecting σ ε α) : Happening ω → Selecting σ ε α → Prop where
  | arrived (arm : Arm) (bytes : List UInt8) :
    Stepped loop ℓ (.arrived arm bytes) (ℓ.put arm ((ℓ.source arm).arrive bytes))
  | halted (happening : Happening ω) (hhalted : ¬ ℓ.running) (hnone : ∀ arm, happening.bytes arm = []) :
    Stepped loop ℓ happening ℓ
  | undecided (arm : Arm) (ended : Bool) (w : ω) (hrunning : ℓ.running) (hr : ((ℓ.source arm).poll ended).1 = none) :
    Stepped loop ℓ (.polled arm ended w) (ℓ.put arm ((ℓ.source arm).poll ended).2)
  | decided (arm : Arm) (ended : Bool) (w : ω) (r : Outcome ε α) (hrunning : ℓ.running)
    (hr : ((ℓ.source arm).poll ended).1 = some r) :
    Stepped loop ℓ (.polled arm ended w)
      (loop.settle ((ℓ.put arm ((ℓ.source arm).poll ended).2).pass arm r) (loop.handle w arm r ℓ.state))
  | interrupted (w : ω) (hrunning : ℓ.running) :
    Stepped loop ℓ (.interrupted w) { ℓ with state := loop.interrupted w ℓ.state, running := false }

theorem stepped (happening : Happening ω) : Stepped loop ℓ happening (loop.step ℓ happening) := by
  cases happening with
  | arrived arm bytes => exact .arrived arm bytes
  | interrupted w =>
    rw [step]
    split
    · exact .interrupted w ‹_›
    · exact .halted _ ‹_› fun _ => rfl
  | polled arm ended w =>
    rw [step]
    split
    · rcases hp : (ℓ.source arm).poll ended with ⟨_ | r, source⟩
      · have hstep := @Stepped.undecided _ _ _ _ loop ℓ arm ended w ‹_› (by rw [hp])
        rwa [hp] at hstep
      · have hstep := @Stepped.decided _ _ _ _ loop ℓ arm ended w r ‹_› (by rw [hp])
        rwa [hp] at hstep
    · exact .halted _ ‹_› fun _ => rfl

theorem put_reader {arm other : Arm} {source : Source ε α} (h : source.reader = (ℓ.source arm).reader) :
    ((ℓ.put arm source).source other).reader = (ℓ.source other).reader := by
  by_cases heq : other = arm
  · rw [heq, Selecting.put_source_self, h]
  · rw [Selecting.put_source_of_ne heq]

theorem pass_put_reader (arm other : Arm) (ended : Bool) (r : Outcome ε α) :
    (((ℓ.put arm ((ℓ.source arm).poll ended).2).pass arm r).source other).reader = (ℓ.source other).reader := by
  rw [Selecting.pass_reader, put_reader (Source.poll_reader ended _)]

theorem step_current (h : loop.Current ℓ) (happening : Happening ω) : loop.Current (loop.step ℓ happening) := by
  have hstepped := @stepped _ _ _ _ loop ℓ happening
  generalize loop.step ℓ happening = ℓ' at hstepped ⊢
  cases hstepped with
  | arrived arm bytes =>
    intro hrunning other
    have hsame : ((ℓ.source arm).arrive bytes).reader = (ℓ.source arm).reader := rfl
    exact (put_reader hsame).trans (h hrunning other)
  | halted => exact h
  | undecided arm ended w =>
    intro hrunning other
    rw [put_reader (Source.poll_reader ended _)]
    exact h hrunning other
  | decided => exact settle_current _
  | interrupted =>
    intro hrunning
    cases hrunning

/-- A happening loses no byte exactly when it drops no read that holds one. -/
theorem step_intact_iff (hsteady : loop.Steady) (hcurrent : loop.Current ℓ) (h : ℓ.Intact) (happening : Happening ω) :
    (loop.step ℓ happening).Intact ↔ loop.Unharmed ℓ happening := by
  have hstepped := @stepped _ _ _ _ loop ℓ happening
  generalize loop.step ℓ happening = ℓ' at hstepped ⊢
  cases hstepped with
  | arrived arm bytes => exact iff_of_true (h.put ((h arm).arrive bytes)) trivial
  | interrupted => exact iff_of_true h trivial
  | halted _ hhalted _ =>
    refine iff_of_true h ?_
    cases happening with
    | arrived => trivial
    | interrupted => trivial
    | polled => exact fun hrunning => absurd hrunning hhalted
  | undecided arm ended w hrunning hr =>
    refine iff_of_true (h.put ((h arm).poll ended)) ?_
    intro _ r hsome
    rw [hr] at hsome
    cases hsome
  | decided arm ended w r hrunning hr =>
    have hpolled : (ℓ.put arm ((ℓ.source arm).poll ended).2).Intact := h.put ((h arm).poll ended)
    have hpassed : ((ℓ.put arm ((ℓ.source arm).poll ended).2).pass arm r).Intact := by
      apply hpolled.pass
      rintro a rfl
      rw [Selecting.put_source_self]
      exact Source.poll_ok hr
    have hreader (other : Arm) (hon : (loop.handle w arm r ℓ.state).ReadsOn other) :
        loop.reader other (loop.handle w arm r ℓ.state).state =
          (((ℓ.put arm ((ℓ.source arm).poll ended).2).pass arm r).source other).reader := by
      rw [hsteady.reader w arm r ℓ.state other hon, pass_put_reader, hcurrent hrunning other]
    have hother {other : Arm} (hne : other ≠ arm) :
        ((ℓ.put arm ((ℓ.source arm).poll ended).2).pass arm r).source other = ℓ.source other := by
      rw [Selecting.pass_source_of_ne hne, Selecting.put_source_of_ne hne]
    rw [settle_intact_iff hpassed hreader]
    constructor
    · intro hheld _ r' hr' other hne hon
      rw [hr] at hr'
      obtain rfl : r = r' := Option.some.inj hr'
      have hnone := hheld other hon
      rwa [hother hne] at hnone
    · intro hunharmed other hon
      by_cases heq : other = arm
      · rw [heq] at hon ⊢
        obtain ⟨a, rfl⟩ := hsteady.failing w arm r ℓ.state hon
        exact Selecting.pass_held arm a
      · rw [hother heq]
        exact hunharmed hrunning r hr other heq hon

/-- In every state of a run every byte is accounted for, exactly when no round of
the run drops a read that holds one. -/
theorem intact_iff_along (hsteady : loop.Steady) (s : σ) (happenings : List (Happening ω)) :
    (∀ n, (runAll loop.step (loop.start s) (happenings.take n)).Intact) ↔
      Along loop.step loop.Unharmed (loop.start s) happenings :=
  always_iff_along (I := loop.Current) (P := Selecting.Intact)
    (fun _ happening hcurrent => step_current hcurrent happening)
    (fun _ happening hcurrent hintact => step_intact_iff hsteady hcurrent hintact happening)
    (start_current s) (start_intact s) happenings

/-! ## What arrives -/

theorem put_arrived {arm other : Arm} {source : Source ε α} (h : source.arrived = (ℓ.source arm).arrived) :
    ((ℓ.put arm source).source other).arrived = (ℓ.source other).arrived := by
  by_cases heq : other = arm
  · rw [heq, Selecting.put_source_self, h]
  · rw [Selecting.put_source_of_ne heq]

theorem pass_arrived (arm other : Arm) (r : Outcome ε α) :
    ((ℓ.pass arm r).source other).arrived = (ℓ.source other).arrived := by
  cases r with
  | ok a => exact put_arrived rfl
  | err e => rfl
  | panic => rfl

theorem settle_arrived {arm : Arm} {next : Next σ} (h : ∀ s, next ≠ .replaced arm s) :
    ((loop.settle ℓ next).source arm).arrived = (ℓ.source arm).arrived := by
  cases next with
  | replaced gone s =>
    have hne : arm ≠ gone := by
      rintro rfl
      exact h s rfl
    simp only [settle, if_neg hne]
    rfl
  | again s => rfl
  | finished s => rfl
  | closed s => rfl

theorem step_arrived {arm : Arm} (hkept : ∀ w other r s s', loop.handle w other r s ≠ .replaced arm s')
    (happening : Happening ω) :
    ((loop.step ℓ happening).source arm).arrived = (ℓ.source arm).arrived ++ happening.bytes arm := by
  have hstepped := @stepped _ _ _ _ loop ℓ happening
  generalize loop.step ℓ happening = ℓ' at hstepped ⊢
  cases hstepped with
  | arrived other bytes =>
    by_cases heq : other = arm
    · rw [heq, Selecting.put_source_self, Happening.bytes, if_pos rfl]
      rfl
    · rw [Selecting.put_source_of_ne (Ne.symm heq), Happening.bytes, if_neg heq, List.append_nil]
  | halted _ _ hnone => rw [hnone, List.append_nil]
  | undecided other ended w =>
    rw [Happening.bytes, List.append_nil]
    exact put_arrived (Source.poll_arrived ended _)
  | decided other ended w r =>
    rw [Happening.bytes, List.append_nil, settle_arrived (hkept w other r ℓ.state), pass_arrived,
      put_arrived (Source.poll_arrived ended _)]
  | interrupted => exact (List.append_nil _).symm

/-- A stream that the body never replaces has been sent what arrived on it, in order. -/
theorem arrived_run {arm : Arm} (hkept : ∀ w other r s s', loop.handle w other r s ≠ .replaced arm s')
    (happenings : List (Happening ω)) (ℓ : Selecting σ ε α) :
    ((runAll loop.step ℓ happenings).source arm).arrived =
      (ℓ.source arm).arrived ++ happenings.flatMap (Happening.bytes arm) := by
  induction happenings generalizing ℓ with
  | nil => exact (List.append_nil _).symm
  | cons happening happenings ih =>
    rw [runAll, List.foldl_cons, ← runAll, ih, step_arrived hkept, List.flatMap_cons, List.append_assoc]

/-! ## Which readers are in use -/

/-- A happening goes on with the readers there are, or with those of the state it leads to. -/
theorem step_reader (happening : Happening ω) (arm : Arm) :
    ((loop.step ℓ happening).source arm).reader = (ℓ.source arm).reader ∨
      ((loop.step ℓ happening).source arm).reader = loop.reader arm (loop.step ℓ happening).state := by
  have hstepped := @stepped _ _ _ _ loop ℓ happening
  generalize loop.step ℓ happening = ℓ' at hstepped ⊢
  cases hstepped with
  | arrived other bytes =>
    have hsame : ((ℓ.source other).arrive bytes).reader = (ℓ.source other).reader := rfl
    exact .inl (put_reader hsame)
  | halted => exact .inl rfl
  | undecided other ended w => exact .inl (put_reader (Source.poll_reader ended _))
  | interrupted => exact .inl rfl
  | decided other ended w r =>
    have hpassed := pass_put_reader (ℓ := ℓ) other arm ended r
    cases loop.handle w other r ℓ.state with
    | again s => exact .inr rfl
    | replaced gone s =>
      right
      simp only [settle]
      split <;> rfl
    | finished s => exact .inl hpassed
    | closed s => exact .inl hpassed

/-- What is true of every reader a state asks for is true of those in use. -/
theorem reader_along {P : Reader ε α → Prop} (hP : ∀ arm s, P (loop.reader arm s)) (s : σ)
    (happenings : List (Happening ω)) (arm : Arm) :
    P ((runAll loop.step (loop.start s) happenings).source arm).reader := by
  have hstep (ℓ : Selecting σ ε α) (happening : Happening ω) (h : ∀ arm, P (ℓ.source arm).reader) (_ : True) :
      ∀ arm, P ((loop.step ℓ happening).source arm).reader := by
    intro arm
    rcases @step_reader _ _ _ _ loop ℓ happening arm with hsame | hnew
    · rw [hsame]
      exact h arm
    · rw [hnew]
      exact hP arm _
  exact runAll_invariant hstep (fun arm => hP arm s) (along_true _ happenings) arm

theorem step_reader_kept {arm : Arm} (hsteady : loop.Steady)
    (hkept : ∀ w other r s s', loop.handle w other r s ≠ .replaced arm s') (hcurrent : loop.Current ℓ)
    (happening : Happening ω) : ((loop.step ℓ happening).source arm).reader = (ℓ.source arm).reader := by
  have hstepped := @stepped _ _ _ _ loop ℓ happening
  generalize loop.step ℓ happening = ℓ' at hstepped ⊢
  cases hstepped with
  | arrived other bytes =>
    have hsame : ((ℓ.source other).arrive bytes).reader = (ℓ.source other).reader := rfl
    exact put_reader hsame
  | halted => rfl
  | undecided other ended w => exact put_reader (Source.poll_reader ended _)
  | interrupted => rfl
  | decided other ended w r hrunning =>
    have hon := hsteady.reader w other r ℓ.state arm
    have hpassed := pass_put_reader (ℓ := ℓ) other arm ended r
    cases hnext : loop.handle w other r ℓ.state with
    | again s =>
      rw [hnext] at hon
      exact (hon trivial).trans (hcurrent hrunning arm).symm
    | replaced gone s =>
      have hne : arm ≠ gone := by
        rintro rfl
        exact hkept w other r ℓ.state s hnext
      rw [hnext] at hon
      simp only [settle, if_neg hne]
      exact (hon hne).trans (hcurrent hrunning arm).symm
    | finished s => exact hpassed
    | closed s => exact hpassed

/-- A stream that the body never replaces is read by the reader it was first read by. -/
theorem reader_run {arm : Arm} (hsteady : loop.Steady)
    (hkept : ∀ w other r s s', loop.handle w other r s ≠ .replaced arm s') (happenings : List (Happening ω)) :
    ∀ ℓ : Selecting σ ε α, loop.Current ℓ →
      ((runAll loop.step ℓ happenings).source arm).reader = (ℓ.source arm).reader := by
  induction happenings with
  | nil => exact fun _ _ => rfl
  | cons happening happenings ih =>
    intro ℓ hcurrent
    rw [runAll, List.foldl_cons, ← runAll, ih _ (step_current hcurrent happening)]
    exact step_reader_kept hsteady hkept hcurrent happening

end SelectLoop

end ByteStream

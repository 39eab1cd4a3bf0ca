import FrameMC.Lib.Outcome

/-!
# Reads as resumptions

An asynchronous read is suspended between bytes: it has a result, or it waits
for one more byte and says what it fails with if the stream ends there.
`poll` resumes a read with the bytes that are available, and keeps a read that
still waits; `run` gives it a whole stream, after which the stream ends. The
two agree, and how the bytes were cut into pieces makes no difference as long
as the same read is resumed (`poll_append`).

`Framed` and `frames` are what a stream means to a reader that starts again
after every result.
-/

namespace ByteStream

/-- A read in progress. `eof` is the error if the stream ends where it waits. -/
inductive Reader (ε α : Type) where
  | done (r : Outcome ε α)
  | read (eof : ε) (k : UInt8 → Reader ε α)

namespace Reader

variable {ε α β : Type}

def bind : Reader ε α → (α → Reader ε β) → Reader ε β
  | .done (.ok a), f => f a
  | .done (.err e), _ => .done (.err e)
  | .done .panic, _ => .done .panic
  | .read eof k, f => .read eof fun b => bind (k b) f

instance : Monad (Reader ε) where
  pure a := .done (.ok a)
  bind := bind

@[simp] theorem pure_eq (a : α) : (pure a : Reader ε α) = .done (.ok a) := rfl
@[simp] theorem ok_bind (a : α) (f : α → Reader ε β) : (.done (.ok a) >>= f) = f a := rfl
@[simp] theorem err_bind (e : ε) (f : α → Reader ε β) : (.done (.err e) >>= f) = .done (.err e) := rfl
@[simp] theorem panic_bind (f : α → Reader ε β) : (.done .panic >>= f) = .done .panic := rfl
@[simp] theorem read_bind (eof : ε) (k : UInt8 → Reader ε α) (f : α → Reader ε β) :
    (.read eof k >>= f) = .read eof fun b => k b >>= f := rfl

/-- Report an error. -/
def fail (e : ε) : Reader ε α := .done (.err e)

/-- `AsyncReadExt::read_u8`. -/
def readU8 (eof : ε) : Reader ε UInt8 := .read eof fun b => .done (.ok b)

/-- `AsyncReadExt::read_exact` into a buffer of `n` bytes. -/
def readExact (eof : ε) : Nat → Reader ε (List UInt8)
  | 0 => pure []
  | n + 1 => do
    let b ← readU8 eof
    let bs ← readExact eof n
    pure (b :: bs)

/-- Resume a read with the bytes available: the read as it stands afterwards,
and the bytes it did not take. -/
def poll : Reader ε α → List UInt8 → Reader ε α × List UInt8
  | .done r, bs => (.done r, bs)
  | .read eof k, [] => (.read eof k, [])
  | .read _ k, b :: bs => poll (k b) bs

/-- Give a read a stream that ends after `bs`. -/
def run : Reader ε α → List UInt8 → Outcome ε α × List UInt8
  | .done r, bs => (r, bs)
  | .read eof _, [] => (.err eof, [])
  | .read _ k, b :: bs => run (k b) bs

@[simp] theorem poll_done (r : Outcome ε α) (bs : List UInt8) : poll (.done r) bs = (.done r, bs) := by
  cases bs <;> rfl

@[simp] theorem poll_nil (m : Reader ε α) : poll m [] = (m, []) := by
  cases m <;> rfl

@[simp] theorem poll_read_cons (eof : ε) (k : UInt8 → Reader ε α) (b : UInt8) (bs : List UInt8) :
    poll (.read eof k) (b :: bs) = poll (k b) bs := rfl

@[simp] theorem run_done (r : Outcome ε α) (bs : List UInt8) : run (.done r) bs = (r, bs) := by
  cases bs <;> rfl

@[simp] theorem run_read_nil (eof : ε) (k : UInt8 → Reader ε α) : run (.read eof k) [] = (.err eof, []) := rfl

@[simp] theorem run_read_cons (eof : ε) (k : UInt8 → Reader ε α) (b : UInt8) (bs : List UInt8) :
    run (.read eof k) (b :: bs) = run (k b) bs := rfl

@[simp] theorem run_fail (e : ε) (bs : List UInt8) : run (fail e : Reader ε α) bs = (.err e, bs) := by
  simp [fail]

/-- A suspended read is resumed where it stopped, however the bytes are cut. -/
theorem poll_append {m m' : Reader ε α} {as : List UInt8} (h : poll m as = (m', [])) (bs : List UInt8) :
    poll m (as ++ bs) = poll m' bs := by
  induction as generalizing m with
  | nil => simp at h; subst h; rfl
  | cons a as ih =>
    cases m with
    | done r => simp at h
    | read eof k => exact ih h

/-- What a poll leaves is a suffix of what it was given. -/
theorem poll_suffix {m m' : Reader ε α} {bs rest : List UInt8} (h : poll m bs = (m', rest)) :
    ∃ used, bs = used ++ rest ∧ poll m used = (m', []) := by
  induction bs generalizing m with
  | nil =>
    simp only [poll_nil, Prod.mk.injEq] at h
    obtain ⟨rfl, rfl⟩ := h
    exact ⟨[], rfl, poll_nil _⟩
  | cons b bs ih =>
    cases m with
    | done r =>
      simp only [poll_done, Prod.mk.injEq] at h
      obtain ⟨rfl, rfl⟩ := h
      exact ⟨[], rfl, poll_nil _⟩
    | read eof k =>
      obtain ⟨used, rfl, hp⟩ := ih h
      exact ⟨b :: used, rfl, hp⟩

theorem run_eq_poll (m : Reader ε α) (bs : List UInt8) :
    run m bs = match poll m bs with
      | (.done r, rest) => (r, rest)
      | (.read eof _, rest) => (.err eof, rest) := by
  induction bs generalizing m with
  | nil => cases m <;> rfl
  | cons b bs ih =>
    cases m with
    | done r => simp
    | read eof k => exact ih (k b)

/-- Running a sequence is running its parts on what the earlier ones leave. -/
theorem run_bind (m : Reader ε α) (f : α → Reader ε β) (bs : List UInt8) :
    run (m >>= f) bs = match run m bs with
      | (.ok a, rest) => run (f a) rest
      | (.err e, rest) => (.err e, rest)
      | (.panic, rest) => (.panic, rest) := by
  induction bs generalizing m with
  | nil =>
    match m with
    | .done (.ok a) => simp
    | .done (.err e) => simp
    | .done .panic => simp
    | .read eof k => rfl
  | cons b bs ih =>
    match m with
    | .done (.ok a) => simp
    | .done (.err e) => simp
    | .done .panic => simp
    | .read eof k => exact ih (k b)

@[simp] theorem run_readU8_cons (eof : ε) (b : UInt8) (bs : List UInt8) :
    run (readU8 eof) (b :: bs) = (.ok b, bs) := by simp [readU8]

/-- `read_exact` takes exactly its buffer's length, or the whole stream when it is shorter. -/
theorem run_readExact (eof : ε) (n : Nat) (bs : List UInt8) :
    run (readExact eof n) bs =
      if n ≤ bs.length then (.ok (bs.take n), bs.drop n) else (.err eof, []) := by
  induction n generalizing bs with
  | zero => simp [readExact]
  | succ n ih =>
    cases bs with
    | nil => simp [readExact, readU8]
    | cons b bs =>
      simp only [readExact, readU8, read_bind, ok_bind, run_read_cons, run_bind, ih, pure_eq,
        List.length_cons, Nat.add_le_add_iff_right]
      by_cases h : n ≤ bs.length <;> simp [h]

end Reader

/-! ## The framing of a stream -/

section Framing

variable {ε α : Type}

/-- `used` is a sequence of complete reads of `m`, with these results. -/
inductive Framed (m : Reader ε α) : List UInt8 → List α → Prop where
  | nil : Framed m [] []
  | cons {u used : List UInt8} {a : α} {as : List α} :
      m.poll u = (.done (.ok a), []) → Framed m used as → Framed m (u ++ used) (a :: as)

/-- One more complete read at the end. -/
theorem Framed.snoc {m : Reader ε α} {used u : List UInt8} {as : List α} {a : α}
    (h : Framed m used as) (hu : m.poll u = (.done (.ok a), [])) : Framed m (used ++ u) (as ++ [a]) := by
  induction h with
  | nil => simpa using Framed.cons hu .nil
  | cons hp _ ih =>
    rw [List.append_assoc]
    exact .cons hp ih

/-- The complete reads of `m` in `bs`, at most `fuel` of them. -/
def framesUpTo (m : Reader ε α) : Nat → List UInt8 → List α
  | 0, _ => []
  | fuel + 1, bs =>
    match m.poll bs with
    | (.done (.ok a), rest) => a :: framesUpTo m fuel rest
    | _ => []

/-- The framing of a byte string: the results of reading it from the start,
again and again, up to the first read that does not complete or fails. A read
takes at least one byte, so there are at most `bs.length` of them. -/
def frames (m : Reader ε α) (bs : List UInt8) : List α := framesUpTo m bs.length bs

/-- A reader that has something to read first. -/
def Reader.Waits (m : Reader ε α) : Prop := ∃ eof k, m = .read eof k

theorem Reader.Waits.poll_length {m : Reader ε α} (h : m.Waits) {bs rest : List UInt8}
    {r : Outcome ε α} (hp : m.poll bs = (.done r, rest)) : rest.length < bs.length := by
  obtain ⟨eof, k, rfl⟩ := h
  obtain ⟨used, rfl, hu⟩ := Reader.poll_suffix hp
  cases used with
  | nil => simp at hu
  | cons b used =>
    rw [List.cons_append, List.length_cons, List.length_append]
    omega

/-- Fuel beyond the number of bytes changes nothing. -/
theorem framesUpTo_eq {m : Reader ε α} (h : m.Waits) :
    ∀ (fuel : Nat) (bs : List UInt8), bs.length ≤ fuel → framesUpTo m fuel bs = frames m bs := by
  have key : ∀ (n f g : Nat) (bs : List UInt8), bs.length ≤ n → n ≤ f → n ≤ g →
      framesUpTo m f bs = framesUpTo m g bs := by
    intro n
    induction n with
    | zero =>
      intro f g bs hl _ _
      obtain rfl : bs = [] := List.length_eq_zero_iff.mp (by omega)
      obtain ⟨eof, k, rfl⟩ := h
      cases f <;> cases g <;> simp [framesUpTo]
    | succ n ih =>
      intro f g bs hl hf hg
      obtain ⟨f, rfl⟩ : ∃ f', f = f' + 1 := ⟨f - 1, by omega⟩
      obtain ⟨g, rfl⟩ : ∃ g', g = g' + 1 := ⟨g - 1, by omega⟩
      simp only [framesUpTo]
      split
      · next a rest hp =>
        have := h.poll_length hp
        rw [ih f g rest (by omega) (by omega) (by omega)]
      · rfl
  intro fuel bs hl
  exact key bs.length fuel bs.length bs (Nat.le_refl _) hl (Nat.le_refl _)

/-- The framing starts with the first complete read. -/
theorem frames_cons {m : Reader ε α} (h : m.Waits) {u : List UInt8} {a : α}
    (hu : m.poll u = (.done (.ok a), [])) (bs : List UInt8) : frames m (u ++ bs) = a :: frames m bs := by
  have hp : m.poll (u ++ bs) = (.done (.ok a), bs) := by rw [Reader.poll_append hu, Reader.poll_done]
  have hl := h.poll_length hp
  obtain ⟨n, hn⟩ : ∃ n, (u ++ bs).length = n + 1 := ⟨(u ++ bs).length - 1, by omega⟩
  rw [← framesUpTo_eq h (n + 1) _ (by omega), framesUpTo, hp]
  simp only
  rw [framesUpTo_eq h n bs (by omega)]

/-- Complete reads at the front come out in order, then the framing of the rest. -/
theorem Framed.frames {m : Reader ε α} (h : m.Waits) {used : List UInt8} {as : List α}
    (hf : Framed m used as) (rest : List UInt8) : frames m (used ++ rest) = as ++ ByteStream.frames m rest := by
  induction hf with
  | nil => rfl
  | cons hp _ ih => rw [List.append_assoc, frames_cons h hp, ih]; rfl

/-- The framing ends where a read does not complete. -/
theorem frames_eq_nil {m : Reader ε α} {bs : List UInt8} (h : ∀ a rest, m.poll bs ≠ (.done (.ok a), rest)) :
    frames m bs = [] := by
  rw [frames]
  cases hlength : bs.length with
  | zero => rfl
  | succ fuel =>
    rw [framesUpTo]
    split
    · next a rest hp => exact absurd hp (h a rest)
    · rfl

/-- Of a stream that goes on, the framing goes on. -/
theorem frames_prefix {m : Reader ε α} (h : m.Waits) {bs bs' : List UInt8} (hpre : bs <+: bs') :
    frames m bs <+: frames m bs' := by
  obtain ⟨more, rfl⟩ := hpre
  induction hlength : bs.length using Nat.strongRecOn generalizing bs with
  | ind n ih =>
    by_cases hp : ∃ a rest, m.poll bs = (.done (.ok a), rest)
    · obtain ⟨a, rest, hp⟩ := hp
      have hshorter := h.poll_length hp
      obtain ⟨used, rfl, hused⟩ := Reader.poll_suffix hp
      rw [frames_cons h hused, List.append_assoc, frames_cons h hused]
      exact List.prefix_cons_inj a |>.mpr (ih rest.length (hlength ▸ hshorter) rfl)
    · rw [frames_eq_nil fun a rest hdone => hp ⟨a, rest, hdone⟩]
      exact List.nil_prefix

/-- A read that comes to a result on a stream has come to it before the stream ends. -/
theorem Reader.poll_of_run {m : Reader ε α} {bs rest : List UInt8} {a : α} (h : m.run bs = (.ok a, rest)) :
    m.poll bs = (.done (.ok a), rest) := by
  rw [run_eq_poll] at h
  split at h
  · next r rest' hp =>
    rw [hp]
    cases h
    rfl
  · cases h

end Framing

end ByteStream

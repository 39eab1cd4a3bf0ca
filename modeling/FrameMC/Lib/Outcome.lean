import Mathlib.Data.List.Basic

/-!
# Outcomes and byte cursors

A call comes back with a value, with an error it reports, or it panics.
`Outcome` keeps the panic apart from the error, so "never panics" is a
statement about a definition and not about its translation.

`Decoder` threads the unread bytes of an in-memory cursor. Its primitives
panic where the buffer operations they stand for do: reading, slicing or
advancing past the end.
-/

namespace ByteStream

/-- A value, a reported error, or a panic. -/
inductive Outcome (ε α : Type) where
  | ok (a : α)
  | err (e : ε)
  | panic
  deriving DecidableEq, Repr

namespace Outcome

variable {ε α β γ : Type}

/-- Run the continuation on a value; an error or a panic ends the computation. -/
def bind (x : Outcome ε α) (f : α → Outcome ε β) : Outcome ε β :=
  match x with
  | .ok a => f a
  | .err e => .err e
  | .panic => .panic

instance : Monad (Outcome ε) where
  pure := .ok
  bind := bind

@[simp] theorem pure_eq (a : α) : (pure a : Outcome ε α) = .ok a := rfl
@[simp] theorem ok_bind (a : α) (f : α → Outcome ε β) : (.ok a >>= f) = f a := rfl
@[simp] theorem err_bind (e : ε) (f : α → Outcome ε β) : (.err e >>= f) = .err e := rfl
@[simp] theorem panic_bind (f : α → Outcome ε β) : ((.panic : Outcome ε α) >>= f) = .panic := rfl

theorem bind_assoc (x : Outcome ε α) (f : α → Outcome ε β) (g : β → Outcome ε γ) :
    ((x >>= f) >>= g) = (x >>= fun a => f a >>= g) := by
  cases x <;> rfl

theorem bind_eq_ok {x : Outcome ε α} {f : α → Outcome ε β} {b : β} :
    (x >>= f) = .ok b ↔ ∃ a, x = .ok a ∧ f a = .ok b := by
  cases x <;> simp

theorem bind_eq_panic {x : Outcome ε α} {f : α → Outcome ε β} :
    (x >>= f) = .panic ↔ x = .panic ∨ ∃ a, x = .ok a ∧ f a = .panic := by
  cases x <;> simp

/-- The value, if there is one (`Result::ok`). -/
def toOption : Outcome ε α → Option α
  | .ok a => some a
  | _ => none

/-- `Option::ok_or`. -/
def ofOption (e : ε) : Option α → Outcome ε α
  | some a => .ok a
  | none => .err e

/-- A result and what is left of the input, which is looked at behind a value only. -/
def withRest : Outcome ε α × List UInt8 → Outcome ε (α × List UInt8)
  | (.ok a, rest) => .ok (a, rest)
  | (.err e, _) => .err e
  | (.panic, _) => .panic

@[simp] theorem ofOption_some (e : ε) (a : α) : ofOption e (some a) = .ok a := rfl
@[simp] theorem ofOption_none (e : ε) : ofOption e (none : Option α) = .err e := rfl

/-- The call comes back, with a value or with an error. -/
def Returns (x : Outcome ε α) : Prop := (∃ a, x = .ok a) ∨ ∃ e, x = .err e

theorem returns_iff {x : Outcome ε α} : x.Returns ↔ x ≠ .panic := by
  cases x with
  | ok a => exact iff_of_true (.inl ⟨a, rfl⟩) nofun
  | err e => exact iff_of_true (.inr ⟨e, rfl⟩) nofun
  | panic => exact iff_of_false (by rintro (⟨_, ⟨⟩⟩ | ⟨_, ⟨⟩⟩)) (absurd rfl)

theorem Returns.ok (a : α) : Returns (.ok a : Outcome ε α) := .inl ⟨a, rfl⟩

theorem Returns.err (e : ε) : Returns (.err e : Outcome ε α) := .inr ⟨e, rfl⟩

theorem Returns.ofOption (e : ε) (a : Option α) : (ofOption e a).Returns := by
  cases a with
  | none => exact .err e
  | some a => exact .ok a

theorem Returns.bind {x : Outcome ε α} {f : α → Outcome ε β} (hx : x.Returns) (hf : ∀ a, (f a).Returns) :
    (x >>= f).Returns := by
  rcases hx with ⟨a, rfl⟩ | ⟨e, rfl⟩
  · exact hf a
  · exact .err e

theorem Returns.ite {c : Prop} [Decidable c] {x y : Outcome ε α} (hx : c → x.Returns) (hy : ¬ c → y.Returns) :
    (if c then x else y).Returns := by
  by_cases h : c
  · rw [if_pos h]
    exact hx h
  · rw [if_neg h]
    exact hy h

end Outcome

/-- A decoder over the unread bytes of a cursor. -/
abbrev Decoder (ε α : Type) : Type := List UInt8 → Outcome ε (α × List UInt8)

namespace Decoder

variable {ε α β : Type}

instance : Monad (Decoder ε) where
  pure a := fun bs => .ok (a, bs)
  bind m f := fun bs => Outcome.bind (m bs) fun r => f r.1 r.2

@[simp] theorem pure_apply (a : α) (bs : List UInt8) : (pure a : Decoder ε α) bs = .ok (a, bs) := rfl

@[simp] theorem bind_apply (m : Decoder ε α) (f : α → Decoder ε β) (bs : List UInt8) :
    (m >>= f) bs = (m bs >>= fun r => f r.1 r.2) := rfl

@[simp] theorem map_apply (f : α → β) (m : Decoder ε α) (bs : List UInt8) :
    (f <$> m) bs = (m bs >>= fun r => .ok (f r.1, r.2)) := rfl

/-- Report an error. -/
def fail (e : ε) : Decoder ε α := fun _ => .err e

/-- `Buf::remaining`. -/
def remaining : Decoder ε Nat := fun bs => .ok (bs.length, bs)

/-- `Buf::get_u8`: panics on an empty cursor. -/
def getU8 : Decoder ε UInt8
  | [] => .panic
  | b :: bs => .ok (b, bs)

/-- `&cursor[..n]`: panics past the end, and does not advance. -/
def slice (n : Nat) : Decoder ε (List UInt8) := fun bs =>
  if n ≤ bs.length then .ok (bs.take n, bs) else .panic

/-- `cursor[i]`: panics past the end. -/
def index (i : Nat) : Decoder ε UInt8 := fun bs =>
  match bs[i]? with
  | some b => .ok (b, bs)
  | none => .panic

/-- `Buf::advance`: panics past the end. -/
def advance (n : Nat) : Decoder ε Unit := fun bs =>
  if n ≤ bs.length then .ok ((), bs.drop n) else .panic

/-- The bytes the cursor still holds, all of them taken. -/
def takeRest : Decoder ε (List UInt8) := fun bs => .ok (bs, [])

/-- Lift an outcome that reads nothing. -/
def lift (x : Outcome ε α) : Decoder ε α := fun bs => x >>= fun a => .ok (a, bs)

@[simp] theorem fail_apply (e : ε) (bs : List UInt8) : (fail e : Decoder ε α) bs = .err e := rfl
@[simp] theorem remaining_apply (bs : List UInt8) : (remaining : Decoder ε Nat) bs = .ok (bs.length, bs) := rfl
@[simp] theorem getU8_nil : (getU8 : Decoder ε UInt8) [] = .panic := rfl
@[simp] theorem getU8_cons (b : UInt8) (bs : List UInt8) :
    (getU8 : Decoder ε UInt8) (b :: bs) = .ok (b, bs) := rfl
@[simp] theorem takeRest_apply (bs : List UInt8) : (takeRest : Decoder ε (List UInt8)) bs = .ok (bs, []) := rfl
@[simp] theorem lift_ok (a : α) (bs : List UInt8) : (lift (.ok a) : Decoder ε α) bs = .ok (a, bs) := rfl
@[simp] theorem lift_err (e : ε) (bs : List UInt8) : (lift (.err e) : Decoder ε α) bs = .err e := rfl

@[simp] theorem ite_apply (c : Prop) [Decidable c] (x y : Decoder ε α) (bs : List UInt8) :
    (if c then x else y) bs = if c then x bs else y bs := by
  split <;> rfl

theorem slice_of_le {n : Nat} {bs : List UInt8} (h : n ≤ bs.length) :
    (slice n : Decoder ε (List UInt8)) bs = .ok (bs.take n, bs) := if_pos h

theorem advance_of_le {n : Nat} {bs : List UInt8} (h : n ≤ bs.length) :
    (advance n : Decoder ε Unit) bs = .ok ((), bs.drop n) := if_pos h

/-! ## Undoing an encoder -/

section Undoes

variable {encode : α → List UInt8} {decode : Decoder ε α}

/-- What is encoded is read back, whatever comes after it. -/
def Undoes (decode : Decoder ε α) (encode : α → List UInt8) : Prop :=
  ∀ x rest, decode (encode x ++ rest) = .ok (x, rest)

theorem Undoes.append_inj (h : Undoes decode encode) {x y : α} {r s : List UInt8}
    (e : encode x ++ r = encode y ++ s) : x = y ∧ r = s := by
  have hxy := h x r
  rw [e, h y s, Outcome.ok.injEq, Prod.mk.injEq] at hxy
  exact ⟨hxy.1.symm, hxy.2.symm⟩

/-- Values written one after another are told apart, if it is known how many they are. -/
theorem Undoes.flatMap_inj (h : Undoes decode encode) {xs ys : List α} (hlen : xs.length = ys.length)
    (e : xs.flatMap encode = ys.flatMap encode) : xs = ys := by
  induction xs generalizing ys with
  | nil => exact (List.length_eq_zero_iff.mp hlen.symm).symm
  | cons x xs ih =>
    cases ys with
    | nil => cases hlen
    | cons y ys =>
      rw [List.flatMap_cons, List.flatMap_cons] at e
      obtain ⟨rfl, htail⟩ := h.append_inj e
      rw [ih (Nat.succ.inj hlen) htail]

end Undoes

/-! ## Staying within the cursor -/

/-- From `bs` the decoder does not panic, and leaves no more than it was given. -/
def WithinAt (m : Decoder ε α) (bs : List UInt8) : Prop :=
  m bs ≠ .panic ∧ ∀ a rest, m bs = .ok (a, rest) → rest.length ≤ bs.length

/-- The decoder stays within every cursor. -/
def Within (m : Decoder ε α) : Prop := ∀ bs, WithinAt m bs

theorem withinAt_of_ok {m : Decoder ε α} {bs rest : List UInt8} {a : α} (h : m bs = .ok (a, rest))
    (hlen : rest.length ≤ bs.length) : WithinAt m bs := by
  refine ⟨by simp [h], ?_⟩
  intro a' rest' h'
  rw [h] at h'
  simp only [Outcome.ok.injEq, Prod.mk.injEq] at h'
  rw [← h'.2]
  exact hlen

theorem withinAt_of_err {m : Decoder ε α} {bs : List UInt8} {e : ε} (h : m bs = .err e) : WithinAt m bs := by
  refine ⟨by simp [h], ?_⟩
  intro a rest h'
  rw [h] at h'
  cases h'

theorem WithinAt.bind {m : Decoder ε α} {f : α → Decoder ε β} {bs : List UInt8} (hm : WithinAt m bs)
    (hf : ∀ a rest, m bs = .ok (a, rest) → WithinAt (f a) rest) : WithinAt (m >>= f) bs := by
  refine ⟨?_, ?_⟩
  · intro h
    rcases Outcome.bind_eq_panic.mp h with h | ⟨r, hr, h⟩
    · exact hm.1 h
    · exact (hf r.1 r.2 hr).1 h
  · intro b rest h
    obtain ⟨r, hr, h⟩ := Outcome.bind_eq_ok.mp h
    exact Nat.le_trans ((hf r.1 r.2 hr).2 b rest h) (hm.2 r.1 r.2 hr)

theorem WithinAt.ite {c : Prop} [Decidable c] {x y : Decoder ε α} {bs : List UInt8} (hx : c → WithinAt x bs)
    (hy : ¬ c → WithinAt y bs) : WithinAt (if c then x else y) bs := by
  by_cases h : c
  · rw [if_pos h]
    exact hx h
  · rw [if_neg h]
    exact hy h

theorem WithinAt.slice {n : Nat} {bs : List UInt8} {f : List UInt8 → Decoder ε β} (h : n ≤ bs.length)
    (hf : WithinAt (f (bs.take n)) bs) : WithinAt (Decoder.slice n >>= f) bs := by
  apply (withinAt_of_ok (slice_of_le h) (Nat.le_refl _)).bind
  intro bytes rest hslice
  rw [slice_of_le h] at hslice
  obtain ⟨rfl, rfl⟩ := Prod.mk.inj (Outcome.ok.inj hslice)
  exact hf

theorem WithinAt.advance {n : Nat} {bs : List UInt8} (h : n ≤ bs.length) :
    WithinAt (advance n : Decoder ε Unit) bs := by
  apply withinAt_of_ok (advance_of_le h)
  rw [List.length_drop]
  omega

theorem WithinAt.getU8 {bs : List UInt8} (h : 1 ≤ bs.length) : WithinAt (getU8 : Decoder ε UInt8) bs := by
  cases bs with
  | nil => simp at h
  | cons b bs => exact withinAt_of_ok (getU8_cons b bs) (by simp)

theorem WithinAt.lift {x : Outcome ε α} {f : α → Decoder ε β} {bs : List UInt8} (hx : x.Returns)
    (hf : ∀ a, WithinAt (f a) bs) : WithinAt (Decoder.lift x >>= f) bs := by
  rcases hx with ⟨a, rfl⟩ | ⟨e, rfl⟩
  · exact hf a
  · exact withinAt_of_err rfl

theorem Within.pure (a : α) : Within (Pure.pure a : Decoder ε α) :=
  fun bs => withinAt_of_ok (pure_apply a bs) (Nat.le_refl _)

theorem Within.fail (e : ε) : Within (fail e : Decoder ε α) := fun bs => ⟨by simp, by simp⟩

theorem Within.bind {m : Decoder ε α} {f : α → Decoder ε β} (hm : Within m) (hf : ∀ a, Within (f a)) :
    Within (m >>= f) :=
  fun bs => (hm bs).bind fun a rest _ => hf a rest

/-- Where the bounds no longer matter. -/
theorem WithinAt.andThen {m : Decoder ε α} {f : α → Decoder ε β} {bs : List UInt8} (hm : WithinAt m bs)
    (hf : ∀ a, Within (f a)) : WithinAt (m >>= f) bs :=
  hm.bind fun a rest _ => hf a rest

theorem Within.map {f : α → β} {m : Decoder ε α} (hm : Within m) : Within (f <$> m) := by
  intro bs
  exact (hm bs).bind fun a rest _ => Within.pure (f a) rest

theorem Within.ite {c : Prop} [Decidable c] {x y : Decoder ε α} (hx : c → Within x) (hy : ¬ c → Within y) :
    Within (if c then x else y) :=
  fun bs => .ite (fun h => hx h bs) fun h => hy h bs

theorem Within.lift {x : Outcome ε α} (hx : x.Returns) : Within (lift x : Decoder ε α) := by
  intro bs
  rcases hx with ⟨a, rfl⟩ | ⟨e, rfl⟩
  · exact withinAt_of_ok (lift_ok a bs) (Nat.le_refl _)
  · exact withinAt_of_err (lift_err e bs)

theorem Within.takeRest : Within (takeRest : Decoder ε (List UInt8)) :=
  fun bs => withinAt_of_ok (takeRest_apply bs) (Nat.zero_le _)

/-- What is done with the value returns, if the decoder stays within the cursor. -/
theorem Within.returns {m : Decoder ε α} {f : α × List UInt8 → Outcome ε β} (hm : Within m)
    (hf : ∀ r, (f r).Returns) (bs : List UInt8) : (m bs >>= f).Returns :=
  .bind (Outcome.returns_iff.mpr (hm bs).1) hf

/-- How many bytes there are bounds what may follow. -/
theorem Within.remaining {f : Nat → Decoder ε α} (hf : ∀ bs, WithinAt (f bs.length) bs) :
    Within (Decoder.remaining >>= f) :=
  fun bs => hf bs

end Decoder

end ByteStream

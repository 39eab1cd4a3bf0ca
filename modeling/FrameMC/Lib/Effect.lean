import Mathlib.Data.List.Basic

/-!
# Effects on a state

`Effect σ ε α` changes a state and comes back with a value or an error; what
it changed before an error stays changed. Two ways to reason about one, both by
rules that follow the program's shape: `Keeps R` relates the state after to the
state before by a preorder `R`, whatever the result; `Ensures I P m S` says
that from `P` the state after is in `I` even where `m` fails, and what `S` says
of a result.
-/

/-- A computation on a state that comes back with a value or an error. -/
def Effect (σ ε α : Type) : Type := σ → Except ε α × σ

namespace Effect

variable {σ ε α β : Type}

def bind (m : Effect σ ε α) (f : α → Effect σ ε β) : Effect σ ε β := fun s =>
  match m s with
  | (.ok a, s') => f a s'
  | (.error e, s') => (.error e, s')

instance : Monad (Effect σ ε) where
  pure a := fun s => (.ok a, s)
  bind := bind

def throw (e : ε) : Effect σ ε α := fun s => (.error e, s)

def get : Effect σ ε σ := fun s => (.ok s, s)

def modify (f : σ → σ) : Effect σ ε Unit := fun s => (.ok (), f s)

/-- Run for the effects only: an error is dropped. -/
def attempt (m : Effect σ ε α) : Effect σ ε Unit := fun s => (.ok (), (m s).2)

/-- Run on a part of the state. -/
def focus {τ : Type} (get : σ → τ) (put : σ → τ → σ) (m : Effect τ ε α) : Effect σ ε α := fun s =>
  ((m (get s)).1, put s (m (get s)).2)

/-- Go on with `h` after an error. -/
def handle {ε' : Type} (m : Effect σ ε α) (h : ε → Effect σ ε' α) : Effect σ ε' α := fun s =>
  match m s with
  | (.ok a, s') => (.ok a, s')
  | (.error e, s') => h e s'

/-- Run for each element in turn. -/
def forEach (xs : List β) (f : β → Effect σ ε Unit) : Effect σ ε Unit :=
  match xs with
  | [] => pure ()
  | x :: xs => do
    f x
    forEach xs f

@[simp] theorem pure_apply (a : α) (s : σ) : (pure a : Effect σ ε α) s = (.ok a, s) := rfl

theorem bind_apply (m : Effect σ ε α) (f : α → Effect σ ε β) (s : σ) :
    (m >>= f) s = match m s with
      | (.ok a, s') => f a s'
      | (.error e, s') => (.error e, s') := rfl

@[simp] theorem throw_apply (e : ε) (s : σ) : (throw e : Effect σ ε α) s = (.error e, s) := rfl
@[simp] theorem get_bind (f : σ → Effect σ ε β) (s : σ) : (get >>= f) s = f s s := rfl
@[simp] theorem modify_apply (f : σ → σ) (s : σ) : (modify f : Effect σ ε Unit) s = (.ok (), f s) := rfl
@[simp] theorem modify_bind (g : σ → σ) (f : Unit → Effect σ ε β) (s : σ) :
    (modify g >>= f) s = f () (g s) := rfl
@[simp] theorem attempt_apply (m : Effect σ ε α) (s : σ) : attempt m s = (.ok (), (m s).2) := rfl
@[simp] theorem attempt_bind (m : Effect σ ε α) (f : Unit → Effect σ ε β) (s : σ) :
    (attempt m >>= f) s = f () (m s).2 := rfl
@[simp] theorem throw_bind (e : ε) (f : α → Effect σ ε β) (s : σ) :
    (throw e >>= f) s = (.error e, s) := rfl
@[simp] theorem handle_apply {ε' : Type} (m : Effect σ ε α) (h : ε → Effect σ ε' α) (s : σ) :
    handle m h s = match m s with
      | (.ok a, s') => (.ok a, s')
      | (.error e, s') => h e s' := rfl
@[simp] theorem pure_bind_apply (a : α) (f : α → Effect σ ε β) (s : σ) : (pure a >>= f) s = f a s := rfl

/-- A result put in place of another's leaves the state. -/
theorem bind_pure_snd (m : Effect σ ε α) (b : β) (s : σ) : ((m >>= fun _ => pure b) s).2 = (m s).2 := by
  rw [bind_apply]
  rcases m s with ⟨_ | _, _⟩ <;> rfl

/-- After a computation that succeeds, the rest runs on what it left. -/
theorem bind_snd_of_ok {m : Effect σ ε α} {a : α} {s : σ} (h : (m s).1 = .ok a) (f : α → Effect σ ε β) :
    ((m >>= f) s).2 = (f a (m s).2).2 := by
  rw [bind_apply]
  rcases hm : m s with ⟨r, s'⟩
  rw [hm] at h
  cases h
  rfl

theorem forEach_attempt_ok (xs : List β) (f : β → Effect σ ε α) (s : σ) :
    (forEach xs (fun x => attempt (f x)) s).1 = .ok () := by
  induction xs generalizing s with
  | nil => rfl
  | cons x xs ih => exact ih _

/-- A sequence has succeeded where its first part and its rest have. -/
theorem bind_eq_ok {m : Effect σ ε α} {f : α → Effect σ ε β} {s s'' : σ} {b : β} :
    (m >>= f) s = (.ok b, s'') ↔ ∃ a s', m s = (.ok a, s') ∧ f a s' = (.ok b, s'') := by
  rw [bind_apply]
  rcases m s with ⟨_ | a, s'⟩
  · exact ⟨nofun, nofun⟩
  · exact ⟨fun h => ⟨a, s', rfl, h⟩, fun ⟨_, _, h, h'⟩ => by cases h; exact h'⟩

theorem ite_apply (c : Prop) [Decidable c] (x y : Effect σ ε α) (s : σ) :
    (if c then x else y) s = if c then x s else y s := by
  split <;> rfl

/-! ## What the state keeps -/

/-- Whatever comes of `m`, the state after it is `R`-related to the state before. -/
def Keeps (R : σ → σ → Prop) (m : Effect σ ε α) : Prop := ∀ s, R s (m s).2

/-- `R` holds of doing nothing and of one step after another. -/
structure Steps (R : σ → σ → Prop) : Prop where
  refl : ∀ s, R s s
  trans : ∀ {s s' s''}, R s s' → R s' s'' → R s s''

section Keeps

variable {R : σ → σ → Prop} (hR : Steps R)

include hR

theorem keeps_pure (a : α) : Keeps R (pure a : Effect σ ε α) := fun s => hR.refl s

theorem keeps_throw (e : ε) : Keeps R (throw e : Effect σ ε α) := fun s => hR.refl s

/-- From one state: what comes behind `m` may use what `m` has come to. -/
theorem steps_bind {m : Effect σ ε α} {f : α → Effect σ ε β} {s : σ} (hm : R s (m s).2)
    (hf : ∀ a s', m s = (.ok a, s') → R s' (f a s').2) : R s ((m >>= f) s).2 := by
  rw [bind_apply]
  rcases hr : m s with ⟨r, s'⟩
  rw [hr] at hm
  cases r with
  | ok a => exact hR.trans hm (hf a s' hr)
  | error e => exact hm

theorem keeps_bind {m : Effect σ ε α} {f : α → Effect σ ε β} (hm : Keeps R m) (hf : ∀ a, Keeps R (f a)) :
    Keeps R (m >>= f) := by
  intro s
  have h := hm s
  rw [bind_apply]
  rcases hr : m s with ⟨r, s'⟩
  rw [hr] at h
  cases r with
  | ok a => exact hR.trans h (hf a s')
  | error e => exact h

theorem keeps_forEach {xs : List β} {f : β → Effect σ ε Unit} (hf : ∀ x ∈ xs, Keeps R (f x)) :
    Keeps R (forEach xs f) := by
  induction xs with
  | nil => exact keeps_pure hR ()
  | cons x xs ih =>
    exact keeps_bind hR (hf x (List.mem_cons_self ..)) fun _ => ih fun y hy => hf y (List.mem_cons_of_mem x hy)

theorem keeps_handle {ε' : Type} {m : Effect σ ε α} {h : ε → Effect σ ε' α} (hm : Keeps R m)
    (hh : ∀ e, Keeps R (h e)) : Keeps R (handle m h) := by
  intro s
  have hs := hm s
  rw [handle_apply]
  rcases hr : m s with ⟨r, s'⟩
  rw [hr] at hs
  cases r with
  | ok a => exact hs
  | error e => exact hR.trans hs (hh e s')

end Keeps

section Keeps

variable {R : σ → σ → Prop}

/-- What `m` does to its part of the state, it does to the state. -/
theorem keeps_focus {τ : Type} {Q : τ → τ → Prop} {get : σ → τ} {put : σ → τ → σ} {m : Effect τ ε α}
    (hm : Keeps Q m) (h : ∀ s t, Q (get s) t → R s (put s t)) : Keeps R (focus get put m) :=
  fun s => h s _ (hm (get s))

/-- A program that looks at the state first may use what it sees. -/
theorem keeps_get_bind {f : σ → Effect σ ε β} (hf : ∀ s, R s (f s s).2) : Keeps R (get >>= f) := hf

theorem keeps_modify {f : σ → σ} (hf : ∀ s, R s (f s)) : Keeps R (modify f : Effect σ ε Unit) := hf

theorem keeps_attempt {m : Effect σ ε α} (hm : Keeps R m) : Keeps R (attempt m) := hm

theorem keeps_ite {c : Prop} [Decidable c] {x y : Effect σ ε α} (hx : c → Keeps R x) (hy : ¬c → Keeps R y) :
    Keeps R (if c then x else y) := by
  split
  · next h => exact hx h
  · next h => exact hy h

end Keeps

/-! ## Results and failures -/

/-- From a state in `P`: whatever comes of `m`, the state after it is in `I`,
and a result comes with a state as `S` says. -/
def Ensures (I P : σ → Prop) (m : Effect σ ε α) (S : α → σ → Prop) : Prop :=
  ∀ s, P s → I (m s).2 ∧ ∀ a, (m s).1 = .ok a → S a (m s).2

section Ensures

variable {I P P' : σ → Prop} {S S' : α → σ → Prop}

theorem ensures_pure {a : α} (h : ∀ s, P s → I s ∧ S a s) : Ensures I P (pure a : Effect σ ε α) S := by
  intro s hs
  obtain ⟨hI, hS⟩ := h s hs
  refine ⟨hI, fun b hb => ?_⟩
  cases hb
  exact hS

theorem ensures_throw {e : ε} (h : ∀ s, P s → I s) : Ensures I P (throw e : Effect σ ε α) S :=
  fun s hs => ⟨h s hs, fun _ hb => nomatch hb⟩

theorem ensures_bind {m : Effect σ ε α} {f : α → Effect σ ε β} {T : β → σ → Prop} (hm : Ensures I P m S)
    (hf : ∀ a, Ensures I (S a) (f a) T) : Ensures I P (m >>= f) T := by
  intro s hs
  obtain ⟨hI, hS⟩ := hm s hs
  rw [bind_apply]
  rcases hr : m s with ⟨r, s'⟩
  rw [hr] at hI hS
  cases r with
  | ok a => exact hf a s' (hS a rfl)
  | error e => exact ⟨hI, fun _ hb => nomatch hb⟩

theorem ensures_mono {m : Effect σ ε α} (hm : Ensures I P m S) (hP : ∀ s, P' s → P s)
    (hS : ∀ a s, S a s → S' a s) : Ensures I P' m S' :=
  fun s hs => ⟨(hm s (hP s hs)).1, fun a ha => hS a _ ((hm s (hP s hs)).2 a ha)⟩

theorem ensures_ite {c : Prop} [Decidable c] {x y : Effect σ ε α} (hx : c → Ensures I P x S)
    (hy : ¬c → Ensures I P y S) : Ensures I P (if c then x else y) S := by
  split
  · next h => exact hx h
  · next h => exact hy h

/-- A fact that does not depend on the state is at hand throughout. -/
theorem ensures_of_fact {φ : Prop} {m : Effect σ ε α} (h : φ → Ensures I P m S) :
    Ensures I (fun s => φ ∧ P s) m S := fun s hs => h hs.1 s hs.2

theorem ensures_get_bind {f : σ → Effect σ ε β} {T : β → σ → Prop} (hf : ∀ s, Ensures I P (f s) T) :
    Ensures I P (get >>= f) T := fun s hs => hf s s hs

/-- After an error the handler starts from what is known of it. -/
theorem ensures_handle {ε' : Type} {J : σ → Prop} {m : Effect σ ε α} {h : ε → Effect σ ε' α}
    (hm : Ensures J P m S) (hS : ∀ a s, S a s → I s) (hh : ∀ e, Ensures I J (h e) S) :
    Ensures I P (handle m h) S := by
  intro s hs
  obtain ⟨hJ, hok⟩ := hm s hs
  rw [handle_apply]
  rcases hr : m s with ⟨r, s'⟩
  rw [hr] at hJ hok
  cases r with
  | ok a =>
    refine ⟨hS a s' (hok a rfl), fun b hb => ?_⟩
    cases hb
    exact hok a rfl
  | error e => exact hh e s' hJ

/-- What `m` ensures of its part of the state, and what the rest of the state keeps. -/
theorem ensures_focus {τ : Type} (get : σ → τ) (put : σ → τ → σ) {m : Effect τ ε α} {J Q : τ → Prop}
    {U : α → τ → Prop} (hm : Ensures J Q m U) {B : σ → Prop} (hget : ∀ s t, get (put s t) = t)
    (hB : ∀ s t, B s → B (put s t)) :
    Ensures (fun s => J (get s) ∧ B s) (fun s => Q (get s) ∧ B s) (focus get put m) fun a s => U a (get s) ∧ B s := by
  rintro s ⟨hQ, hs⟩
  obtain ⟨hJ, hU⟩ := hm (get s) hQ
  refine ⟨⟨?_, hB _ _ hs⟩, fun a ha => ⟨?_, hB _ _ hs⟩⟩
  · rwa [focus, hget]
  · rw [focus, hget]
    exact hU a ha

end Ensures

end Effect

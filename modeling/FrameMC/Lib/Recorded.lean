import FrameMC.Lib.Effect

/-!
# Effects that keep a record

A program together with the calls it makes to the outside, written down beside
its state. `Records` says that a program with a record is a given one without;
its rules follow the program's shape, as those of `Keeps` do.
-/

namespace Effect

variable {σ ε α β κ : Type}

/-- Nothing is written down. -/
def silently (m : Effect σ ε α) : Effect (σ × List κ) ε α := focus Prod.fst (fun s t => (t, s.2)) m

/-- A call, written down, and its answer. -/
def asking (call : κ) (answer : α) : Effect (σ × List κ) ε α := fun s => (.ok answer, (s.1, s.2 ++ [call]))

/-- The calls written down from a state on. -/
def calls (m : Effect (σ × List κ) ε α) (s : σ) : List κ := (m (s, [])).2.2

/-- But for what is written down, `m'` is `m`. -/
def Records (m' : Effect (σ × List κ) ε α) (m : Effect σ ε α) : Prop :=
  ∀ s written, (m' (s, written)).1 = (m s).1 ∧ (m' (s, written)).2.1 = (m s).2

section Records

variable {m : Effect σ ε α} {m' : Effect (σ × List κ) ε α}

theorem records_silently (m : Effect σ ε α) : Records (silently m : Effect (σ × List κ) ε α) m := fun _ _ => ⟨rfl, rfl⟩

theorem records_pure (a : α) : Records (pure a : Effect (σ × List κ) ε α) (pure a : Effect σ ε α) := fun _ _ => ⟨rfl, rfl⟩

theorem records_bind {f : α → Effect σ ε β} {f' : α → Effect (σ × List κ) ε β} (hm : Records m' m)
    (hf : ∀ a, Records (f' a) (f a)) : Records (m' >>= f') (m >>= f) := by
  intro s written
  have h := hm s written
  rw [bind_apply, bind_apply]
  rcases hm' : m' (s, written) with ⟨r, s', written'⟩
  rcases hm : m s with ⟨r', t⟩
  rw [hm', hm] at h
  obtain ⟨rfl, rfl⟩ := h
  cases r with
  | ok a => exact hf a s' written'
  | error e => exact ⟨rfl, rfl⟩

/-- What is asked is answered, and the program goes on with the answer. -/
theorem records_asking {f' : β → Effect (σ × List κ) ε α} {answer : β} (call : κ) (h : Records (f' answer) m) :
    Records (asking call answer >>= f') m := fun s written => h s (written ++ [call])

theorem records_ite {c : Prop} [Decidable c] {n : Effect σ ε α} {n' : Effect (σ × List κ) ε α}
    (hm : c → Records m' m) (hn : ¬c → Records n' n) : Records (if c then m' else n') (if c then m else n) := by
  split
  · next h => exact hm h
  · next h => exact hn h

end Records

@[simp] theorem calls_pure (a : α) (s : σ) : (pure a : Effect (σ × List κ) ε α).calls s = [] := rfl

@[simp] theorem silently_get_bind (f : σ → Effect (σ × List κ) ε β) (s : σ) (written : List κ) :
    (silently get >>= f) (s, written) = f s (s, written) := rfl

@[simp] theorem silently_modify_bind (g : σ → σ) (f : Unit → Effect (σ × List κ) ε β) (s : σ) (written : List κ) :
    (silently (modify g) >>= f) (s, written) = f () (g s, written) := rfl

/-- A program that is over writes down no more. -/
theorem silently_bind_pure_snd (m : Effect σ ε α) (b : β) (s : σ) (written : List κ) :
    ((silently m >>= fun _ => pure b : Effect (σ × List κ) ε β) (s, written)).2.2 = written := by
  rw [bind_pure_snd, silently, focus]

end Effect

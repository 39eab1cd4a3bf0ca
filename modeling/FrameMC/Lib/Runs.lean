/-!
# Runs

A run is a list of steps, `runAll` the state it leads to, and `Along` says that
every step meets a condition in the state it is taken in. What such steps keep
is kept by the run (`runAll_invariant`). Where the condition is also necessary
for a step to keep a property, the property holds all through a run if and only
if every step meets it (`always_iff_along`); and where what is lost is lost for
good, it is enough to look at the end (`runAll_iff_along`).
-/

variable {σ α : Type} (step : σ → α → σ) (ok : σ → α → Prop)

/-- The state after all the steps of a list. -/
def runAll (s : σ) (steps : List α) : σ := steps.foldl step s

/-- Every step of the list meets the condition in the state it is taken in. -/
def Along (s : σ) : List α → Prop
  | [] => True
  | a :: steps => ok s a ∧ Along (step s a) steps

variable {step ok}

theorem runAll_invariant {I : σ → Prop} (hstep : ∀ s a, I s → ok s a → I (step s a)) {s : σ} (hs : I s)
    {steps : List α} (h : Along step ok s steps) : I (runAll step s steps) := by
  induction steps generalizing s with
  | nil => exact hs
  | cons a steps ih => exact ih (hstep s a hs h.1) h.2

theorem along_true (s : σ) (steps : List α) : Along step (fun _ _ => True) s steps := by
  induction steps generalizing s with
  | nil => trivial
  | cons a steps ih => exact ⟨trivial, ih _⟩

theorem always_iff_along {I P : σ → Prop} (hI : ∀ s a, I s → I (step s a))
    (hok : ∀ s a, I s → P s → (P (step s a) ↔ ok s a)) {s : σ} (hs : I s) (hP : P s) (steps : List α) :
    (∀ n, P (runAll step s (steps.take n))) ↔ Along step ok s steps := by
  induction steps generalizing s with
  | nil => exact iff_of_true (fun n => by rwa [List.take_nil]) trivial
  | cons a steps ih =>
    constructor
    · intro h
      have hP' : P (step s a) := h 1
      exact ⟨(hok s a hs hP).mp hP', (ih (hI s a hs) hP').mp fun n => h (n + 1)⟩
    · intro h n
      have hP' := (hok s a hs hP).mpr h.1
      cases n with
      | zero => exact hP
      | succ n => exact (ih (hI s a hs) hP').mpr h.2 n

theorem runAll_iff_along {I P : σ → Prop} (hI : ∀ s a, I s → I (step s a))
    (hok : ∀ s a, I s → P s → (P (step s a) ↔ ok s a)) (hback : ∀ s a, I s → P (step s a) → P s)
    {s : σ} (hs : I s) (hP : P s) (steps : List α) : P (runAll step s steps) ↔ Along step ok s steps := by
  have hlost : ∀ (steps : List α) (s : σ), I s → P (runAll step s steps) → P s := by
    intro steps
    induction steps with
    | nil => exact fun _ _ h => h
    | cons a steps ih => exact fun s hs h => hback s a hs (ih _ (hI s a hs) h)
  induction steps generalizing s with
  | nil => exact iff_of_true hP trivial
  | cons a steps ih =>
    have hs' := hI s a hs
    constructor
    · intro h
      have hP' := hlost steps _ hs' h
      exact ⟨(hok s a hs hP).mp hP', (ih hs' hP').mp h⟩
    · intro h
      exact (ih hs' ((hok s a hs hP).mpr h.1)).mpr h.2

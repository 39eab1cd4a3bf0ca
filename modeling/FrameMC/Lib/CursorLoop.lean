import FrameMC.Lib.Outcome

/-!
# Loops over a cursor

`while cursor.has_remaining()` as it runs, turn by turn and without a bound:
`Loop turn s bs r` says that the loop ends, and with what. It ends in one way
only (`Loop.unique`), so a function that counts its turns down computes it as
soon as the count suffices. Where every turn takes a byte, the loop stays within
the cursor if its turns do (`Loop.within`).
-/

namespace ByteStream

namespace Decoder

variable {ε σ : Type} {turn : σ → Decoder ε (σ × Bool)}

/-- The loop ends with `r`. A turn gives the new state, and whether the loop goes on. -/
inductive Loop (turn : σ → Decoder ε (σ × Bool)) : σ → List UInt8 → Outcome ε (σ × List UInt8) → Prop where
  | exhausted (s : σ) : Loop turn s [] (.ok (s, []))
  | left {s s' : σ} {b : UInt8} {bs rest : List UInt8} :
      turn s (b :: bs) = .ok ((s', false), rest) → Loop turn s (b :: bs) (.ok (s', rest))
  | again {s s' : σ} {b : UInt8} {bs rest : List UInt8} {r : Outcome ε (σ × List UInt8)} :
      turn s (b :: bs) = .ok ((s', true), rest) → Loop turn s' rest r → Loop turn s (b :: bs) r
  | failed {s : σ} {b : UInt8} {bs : List UInt8} {e : ε} :
      turn s (b :: bs) = .err e → Loop turn s (b :: bs) (.err e)
  | panicked {s : σ} {b : UInt8} {bs : List UInt8} :
      turn s (b :: bs) = .panic → Loop turn s (b :: bs) .panic

/-- Every turn takes a byte at least. -/
def Advances (turn : σ → Decoder ε (σ × Bool)) : Prop :=
  ∀ s b bs s' goesOn rest, turn s (b :: bs) = .ok ((s', goesOn), rest) → rest.length ≤ bs.length

/-- A loop ends in one way. -/
theorem Loop.unique {s : σ} {bs : List UInt8} {r r' : Outcome ε (σ × List UInt8)} (h : Loop turn s bs r)
    (h' : Loop turn s bs r') : r = r' := by
  induction h with
  | exhausted s =>
    cases h'
    rfl
  | left hturn => cases h' <;> grind
  | again hturn _ ih => cases h' <;> grind
  | failed hturn => cases h' <;> grind
  | panicked hturn => cases h' <;> grind

/-- No turn panics, and so the loop does not. -/
theorem Loop.within (h : Advances turn) (hturn : ∀ s b bs, turn s (b :: bs) ≠ .panic) {s : σ} {bs : List UInt8}
    {r : Outcome ε (σ × List UInt8)} (hr : Loop turn s bs r) :
    r ≠ .panic ∧ ∀ s' rest, r = .ok (s', rest) → rest.length ≤ bs.length := by
  induction hr with
  | exhausted s =>
    refine ⟨nofun, ?_⟩
    rintro s' rest ⟨⟩
    exact Nat.le_refl _
  | left hleft =>
    refine ⟨nofun, ?_⟩
    rintro s' rest ⟨⟩
    exact Nat.le_succ_of_le (h _ _ _ _ _ _ hleft)
  | again hagain _ ih =>
    have hle := h _ _ _ _ _ _ hagain
    refine ⟨ih.1, fun s' rest e => ?_⟩
    exact Nat.le_succ_of_le (Nat.le_trans (ih.2 s' rest e) hle)
  | failed _ => exact ⟨nofun, nofun⟩
  | panicked hpanic => exact absurd hpanic (hturn _ _ _)

end Decoder

end ByteStream

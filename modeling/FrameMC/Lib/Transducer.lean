import Mathlib.Data.List.Basic

/-!
# Transducers

Machines that answer every symbol with one and go on in a new state, such as a
stream cipher. What such a machine makes of a stream does not depend on how the
stream is cut up (`outputs_append`), and a machine that undoes another symbol by
symbol undoes it on streams (`Undoes.outputs`), prefix by prefix.
-/

structure Transducer (σ α β : Type) where
  output : σ → α → β
  next : σ → α → σ

namespace Transducer

variable {σ α β : Type} (m : Transducer σ α β)

/-- The state after some symbols. -/
def after (s : σ) (xs : List α) : σ := xs.foldl m.next s

/-- The answers to some symbols. -/
def outputs (s : σ) : List α → List β
  | [] => []
  | x :: xs => m.output s x :: outputs (m.next s x) xs

@[simp] theorem after_nil (s : σ) : m.after s [] = s := rfl
@[simp] theorem outputs_nil (s : σ) : m.outputs s [] = [] := rfl

theorem after_append (s : σ) (xs ys : List α) : m.after s (xs ++ ys) = m.after (m.after s xs) ys :=
  List.foldl_append

theorem outputs_append (s : σ) (xs ys : List α) :
    m.outputs s (xs ++ ys) = m.outputs s xs ++ m.outputs (m.after s xs) ys := by
  induction xs generalizing s with
  | nil => rfl
  | cons x xs ih =>
    show m.output s x :: m.outputs (m.next s x) (xs ++ ys) = _
    rw [ih]
    rfl

@[simp] theorem outputs_length (s : σ) (xs : List α) : (m.outputs s xs).length = xs.length := by
  induction xs generalizing s with
  | nil => rfl
  | cons x xs ih => rw [outputs, List.length_cons, ih, List.length_cons]

/-- The answers to a prefix are a prefix of the answers. -/
theorem outputs_prefix {xs ys : List α} (h : xs <+: ys) (s : σ) : m.outputs s xs <+: m.outputs s ys := by
  obtain ⟨zs, rfl⟩ := h
  rw [outputs_append]
  exact List.prefix_append ..

variable {m} {m' : Transducer σ β α}

/-- `m'` takes back every answer of `m`, and goes on in the same state. -/
def Undoes (m' : Transducer σ β α) (m : Transducer σ α β) : Prop :=
  ∀ s x, m'.output s (m.output s x) = x ∧ m'.next s (m.output s x) = m.next s x

theorem Undoes.outputs (h : m'.Undoes m) (s : σ) (xs : List α) : m'.outputs s (m.outputs s xs) = xs := by
  induction xs generalizing s with
  | nil => rfl
  | cons x xs ih =>
    obtain ⟨hout, hnext⟩ := h s x
    show m'.output s (m.output s x) :: m'.outputs (m'.next s (m.output s x)) _ = _
    rw [hout, hnext, ih]

end Transducer

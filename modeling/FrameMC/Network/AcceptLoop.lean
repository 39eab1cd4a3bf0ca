import FrameMC.Lib.Runs
import Mathlib.Data.List.Perm.Basic

/-!
# Accepting connections

`start_listener_with_state_on` of `src/network/listener.rs`: the loop that
accepts connections until shutdown, and the semaphore that limits how many are
served at a time. A task gives its permit back when it ends, however it ends.
`accept_loop_bounded` holds for connections, ends and the shutdown in any order.
-/

namespace FrameMC

/-- The loop and the tasks it spawned; a connection goes by its number in the order of arrival. -/
structure AcceptLoop where
  /-- The permits of `connection_semaphore` that are left. -/
  available : Nat
  running : Bool
  arrived : Nat
  serving : List Nat
  finished : List Nat
  turnedAway : List Nat
  deriving DecidableEq

namespace AcceptLoop

/-- `max_conns`. -/
def maxConns (maxPlayers : Int32) : Nat := if maxPlayers ≥ 0 then maxPlayers.toInt.toNat else 1000

def new (maxPlayers : Int32) : AcceptLoop := ⟨maxConns maxPlayers, true, 0, [], [], []⟩

/-- What the loop's `select!` finds, and a task that ends. -/
inductive Happening where
  | accepted
  | acceptFailed (e : String)
  | shutdown
  | ended (connection : Nat)

/-- `try_acquire_owned`, and what becomes of the connection. -/
def tryAcquire (s : AcceptLoop) : AcceptLoop :=
  match s.available with
  | 0 => { s with arrived := s.arrived + 1, turnedAway := s.turnedAway ++ [s.arrived] }
  | available + 1 =>
    { s with available := available, arrived := s.arrived + 1, serving := s.serving ++ [s.arrived] }

def step (s : AcceptLoop) : Happening → AcceptLoop
  | .accepted => if s.running then s.tryAcquire else s
  | .acceptFailed _ => s
  | .shutdown => { s with running := false }
  | .ended connection =>
    if connection ∈ s.serving then
      { s with
        available := s.available + 1
        serving := s.serving.erase connection
        finished := s.finished ++ [connection] }
    else s

def run (maxPlayers : Int32) (happenings : List Happening) : AcceptLoop :=
  runAll step (new maxPlayers) happenings

/-! ## What holds throughout -/

/-- A permit is with the semaphore or with a connection, and every connection
that arrived is in one place. -/
structure Sound (maxConns : Nat) (s : AcceptLoop) : Prop where
  permits : s.available + s.serving.length = maxConns
  once : (s.serving ++ s.finished ++ s.turnedAway).Perm (List.range s.arrived)

variable {n : Nat} {s : AcceptLoop}

theorem Sound.tryAcquire (h : Sound n s) : Sound n s.tryAcquire := by
  have hpermits := h.permits
  have hfresh {a b c : List Nat} (hperm : (a ++ [s.arrived] ++ b ++ c).Perm (s.arrived :: (a ++ b ++ c))) :
      (a ++ b ++ c).Perm (List.range s.arrived) → (a ++ [s.arrived] ++ b ++ c).Perm (List.range (s.arrived + 1)) := by
    intro honce
    rw [List.range_succ]
    exact hperm.trans ((honce.cons s.arrived).trans (List.perm_append_singleton _ _).symm)
  unfold AcceptLoop.tryAcquire
  split
  · refine ⟨hpermits, ?_⟩
    dsimp only
    rw [← List.append_assoc, List.range_succ]
    exact h.once.append_right [s.arrived]
  · next available havailable =>
    refine ⟨?_, ?_⟩
    · dsimp only
      rw [List.length_append, List.length_singleton]
      omega
    · refine hfresh ?_ h.once
      rw [List.append_assoc, List.append_assoc, List.append_assoc]
      exact List.perm_middle

theorem Sound.step (h : Sound n s) (happening : Happening) : Sound n (s.step happening) := by
  cases happening with
  | accepted =>
    rw [AcceptLoop.step]
    split
    · exact h.tryAcquire
    · exact h
  | acceptFailed e => exact h
  | shutdown => exact ⟨h.permits, h.once⟩
  | ended connection =>
    rw [AcceptLoop.step]
    split
    · next hserving =>
      refine ⟨?_, ?_⟩
      · have hlength := List.length_erase_of_mem hserving
        have hpos := List.length_pos_of_mem hserving
        have hpermits := h.permits
        dsimp only
        omega
      · have hmoved : (s.serving.erase connection ++ (s.finished ++ [connection])).Perm (s.serving ++ s.finished) := by
          rw [← List.append_assoc]
          refine (List.perm_append_singleton _ _).trans ?_
          rw [← List.cons_append]
          exact (List.perm_cons_erase hserving).symm.append_right s.finished
        exact (hmoved.append_right s.turnedAway).trans h.once
    · exact h

/-- Once shut down, nothing is accepted, and what is served only ends. -/
theorem stopped_run (h : s.running = false) (happenings : List Happening) :
    (runAll AcceptLoop.step s happenings).running = false ∧
      (runAll AcceptLoop.step s happenings).arrived = s.arrived ∧
      (runAll AcceptLoop.step s happenings).serving.Sublist s.serving := by
  induction happenings generalizing s with
  | nil => exact ⟨h, rfl, List.Sublist.refl _⟩
  | cons happening happenings ih =>
    have hstep : (s.step happening).running = false ∧ (s.step happening).arrived = s.arrived ∧
        (s.step happening).serving.Sublist s.serving := by
      cases happening with
      | accepted =>
        rw [AcceptLoop.step, if_neg (by rw [h]; exact Bool.false_ne_true)]
        exact ⟨h, rfl, List.Sublist.refl _⟩
      | acceptFailed e => exact ⟨h, rfl, List.Sublist.refl _⟩
      | shutdown => exact ⟨rfl, rfl, List.Sublist.refl _⟩
      | ended connection =>
        rw [AcceptLoop.step]
        split
        · exact ⟨h, rfl, List.erase_sublist⟩
        · exact ⟨h, rfl, List.Sublist.refl _⟩
    obtain ⟨hrunning, harrived, hserving⟩ := ih hstep.1
    exact ⟨hrunning, harrived.trans hstep.2.1, hserving.trans hstep.2.2⟩

/-- What becomes of the next connection. -/
def next (maxConns : Nat) (s : AcceptLoop) : AcceptLoop :=
  if s.serving.length < maxConns then
    { s with available := s.available - 1, arrived := s.arrived + 1, serving := s.serving ++ [s.arrived] }
  else { s with arrived := s.arrived + 1, turnedAway := s.turnedAway ++ [s.arrived] }

theorem Sound.tryAcquire_eq (h : Sound n s) : s.tryAcquire = next n s := by
  have hpermits := h.permits
  unfold AcceptLoop.tryAcquire next
  split
  · next havailable => rw [if_neg (by omega)]
  · next available havailable =>
    rw [if_pos (by omega), havailable]
    rfl

/-- For connections that come, fail to be accepted and end in any order: never
are more served than `max_players` says; each that came is served, over or turned
away, and only one of these; the next is turned away exactly when the limit is
reached, so that a permit is never lost; and after the shutdown none is accepted. -/
theorem accept_loop_bounded (maxPlayers : Int32) (happenings : List Happening) :
    let s := run maxPlayers happenings
    Sound (maxConns maxPlayers) s ∧ s.serving.length ≤ maxConns maxPlayers ∧
      (s.running = true → s.step .accepted = next (maxConns maxPlayers) s) ∧
      ∀ more, (run maxPlayers (happenings ++ .shutdown :: more)).arrived = s.arrived ∧
        (run maxPlayers (happenings ++ .shutdown :: more)).serving.Sublist s.serving := by
  intro s
  have hnew : Sound (maxConns maxPlayers) (new maxPlayers) := ⟨rfl, List.Perm.refl _⟩
  have hsound : Sound (maxConns maxPlayers) s :=
    runAll_invariant (fun s happening h _ => h.step happening) hnew (along_true _ happenings)
  refine ⟨hsound, ?_, fun hrunning => ?_, fun more => ?_⟩
  · have hpermits := hsound.permits
    omega
  · rw [AcceptLoop.step, if_pos hrunning, hsound.tryAcquire_eq]
  · have hrun : run maxPlayers (happenings ++ .shutdown :: more) = runAll AcceptLoop.step (s.step .shutdown) more := by
      rw [run, runAll, List.foldl_append]
      rfl
    rw [hrun]
    obtain ⟨-, harrived, hserving⟩ := @stopped_run (s.step .shutdown) rfl more
    exact ⟨harrived, hserving⟩

end AcceptLoop

end FrameMC

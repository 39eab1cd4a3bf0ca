import FrameMC.Routing.Delivery
import FrameMC.Routing.Spoofing

/-!
# Falling back

When a backend is lost or disconnects the player, the loop goes back to the
fallback server. It never goes round in circles: between two such attempts the
player has asked to be somewhere else (`recoveries_le_reroutes`). The potential
that pays for an attempt is being on a server other than the fallback.
-/

namespace FrameMC

open ByteStream Effect

/-- Where the transfer of a round comes from. -/
def Input.isBackend : Input → Bool
  | .backend _ => true
  | _ => false

/-- How many rounds of a run try a transfer, among those a condition picks. -/
def transfers (pick : Input → Bool) : List (World × Input) → PlayStateMachine → Nat
  | [], _ => 0
  | (world, input) :: inputs, s =>
    match s.backend with
    | none => 0
    | some _ =>
      (if pick input ∧ (transferIn (world.env s) input s).isSome then 1 else 0) +
        match runRound (world.env s) input s with
        | (.ok true, s') => transfers pick inputs s'
        | _ => 0

/-- The attempts to go back to the fallback server. -/
def recoveries : List (World × Input) → PlayStateMachine → Nat := transfers Input.isBackend

/-- The transfers the player's commands lead to. -/
def reroutes : List (World × Input) → PlayStateMachine → Nat := transfers fun input => !input.isBackend

/-- One attempt is paid for while the player is not on the fallback server. -/
def away (s : PlayStateMachine) : Nat := if s.session.currentServer ≠ s.config.defaultServer then 1 else 0

theorem away_le (s : PlayStateMachine) : away s ≤ 1 := by
  unfold away
  split <;> omega

/-! ## What a round does to the server's name -/

/-- The player is on the same server, in the same configuration. -/
structure SameServer (s s' : PlayStateMachine) : Prop where
  server : s'.session.currentServer = s.session.currentServer
  config : s'.config = s.config

theorem SameServer.away_eq {s s' : PlayStateMachine} (h : SameServer s s') : away s' = away s := by
  rw [away, away, h.server, h.config]

theorem SameServer.trans {s s' s'' : PlayStateMachine} (h : SameServer s s') (h' : SameServer s' s'') :
    SameServer s s'' := ⟨h'.server.trans h.server, h'.config.trans h.config⟩

section Round

variable {env : Env} {s : PlayStateMachine} {b : Wire}

/-- Where no connection is to be had, nobody goes anywhere. -/
theorem sameServer_callRel (h : ∀ targetServer new, env.connect targetServer ≠ .ok new) :
    CallRel env SameServer where
  refl := fun _ => ⟨rfl, rfl⟩
  after := fun h helsewhere =>
    SameServer.trans ⟨congrArg PlayerSession.currentServer helsewhere.session, helsewhere.config⟩ h
  switchServer := by
    intro targetServer s
    have hcases := switchServer_cases env targetServer s
    generalize (switchServer env targetServer s).1 = r at hcases
    generalize (switchServer env targetServer s).2 = s' at hcases ⊢
    cases hcases with
    | unknown _ _ _ =>
      rw [writeChat_apply]
      exact ⟨rfl, rfl⟩
    | failed reason dropped _ =>
      rw [writeChat_apply]
      exact ⟨rfl, rfl⟩
    | attached wire threshold hoffers =>
      obtain ⟨targetServer, new, -, -, hconnect, -⟩ := hoffers
      exact absurd hconnect (h targetServer new)

/-- A round without a transfer leaves the player where they are. -/
theorem runRound_sameServer (hb : s.backend = some b) {input : Input} (h : transferIn env input s = none) :
    SameServer s (runRound env input s).2 := by
  have hmakes := @runRound_makes env s input
  rw [h] at hmakes
  -- what asks for no connection can be run where there are none
  have hnone : runRound (env.reconnected fun _ => .failed streamEof []) input s = runRound env input s := hmakes _
  rw [← hnone]
  have hrel : CallRel (env.reconnected fun _ => .failed streamEof []) SameServer := sameServer_callRel fun _ _ => nofun
  rcases input with (_ | packet) | (_ | packet) | _
  · exact hrel.refl s
  · have hreceived : SameServer s (clientReceived packet s) := ⟨rfl, rfl⟩
    refine hreceived.trans ?_
    show SameServer _ (handleClientPacket (env.reconnected fun _ => .failed streamEof []) packet
      (clientReceived packet s)).2
    cases hunclaimed : unclaimed (env.reconnected fun _ => .failed streamEof []) packet (clientReceived packet s) with
    | false => exact hrel.claimed hunclaimed
    | true =>
      have hforwards := forwards (s := clientReceived packet s) hb hunclaimed
      exact ⟨congrArg PlayerSession.currentServer hforwards.session, hforwards.config⟩
  · exact hrel.handleBackendEof s
  · have hreceived : SameServer s (backendReceived packet s) := ⟨rfl, rfl⟩
    refine hreceived.trans ?_
    rw [runRound, Effect.modify_bind, Effect.ite_apply]
    split
    · exact hrel.refl _
    · exact hrel.backendPacket packet _
  · exact ⟨rfl, rfl⟩

theorem switchServer_config (env : Env) (targetServer : String) (s : PlayStateMachine) :
    (switchServer env targetServer s).2.config = s.config := by
  have hcases := switchServer_cases env targetServer s
  generalize (switchServer env targetServer s).1 = r at hcases
  generalize (switchServer env targetServer s).2 = s' at hcases ⊢
  cases hcases with
  | unknown _ _ _ => rw [writeChat_apply]
  | failed reason dropped _ =>
    rw [writeChat_apply]
    rfl
  | attached wire threshold _ =>
    rw [reattach, teardown_frame]
    rfl

/-- After a transfer that succeeds the player is on its target. -/
theorem switchServer_current {targetServer : String} (h : (switchServer env targetServer s).1 = .ok true) :
    (switchServer env targetServer s).2.session.currentServer = targetServer := by
  have hcases := switchServer_cases env targetServer s
  generalize (switchServer env targetServer s).1 = r at hcases h
  generalize (switchServer env targetServer s).2 = s' at hcases ⊢
  cases hcases with
  | unknown r _ hr =>
    rcases hr with rfl | ⟨e, rfl⟩
    · cases h
    · cases h
  | failed reason dropped _ => cases h
  | attached wire threshold _ => rfl

/-- An attempt to recover is made away from the fallback server, and a
successful one ends there. -/
theorem recover_away {before after : String} {atFallback : Play Bool} {target : String × PlayStateMachine}
    (h : fallbackTransfer env before after s = some target) :
    away s = 1 ∧ ((recover env before after atFallback s).1 = .ok true →
      away (recover env before after atFallback s).2 = 0) := by
  rw [fallbackTransfer] at h
  split at h
  · next hne =>
    refine ⟨if_pos hne, ?_⟩
    rw [recover, Effect.get_bind, if_pos hne, Effect.attempt_bind]
    intro hok
    have hcurrent := switchServer_current hok
    have hconfig := switchServer_config env s.config.defaultServer
      (writeChat env (before ++ s.session.currentServer ++ after) s).2
    rw [away, hcurrent, hconfig, writeChat_apply, if_neg (not_not_intro rfl)]
  · cases h

theorem backendRound_away {input : Input} (hinput : input.isBackend = true) {target : String × PlayStateMachine}
    (h : transferIn env input s = some target) :
    away s = 1 ∧ ((runRound env input s).1 = .ok true → away (runRound env input s).2 = 0) := by
  rcases input with _ | (_ | packet) | _
  · cases hinput
  · exact recover_away h
  · rw [transferIn] at h
    split at h
    · cases h
    · next hprotected =>
      split at h
      · next hdisconnect =>
        have hround : runRound env (.backend (.ok packet)) s =
            afterDisconnect env (track packet (backendReceived packet s)) := by
          rw [runRound, Effect.modify_bind, if_neg hprotected, handleBackendPacket, if_neg hprotected,
            Effect.modify_bind, Effect.get_bind, if_pos hdisconnect]
          rfl
        rw [hround]
        have hsame : SameServer s (track packet (backendReceived packet s)) :=
          ⟨congrArg PlayerSession.currentServer (track_session packet (backendReceived packet s)),
            track_config packet (backendReceived packet s)⟩
        rw [← hsame.away_eq]
        exact recover_away h
      · cases h
  · cases hinput

end Round

/-- In every run, whatever the worlds it meets: attempts to go back to the
fallback server are at most one more than the transfers the player has asked
for. The loop does not go on trying. -/
theorem recoveries_le_reroutes (inputs : List (World × Input)) (s : PlayStateMachine) :
    recoveries inputs s ≤ reroutes inputs s + away s := by
  unfold recoveries reroutes
  induction inputs generalizing s with
  | nil => exact Nat.zero_le _
  | cons step inputs ih =>
    obtain ⟨world, input⟩ := step
    unfold transfers
    cases hb : s.backend with
    | none => exact Nat.zero_le _
    | some b =>
      dsimp only
      cases htransfer : transferIn (world.env s) input s with
      | none =>
        have hsame := runRound_sameServer hb htransfer
        rw [← hsame.away_eq]
        rcases runRound (world.env s) input s with ⟨_ | goesOn, s'⟩
        · simp
        · cases goesOn with
          | true => simpa using ih s'
          | false => simp
      | some target =>
        cases hinput : input.isBackend with
        | true =>
          obtain ⟨haway, hback⟩ := backendRound_away hinput htransfer
          rw [haway]
          rcases hround : runRound (world.env s) input s with ⟨_ | goesOn, s'⟩
          · simp
          · cases goesOn with
            | true =>
              rw [hround] at hback
              have hrest := ih s'
              rw [hback rfl] at hrest
              simp only [Option.isSome_some, and_self, if_true, Bool.not_true, Bool.false_eq_true, false_and, if_false]
              omega
            | false => simp
        | false =>
          rcases runRound (world.env s) input s with ⟨_ | goesOn, s'⟩
          · simp
          · cases goesOn with
            | true =>
              have hrest := ih s'
              have hbound := away_le s'
              simp only [Bool.false_eq_true, false_and, if_false, Bool.not_false, Option.isSome_some, and_self, if_true]
              omega
            | false => simp

end FrameMC

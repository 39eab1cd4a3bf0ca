import FrameMC.Lib.KeyedTable
import FrameMC.Script.Events

/-!
# Hooks of several scripts

What the hooks of all scripts come to. A join is decided by the first script
that denies it, and otherwise the last server that is asked for stands
(`evalJoin_eq`). Suggestions are merged, each at its first mention
(`evalTabComplete_eq`).
-/

namespace FrameMC

/-! ## Joining -/

/-- The answers of the scripts that have the hook and do not fail in it, in order. -/
def joinAnswers (host : ScriptHost) (event : PlayerJoinEvent) : List JoinResult :=
  host.scripts.filterMap fun hooks => hooks.onPlayerJoin.bind (· event)

/-- The last server that an answer asks for; empty if none does. -/
def lastTarget (answers : List JoinResult) : String :=
  ((answers.map (·.targetServer)).filter (· ≠ "")).getLastD ""

/-- The first denial, or where to go. -/
def joinDecision (answers : List JoinResult) : JoinResult :=
  match answers.find? (·.allow = false) with
  | some denial => denial
  | none => { targetServer := lastTarget answers }

theorem evalJoin_eq (host : ScriptHost) (event : PlayerJoinEvent) :
    host.evalJoin event = joinDecision (joinAnswers host event) := by
  have hgo : ∀ (scripts : List Hooks) (asked : String), ScriptHost.evalJoin.go event scripts { targetServer := asked } =
      match (scripts.filterMap fun hooks => hooks.onPlayerJoin.bind (· event)).find? (·.allow = false) with
      | some denial => denial
      | none => { targetServer := (((scripts.filterMap fun hooks => hooks.onPlayerJoin.bind (· event)).map
          (·.targetServer)).filter (· ≠ "")).getLastD asked } := by
    intro scripts
    induction scripts with
    | nil => exact fun _ => rfl
    | cons hooks scripts ih =>
      intro asked
      rw [ScriptHost.evalJoin.go, List.filterMap_cons]
      cases hooks.onPlayerJoin with
      | none => exact ih asked
      | some hook =>
        rw [Option.bind_some]
        dsimp only
        cases hook event with
        | none => exact ih asked
        | some res =>
          dsimp only
          rw [List.find?_cons]
          by_cases hdenied : res.allow = false
          · rw [if_pos hdenied, decide_eq_true hdenied]
          · rw [if_neg hdenied, decide_eq_false hdenied, List.map_cons]
            by_cases hasked : res.targetServer ≠ ""
            · rw [if_pos hasked, ih, List.filter_cons_of_pos (by simpa using hasked), List.getLastD_cons]
            · rw [if_neg hasked, ih, List.filter_cons_of_neg (by simpa using hasked)]
  exact hgo host.scripts ""

/-! ## Completing -/

/-- What the scripts suggest, one after the other, as far as it is text. -/
def suggested (host : ScriptHost) (event : PlayerTabCompleteEvent) : List String :=
  (host.scripts.filterMap fun hooks => hooks.onTabComplete.bind (· event)).flatten.filterMap id

/-- A loop over what may be absent is one over what is there. -/
theorem foldl_filterMap_id {α β : Type} {f : β → Option α → β} {push : β → α → β} (hnone : ∀ b, f b none = b)
    (hsome : ∀ b a, f b (some a) = push b a) (items : List (Option α)) (b : β) :
    items.foldl f b = (items.filterMap id).foldl push b := by
  induction items generalizing b with
  | nil => rfl
  | cons item items ih =>
    cases item with
    | none =>
      rw [List.foldl_cons, hnone, ih]
      rfl
    | some a =>
      rw [List.foldl_cons, hsome, ih]
      rfl

/-- A loop with a loop inside is one over what the inner ones go through. -/
theorem foldl_filterMap_flatten {α β γ : Type} {f : β → γ → β} {push : β → α → β} (answer : γ → Option (List (Option α)))
    (hf : ∀ b c, f b c = (((answer c).getD []).filterMap id).foldl push b) (cs : List γ) (b : β) :
    cs.foldl f b = ((cs.filterMap answer).flatten.filterMap id).foldl push b := by
  induction cs generalizing b with
  | nil => rfl
  | cons c cs ih =>
    rw [List.foldl_cons, hf, ih, List.filterMap_cons]
    cases answer c with
    | none => rfl
    | some items => rw [Option.getD_some, List.flatten_cons, List.filterMap_append, List.foldl_append]

theorem evalTabComplete_eq (host : ScriptHost) (event : PlayerTabCompleteEvent) :
    host.evalTabComplete event = (suggested host event).eraseDups := by
  let push : List String → String → List String := fun results s =>
    if results.contains s then results else results ++ [s]
  have hfresh : ((suggested host event).filter fun s => !([] : List String).contains s) = suggested host event :=
    List.filter_eq_self.mpr fun _ _ => rfl
  have hpush : (suggested host event).foldl push [] = (suggested host event).eraseDups := by
    rw [foldl_push, hfresh, List.nil_append]
  rw [← hpush, ScriptHost.evalTabComplete]
  refine foldl_filterMap_flatten (fun hooks : Hooks => hooks.onTabComplete.bind (· event))
    (fun results hooks => ?_) host.scripts []
  cases hooks.onTabComplete with
  | none => rfl
  | some hook =>
    rw [Option.bind_some]
    dsimp only
    cases hook event with
    | none => rfl
    | some arr => exact foldl_filterMap_id (fun _ => rfl) (fun _ _ => rfl) arr results

end FrameMC

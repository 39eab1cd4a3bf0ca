import FrameMC.Routing.CommandHooks
import FrameMC.Script.Composition
import FrameMC.Script.Engine

/-!
# Calling the hooks

`eval_join`, `eval_command` and `eval_tab_complete` of `src/script/events.rs`
as they call Rhai: an event goes to a script as a map, and an answer comes back
as one, with a default for whatever it leaves out. The hooks of the scripts are
functions of the event, and their decisions are what these calls come to;
`hooks_after_loads` says whose, after any loads of scripts.
-/

namespace FrameMC.Engine

/-- A `rhai::Dynamic`, by the types that the hooks tell apart. -/
inductive Dynamic where
  | unit
  | bool (b : Bool)
  | int (i : Int)
  | string (s : String)
  | array (items : List Dynamic)
  | map (entries : List (String × Dynamic))

abbrev Map : Type := List (String × Dynamic)

namespace Dynamic

/-- `as_bool().ok()`. -/
def asBool : Dynamic → Option Bool
  | bool b => some b
  | _ => none

/-- `into_string().ok()`. -/
def intoString : Dynamic → Option String
  | string s => some s
  | _ => none

end Dynamic

/-! ## Events and answers as maps -/

/-- A text field; what is no text is as good as none. -/
def textField (map : Map) (name : String) : String :=
  ((map.lookup name).map fun v => v.intoString.getD "").getD ""

def flagField (map : Map) (name : String) (absent : Bool) : Bool :=
  ((map.lookup name).bind Dynamic.asBool).getD absent

def joinEventMap (event : PlayerJoinEvent) : Map :=
  [("player_name", .string event.playerName), ("uuid", .string event.uuid), ("ip", .string event.ip),
    ("protocol_version", .int event.protocolVersion)]

def commandEventMap (event : PlayerCommandEvent) : Map :=
  [("player_name", .string event.playerName), ("command", .string event.command),
    ("current_server", .string event.currentServer)]

def tabCompleteEventMap (event : PlayerTabCompleteEvent) : Map :=
  [("player_name", .string event.playerName), ("command", .string event.command),
    ("current_server", .string event.currentServer)]

def joinResult (map : Map) : JoinResult where
  allow := flagField map "allow" true
  disconnectReason := textField map "disconnect_reason"
  targetServer := textField map "target_server"

def commandResult (map : Map) : CommandResult where
  cancel := flagField map "cancel" false
  rerouteServer := textField map "reroute_server"
  sendMessage := textField map "send_message"

section Calls

variable {AST : Type} (rhai : Rhai AST Map Dynamic)

/-- What `call_fn` says of a result of another type than the caller asks for. -/
def mismatch : String := "Output type incorrect"

/-- `call_fn::<rhai::Map>`. -/
def callMap (ast : AST) (fnName : String) (event : Map) : Except String Map :=
  match rhai.callFn ast fnName event with
  | .ok (.map map) => .ok map
  | .ok _ => .error mismatch
  | .error e => .error e

/-- `call_fn::<rhai::Array>`. -/
def callArray (ast : AST) (fnName : String) (event : Map) : Except String (List Dynamic) :=
  match rhai.callFn ast fnName event with
  | .ok (.array items) => .ok items
  | .ok _ => .error mismatch
  | .error e => .error e

def defines (ast : AST) (fnName : String) : Bool := (rhai.functions ast).contains fnName

namespace ScriptHost

variable (host : ScriptHost AST)

/-- The scripts in the order they are asked. -/
def asts : List AST := host.plugins.map (·.ast) ++ [host.ast]

/-- One script on a join; an error is what `eval_join` returns at once. -/
def joinStep (event : PlayerJoinEvent) (finalResult : JoinResult) (ast : AST) : Except JoinResult JoinResult :=
  if defines rhai ast "on_player_join" then
    match callMap rhai ast "on_player_join" (joinEventMap event) with
    | .ok map =>
      let res := joinResult map
      if ¬ res.allow then .error res
      else if res.targetServer ≠ "" then .ok { finalResult with targetServer := res.targetServer }
      else .ok finalResult
    | .error _ => .ok finalResult
  else .ok finalResult

def evalJoin (event : PlayerJoinEvent) : JoinResult :=
  match host.asts.foldlM (joinStep rhai event) {} with
  | .ok finalResult => finalResult
  | .error res => res

def commandStep (event : PlayerCommandEvent) (ast : AST) : Except CommandResult Unit :=
  if defines rhai ast "on_player_command" then
    match callMap rhai ast "on_player_command" (commandEventMap event) with
    | .ok map =>
      let res := commandResult map
      if res.cancel ∨ res.rerouteServer ≠ "" then .error res else .ok ()
    | .error _ => .ok ()
  else .ok ()

def evalCommand (event : PlayerCommandEvent) : CommandResult :=
  match host.asts.foldlM (fun _ => commandStep rhai event) () with
  | .ok () => {}
  | .error res => res

def tabCompleteStep (event : PlayerTabCompleteEvent) (results : List String) (ast : AST) : List String :=
  if defines rhai ast "on_tab_complete" then
    match callArray rhai ast "on_tab_complete" (tabCompleteEventMap event) with
    | .ok arr => arr.foldl (fun results item =>
        match item.intoString with
        | some s => if results.contains s then results else results ++ [s]
        | none => results) results
    | .error _ => results
  else results

def evalTabComplete (event : PlayerTabCompleteEvent) : List String :=
  host.asts.foldl (tabCompleteStep rhai event) []

end ScriptHost

/-! ## The hooks as functions -/

/-- The hooks of a script, for which a call that fails is no answer. -/
def hooks (ast : AST) : Hooks where
  onPlayerJoin :=
    if defines rhai ast "on_player_join" then
      some fun event => (callMap rhai ast "on_player_join" (joinEventMap event)).toOption.map joinResult
    else none
  onPlayerCommand :=
    if defines rhai ast "on_player_command" then
      some fun event => (callMap rhai ast "on_player_command" (commandEventMap event)).toOption.map commandResult
    else none
  onTabComplete :=
    if defines rhai ast "on_tab_complete" then
      some fun event => (callArray rhai ast "on_tab_complete" (tabCompleteEventMap event)).toOption.map
        fun items => items.map Dynamic.intoString
    else none

variable {rhai}

theorem scripts_events (host : ScriptHost AST) : (host.events (hooks rhai)).scripts = host.asts.map (hooks rhai) := by
  rw [FrameMC.ScriptHost.scripts, ScriptHost.events, ScriptHost.asts, List.map_append, List.map_map, List.map_singleton]
  rfl

theorem evalJoin_refines (host : ScriptHost AST) (event : PlayerJoinEvent) :
    host.evalJoin rhai event = (host.events (hooks rhai)).evalJoin event := by
  have hgo : ∀ (asts : List AST) (finalResult : JoinResult),
      (match asts.foldlM (ScriptHost.joinStep rhai event) finalResult with
        | .ok finalResult => finalResult
        | .error res => res) = FrameMC.ScriptHost.evalJoin.go event (asts.map (hooks rhai)) finalResult := by
    intro asts
    induction asts with
    | nil => exact fun _ => rfl
    | cons ast asts ih =>
      intro finalResult
      rw [List.foldlM_cons, List.map_cons, FrameMC.ScriptHost.evalJoin.go, hooks, ScriptHost.joinStep]
      by_cases hdefines : defines rhai ast "on_player_join" = true
      · rw [if_pos hdefines, if_pos hdefines]
        dsimp only
        cases callMap rhai ast "on_player_join" (joinEventMap event) with
        | error e => exact ih finalResult
        | ok map =>
          simp only [Except.toOption, Option.map_some]
          by_cases hallow : (joinResult map).allow = true
          · have hadmits : ¬ (joinResult map).allow = false := fun hdenies => Bool.noConfusion (hallow.symm.trans hdenies)
            rw [if_neg (not_not_intro hallow), if_neg hadmits]
            by_cases htarget : (joinResult map).targetServer ≠ ""
            · rw [if_pos htarget, if_pos htarget]
              exact ih _
            · rw [if_neg htarget, if_neg htarget]
              exact ih _
          · rw [if_pos hallow, if_pos (by simpa using hallow)]
            rfl
      · rw [if_neg hdefines, if_neg hdefines]
        exact ih finalResult
  rw [FrameMC.ScriptHost.evalJoin, scripts_events]
  exact hgo host.asts {}

theorem evalCommand_refines (host : ScriptHost AST) (event : PlayerCommandEvent) :
    host.evalCommand rhai event = (host.events (hooks rhai)).evalCommand event := by
  have hgo : ∀ asts : List AST,
      (match asts.foldlM (fun _ => ScriptHost.commandStep rhai event) () with
        | .ok () => {}
        | .error res => res) = FrameMC.ScriptHost.evalCommand.go event (asts.map (hooks rhai)) := by
    intro asts
    induction asts with
    | nil => rfl
    | cons ast asts ih =>
      rw [List.foldlM_cons, List.map_cons, FrameMC.ScriptHost.evalCommand.go, hooks, ScriptHost.commandStep]
      by_cases hdefines : defines rhai ast "on_player_command" = true
      · rw [if_pos hdefines, if_pos hdefines]
        dsimp only
        cases callMap rhai ast "on_player_command" (commandEventMap event) with
        | error e => exact ih
        | ok map =>
          simp only [Except.toOption, Option.map_some]
          by_cases hclaims : (commandResult map).cancel = true ∨ (commandResult map).rerouteServer ≠ ""
          · rw [if_pos hclaims, if_pos hclaims]
            rfl
          · rw [if_neg hclaims, if_neg hclaims]
            exact ih
      · rw [if_neg hdefines, if_neg hdefines]
        exact ih
  rw [FrameMC.ScriptHost.evalCommand, scripts_events]
  exact hgo host.asts

theorem evalTabComplete_refines (host : ScriptHost AST) (event : PlayerTabCompleteEvent) :
    host.evalTabComplete rhai event = (host.events (hooks rhai)).evalTabComplete event := by
  rw [FrameMC.ScriptHost.evalTabComplete, scripts_events, List.foldl_map, ScriptHost.evalTabComplete]
  congr 1
  funext results ast
  rw [ScriptHost.tabCompleteStep, hooks]
  by_cases hdefines : defines rhai ast "on_tab_complete" = true
  · rw [if_pos hdefines, if_pos hdefines]
    dsimp only
    cases callArray rhai ast "on_tab_complete" (tabCompleteEventMap event) with
    | error e => rfl
    | ok items =>
      show _ = List.foldl _ results (items.map Dynamic.intoString)
      refine Eq.trans ?_ List.foldl_map.symm
      rfl
  · rw [if_neg hdefines, if_neg hdefines]

/-! ## After any loads -/

variable (rhai)

/-- The scripts that operations leave, in the order they are asked: the plugins
by the order in which their names came first, each as it loaded last, and the
main script that was put in place last. -/
def latest (ops : List Op) : List AST :=
  (((loads rhai ops).map PluginInfo.name).eraseDups.filterMap fun name =>
    KeyedTable.row PluginInfo.name name (loads rhai ops).reverse).map (·.ast) ++
    [(ops.filterMap (Op.script rhai)).getLastD rhai.default]

/-- The answers of scripts, each on a map of the event, in order. -/
def mapAnswers {Event α : Type} (hook : Hooks → Option (Event → Option α)) (asts : List AST) (event : Event) : List α :=
  asts.filterMap fun ast => (hook (hooks rhai ast)).bind (· event)

/-- For any operations on the host, in any order and whether they succeed or
not: the answers that count are those of the scripts as they loaded last, a
plugin that was loaded again in its old place; the first denial or the last
server asked for decides a join, the first claim a command, and suggestions are
merged. -/
theorem hooks_after_loads (ops : List Op) :
    (∀ event, (run rhai ops).evalJoin rhai event =
      joinDecision (mapAnswers rhai Hooks.onPlayerJoin (latest rhai ops) event)) ∧
    (∀ event, (run rhai ops).evalCommand rhai event =
      decision (mapAnswers rhai Hooks.onPlayerCommand (latest rhai ops) event)) ∧
    ∀ event, (run rhai ops).evalTabComplete rhai event =
      ((mapAnswers rhai Hooks.onTabComplete (latest rhai ops) event).flatten.filterMap id).eraseDups := by
  have hasts : (run rhai ops).asts = latest rhai ops := by
    rw [run_eq]
    rfl
  have hanswers {Event α : Type} (hook : Hooks → Option (Event → Option α)) (event : Event) :
      ((run rhai ops).events (hooks rhai)).scripts.filterMap (fun hooks => (hook hooks).bind (· event)) =
        mapAnswers rhai hook (latest rhai ops) event := by
    rw [scripts_events, hasts, List.filterMap_map]
    rfl
  refine ⟨fun event => ?_, fun event => ?_, fun event => ?_⟩
  · rw [evalJoin_refines, evalJoin_eq, joinAnswers, hanswers]
  · rw [evalCommand_refines, evalCommand_eq, answers, hanswers]
  · rw [evalTabComplete_refines, evalTabComplete_eq, suggested, hanswers]

end Calls

end FrameMC.Engine

import FrameMC.Error

/-!
# Script hooks

`src/script/events.rs`. A script may leave out a hook; a hook that is there may
fail, which is logged and otherwise the same as not having said anything. What
a hook answers is the script's business, so a hook is any function of the event.
-/

namespace FrameMC

structure PlayerJoinEvent where
  playerName : String
  uuid : String
  ip : String
  protocolVersion : Int
  deriving DecidableEq

structure JoinResult where
  allow : Bool := true
  disconnectReason : String := ""
  targetServer : String := ""
  deriving DecidableEq

structure PlayerCommandEvent where
  playerName : String
  command : String
  currentServer : String
  deriving DecidableEq

structure CommandResult where
  cancel : Bool := false
  rerouteServer : String := ""
  sendMessage : String := ""
  deriving DecidableEq

structure PlayerTabCompleteEvent where
  playerName : String
  command : String
  currentServer : String
  deriving DecidableEq

/-- The hooks of one script; `none` for one it does not define. A call gives
`none` when it fails. Tab completion gives an array whose items need not be
strings. -/
structure Hooks where
  onPlayerJoin : Option (PlayerJoinEvent → Option JoinResult)
  onPlayerCommand : Option (PlayerCommandEvent → Option CommandResult)
  onTabComplete : Option (PlayerTabCompleteEvent → Option (List (Option String)))

/-- The plugins in the order they were loaded, and the main script. -/
structure ScriptHost where
  plugins : List Hooks
  ast : Hooks

namespace ScriptHost

/-- The scripts in the order they are asked. -/
def scripts (host : ScriptHost) : List Hooks := host.plugins ++ [host.ast]

def evalJoin (host : ScriptHost) (event : PlayerJoinEvent) : JoinResult :=
  go host.scripts {}
where
  go : List Hooks → JoinResult → JoinResult
    | [], finalResult => finalResult
    | hooks :: rest, finalResult =>
      match hooks.onPlayerJoin with
      | none => go rest finalResult
      | some hook =>
        match hook event with
        | none => go rest finalResult
        | some res =>
          if res.allow = false then res
          else if res.targetServer ≠ "" then go rest { finalResult with targetServer := res.targetServer }
          else go rest finalResult

def evalCommand (host : ScriptHost) (event : PlayerCommandEvent) : CommandResult :=
  go host.scripts
where
  go : List Hooks → CommandResult
    | [] => {}
    | hooks :: rest =>
      match hooks.onPlayerCommand with
      | none => go rest
      | some hook =>
        match hook event with
        | none => go rest
        | some res => if res.cancel ∨ res.rerouteServer ≠ "" then res else go rest

def evalTabComplete (host : ScriptHost) (event : PlayerTabCompleteEvent) : List String :=
  host.scripts.foldl (fun results hooks =>
    match hooks.onTabComplete with
    | none => results
    | some hook =>
      match hook event with
      | none => results
      | some arr => arr.foldl (fun results item =>
          match item with
          | some s => if results.contains s then results else results ++ [s]
          | none => results) results) []

end ScriptHost

end FrameMC

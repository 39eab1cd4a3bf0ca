import FrameMC.Network.Listener
import FrameMC.Routing.CommandHooks

/-!
# The scripts that are shipped

`scripts/main.rhai` and `plugins/server_switcher.rhai`, the script and the
plugin that a new installation starts with. Their hooks are functions of the
event and of the servers the host tells them of; where the engine's limits stop
a script, its hook fails. `commandAnswered` says which commands the two claim.
-/

namespace FrameMC

/-- Where the limits of the engine stop the hooks of a script. -/
structure Limits where
  join : PlayerJoinEvent → Bool
  command : PlayerCommandEvent → Bool
  complete : PlayerTabCompleteEvent → Bool

/-- A hook that may be stopped. -/
def upTo {Event α : Type} (stops : Event → Bool) (hook : Event → α) (event : Event) : Option α :=
  if stops event then none else some (hook event)

namespace MainScript

def onPlayerJoin (_ : PlayerJoinEvent) : JoinResult := { allow := true, disconnectReason := "", targetServer := "" }

def onPlayerCommand (event : PlayerCommandEvent) : CommandResult :=
  let cmd := event.command
  if cmd = "/hub" ∨ cmd = "/lobby" then ⟨true, "lobby", "§aConnecting to lobby..."⟩
  else if cmd = "/steel" then ⟨true, "steelmc", "§aConnecting to SteelMC..."⟩
  else if cmd = "/stop" ∨ cmd = "/op" then ⟨true, "", "§cYou do not have permission to execute this command."⟩
  else ⟨false, "", ""⟩

def hooks (limits : Limits) : Hooks :=
  ⟨some (upTo limits.join onPlayerJoin), some (upTo limits.command onPlayerCommand), none⟩

end MainScript

namespace ServerSwitcher

/-- `server_exists`. -/
def serverExists (servers : List String) (name : String) : Bool := servers.any (eqIgnoreAsciiCase · name)

/-- `s[n..s.len]`. -/
def sliceFrom (s : String) (n : Nat) : String := String.ofList (s.toList.drop n)

/-- The loops that put names together with something in between. -/
def joined (between : String) (items : List String) : String :=
  items.zipIdx.foldl (fun list (item, i) => (if i > 0 then list ++ between else list) ++ item) ""

def serverList (servers : List String) (current : String) : CommandResult :=
  let list := joined "§7, " (servers.map fun server => if server = current then "§a" ++ server ++ "§6*" else "§b" ++ server)
  ⟨true, "", "§6[FrameMC] §eYou are currently on: §a" ++ current ++ "\n§6[FrameMC] §eAvailable servers: " ++ list ++
    "\n§7Use §f/server <name> §7to connect."⟩

def usage : CommandResult := ⟨true, "", "§cUsage: /server <name>"⟩

def noSuchServer (servers : List String) (target : String) : CommandResult :=
  ⟨true, "", "§cServer '" ++ target ++ "' does not exist. Available: " ++ joined ", " servers⟩

def alreadyConnected (name : String) : CommandResult := ⟨true, "", "§cYou are already connected to " ++ name ++ "!"⟩

def connecting (target name : String) : CommandResult := ⟨true, target, "§aConnecting to " ++ name ++ "..."⟩

/-- To `target`, which the player is told of as `name`. -/
def connect (current target name : String) : CommandResult :=
  if current = target then alreadyConnected name else connecting target name

/-- Where `/hub` and `/lobby` lead. -/
def hub (servers : List String) : String :=
  if serverExists servers "lobby" then "lobby" else if serverExists servers "steelmc2" then "steelmc2" else "steelmc"

def onPlayerCommand (servers : List String) (event : PlayerCommandEvent) : CommandResult :=
  let cmd := event.command
  let current := event.currentServer
  if cmd = "/server" then serverList servers current
  else if RustStr.startsWith cmd "/server " then
    -- `target.trim();` trims `target` itself.
    let target := RustStr.trim (sliceFrom cmd 8)
    if target = "" then usage
    else if target = current then alreadyConnected target
    else if ¬ serverExists servers target then noSuchServer servers target
    else connecting target target
  else if cmd = "/hub" ∨ cmd = "/lobby" then connect current (hub servers) (hub servers)
  else if cmd = "/steel" then connect current "steelmc" "SteelMC"
  else if RustStr.startsWith cmd "/" ∧ serverExists servers (sliceFrom cmd 1) then
    connect current (sliceFrom cmd 1) (sliceFrom cmd 1)
  else ⟨false, "", ""⟩

def onTabComplete (servers : List String) (event : PlayerTabCompleteEvent) : List String :=
  let cmd := event.command
  if RustStr.startsWith cmd "/server " then
    let arg := if cmd.toList.length > 8 then sliceFrom cmd 8 else ""
    servers.filter fun s => arg = "" || RustStr.startsWith s arg
  else if cmd = "/server" then ["/server"]
  else if RustStr.startsWith cmd "/" then
    let typed := sliceFrom cmd 1
    let shortcuts := servers.foldl (fun shortcuts s => if shortcuts.contains s then shortcuts else shortcuts ++ [s])
      ["server", "hub", "lobby", "steel"]
    (shortcuts.filter fun sc => typed = "" || RustStr.startsWith sc typed).map ("/" ++ ·)
  else []

def hooks (servers : List String) (limits : Limits) : Hooks :=
  ⟨none, some (upTo limits.command (onPlayerCommand servers)),
    some (upTo limits.complete fun event => (onTabComplete servers event).map some)⟩

example : (onPlayerCommand ["lobby", "steelmc"] ⟨"Steve", "/server  steelmc ", "lobby"⟩).rerouteServer = "steelmc" := by
  decide +kernel
example : onTabComplete ["lobby", "steelmc"] ⟨"Steve", "/s", "lobby"⟩ = ["/server", "/steel", "/steelmc"] := by
  decide +kernel

end ServerSwitcher

/-- The host of a new installation. -/
def shippedHost (servers : List String) (switcher main : Limits) : ScriptHost :=
  ⟨[ServerSwitcher.hooks servers switcher], MainScript.hooks main⟩

/-! ## Commands -/

/-- The commands that the main script lets no backend see. -/
def guarded : List String := ["/hub", "/lobby", "/steel", "/stop", "/op"]

/-- The commands that the plugin takes. -/
def ServerSwitcher.Takes (servers : List String) (cmd : String) : Prop :=
  cmd = "/server" ∨ RustStr.startsWith cmd "/server " = true ∨ cmd ∈ ["/hub", "/lobby", "/steel"] ∨
    RustStr.startsWith cmd "/" = true ∧ serverExists servers (sliceFrom cmd 1) = true

/-- A claim that does not go unsaid, and does not send players where they are. -/
structure Proper (current : String) (res : CommandResult) : Prop where
  cancel : res.cancel = true
  told : res.sendMessage ≠ ""
  elsewhere : res.rerouteServer ≠ "" → res.rerouteServer ≠ current

section Commands

variable {servers : List String} {switcher main : Limits} {event : PlayerCommandEvent} {current target name : String}

theorem append_ne_empty {a : String} (b : String) (h : a ≠ "") : a ++ b ≠ "" := by
  rw [ne_eq, ← String.toList_inj, String.toList_append] at *
  exact fun hnil => h (List.append_eq_nil_iff.mp hnil).1

theorem proper_told {message : String} (h : message ≠ "") : Proper current ⟨true, "", message⟩ :=
  ⟨rfl, h, fun hne => absurd rfl hne⟩

theorem proper_serverList : Proper current (ServerSwitcher.serverList servers name) :=
  proper_told (append_ne_empty _ (append_ne_empty _ (append_ne_empty _ (append_ne_empty _ (by decide)))))

theorem proper_noSuchServer : Proper current (ServerSwitcher.noSuchServer servers target) :=
  proper_told (append_ne_empty _ (append_ne_empty _ (append_ne_empty _ (by decide))))

theorem proper_alreadyConnected : Proper current (ServerSwitcher.alreadyConnected name) :=
  proper_told (append_ne_empty _ (append_ne_empty _ (by decide)))

theorem proper_connecting (h : target ≠ current) : Proper current (ServerSwitcher.connecting target name) :=
  ⟨rfl, append_ne_empty _ (append_ne_empty _ (by decide)), fun _ => h⟩

theorem proper_connect : Proper current (ServerSwitcher.connect current target name) := by
  rw [ServerSwitcher.connect]
  split
  · exact proper_alreadyConnected
  · next hne => exact proper_connecting (Ne.symm hne)

/-- The plugin takes a command properly or has nothing to say. -/
theorem switcher_cases (servers : List String) (event : PlayerCommandEvent) :
    ServerSwitcher.Takes servers event.command ∧ Proper event.currentServer (ServerSwitcher.onPlayerCommand servers event) ∨
      ¬ ServerSwitcher.Takes servers event.command ∧ ServerSwitcher.onPlayerCommand servers event = {} := by
  rw [ServerSwitcher.Takes, ServerSwitcher.onPlayerCommand]
  dsimp only
  split
  · next hlist => exact Or.inl ⟨Or.inl hlist, proper_serverList⟩
  · next hlist =>
  split
  · next hnamed =>
    refine Or.inl ⟨Or.inr (Or.inl hnamed), ?_⟩
    split_ifs with hblank hsame hexists
    · exact proper_told (by decide)
    · exact proper_alreadyConnected
    · exact proper_connecting hsame
    · exact proper_noSuchServer
  · next hnamed =>
  split
  · next hhub =>
    refine Or.inl ⟨Or.inr (Or.inr (Or.inl ?_)), proper_connect⟩
    rcases hhub with heq | heq <;> simp [heq]
  · next hhub =>
  split
  · next hsteel => exact Or.inl ⟨Or.inr (Or.inr (Or.inl (by simp [hsteel]))), proper_connect⟩
  · next hsteel =>
  split
  · next hdirect => exact Or.inl ⟨Or.inr (Or.inr (Or.inr hdirect)), proper_connect⟩
  · next hdirect =>
    refine Or.inr ⟨?_, rfl⟩
    rintro (htaken | htaken | htaken | htaken)
    · exact hlist htaken
    · exact hnamed htaken
    · simp only [List.mem_cons, List.not_mem_nil, or_false] at htaken
      tauto
    · exact hdirect htaken

theorem main_cases (event : PlayerCommandEvent) :
    event.command ∈ guarded ∧ (MainScript.onPlayerCommand event).cancel = true ∧
        (MainScript.onPlayerCommand event).sendMessage ≠ "" ∧
        ((MainScript.onPlayerCommand event).rerouteServer ≠ "" → event.command ∈ ["/hub", "/lobby", "/steel"]) ∨
      event.command ∉ guarded ∧ MainScript.onPlayerCommand event = {} := by
  rw [MainScript.onPlayerCommand]
  split
  · next hhub =>
    refine Or.inl ⟨?_, rfl, by decide, fun _ => ?_⟩ <;> rcases hhub with heq | heq <;> rw [heq] <;> decide
  · next hhub =>
  split
  · next hsteel => refine Or.inl ⟨?_, rfl, by decide, fun _ => ?_⟩ <;> rw [hsteel] <;> decide
  · next hsteel =>
  split
  · next hstop =>
    refine Or.inl ⟨?_, rfl, by decide, fun hreroute => absurd rfl hreroute⟩
    rcases hstop with heq | heq <;> rw [heq] <;> decide
  · next hstop =>
    refine Or.inr ⟨?_, rfl⟩
    simp only [guarded, List.mem_cons, List.not_mem_nil, or_false]
    tauto

theorem not_claims_quiet : ¬ (({} : CommandResult).claims = true) := by decide

theorem claims_of_cancel {res : CommandResult} (h : res.cancel = true) : res.claims = true := by
  rw [CommandResult.claims, h, Bool.true_or]

/-- What the main script says to what the plugin leaves. -/
theorem main_decides (limits : Limits) (event : PlayerCommandEvent) :
    let res := decision (upTo limits.command MainScript.onPlayerCommand event).toList
    (res.claims = true ↔ limits.command event = false ∧ event.command ∈ guarded) ∧
      (res.claims = true → res.cancel = true ∧ res.sendMessage ≠ "") ∧
      (res.rerouteServer ≠ "" → event.command ∈ ["/hub", "/lobby", "/steel"]) := by
  rw [upTo]
  cases limits.command event with
  | true =>
    exact ⟨iff_of_false not_claims_quiet fun hstops => absurd hstops.1 (by decide),
      fun hclaims => absurd hclaims not_claims_quiet, fun hreroute => absurd rfl hreroute⟩
  | false =>
    simp only [Bool.false_eq_true, if_false, Option.toList_some, true_and]
    rcases main_cases event with ⟨hguarded, hcancel, htold, hreroute⟩ | ⟨hguarded, hnothing⟩
    · rw [decision, claims_of_cancel hcancel, if_pos rfl]
      exact ⟨iff_of_true (claims_of_cancel hcancel) hguarded, fun _ => ⟨hcancel, htold⟩, hreroute⟩
    · rw [hnothing]
      exact ⟨iff_of_false not_claims_quiet hguarded, fun hclaims => absurd hclaims not_claims_quiet,
        fun hreroute => absurd rfl hreroute⟩

/-- The plugin comes first, and the script has what the plugin leaves. -/
theorem evalCommand_shipped (servers : List String) (switcher main : Limits) (event : PlayerCommandEvent) :
    (shippedHost servers switcher main).evalCommand event =
      decision ((upTo switcher.command (ServerSwitcher.onPlayerCommand servers) event).toList ++
        (upTo main.command MainScript.onPlayerCommand event).toList) := by
  rw [evalCommand_eq, answers, shippedHost, ScriptHost.scripts, List.singleton_append, List.filterMap_cons,
    List.filterMap_cons, List.filterMap_nil]
  simp only [ServerSwitcher.hooks, MainScript.hooks, Option.bind_some]
  cases upTo switcher.command (ServerSwitcher.onPlayerCommand servers) event <;>
    cases upTo main.command MainScript.onPlayerCommand event <;> rfl

/-- What the plugin takes, it decides. -/
theorem evalCommand_takes {main : Limits} (hwithin : switcher.command event = false)
    (htakes : ServerSwitcher.Takes servers event.command) :
    (shippedHost servers switcher main).evalCommand event = ServerSwitcher.onPlayerCommand servers event := by
  rcases switcher_cases servers event with ⟨-, hproper⟩ | ⟨hnot, -⟩
  · rw [evalCommand_shipped, upTo, hwithin, if_neg Bool.false_ne_true, Option.toList_some, List.singleton_append,
      decision, claims_of_cancel hproper.cancel, if_pos rfl]
  · exact absurd htakes hnot

/-- The commands that the scripts claim as far as the limits let them. -/
def Claimed (servers : List String) (switcher main : Limits) (event : PlayerCommandEvent) : Prop :=
  switcher.command event = false ∧ ServerSwitcher.Takes servers event.command ∨
    main.command event = false ∧ event.command ∈ guarded

/-- What the shipped scripts make of a command. -/
structure CommandAnswered (servers : List String) (switcher main : Limits) (event : PlayerCommandEvent)
    (res : CommandResult) : Prop where
  claims : res.claims = true ↔ Claimed servers switcher main event
  told : res.claims = true → res.cancel = true ∧ res.sendMessage ≠ ""
  elsewhere : switcher.command event = false → res.rerouteServer ≠ "" → res.rerouteServer ≠ event.currentServer

/-- For every command and wherever the limits stop a script: what is claimed is
what the plugin takes and what the main script guards, no claim goes unsaid, and
as long as the plugin is not stopped no player is sent where they are. -/
theorem commandAnswered (servers : List String) (switcher main : Limits) (event : PlayerCommandEvent) :
    CommandAnswered servers switcher main event ((shippedHost servers switcher main).evalCommand event) := by
  obtain ⟨hclaims, htold, hreroute⟩ := main_decides main event
  cases hwithin : switcher.command event with
  | true =>
    have hleft : (shippedHost servers switcher main).evalCommand event =
        decision (upTo main.command MainScript.onPlayerCommand event).toList := by
      rw [evalCommand_shipped, upTo, hwithin, if_pos rfl, Option.toList_none, List.nil_append]
    rw [hleft]
    refine ⟨hclaims.trans ⟨Or.inr, ?_⟩, htold, fun hstops => absurd (hwithin.symm.trans hstops) (by decide)⟩
    rintro (⟨hstops, -⟩ | hguarded)
    · exact absurd (hwithin.symm.trans hstops) (by decide)
    · exact hguarded
  | false =>
    rcases switcher_cases servers event with ⟨htakes, hproper⟩ | ⟨htakes, hnothing⟩
    · rw [evalCommand_takes hwithin htakes]
      exact ⟨iff_of_true (claims_of_cancel hproper.cancel) (Or.inl ⟨hwithin, htakes⟩),
        fun _ => ⟨hproper.cancel, hproper.told⟩, fun _ => hproper.elsewhere⟩
    · have hleft : (shippedHost servers switcher main).evalCommand event =
          decision (upTo main.command MainScript.onPlayerCommand event).toList := by
        rw [evalCommand_shipped, upTo, hwithin, if_neg Bool.false_ne_true, hnothing]
        rfl
      rw [hleft]
      refine ⟨hclaims.trans ⟨Or.inr, ?_⟩, htold, fun _ hasked => ?_⟩
      · rintro (⟨-, htaken⟩ | hguarded)
        · exact absurd htaken htakes
        · exact hguarded
      · exact absurd (Or.inr (Or.inr (Or.inl (hreroute hasked)))) htakes

end Commands

end FrameMC

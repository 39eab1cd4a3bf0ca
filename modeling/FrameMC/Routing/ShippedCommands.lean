import FrameMC.Routing.Suggestions
import FrameMC.Script.Shipped

/-!
# With the scripts that are shipped

What a player of a new installation meets: what becomes of a command
(`shipped_command_handled`), where a suggestion leads (`suggestion_taken`), and
which commands never come to a backend (`guarded_commands_kept`).
-/

namespace FrameMC

open ByteStream

/-! ## What becomes of a command -/

/-- The player is told something and then moved, unless there is nowhere to. -/
def tellAndMove (env : Env) (message target : String) : Play Bool := do
  writeChat env message
  if target ≠ "" then do
    let _ ← switchServer env target
    pure true
  else pure true

section Handled

variable {env : Env} {servers : List String} {switcher main : Limits} {packet : RawPacket} {text : String}
  {s : PlayStateMachine}

theorem decided_shipped (henv : env.scriptHost = shippedHost servers switcher main) (session : PlayerSession)
    (text : String) : CommandAnswered servers switcher main (commandEvent session text) (decided env session text) := by
  rw [decided, henv, ← evalCommand_eq]
  exact commandAnswered ..

theorem handle_claimed (henv : env.scriptHost = shippedHost servers switcher main)
    (h : RaisesCommand packet s.session.protocolVersion text)
    (hclaimed : Claimed servers switcher main (commandEvent s.session text)) :
    handleClientPacket env packet s = tellAndMove env (decided env s.session text).sendMessage
      (decided env s.session text).rerouteServer (noteClose packet s) := by
  have hanswered := decided_shipped henv s.session text
  have hclaims := hanswered.claims.mpr hclaimed
  obtain ⟨hcancel, htold⟩ := hanswered.told hclaims
  rw [handle_command h, if_pos hclaims, say, if_pos htold, tellAndMove]
  simp only [carryOut, hcancel, if_true]

/-- For every command of a player, wherever the limits stop a script: what the
scripts claim no backend hears of, and the player is told of it and then at
most moved, as long as the plugin is not stopped to another server; and what
they do not claim goes on as if there were no scripts. -/
theorem shipped_command_handled (henv : env.scriptHost = shippedHost servers switcher main)
    (h : RaisesCommand packet s.session.protocolVersion text) :
    (Claimed servers switcher main (commandEvent s.session text) → ∃ message target, message ≠ "" ∧
        (switcher.command (commandEvent s.session text) = false → target ≠ "" → target ≠ s.session.currentServer) ∧
        handleClientPacket env packet s = tellAndMove env message target (noteClose packet s)) ∧
      (¬ Claimed servers switcher main (commandEvent s.session text) →
        handleClientPacket env packet s = completeOrForward env packet (noteClose packet s)) := by
  have hanswered := decided_shipped henv s.session text
  constructor
  · intro hclaimed
    obtain ⟨-, htold⟩ := hanswered.told (hanswered.claims.mpr hclaimed)
    exact ⟨_, _, htold, hanswered.elsewhere, handle_claimed henv h hclaimed⟩
  · intro hclaimed
    have hclaims := Bool.eq_false_iff.mpr (mt hanswered.claims.mp hclaimed)
    have hquiet : decided env s.session text = {} := decision_unclaimed hclaims
    rw [handle_command h, hquiet]
    rfl

end Handled

/-! ## From a suggestion to a server -/

/-- A name without blanks. -/
structure PlainName (name : String) : Prop where
  nonempty : name ≠ ""
  noBlank : ∀ c ∈ name.toList, RustStr.isWhitespace c = false

section Suggestions

variable {servers : List String} {text name current player : String}

theorem space_notMem {pre : List Char} (h : ∀ c ∈ name.toList, RustStr.isWhitespace c = false)
    (hpre : pre <+: name.toList) : ' ' ∉ pre := by
  intro hmem
  exact absurd (h ' ' (hpre.subset hmem)) (by decide)

theorem sliceFrom_append (a b : String) : ServerSwitcher.sliceFrom (a ++ b) a.toList.length = b := by
  rw [ServerSwitcher.sliceFrom, String.toList_append, List.drop_left, String.ofList_toList]

/-- What starts with `a` is `a` and what is behind it. -/
theorem append_sliceFrom {a : String} (h : RustStr.startsWith text a = true) :
    a ++ ServerSwitcher.sliceFrom text a.toList.length = text := by
  obtain ⟨rest, hrest⟩ := List.isPrefixOf_iff_prefix.mp h
  have htext : text = a ++ String.ofList rest := by
    rw [← String.toList_inj, String.toList_append, String.toList_ofList, hrest]
  rw [htext, sliceFrom_append]

theorem serverExists_of_mem (h : name ∈ servers) : ServerSwitcher.serverExists servers name = true :=
  List.any_eq_true.mpr ⟨name, h, beq_self_eq_true _⟩

/-- The name of another server behind `/server ` leads there. -/
theorem onPlayerCommand_named (hplain : PlainName name) (hmem : name ∈ servers) (hother : name ≠ current) :
    ServerSwitcher.onPlayerCommand servers ⟨player, "/server " ++ name, current⟩ =
      ServerSwitcher.connecting name name := by
  have hlist : "/server " ++ name ≠ "/server" := by
    intro heq
    have hlength := congrArg (·.toList.length) heq
    simp only [String.toList_append, List.length_append] at hlength
    have height : "/server ".toList.length = 8 := by decide
    have hseven : "/server".toList.length = 7 := by decide
    omega
  have hslice : ServerSwitcher.sliceFrom ("/server " ++ name) 8 = name := sliceFrom_append "/server " name
  rw [ServerSwitcher.onPlayerCommand]
  dsimp only
  rw [if_neg hlist, if_pos (RustStr.startsWith_append ..), hslice, RustStr.trim_of_forall hplain.noBlank,
    if_neg hplain.nonempty, if_neg hother, if_neg (not_not_intro (serverExists_of_mem hmem))]

theorem space_notMem_asBytes (h : ' ' ∉ text.toList) : (0x20 : UInt8) ∉ asBytes text := by
  intro hbyte
  obtain ⟨c, hc, hnat⟩ := char_of_asBytes hbyte (by decide)
  have hspace : c = ' ' := Char.toNat_inj.mp hnat
  exact h (hspace ▸ hc)

/-- Where what is before ends in `x`, no part without `x` is at its end. -/
theorem eq_nil_of_ends {α : Type} {xs ys : List α} {x : α} (h : xs ++ ys = [] ∨ (xs ++ ys).getLast? = some x)
    (hys : x ∉ ys) : ys = [] := by
  rcases h with hnil | hlast
  · exact (List.append_eq_nil_iff.mp hnil).2
  · rcases List.eq_nil_or_concat ys with rfl | ⟨front, y, rfl⟩
    · rfl
    · rw [List.concat_eq_append] at hlast hys
      rw [← List.append_assoc, List.getLast?_concat] at hlast
      cases hlast
      exact absurd (List.mem_append_right front (List.mem_singleton_self x)) hys

/-- Only one place is behind the last `x`. -/
theorem before_unique {α : Type} {before word before' word' : List α} {x : α} (h : before ++ word = before' ++ word')
    (hword : x ∉ word) (hword' : x ∉ word') (hbefore : before = [] ∨ before.getLast? = some x)
    (hbefore' : before' = [] ∨ before'.getLast? = some x) : before = before' := by
  rcases List.append_eq_append_iff.mp h with ⟨more, rfl, rfl⟩ | ⟨more, rfl, rfl⟩
  · rw [eq_nil_of_ends hbefore' fun hmem => hword (List.mem_append_left _ hmem), List.append_nil]
  · rw [eq_nil_of_ends hbefore fun hmem => hword' (List.mem_append_left _ hmem), List.append_nil]

/-- A suggestion takes the place of all that is behind the last space. -/
theorem accept_last {front rest : String} (hfits : StringFits (front ++ rest))
    (hfront : (asBytes front).length = front.toList.length)
    (hends : asBytes front = [] ∨ (asBytes front).getLast? = some 0x20) (hspace : ' ' ∉ rest.toList) :
    accept (front ++ rest) (completionRange (front ++ rest)).1 (completionRange (front ++ rest)).2 name =
      front ++ name := by
  obtain ⟨before, word, hword⟩ := completionRange_lastWord (front ++ rest)
  have hsplit : asBytes front ++ asBytes rest = before ++ word := by rw [← asBytes_append, hword.split]
  obtain rfl : asBytes front = before :=
    before_unique hsplit (space_notMem_asBytes hspace) hword.word hends hword.before
  rw [List.append_cancel_left_eq] at hsplit
  rw [StringFits, asBytes_append, List.length_append] at hfits
  have hstart : asUsize (completionRange (front ++ rest)).1 = front.toList.length := by
    rw [hword.start, asUsize_asI32 (by omega), hfront]
  have hlength : asUsize (completionRange (front ++ rest)).2 = (asBytes rest).length := by
    rw [hword.length, ← hsplit, asUsize_asI32 (by omega)]
  have hpast : (front ++ rest).toList.length ≤ front.toList.length + (asBytes rest).length := by
    rw [String.toList_append, List.length_append]
    exact Nat.add_le_add_left (length_le_asBytes rest) _
  rw [← String.toList_inj, accept, String.toList_ofList, hstart, hlength, List.drop_eq_nil_of_le hpast,
    List.append_nil, String.toList_append, List.take_left, String.toList_append]

/-- In a text without a space it takes the place of all of it. -/
theorem accept_word (hfits : StringFits text) (hspace : ' ' ∉ text.toList) :
    accept text (completionRange text).1 (completionRange text).2 name = name := by
  have htext : "" ++ text = text := String.empty_append
  have haccept := @accept_last name "" text (htext.symm ▸ hfits) (by decide) (Or.inl (by decide)) hspace
  rwa [htext, String.empty_append] at haccept

/-- Behind `/server ` it takes the place of the name begun. -/
theorem accept_named {arg : String} (hfits : StringFits ("/server " ++ arg)) (hspace : ' ' ∉ arg.toList) :
    accept ("/server " ++ arg) (completionRange ("/server " ++ arg)).1 (completionRange ("/server " ++ arg)).2 name =
      "/server " ++ name :=
  accept_last hfits (by decide) (Or.inr (by decide)) hspace

/-- What the plugin suggests: a server behind `/server `, or a command that it takes. -/
inductive Suggested (servers : List String) (text m : String) : Prop where
  | named (arg : String) (htext : text = "/server " ++ arg) (hmem : m ∈ servers) (hspace : ' ' ∉ arg.toList)
  | command (hspace : ' ' ∉ text.toList) (htakes : ServerSwitcher.Takes servers m)
      (hnamed : RustStr.startsWith text "/server " = false)

theorem prefix_of_begun {arg : String} (h : (decide (arg = "") || RustStr.startsWith name arg) = true) :
    arg.toList <+: name.toList := by
  rcases Bool.or_eq_true_iff.mp h with hempty | hstarts
  · rw [of_decide_eq_true hempty]
    exact List.nil_prefix
  · exact List.isPrefixOf_iff_prefix.mp hstarts

theorem noBlank_of_all (h : name.toList.all (fun c => !RustStr.isWhitespace c) = true) :
    ∀ c ∈ name.toList, RustStr.isWhitespace c = false := by simpa using h

theorem shortcuts_noBlank {sc : String} (h : sc ∈ ["server", "hub", "lobby", "steel"]) :
    ∀ c ∈ sc.toList, RustStr.isWhitespace c = false := by
  simp only [List.mem_cons, List.not_mem_nil, or_false] at h
  rcases h with rfl | rfl | rfl | rfl <;> exact noBlank_of_all (by decide)

/-- Each of the shortcuts is taken. -/
theorem takes_shortcut {sc : String} (h : sc ∈ ["server", "hub", "lobby", "steel"] ∨ sc ∈ servers) :
    ServerSwitcher.Takes servers ("/" ++ sc) := by
  rcases h with hbuiltIn | hserver
  · simp only [List.mem_cons, List.not_mem_nil, or_false] at hbuiltIn
    rcases hbuiltIn with rfl | rfl | rfl | rfl
    · exact Or.inl (by decide)
    · exact Or.inr (Or.inr (Or.inl (by decide)))
    · exact Or.inr (Or.inr (Or.inl (by decide)))
    · exact Or.inr (Or.inr (Or.inl (by decide)))
  · refine Or.inr (Or.inr (Or.inr ⟨RustStr.startsWith_append .., ?_⟩))
    have hslice : ServerSwitcher.sliceFrom ("/" ++ sc) 1 = sc := sliceFrom_append "/" sc
    rw [hslice]
    exact serverExists_of_mem hserver

/-- Where no name has blanks, what is suggested is a server or a command. -/
theorem suggested_of_mem (hplain : ∀ s ∈ servers, PlainName s) {m : String}
    (hm : m ∈ ServerSwitcher.onTabComplete servers ⟨player, text, current⟩) : Suggested servers text m := by
  rw [ServerSwitcher.onTabComplete] at hm
  dsimp only at hm
  split at hm
  · next hnamed =>
    have hslice : (if text.toList.length > 8 then ServerSwitcher.sliceFrom text 8 else "") =
        ServerSwitcher.sliceFrom text 8 := by
      split
      · rfl
      · next hshort => rw [ServerSwitcher.sliceFrom, List.drop_eq_nil_of_le (Nat.le_of_not_lt hshort)]
    rw [hslice, List.mem_filter] at hm
    exact .named _ (append_sliceFrom hnamed).symm hm.1 (space_notMem (hplain m hm.1).noBlank (prefix_of_begun hm.2))
  · next hnamed =>
  split at hm
  · next hserver =>
    rw [List.mem_singleton.mp hm]
    exact .command (by rw [hserver]; decide) (Or.inl rfl) (Bool.eq_false_iff.mpr hnamed)
  · next hserver =>
  split at hm
  · next hslash =>
    obtain ⟨sc, hsc, rfl⟩ := List.mem_map.mp hm
    rw [foldl_push, List.mem_filter, List.mem_append, List.mem_eraseDups, List.mem_filter] at hsc
    have hshortcut : sc ∈ ["server", "hub", "lobby", "steel"] ∨ sc ∈ servers := hsc.1.imp_right And.left
    have hblank := hshortcut.elim shortcuts_noBlank fun hserver => (hplain sc hserver).noBlank
    refine .command ?_ (takes_shortcut hshortcut) (Bool.eq_false_iff.mpr hnamed)
    have hspace := space_notMem hblank (prefix_of_begun hsc.2)
    rw [← append_sliceFrom hslash, String.toList_append, List.mem_append, not_or]
    exact ⟨by decide, hspace⟩
  · cases hm

theorem mem_onTabComplete {switcher main : Limits} {event : PlayerTabCompleteEvent} {m : String}
    (hm : m ∈ (shippedHost servers switcher main).evalTabComplete event) :
    m ∈ ServerSwitcher.onTabComplete servers event := by
  rw [evalTabComplete_eq, List.mem_eraseDups, suggested, List.mem_filterMap] at hm
  obtain ⟨_, hitem, rfl⟩ := hm
  obtain ⟨items, hanswer, hmem⟩ := List.mem_flatten.mp hitem
  obtain ⟨hooks, hhooks, hanswers⟩ := List.mem_filterMap.mp hanswer
  rw [shippedHost, ScriptHost.scripts, List.singleton_append, List.mem_cons, List.mem_singleton] at hhooks
  rcases hhooks with rfl | rfl
  · rw [ServerSwitcher.hooks, Option.bind_some, upTo] at hanswers
    split at hanswers
    · cases hanswers
    · cases hanswers
      obtain ⟨s, hs, heq⟩ := List.mem_map.mp hmem
      exact Option.some.inj heq ▸ hs
  · cases hanswers

/-- What a suggestion makes of the text that is completed. -/
def accepted (text m : String) : String := accept text (completionRange text).1 (completionRange text).2 m

end Suggestions

/-! Two servers, and limits that stop nothing. -/

def unlimited : Limits := ⟨fun _ => false, fun _ => false, fun _ => false⟩

def shippedEnv : Env := { smallEnv [] with scriptHost := shippedHost ["lobby", "survival"] unlimited unlimited }

def commandPacket (command : String) : RawPacket := ⟨0x07, putString command⟩

/-- A player on `survival` who may not stop the server. -/
theorem shipped_command_handled_stop :
    (Claimed ["lobby", "survival"] unlimited unlimited (commandEvent (smallSession 776).session "stop") →
        ∃ message target, message ≠ "" ∧
          (unlimited.command (commandEvent (smallSession 776).session "stop") = false → target ≠ "" →
            target ≠ "survival") ∧
          handleClientPacket shippedEnv (commandPacket "stop") (smallSession 776) =
            tellAndMove shippedEnv message target (noteClose (commandPacket "stop") (smallSession 776))) ∧
      (¬ Claimed ["lobby", "survival"] unlimited unlimited (commandEvent (smallSession 776).session "stop") →
        handleClientPacket shippedEnv (commandPacket "stop") (smallSession 776) =
          completeOrForward shippedEnv (commandPacket "stop") (noteClose (commandPacket "stop") (smallSession 776))) :=
  @shipped_command_handled shippedEnv _ _ _ (commandPacket "stop") "stop" (smallSession 776) rfl
    ⟨by decide +kernel, by decide +kernel, by decide +kernel⟩

/-- The scripts are the shipped ones, and the limits do not stop the main
script's guard on a command of the player's that it guards. -/
def Env.Ships (player : String) (env : Env) : Prop :=
  ∃ servers switcher main, env.scriptHost = shippedHost servers switcher main ∧
    ∀ event, event.playerName = player → event.command ∈ guarded → main.command event = false

/-- A packet that raises none of the guarded commands. -/
def Unguarded (v : Int) (packet : RawPacket) : Prop :=
  ∀ text, commandText packet v = some text → ServerboundChatCommand.normalizedCommand ⟨text⟩ ∉ guarded

theorem routed_unguarded {s : PlayStateMachine} {call : Env × Action}
    (hships : call.1.Ships s.session.profile.name) :
    ∀ packet ∈ Action.routed s call, Unguarded s.session.protocolVersion packet := by
  obtain ⟨env, action⟩ := call
  obtain ⟨servers, switcher, main, henv, hmain⟩ := hships
  cases action with
  | clientPacket packet =>
    intro routed hrouted text htext hguarded
    rw [Action.routed] at hrouted
    split at hrouted
    · next hunclaimed =>
      cases List.mem_singleton.mp hrouted
      obtain ⟨-, hcommand, -⟩ := unclaimed_iff.mp hunclaimed
      have hclaims := (decided_shipped henv s.session text).claims.mpr (Or.inr ⟨hmain _ rfl hguarded, hguarded⟩)
      exact absurd (hclaims.symm.trans (hcommand text htext)) (by decide)
    · cases hrouted
  | _ =>
    intro routed hrouted
    cases hrouted

/-- A player stays who they are. -/
theorem profile_callRel (env : Env) : CallRel env fun s s' => s'.session.profile = s.session.profile where
  refl := fun _ => rfl
  after := fun hrel helsewhere => hrel.trans (congrArg PlayerSession.profile helsewhere.session)
  switchServer := by
    intro targetServer s
    have hcases := switchServer_cases env targetServer s
    generalize (switchServer env targetServer s).1 = r at hcases
    generalize (switchServer env targetServer s).2 = s' at hcases ⊢
    cases hcases with
    | unknown _ _ _ =>
      rw [writeChat_apply]
    | failed reason dropped _ =>
      rw [writeChat_apply]
      rfl
    | attached wire threshold _ =>
      rw [reattach, teardown_frame]
      rfl

theorem profile_step {s : PlayStateMachine} {b : Wire} (hb : s.backend = some b) (call : Env × Action) :
    (Action.step s call).session.profile = s.session.profile := by
  obtain ⟨env, action⟩ := call
  by_cases hrouted : Action.routed s (env, action) = []
  · exact (profile_callRel env).exec action hrouted
  · cases action with
    | clientPacket packet =>
      rw [Action.routed] at hrouted
      split at hrouted
      · next hunclaimed =>
        have helsewhere : Elsewhere _ (Action.step s (env, .clientPacket packet)) := forwards hb hunclaimed
        rw [helsewhere.session]
      · exact absurd rfl hrouted
    | _ => exact absurd rfl hrouted

/-- In every run with the shipped scripts, whatever the players, backends and
connections do: what a backend is sent behind what it was sent before are
packets of the client's, and none raises a command that the main script guards;
and the backend is still there at the end, or among those given up. -/
theorem guarded_commands_kept {s : PlayStateMachine} {b : Wire} (hb : s.backend = some b)
    {calls : List (Env × Action)} (hships : ∀ call ∈ calls, call.1.Ships s.session.profile.name) :
    ∃ b' more, ((runAll Action.step s calls).backend = some b' ∨ b' ∈ (runAll Action.step s calls).closed) ∧
      b'.log = b.log ++ more ∧ ∀ event ∈ more, ∃ packet,
        event = .sent packet s.backendCompressionThreshold .relayed ∧ Unguarded s.session.protocolVersion packet := by
  induction calls generalizing s b with
  | nil => exact ⟨b, [], Or.inl hb, (List.append_nil _).symm, fun _ hmem => absurd hmem List.not_mem_nil⟩
  | cons call calls ih =>
    rw [List.forall_mem_cons] at hships
    cases call_handles hb call with
    | leaves _ hbackend hclosed _ =>
      have hkept : b ∈ (runAll Action.step s (call :: calls)).closed :=
        (hclosed.trans (closed_run hbackend calls)).subset (List.mem_append_right _ (List.mem_singleton_self b))
      exact ⟨b, [], Or.inr hkept, (List.append_nil _).symm, fun _ hmem => absurd hmem List.not_mem_nil⟩
    | stays _ hbackend hthreshold _ hears =>
      have hprofile := profile_step hb call
      obtain ⟨b', later, hkept, hlog, hlater⟩ := ih hbackend fun later hlater =>
        congrArg PlayerProfile.name hprofile ▸ hships.2 later hlater
      obtain ⟨more, hmore, hsub, -⟩ := hears.sent
      have hversion := (call_relays s call).passes.version
      rw [hthreshold, hversion] at hlater
      refine ⟨b', more ++ later, hkept, by rw [hlog, hmore, List.append_assoc], fun event hmem => ?_⟩
      rcases List.mem_append.mp hmem with hmem | hmem
      · obtain ⟨packet, hrouted, heq⟩ := List.mem_map.mp (hsub.subset hmem)
        exact ⟨packet, heq.symm, routed_unguarded hships.1 packet hrouted⟩
      · exact hlater event hmem

/-- The player asks for help, tries to stop the server, and the backend is lost. -/
def helpThenStop : List (Env × Action) :=
  [(shippedEnv, .clientPacket (commandPacket "help")), (shippedEnv, .clientPacket (commandPacket "stop")),
    (shippedEnv, .backendEof)]

theorem guarded_commands_kept_stop :
    ∃ b' more, ((runAll Action.step (smallSession 776) helpThenStop).backend = some b' ∨
        b' ∈ (runAll Action.step (smallSession 776) helpThenStop).closed) ∧
      b'.log = [] ++ more ∧ ∀ event ∈ more, ∃ packet, event = .sent packet none .relayed ∧ Unguarded 776 packet := by
  refine @guarded_commands_kept (smallSession 776) quietWire rfl _ fun call hcall => ?_
  have henv : call.1 = shippedEnv := by
    simp only [helpThenStop, List.mem_cons, List.not_mem_nil, or_false] at hcall
    rcases hcall with rfl | rfl | rfl <;> rfl
  rw [henv]
  exact ⟨_, _, _, rfl, fun _ _ _ => rfl⟩

end FrameMC

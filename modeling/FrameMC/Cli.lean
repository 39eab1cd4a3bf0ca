import Mathlib.Data.List.Basic
import Mathlib.Data.List.Induction

/-!
# The command line

`parse_cli_args` of `src/main.rs`. `cli_answers` says for each outcome which
command lines have it.
-/

namespace FrameMC

inductive CliAction where
  | run (configPath : String)
  | help
  | version
  deriving DecidableEq

namespace Cli

def isConfig (arg : String) : Bool := arg == "-c" || arg == "--config"
def isVersion (arg : String) : Bool := arg == "-v" || arg == "-V" || arg == "--version"
def isHelp (arg : String) : Bool := arg == "-h" || arg == "--help"

def configRequiresPath : String := "Error: --config requires a path argument"
def unrecognized (arg : String) : String :=
  s!"Error: Unrecognized option '{arg}'. Try '--help' for more information."

/-- The loop over the arguments behind the program's name. -/
def parse : List String → String → Except String CliAction
  | [], configPath => .ok (.run configPath)
  | arg :: args, _ =>
    if isConfig arg then
      match args with
      | path :: args => parse args path
      | [] => .error configRequiresPath
    else if isVersion arg then .ok .version
    else if isHelp arg then .ok .help
    else .error (unrecognized arg)

def parseCliArgs (args : List String) : Except String CliAction := parse (args.drop 1) "config.toml"

/-- A config flag with its path. -/
structure Setting where
  flag : String
  path : String
  isConfig : isConfig flag = true

/-- The arguments that settings are written as. -/
def words (settings : List Setting) : List String := settings.flatMap fun setting => [setting.flag, setting.path]

/-- The path that is in force after settings. -/
def lastPath (settings : List Setting) (configPath : String) : String :=
  (settings.map Setting.path).getLastD configPath

theorem lastPath_cons (setting : Setting) (settings : List Setting) (configPath : String) :
    lastPath (setting :: settings) configPath = lastPath settings setting.path := by
  rw [lastPath, List.map_cons, List.getLastD_cons, lastPath]

theorem parse_words (settings : List Setting) (rest : List String) (configPath : String) :
    parse (words settings ++ rest) configPath = parse rest (lastPath settings configPath) := by
  induction settings generalizing configPath with
  | nil => rfl
  | cons setting settings ih =>
    have hwords : words (setting :: settings) ++ rest = setting.flag :: setting.path :: (words settings ++ rest) := rfl
    rw [hwords, parse, if_pos setting.isConfig, lastPath_cons]
    exact ih setting.path

/-- What is behind the settings and what it comes to, with `path` in force. -/
inductive Ends (path : String) : List String → Except String CliAction → Prop where
  | run : Ends path [] (.ok (.run path))
  | noPath (flag : String) (h : isConfig flag = true) : Ends path [flag] (.error configRequiresPath)
  | version (arg : String) (args : List String) (h : isVersion arg = true) : Ends path (arg :: args) (.ok .version)
  | help (arg : String) (args : List String) (h : isHelp arg = true) : Ends path (arg :: args) (.ok .help)
  | unrecognized (arg : String) (args : List String) (hconfig : isConfig arg = false) (hversion : isVersion arg = false)
      (hhelp : isHelp arg = false) : Ends path (arg :: args) (.error (unrecognized arg))

/-- No word is a flag of two kinds. -/
theorem isConfig_of_isVersion {arg : String} (h : isVersion arg = true) : isConfig arg = false := by
  simp only [isVersion, Bool.or_eq_true, beq_iff_eq] at h
  rcases h with (rfl | rfl) | rfl <;> decide

theorem not_of_isHelp {arg : String} (h : isHelp arg = true) : isConfig arg = false ∧ isVersion arg = false := by
  simp only [isHelp, Bool.or_eq_true, beq_iff_eq] at h
  rcases h with rfl | rfl <;> decide

theorem parse_ends {path : String} {rest : List String} {result : Except String CliAction} (h : Ends path rest result) :
    parse rest path = result := by
  cases h with
  | run => rfl
  | noPath flag h =>
    unfold parse
    rw [if_pos h]
  | version arg args h =>
    unfold parse
    rw [if_neg (ne_true_of_eq_false (isConfig_of_isVersion h)), if_pos h]
  | help arg args h =>
    obtain ⟨hconfig, hversion⟩ := not_of_isHelp h
    unfold parse
    rw [if_neg (ne_true_of_eq_false hconfig), if_neg (ne_true_of_eq_false hversion), if_pos h]
  | unrecognized arg args hconfig hversion hhelp =>
    unfold parse
    rw [if_neg (ne_true_of_eq_false hconfig), if_neg (ne_true_of_eq_false hversion), if_neg (ne_true_of_eq_false hhelp)]

/-- What is not a config flag ends the settings. -/
theorem exists_ends_other {arg : String} (harg : isConfig arg = false) (args : List String) (path : String) :
    ∃ result, Ends path (arg :: args) result := by
  cases hversion : isVersion arg with
  | true => exact ⟨_, .version arg args hversion⟩
  | false =>
    cases hhelp : isHelp arg with
    | true => exact ⟨_, .help arg args hhelp⟩
    | false => exact ⟨_, .unrecognized arg args harg hversion hhelp⟩

/-- Every command line is settings and an end. -/
theorem exists_ends (args : List String) (path : String) : ∃ settings rest result,
    args = words settings ++ rest ∧ Ends (lastPath settings path) rest result := by
  induction args using List.twoStepInduction generalizing path with
  | nil => exact ⟨[], [], _, rfl, .run⟩
  | singleton arg =>
    cases harg : isConfig arg with
    | true => exact ⟨[], [arg], _, rfl, .noPath arg harg⟩
    | false =>
      obtain ⟨result, hends⟩ := exists_ends_other harg [] path
      exact ⟨[], [arg], result, rfl, hends⟩
  | cons_cons arg next args ih _ =>
    cases harg : isConfig arg with
    | true =>
      obtain ⟨settings, rest, result, rfl, hends⟩ := ih next
      refine ⟨⟨arg, next, harg⟩ :: settings, rest, result, rfl, ?_⟩
      rwa [lastPath_cons]
    | false =>
      obtain ⟨result, hends⟩ := exists_ends_other harg (next :: args) path
      exact ⟨[], arg :: next :: args, result, rfl, hends⟩

/-- For every command line: what it comes to is what the first word says that is
no setting, and where there is none the proxy runs, with the last path set. -/
theorem cli_answers (args : List String) (result : Except String CliAction) :
    parseCliArgs args = result ↔ ∃ settings rest,
      args.drop 1 = words settings ++ rest ∧ Ends (lastPath settings "config.toml") rest result := by
  constructor
  · rintro rfl
    obtain ⟨settings, rest, result, hargs, hends⟩ := exists_ends (args.drop 1) "config.toml"
    refine ⟨settings, rest, hargs, ?_⟩
    rw [parseCliArgs, hargs, parse_words, parse_ends hends]
    exact hends
  · rintro ⟨settings, rest, hargs, hends⟩
    rw [parseCliArgs, hargs, parse_words, parse_ends hends]

end Cli

end FrameMC

import FrameMC.Config
import FrameMC.Error
import FrameMC.Lib.FileSystem
import FrameMC.Protocol.Packet

/-!
# The config file

`load_or_create` of `src/config.rs`: what a start with a config path reads, what
it makes on the disk and what config it comes to. Starts only ever add files
(`starts_add`), and a start that came to a config comes to it again
(`start_again`). TOML and base64 are parameters.
-/

namespace FrameMC

open FileSystem Effect

/-- What the file says: what a connection reads, the icon, and where scripts are. -/
structure ConfigFile extends ProxyConfig where
  favicon : Option String
  scriptPath : String
  pluginsDir : String

/-- The files built into the binary. -/
structure Assets where
  defaultConfigTemplate : String
  defaultServerIcon : List UInt8
  defaultMainScript : String
  defaultServerSwitcherPlugin : String

/-- `BASE64_STANDARD`: encoding, and whether a text decodes. -/
structure Base64 where
  encode : List UInt8 → String
  decodes : String → Bool

abbrev IoError : Type := IoErrorKind × String

/-- What a start depends on besides the disk. -/
structure StartEnv (ι : Type) where
  os : Os ι IoError
  currentExe : Option Path
  assets : Assets
  base64 : Base64
  fromToml : String → Except String ConfigFile

/-- `?` on an I/O result. -/
def orIo {σ α : Type} (m : Effect σ IoError α) : Effect σ ProxyError α := m.handle fun e => throw (.io e.1 e.2)

def pngUri : String := "data:image/png;base64,"

namespace StartEnv

variable {ι : Type} [DecidableEq ι] (env : StartEnv ι)

/-! ## The icon -/

/-- A file as a data URI, if it is one and reads. -/
def iconAt (disk : Disk ι) (path : Path) : Option String :=
  if env.os.isFile disk path then (env.os.contents disk path).toOption.map fun bytes => pngUri ++ env.base64.encode bytes
  else none

/-- The three places where an icon is looked for. -/
def findIcon (disk : Disk ι) (file : Path) (baseDir : Option Path) : Option String :=
  (baseDir.bind fun dir => env.iconAt disk (dir.join file)).or
    ((env.iconAt disk file).or
      ((env.currentExe.bind Path.parent).bind fun exeDir => env.iconAt disk (exeDir.join file)))

def resolveFaviconUri (disk : Disk ι) (favicon : Option String) (baseDir : Option Path) : Option String :=
  match favicon with
  | some val =>
    let val := RustStr.trim val
    if RustStr.startsWith val pngUri then some val
    else (env.findIcon disk (Path.new val) baseDir).or
      (if (asBytes val).length > 64 ∧ env.base64.decodes val then some (pngUri ++ val) else none)
  | none => env.findIcon disk (Path.new "server-icon.png") baseDir

/-! ## Loading -/

def bootstrapDefaultFiles (config : ConfigFile) (baseDir : Option Path) : Effect (Disk ι) IoError Unit := do
  let base := baseDir.getD (Path.new "")
  let iconPath := base.join (Path.new "server-icon.png")
  env.os.create iconPath iconPath.parent env.assets.defaultServerIcon
  let scriptPath := base.join (Path.new config.scriptPath)
  env.os.create scriptPath scriptPath.parent (asBytes env.assets.defaultMainScript)
  let pluginsDir := base.join (Path.new config.pluginsDir)
  env.os.create (pluginsDir.join (Path.new "server_switcher.rhai")) (some pluginsDir)
    (asBytes env.assets.defaultServerSwitcherPlugin)

def readToString (path : Path) : Effect (Disk ι) IoError String := do
  let bytes ← env.os.read path
  match fromUtf8 bytes with
  | some content => pure content
  | none => throw (.invalidData, "stream did not contain valid UTF-8")

def parse (failed content : String) : Effect (Disk ι) ProxyError ConfigFile :=
  match env.fromToml content with
  | .ok config => pure config
  | .error e => throw (.configError s!"{failed}: {e}")

def withIcon (disk : Disk ι) (path : String) (config : ConfigFile) : ConfigFile :=
  { config with favicon := env.resolveFaviconUri disk config.favicon (Path.new path).parent }

/-- The config in the file, or the default one once it is in the file. -/
def readOrCreate (path : String) (isNew : Bool) : Effect (Disk ι) ProxyError ConfigFile :=
  let filePath := Path.new path
  if isNew then do
    orIo (do
      env.os.createParent filePath.parent
      env.os.write filePath (asBytes env.assets.defaultConfigTemplate))
    env.parse "Failed to parse default config template" env.assets.defaultConfigTemplate
  else do
    let content ← orIo (env.readToString filePath)
    env.parse s!"Failed to parse config file '{path}'" content

/-- `if is_new`: what fails of it is let be. -/
def bootstrapNew (path : String) (config : ConfigFile) (isNew : Bool) : Effect (Disk ι) ProxyError Unit :=
  if isNew then attempt (orIo (env.bootstrapDefaultFiles config (Path.new path).parent)) else pure ()

def loadOrCreate (path : String) : Effect (Disk ι) ProxyError ConfigFile := do
  let disk ← get
  let isNew := !env.os.pathExists disk (Path.new path)
  let config ← env.readOrCreate path isNew
  env.bootstrapNew path config isNew
  let disk ← get
  pure (env.withIcon disk path config)

/-- What any number of starts leave on the disk, whether they get to a config or not. -/
def starts (paths : List String) (disk : Disk ι) : Disk ι :=
  paths.foldl (fun disk path => (env.loadOrCreate path disk).2) disk

/-! ## What a start adds -/

/-- The files that a start with `path` may make, and what they then are. -/
inductive BuiltIn (path : String) : ι → List UInt8 → Prop where
  | config : BuiltIn path (env.os.locate (Path.new path)) (asBytes env.assets.defaultConfigTemplate)
  | icon : BuiltIn path
      (env.os.locate (((Path.new path).parent.getD (Path.new "")).join (Path.new "server-icon.png")))
      env.assets.defaultServerIcon
  | script (config : ConfigFile) (h : env.fromToml env.assets.defaultConfigTemplate = .ok config) : BuiltIn path
      (env.os.locate (((Path.new path).parent.getD (Path.new "")).join (Path.new config.scriptPath)))
      (asBytes env.assets.defaultMainScript)
  | switcher (config : ConfigFile) (h : env.fromToml env.assets.defaultConfigTemplate = .ok config) : BuiltIn path
      (env.os.locate ((((Path.new path).parent.getD (Path.new "")).join (Path.new config.pluginsDir)).join
        (Path.new "server_switcher.rhai")))
      (asBytes env.assets.defaultServerSwitcherPlugin)

/-- A file of the binary, or as much of it as was written. -/
def Made (path : String) (i : ι) (bytes : List UInt8) : Prop := ∃ whole, env.BuiltIn path i whole ∧ bytes <+: whole

variable {env} {disk disk' : Disk ι} {path : String} {config : ConfigFile}

omit [DecidableEq ι] in
theorem adds_orIo {P : ι → List UInt8 → Prop} {α : Type} {m : Effect (Disk ι) IoError α}
    (hm : Adds P disk (m disk).2) : Adds P disk (orIo m disk).2 := by
  rw [orIo, handle_apply]
  generalize m disk = done at hm ⊢
  rcases done with ⟨_ | _, disk'⟩ <;> exact hm

theorem adds_bootstrap (h : env.fromToml env.assets.defaultConfigTemplate = .ok config) :
    Keeps (Adds (env.Made path)) (env.bootstrapDefaultFiles config (Path.new path).parent) := by
  refine keeps_bind adds_steps (adds_create env.os fun _ hbytes => ⟨_, .icon, hbytes⟩) fun _ => ?_
  refine keeps_bind adds_steps (adds_create env.os fun _ hbytes => ⟨_, .script config h, hbytes⟩) fun _ => ?_
  exact adds_create env.os fun _ hbytes => ⟨_, .switcher config h, hbytes⟩

omit [DecidableEq ι] in
theorem parse_eq_ok {failed content : String} :
    env.parse failed content disk = (.ok config, disk') ↔ env.fromToml content = .ok config ∧ disk = disk' := by
  rw [parse]
  cases env.fromToml content with
  | ok config' => simp [pure_apply]
  | error e => simp [throw_apply]

omit [DecidableEq ι] in
theorem adds_parse {P : ι → List UInt8 → Prop} (failed content : String) : Keeps (Adds P) (env.parse failed content) := by
  rw [parse]
  cases env.fromToml content with
  | ok config => exact keeps_pure adds_steps config
  | error e => exact keeps_throw adds_steps _

omit [DecidableEq ι] in
theorem adds_readToString {P : ι → List UInt8 → Prop} (path : Path) : Keeps (Adds P) (env.readToString path) := by
  refine keeps_bind adds_steps (fun disk => adds_steps.refl disk) fun bytes => ?_
  cases fromUtf8 bytes with
  | some content => exact keeps_pure adds_steps content
  | none => exact keeps_throw adds_steps _

theorem adds_bootstrapNew (h : env.fromToml env.assets.defaultConfigTemplate = .ok config) :
    Keeps (Adds (env.Made path)) (env.bootstrapNew path config true) :=
  keeps_attempt fun disk => adds_orIo (adds_bootstrap h disk)

/-- A start adds files, and only its own. -/
theorem adds_load (path : String) : Keeps (Adds (env.Made path)) (env.loadOrCreate path) := by
  refine keeps_get_bind fun disk => ?_
  cases hexists : env.os.pathExists disk (Path.new path) with
  | true =>
    have hread : Keeps (Adds (env.Made path)) (env.readOrCreate path false) :=
      keeps_bind adds_steps (fun disk => adds_orIo (adds_readToString _ disk)) fun _ => adds_parse _ _
    refine keeps_bind adds_steps hread (fun config => ?_) disk
    exact keeps_bind adds_steps (keeps_pure adds_steps ()) fun _ => keeps_get_bind fun disk => adds_steps.refl disk
  | false =>
    have hnone := env.os.file_of_not_pathExists (ne_true_of_eq_false hexists)
    refine steps_bind adds_steps ?_ fun config disk₁ hconfig => ?_
    · refine steps_bind adds_steps (adds_orIo ?_) fun _ disk₁ _ => adds_parse _ _ disk₁
      exact adds_createParent env.os fun disk₁ hfiles =>
        adds_write env.os (by rw [hfiles, hnone]) fun _ hbytes => ⟨_, .config, hbytes⟩
    · obtain ⟨_, _, -, hparse⟩ := bind_eq_ok.mp hconfig
      exact keeps_bind adds_steps (adds_bootstrapNew (parse_eq_ok.mp hparse).1)
        (fun _ => keeps_get_bind fun disk => adds_steps.refl disk) disk₁

/-- So do starts. -/
theorem adds_starts (env : StartEnv ι) (paths : List String) (disk : Disk ι) :
    Adds (fun i bytes => ∃ path ∈ paths, env.Made path i bytes) disk (env.starts paths disk) := by
  induction paths generalizing disk with
  | nil => exact adds_steps.refl disk
  | cons path paths ih =>
    have hstart := (adds_load path disk : Adds (env.Made path) disk _).mono
      fun i bytes hmade => (⟨path, List.mem_cons_self, hmade⟩ : ∃ path' ∈ path :: paths, env.Made path' i bytes)
    have hrest := (ih (env.loadOrCreate path disk).2).mono
      fun i bytes ⟨path', hmem, hmade⟩ =>
        (⟨path', List.mem_cons_of_mem path hmem, hmade⟩ : ∃ path' ∈ path :: paths, env.Made path' i bytes)
    exact adds_steps.trans hstart hrest

omit [DecidableEq ι] in
theorem orIo_eq_ok {α : Type} {m : Effect (Disk ι) IoError α} {a : α} :
    orIo m disk = (.ok a, disk') ↔ m disk = (.ok a, disk') := by
  rw [orIo, handle_apply]
  generalize m disk = done
  rcases done with ⟨_ | _, _⟩ <;> simp

omit [DecidableEq ι] in
theorem readToString_eq_ok {path : Path} {content : String} :
    env.readToString path disk = (.ok content, disk') ↔ env.os.contents disk path = .ok (asBytes content) ∧ disk = disk' := by
  rw [readToString, bind_apply, Os.read]
  cases env.os.contents disk path with
  | error e => simp
  | ok bytes =>
    dsimp only
    constructor
    · intro h
      cases hutf8 : fromUtf8 bytes with
      | none =>
        rw [hutf8] at h
        cases h
      | some text =>
        rw [hutf8] at h
        cases h
        exact ⟨congrArg Except.ok (asBytes_of_fromUtf8 hutf8).symm, rfl⟩
    · rintro ⟨hbytes, rfl⟩
      rw [Except.ok.inj hbytes, fromUtf8_asBytes]
      rfl

/-- What a start comes to with a config file that reads. -/
theorem load_of_file {content : String} (hfile : disk.file (env.os.locate (Path.new path)) = some (asBytes content))
    (hread : env.os.canRead disk (env.os.locate (Path.new path)) = true) (htoml : env.fromToml content = .ok config) :
    env.loadOrCreate path disk = (.ok (env.withIcon disk path config), disk) := by
  have hcontent : orIo (env.readToString (Path.new path)) disk = (.ok content, disk) :=
    orIo_eq_ok.mpr (readToString_eq_ok.mpr ⟨env.os.contents_of_file hfile hread, rfl⟩)
  have hconfig : env.readOrCreate path false disk = (.ok config, disk) :=
    bind_eq_ok.mpr ⟨content, disk, hcontent, parse_eq_ok.mpr ⟨htoml, rfl⟩⟩
  rw [loadOrCreate, get_bind, env.os.pathExists_of_file hfile]
  exact bind_eq_ok.mpr ⟨config, disk, hconfig, rfl⟩

/-- A config that a start came to is the one in the file, with the icon as the disk has it. -/
theorem load_ok (h : env.loadOrCreate path disk = (.ok config, disk')) :
    ∃ content config₀, disk'.file (env.os.locate (Path.new path)) = some (asBytes content) ∧
      env.fromToml content = .ok config₀ ∧ config = env.withIcon disk' path config₀ := by
  rw [loadOrCreate, get_bind] at h
  obtain ⟨config₀, disk₁, hconfig, hrest⟩ := bind_eq_ok.mp h
  obtain ⟨_, disk₂, hbootstrap, hicon⟩ := bind_eq_ok.mp hrest
  cases hicon
  cases hexists : env.os.pathExists disk (Path.new path) with
  | true =>
    rw [hexists] at hconfig hbootstrap
    cases hbootstrap
    obtain ⟨content, disk₀, hcontent, hparse⟩ := bind_eq_ok.mp hconfig
    obtain ⟨hread, rfl⟩ := readToString_eq_ok.mp (orIo_eq_ok.mp hcontent)
    obtain ⟨htoml, rfl⟩ := parse_eq_ok.mp hparse
    exact ⟨content, config₀, env.os.file_of_contents hread, htoml, rfl⟩
  | false =>
    rw [hexists] at hconfig hbootstrap
    obtain ⟨_, disk₀, hwrite, hparse⟩ := bind_eq_ok.mp hconfig
    obtain ⟨htoml, rfl⟩ := parse_eq_ok.mp hparse
    obtain ⟨_, disk₁, -, hwritten⟩ := bind_eq_ok.mp (orIo_eq_ok.mp hwrite)
    have hfile := env.os.file_of_write hwritten
    have hadds : Adds (env.Made path) disk₀ (env.bootstrapNew path config₀ (!false) disk₀).2 :=
      adds_bootstrapNew htoml disk₀
    rw [hbootstrap] at hadds
    exact ⟨env.assets.defaultConfigTemplate, config₀, hadds.kept hfile, htoml, rfl⟩

omit [DecidableEq ι] in
/-- Whatever is shown as an icon is a data URI. -/
theorem startsWith_of_mem_resolveFaviconUri {favicon : Option String} {baseDir : Option Path} {uri : String}
    (h : uri ∈ env.resolveFaviconUri disk favicon baseDir) : RustStr.startsWith uri pngUri = true := by
  have hicon {path : Path} (h : uri ∈ env.iconAt disk path) : RustStr.startsWith uri pngUri = true := by
    rw [iconAt] at h
    split at h
    · obtain ⟨bytes, -, rfl⟩ := Option.map_eq_some_iff.mp h
      exact RustStr.startsWith_append ..
    · cases h
  have hfind {file : Path} (h : uri ∈ env.findIcon disk file baseDir) : RustStr.startsWith uri pngUri = true := by
    rcases Option.or_eq_some_iff.mp h with h | ⟨-, h⟩
    · obtain ⟨dir, -, h⟩ := Option.bind_eq_some_iff.mp h
      exact hicon h
    · rcases Option.or_eq_some_iff.mp h with h | ⟨-, h⟩
      · exact hicon h
      · obtain ⟨dir, -, h⟩ := Option.bind_eq_some_iff.mp h
        exact hicon h
  cases favicon with
  | none => exact hfind h
  | some val =>
    rw [resolveFaviconUri] at h
    split at h
    · next hdata =>
      cases h
      exact hdata
    · rcases Option.or_eq_some_iff.mp h with h | ⟨-, h⟩
      · exact hfind h
      · split at h
        · cases h
          exact RustStr.startsWith_append ..
        · cases h

/-- A system where everything may be read, and written where there is no directory. -/
def plainOs : Os String IoError where
  locate path := "/".intercalate path.components
  canRead _ _ := true
  readError _ _ := (.other, "No such file or directory (os error 2)")
  writeError disk i _ := if disk.dir i then some ((.other, "Is a directory (os error 21)"), none) else none
  createDirs disk path := (fun i => disk.dir i || i == "/".intercalate path.components, .ok ())

def plainEnv : StartEnv String where
  os := plainOs
  currentExe := none
  assets := ⟨"[servers]", [0x89, 0x50, 0x4E, 0x47], "fn on_player_join() \x7b\x7d", "fn on_command() \x7b\x7d"⟩
  base64 := ⟨fun _ => "iVBORw==", fun _ => false⟩
  fromToml _ := .ok ⟨⟨true, none, [], "lobby"⟩, none, "scripts/main.rhai", "plugins"⟩

def bareDisk : Disk String := ⟨fun _ => none, fun _ => false⟩

def plainConfig : ConfigFile := ⟨⟨true, none, [], "lobby"⟩, some "data:image/png;base64,iVBORw==", "scripts/main.rhai", "plugins"⟩

end StartEnv

end FrameMC

import FrameMC.Lib.Effect
import FrameMC.Lib.RustStr
import Mathlib.Data.List.Infix
import Mathlib.Logic.Function.Basic

/-!
# Files

Paths as `std::path` has them on Unix, and a disk as `std::fs` reaches it. What
the operating system decides is a parameter: where a path leads, what may be
read, and how far a write comes that fails. `Adds P` says of two disks that the
second has every file of the first, and that what it has besides is as `P` says;
the programs that write only where nothing is keep it (`adds_create`).
-/

namespace FileSystem

open Effect

/-! ## Paths -/

/-- A path by its names. A dot is one only at the start. -/
structure Path where
  absolute : Bool
  components : List String
  deriving DecidableEq

namespace Path

/-- `Path::new`: separators in a row and dots between them do not count. -/
def new (s : String) : Path :=
  let names := RustStr.split s '/'
  ⟨RustStr.startsWith s "/",
    (if names.head? = some "." then ["."] else []) ++ names.filter fun name => name ≠ "" ∧ name ≠ "."⟩

/-- `as_os_str().is_empty()`. -/
def isEmpty (path : Path) : Bool := decide (path = ⟨false, []⟩)

def join (path other : Path) : Path :=
  if other.absolute ∨ path.isEmpty then other
  else ⟨path.absolute, path.components ++ other.components.filter (· ≠ ".")⟩

def parent (path : Path) : Option Path :=
  if path.components = [] then none else some ⟨path.absolute, path.components.dropLast⟩

example : (new "conf//proxy.toml").parent.map (·.join (new "./server-icon.png")) = some ⟨false, ["conf", "server-icon.png"]⟩ := by
  decide
example : (new "config.toml").parent.map isEmpty = some true := by decide

end Path

/-! ## The disk -/

/-- Files by where they are, and where there are directories. -/
structure Disk (ι : Type) where
  file : ι → Option (List UInt8)
  dir : ι → Bool

/-- What the operating system decides, with errors `ε`: why a write fails and
how much of a file it has then written, if it got to open it; and which
directories there are after `create_dir_all`. -/
structure Os (ι ε : Type) where
  locate : Path → ι
  canRead : Disk ι → ι → Bool
  readError : Disk ι → ι → ε
  writeError : Disk ι → ι → List UInt8 → Option (ε × Option Nat)
  createDirs : Disk ι → Path → (ι → Bool) × Except ε Unit

section Operations

variable {ι ε : Type}

def Disk.put [DecidableEq ι] (disk : Disk ι) (i : ι) (bytes : List UInt8) : Disk ι :=
  { disk with file := Function.update disk.file i (some bytes) }

namespace Os

variable (os : Os ι ε)

def isFile (disk : Disk ι) (path : Path) : Bool := (disk.file (os.locate path)).isSome

def pathExists (disk : Disk ι) (path : Path) : Bool := os.isFile disk path || disk.dir (os.locate path)

/-- What reading a file gives. -/
def contents (disk : Disk ι) (path : Path) : Except ε (List UInt8) :=
  match disk.file (os.locate path) with
  | some bytes =>
    if os.canRead disk (os.locate path) then .ok bytes else .error (os.readError disk (os.locate path))
  | none => .error (os.readError disk (os.locate path))

def read (path : Path) : Effect (Disk ι) ε (List UInt8) := fun disk => (os.contents disk path, disk)

def write [DecidableEq ι] (path : Path) (bytes : List UInt8) : Effect (Disk ι) ε Unit := fun disk =>
  match os.writeError disk (os.locate path) bytes with
  | none => (.ok (), disk.put (os.locate path) bytes)
  | some (e, none) => (.error e, disk)
  | some (e, some written) => (.error e, disk.put (os.locate path) (bytes.take written))

def createDirAll (path : Path) : Effect (Disk ι) ε Unit := fun disk =>
  ((os.createDirs disk path).2, { disk with dir := (os.createDirs disk path).1 })

/-- Make the directory that a file comes to stand in, if it has a name. -/
def createParent (dir : Option Path) : Effect (Disk ι) ε Unit :=
  match dir with
  | some dir => if dir.isEmpty then pure () else os.createDirAll dir
  | none => pure ()

/-- Write a file if nothing is at its path. -/
def create [DecidableEq ι] (path : Path) (dir : Option Path) (bytes : List UInt8) : Effect (Disk ι) ε Unit := do
  let disk ← get
  if os.pathExists disk path then pure ()
  else do
    os.createParent dir
    attempt (os.write path bytes)

theorem contents_of_file {disk : Disk ι} {path : Path} {bytes : List UInt8} (h : disk.file (os.locate path) = some bytes)
    (hread : os.canRead disk (os.locate path) = true) : os.contents disk path = .ok bytes := by
  rw [contents, h]
  exact if_pos hread

theorem file_of_contents {disk : Disk ι} {path : Path} {bytes : List UInt8} (h : os.contents disk path = .ok bytes) :
    disk.file (os.locate path) = some bytes := by
  rw [contents] at h
  cases hfile : disk.file (os.locate path) with
  | none =>
    rw [hfile] at h
    cases h
  | some bytes' =>
    rw [hfile] at h
    dsimp only at h
    split at h
    · cases h
      rfl
    · cases h

theorem pathExists_of_file {disk : Disk ι} {path : Path} {bytes : List UInt8}
    (h : disk.file (os.locate path) = some bytes) : os.pathExists disk path = true := by
  rw [pathExists, isFile, h]
  rfl

/-- What was written without an error is there. -/
theorem file_of_write [DecidableEq ι] {disk disk' : Disk ι} {path : Path} {bytes : List UInt8}
    (h : os.write path bytes disk = (.ok (), disk')) : disk'.file (os.locate path) = some bytes := by
  rw [write] at h
  split at h
  · cases h
    exact Function.update_self ..
  · cases h
  · cases h

end Os

/-! ## What is only added to -/

/-- Every file is as it was, and what is new is as `P` says. -/
def Adds (P : ι → List UInt8 → Prop) (disk disk' : Disk ι) : Prop :=
  ∀ i, disk'.file i = disk.file i ∨ disk.file i = none ∧ ∃ bytes, disk'.file i = some bytes ∧ P i bytes

variable {P Q : ι → List UInt8 → Prop} {disk disk' : Disk ι}

theorem adds_steps : Steps (Adds P) where
  refl _ _ := Or.inl rfl
  trans {s s' s''} h h' i := by
    rcases h' i with heq | ⟨hnone, hnew⟩
    · rw [heq]
      exact h i
    · rcases h i with heq | ⟨-, bytes, hsome, -⟩
      · exact Or.inr ⟨heq ▸ hnone, hnew⟩
      · rw [hnone] at hsome
        cases hsome

theorem Adds.mono (hPQ : ∀ i bytes, P i bytes → Q i bytes) (h : Adds P disk disk') : Adds Q disk disk' := fun i =>
  (h i).imp_right fun ⟨hnone, bytes, hsome, hP⟩ => ⟨hnone, bytes, hsome, hPQ i bytes hP⟩

/-- No file is lost or overwritten. -/
theorem Adds.kept (h : Adds P disk disk') {i : ι} {bytes : List UInt8} (hfile : disk.file i = some bytes) :
    disk'.file i = some bytes := by
  rcases h i with heq | ⟨hnone, -⟩
  · rw [heq, hfile]
  · rw [hnone] at hfile
    cases hfile

theorem adds_put [DecidableEq ι] {i : ι} {bytes : List UInt8} (hnone : disk.file i = none) (hP : P i bytes) :
    Adds P disk (disk.put i bytes) := by
  intro j
  by_cases hj : j = i
  · subst hj
    exact Or.inr ⟨hnone, bytes, Function.update_self .., hP⟩
  · exact Or.inl (Function.update_of_ne hj ..)

variable (os : Os ι ε)

/-- A write at a place without a file adds the file, or the beginning of it. -/
theorem adds_write [DecidableEq ι] {path : Path} {bytes : List UInt8} (hnone : disk.file (os.locate path) = none)
    (hP : ∀ bytes', bytes' <+: bytes → P (os.locate path) bytes') : Adds P disk (os.write path bytes disk).2 := by
  rw [Os.write]
  split
  · exact adds_put hnone (hP bytes List.prefix_rfl)
  · exact adds_steps.refl disk
  · exact adds_put hnone (hP _ (List.take_prefix ..))

/-- Making directories makes no file. -/
theorem createParent_file (dir : Option Path) (disk : Disk ι) : (os.createParent dir disk).2.file = disk.file := by
  cases dir with
  | none => rfl
  | some dir =>
    rw [Os.createParent]
    split <;> rfl

/-- So a program that first makes the directory adds what it would add without it. -/
theorem adds_createParent {α : Type} {dir : Option Path} {m : Effect (Disk ι) ε α}
    (hm : ∀ disk' : Disk ι, disk'.file = disk.file → Adds P disk' (m disk').2) :
    Adds P disk ((os.createParent dir >>= fun _ => m) disk).2 := by
  have hfiles := createParent_file os dir disk
  rw [bind_apply]
  generalize os.createParent dir disk = made at hfiles ⊢
  rcases made with ⟨_ | _, disk'⟩
  · exact fun i => Or.inl (congrFun hfiles i)
  · have hmade : Adds P disk disk' := fun i => Or.inl (congrFun hfiles i)
    exact adds_steps.trans hmade (hm disk' hfiles)

/-- Where nothing is, there is no file. -/
theorem Os.file_of_not_pathExists {path : Path} (h : ¬ os.pathExists disk path = true) :
    disk.file (os.locate path) = none := by
  cases hfile : disk.file (os.locate path) with
  | none => rfl
  | some bytes => exact absurd (os.pathExists_of_file hfile) h

theorem adds_create [DecidableEq ι] {path : Path} {dir : Option Path} {bytes : List UInt8}
    (hP : ∀ bytes', bytes' <+: bytes → P (os.locate path) bytes') : Keeps (Adds P) (os.create path dir bytes) := by
  refine keeps_get_bind fun disk => ?_
  by_cases hexists : os.pathExists disk path = true
  · rw [if_pos hexists]
    exact adds_steps.refl disk
  · rw [if_neg hexists]
    refine adds_createParent os fun disk' hfiles => adds_write os ?_ hP
    rw [hfiles, os.file_of_not_pathExists hexists]

end Operations

end FileSystem

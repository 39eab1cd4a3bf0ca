import FrameMC.Lib.RustStr
import Mathlib.Data.String.Basic

/-!
# Path operations

The methods of a Unix path that take a file's name apart: `file_name`,
`file_stem` and `extension`. Of the files in one directory, those with one
extension have each their own stem (`name_of_fileStem`).
-/

namespace RustPath

/-- `Path::file_name`. -/
def fileName (path : String) : Option String :=
  match ((RustStr.split path '/').filter fun c => c ≠ "" ∧ c ≠ ".").getLast? with
  | some ".." => none
  | last => last

/-- What is before the last dot, and what is behind it. -/
def rsplitDot (file : String) : Option (String × String) :=
  match file.toList.reverse.dropWhile (· ≠ '.') with
  | [] => none
  | _ :: before => some (String.ofList before.reverse, String.ofList (file.toList.reverse.takeWhile (· ≠ '.')).reverse)

/-- A file name without and with its extension; a leading dot begins none. -/
def rsplitFileAtDot (file : String) : Option String × Option String :=
  if file = ".." then (some file, none)
  else match rsplitDot file with
    | none => (none, some file)
    | some (before, after) => if before = "" then (some file, none) else (some before, some after)

def fileStem (path : String) : Option String :=
  (fileName path).bind fun file => (rsplitFileAtDot file).1.or (rsplitFileAtDot file).2

def extension (path : String) : Option String :=
  (fileName path).bind fun file => (rsplitFileAtDot file).1.bind fun _ => (rsplitFileAtDot file).2

example : fileStem "plugins/server_switcher.rhai" = some "server_switcher" := by decide +kernel
example : extension "plugins/.rhai" = none := by decide +kernel

theorem rsplitDot_eq_some {file before after : String} (h : rsplitDot file = some (before, after)) :
    file = before ++ "." ++ after := by
  have hsplit := List.takeWhile_append_dropWhile (p := fun c => decide (c ≠ '.')) (l := file.toList.reverse)
  have hhead := List.head?_dropWhile_not (fun c => decide (c ≠ '.')) file.toList.reverse
  rw [rsplitDot] at h
  cases hdrop : file.toList.reverse.dropWhile (fun c => decide (c ≠ '.')) with
  | nil =>
    rw [hdrop] at h
    cases h
  | cons c rest =>
    rw [hdrop] at h hsplit hhead
    have hdot : c = '.' := by simpa using hhead
    obtain ⟨rfl, rfl⟩ := Prod.mk.inj (Option.some.inj h)
    have hfile := congrArg List.reverse hsplit
    rw [List.reverse_reverse, List.reverse_append, List.reverse_cons, hdot] at hfile
    have hbefore : (String.ofList rest.reverse).toList = rest.reverse := String.toList_ofList
    have hafter : (String.ofList (file.toList.reverse.takeWhile (· ≠ '.')).reverse).toList =
        (file.toList.reverse.takeWhile (· ≠ '.')).reverse := String.toList_ofList
    apply String.toList_inj.mp
    rw [String.toList_append, String.toList_append, hbefore, hafter]
    exact hfile.symm

/-- The name of a file in a directory. -/
theorem fileName_append {parent name : String} (hname : '/' ∉ name.toList) (hempty : name ≠ "") (hdot : name ≠ ".") :
    fileName (parent ++ "/" ++ name) = if name = ".." then none else some name := by
  have hsplit : RustStr.split (parent ++ "/" ++ name) '/' = RustStr.split parent '/' ++ [name] := by
    have hlist : (parent ++ "/" ++ name).toList = parent.toList ++ '/' :: name.toList := by
      rw [String.toList_append, String.toList_append, List.append_assoc]
      rfl
    rw [RustStr.split, hlist, List.splitOn_append_cons_self, List.splitOn_eq_singleton hname, List.map_append,
      List.map_singleton, String.ofList_toList, RustStr.split]
  have hkept : [name].filter (fun c => decide (c ≠ "" ∧ c ≠ ".")) = [name] := by simp [hempty, hdot]
  rw [fileName, hsplit, List.filter_append, hkept, List.getLast?_concat]
  by_cases hup : name = ".."
  · rw [hup]
    rfl
  · rw [if_neg hup]
    split
    · next h => exact absurd (Option.some.inj h) hup
    · rfl

/-- The files of a directory with one extension have each their own stem. -/
theorem name_of_fileStem {parent name stem ext : String} (hname : '/' ∉ name.toList) (hempty : name ≠ "")
    (hdot : name ≠ ".") (hext : extension (parent ++ "/" ++ name) = some ext)
    (hstem : fileStem (parent ++ "/" ++ name) = some stem) : name = stem ++ "." ++ ext := by
  rw [extension, fileName_append hname hempty hdot] at hext
  rw [fileStem, fileName_append hname hempty hdot] at hstem
  by_cases hup : name = ".."
  · rw [if_pos hup] at hext
    cases hext
  · rw [if_neg hup, Option.bind_some, rsplitFileAtDot, if_neg hup] at hext hstem
    cases hsplit : rsplitDot name with
    | none =>
      rw [hsplit] at hext
      cases hext
    | some parts =>
      obtain ⟨before, after⟩ := parts
      rw [hsplit] at hext hstem
      dsimp only at hext hstem
      by_cases hbefore : before = ""
      · rw [if_pos hbefore] at hext
        cases hext
      · rw [if_neg hbefore] at hext hstem
        cases hext
        cases hstem
        exact rsplitDot_eq_some hsplit

end RustPath

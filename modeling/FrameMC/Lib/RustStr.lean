import Mathlib.Data.List.DropRight

/-!
# String operations

The few methods of a Unicode string that commands and addresses are cut up
with: `trim` (by the White_Space property), `starts_with`, `strip_prefix` and
`split` at a character.
-/

namespace RustStr

/-- `char::is_whitespace`. -/
def isWhitespace (c : Char) : Bool :=
  let n := c.toNat
  (0x09 ≤ n && n ≤ 0x0D) || n == 0x20 || n == 0x85 || n == 0xA0 || n == 0x1680 || (0x2000 ≤ n && n ≤ 0x200A) ||
    n == 0x2028 || n == 0x2029 || n == 0x202F || n == 0x205F || n == 0x3000

/-- `str::trim`. -/
def trim (s : String) : String :=
  String.ofList ((s.toList.dropWhile isWhitespace).rdropWhile isWhitespace)

/-- `str::starts_with`. -/
def startsWith (s pre : String) : Bool := pre.toList.isPrefixOf s.toList

theorem startsWith_append (a b : String) : startsWith (a ++ b) a = true := by
  rw [startsWith, String.toList_append, List.isPrefixOf_iff_prefix]
  exact List.prefix_append ..

/-- `str::strip_prefix`. -/
def stripPrefix (s pre : String) : Option String :=
  if startsWith s pre then some (String.ofList (s.toList.drop pre.toList.length)) else none

example : stripPrefix "/server  hub " "/server " = some " hub " := by decide

/-- Text without white space at its ends is left as it is. -/
theorem trim_of_forall {s : String} (h : ∀ c ∈ s.toList, isWhitespace c = false) : trim s = s := by
  have hl : s.toList.dropWhile isWhitespace = s.toList := by
    rw [List.dropWhile_eq_self_iff]
    intro hpos
    simpa using h _ (List.getElem_mem hpos)
  have hr : s.toList.rdropWhile isWhitespace = s.toList := by
    rw [List.rdropWhile_eq_self_iff]
    intro hne
    simpa using h _ (List.getLast_mem hne)
  rw [trim, hl, hr, String.ofList_toList]

/-- `str::split` at a character. -/
def split (s : String) (c : Char) : List String := (s.toList.splitOn c).map String.ofList

example : split "play.example\x0010.0.0.1\x00" '\x00' = ["play.example", "10.0.0.1", ""] := by decide

/-- What was put together with `c` in between comes apart again. -/
theorem split_intercalate {c : Char} {parts : List String} (hne : parts ≠ []) (h : ∀ s ∈ parts, c ∉ s.toList) :
    split (String.intercalate (String.singleton c) parts) c = parts := by
  have hparts : ∀ l ∈ parts.map String.toList, c ∉ l := by
    intro l hl
    obtain ⟨s, hs, rfl⟩ := List.mem_map.mp hl
    exact h s hs
  have hid : String.ofList ∘ String.toList = id := funext fun _ => String.ofList_toList
  rw [split, String.toList_intercalate, String.toList_singleton,
    List.splitOn_intercalate c hparts (mt List.map_eq_nil_iff.mp hne), List.map_map, hid, List.map_id]

/-- And the parts of a string are put together to it. -/
theorem intercalate_split (s : String) (c : Char) : String.intercalate (String.singleton c) (split s c) = s := by
  have hid : String.toList ∘ String.ofList = id := funext fun _ => String.toList_ofList
  apply String.toList_inj.mp
  rw [split, String.toList_intercalate, String.toList_singleton, List.map_map, hid, List.map_id,
    List.intercalate_splitOn]

end RustStr

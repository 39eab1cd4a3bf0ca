import FrameMC.Protocol.Packet

/-!
# UUIDs

Sixteen bytes, and the texts the `uuid` crate writes and reads for them.
-/

namespace FrameMC

open ByteStream

/-- Sixteen bytes. -/
abbrev Uuid : Type := { bytes : List UInt8 // bytes.length = 16 }

/-- `cursor.copy_to_slice` into sixteen bytes: panics on fewer. -/
def getUuid : Decoder ProxyError Uuid := fun bs =>
  if h : (bs.take 16).length = 16 then .ok (⟨bs.take 16, h⟩, bs.drop 16) else .panic

theorem getUuid_append (uuid : Uuid) (rest : List UInt8) : getUuid (uuid.val ++ rest) = .ok (uuid, rest) := by
  have htake : (uuid.val ++ rest).take 16 = uuid.val := List.take_left' uuid.property
  have hdrop : (uuid.val ++ rest).drop 16 = rest := List.drop_left' uuid.property
  simp only [getUuid, htake, hdrop, uuid.property, dif_pos, Subtype.coe_eta]

theorem withinAt_getUuid {bs : List UInt8} (h : 16 ≤ bs.length) : Decoder.WithinAt getUuid bs := by
  have hok : getUuid bs = .ok (⟨bs.take 16, List.length_take_of_le h⟩, bs.drop 16) :=
    dif_pos (List.length_take_of_le h)
  apply Decoder.withinAt_of_ok hok
  rw [List.length_drop]
  exact Nat.sub_le _ _

/-- The lower-case hexadecimal digits of bytes (`hex::encode`). -/
def hexDigits (bytes : List UInt8) : List Char :=
  bytes.flatMap fun b => [Nat.digitChar (b.toNat / 16), Nat.digitChar (b.toNat % 16)]

namespace Uuid

def nil : Uuid := ⟨List.replicate 16 0, rfl⟩

/-- `Uuid::simple`. -/
def simple (uuid : Uuid) : String := String.ofList (hexDigits uuid.val)

/-- `Uuid::hyphenated`. -/
def hyphenated (uuid : Uuid) : String :=
  let digits := hexDigits uuid.val
  String.ofList (digits.take 8 ++ '-' :: (digits.drop 8).take 4 ++ '-' :: (digits.drop 12).take 4 ++
    '-' :: (digits.drop 16).take 4 ++ '-' :: digits.drop 20)

/-- The value of a hexadecimal digit of either case. -/
def hexValue (c : Char) : Option Nat :=
  if '0' ≤ c ∧ c ≤ '9' then some (c.toNat - '0'.toNat)
  else if 'a' ≤ c ∧ c ≤ 'f' then some (c.toNat - 'a'.toNat + 10)
  else if 'A' ≤ c ∧ c ≤ 'F' then some (c.toNat - 'A'.toNat + 10)
  else none

/-- The bytes two digits each stand for. -/
def parseDigits : List Char → Option (List UInt8)
  | [] => some []
  | [_] => none
  | high :: low :: rest => do
    let h ← hexValue high
    let l ← hexValue low
    let bytes ← parseDigits rest
    some (UInt8.ofNat (16 * h + l) :: bytes)

def ofDigits (digits : List Char) : Option Uuid := do
  let bytes ← parseDigits digits
  if h : bytes.length = 16 then some ⟨bytes, h⟩ else none

/-- Thirty-two digits with hyphens in their four places. -/
def parseHyphenated (text : List Char) : Option Uuid :=
  if text.length = 36 ∧ [8, 13, 18, 23].all (fun i => text[i]? == some '-') then
    ofDigits (text.take 8 ++ (text.drop 9).take 4 ++ (text.drop 14).take 4 ++ (text.drop 19).take 4 ++ text.drop 24)
  else none

/-- `Uuid::parse_str`: plain digits, hyphenated, in braces, or as a URN. -/
def parseStr (text : String) : Option Uuid :=
  let chars := text.toList
  if chars.length = 32 then ofDigits chars
  else if chars.length = 36 then parseHyphenated chars
  else if chars.length = 38 ∧ chars.head? = some '\x7b' ∧ chars.getLast? = some '\x7d' then
    parseHyphenated (chars.drop 1).dropLast
  else if chars.length = 45 ∧ chars.take 9 = "urn:uuid:".toList then parseHyphenated (chars.drop 9)
  else none

/-! ## The texts read back -/

theorem hexDigits_length (bytes : List UInt8) : (hexDigits bytes).length = 2 * bytes.length := by
  induction bytes with
  | nil => rfl
  | cons b bytes ih =>
    rw [hexDigits, List.flatMap_cons, List.length_append, ← hexDigits, ih, List.length_cons]
    simp only [List.length_cons, List.length_nil]
    omega

/-- Each of the sixteen digits has its own value. -/
theorem hexValue_digitChar {n : Nat} (h : n < 16) : hexValue (Nat.digitChar n) = some n := by
  have all : ∀ i : Fin 16, hexValue (Nat.digitChar i.val) = some i.val := by decide
  exact all ⟨n, h⟩

theorem parseDigits_hexDigits (bytes : List UInt8) : parseDigits (hexDigits bytes) = some bytes := by
  induction bytes with
  | nil => rfl
  | cons b bytes ih =>
    have hlt := b.toNat_lt
    have hhigh := hexValue_digitChar (n := b.toNat / 16) (by omega)
    have hlow := hexValue_digitChar (n := b.toNat % 16) (by omega)
    have hbyte : UInt8.ofNat (16 * (b.toNat / 16) + b.toNat % 16) = b := by
      rw [Nat.div_add_mod]
      exact UInt8.ofNat_toNat
    rw [hexDigits, List.flatMap_cons, ← hexDigits, List.cons_append, List.cons_append, List.nil_append, parseDigits,
      hhigh, hlow, ih]
    simp only [Option.bind_eq_bind, Option.bind_some, hbyte]

theorem ofDigits_hexDigits (uuid : Uuid) : ofDigits (hexDigits uuid.val) = some uuid := by
  rw [ofDigits, parseDigits_hexDigits]
  simp only [Option.bind_eq_bind, Option.bind_some, uuid.property, dif_pos, Subtype.coe_eta]

/-- Five groups of digits with hyphens between them. -/
theorem parseHyphenated_groups {a b c d e : List Char} (ha : a.length = 8) (hb : b.length = 4) (hc : c.length = 4)
    (hd : d.length = 4) (he : e.length = 12) :
    parseHyphenated (a ++ '-' :: b ++ '-' :: c ++ '-' :: d ++ '-' :: e) = ofDigits (a ++ b ++ c ++ d ++ e) := by
  rw [parseHyphenated, if_pos]
  · simp (disch := omega) [List.drop_append, List.drop_eq_nil_of_le, ha, hb, hc, hd]
  · simp [List.getElem?_append, ha, hb, hc, hd, he]

theorem hyphenated_toList (uuid : Uuid) :
    ∃ a b c d e : List Char, (a.length = 8 ∧ b.length = 4 ∧ c.length = 4 ∧ d.length = 4 ∧ e.length = 12) ∧
      hexDigits uuid.val = a ++ b ++ c ++ d ++ e ∧
      uuid.hyphenated.toList = a ++ '-' :: b ++ '-' :: c ++ '-' :: d ++ '-' :: e := by
  have hlen : (hexDigits uuid.val).length = 32 := by
    rw [hexDigits_length, uuid.property]
  refine ⟨(hexDigits uuid.val).take 8, ((hexDigits uuid.val).drop 8).take 4, ((hexDigits uuid.val).drop 12).take 4,
    ((hexDigits uuid.val).drop 16).take 4, (hexDigits uuid.val).drop 20, ?_, ?_, String.toList_ofList ..⟩
  · simp only [List.length_take, List.length_drop, hlen]
    decide
  · -- each group takes up where the one before left off
    have hnext (n : Nat) : (hexDigits uuid.val).drop n =
        ((hexDigits uuid.val).drop n).take 4 ++ (hexDigits uuid.val).drop (n + 4) := by
      rw [← List.drop_drop, List.take_append_drop]
    conv_lhs => rw [← List.take_append_drop 8 (hexDigits uuid.val), hnext 8, hnext 12, hnext 16]
    simp only [List.append_assoc]

theorem hyphenated_length (uuid : Uuid) : uuid.hyphenated.toList.length = 36 := by
  obtain ⟨a, b, c, d, e, ⟨ha, hb, hc, hd, he⟩, -, htext⟩ := uuid.hyphenated_toList
  rw [htext]
  simp only [List.length_append, List.length_cons]
  omega

/-- The hyphenated text names the UUID it was written from. -/
theorem parseStr_hyphenated (uuid : Uuid) : parseStr uuid.hyphenated = some uuid := by
  obtain ⟨a, b, c, d, e, ⟨ha, hb, hc, hd, he⟩, hdigits, htext⟩ := uuid.hyphenated_toList
  have hlen := uuid.hyphenated_length
  simp only [parseStr, hlen]
  rw [if_neg (by decide), if_pos trivial, htext, parseHyphenated_groups ha hb hc hd he, ← hdigits, ofDigits_hexDigits]

/-- Hexadecimal digits and hyphens are ASCII. -/
theorem hyphenated_ascii (uuid : Uuid) : ∀ c ∈ uuid.hyphenated.toList, c.toNat < 128 := by
  have hdigit : ∀ i : Fin 16, (Nat.digitChar i.val).toNat < 128 := by decide
  have hdigits : ∀ c ∈ hexDigits uuid.val, c.toNat < 128 := by
    intro c hc
    obtain ⟨b, -, hc⟩ := List.mem_flatMap.mp hc
    have hlt := b.toNat_lt
    rcases List.mem_pair.mp hc with rfl | rfl
    · exact hdigit ⟨b.toNat / 16, by omega⟩
    · exact hdigit ⟨b.toNat % 16, by omega⟩
  obtain ⟨g₁, g₂, g₃, g₄, g₅, -, hgroups, htext⟩ := uuid.hyphenated_toList
  rw [hgroups] at hdigits
  rw [htext]
  intro c hc
  by_cases hhyphen : c = '-'
  · rw [hhyphen]
    decide
  · apply hdigits
    simpa only [List.mem_append, List.mem_cons, hhyphen, false_or] using hc

end Uuid

end FrameMC

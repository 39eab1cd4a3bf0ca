import FrameMC.Protocol.Configuration

/-!
# The entries of a registry

`from_entries` and `try_decode_entries` of `src/protocol/configuration.rs`. A
datum is written without its length, and read as everything that is left: a
list comes back exactly when only its last entry has one
(`registry_entries_round_trip_iff`).
-/

namespace FrameMC

open ByteStream

structure RegistryEntry where
  entryId : String
  data : Option (List UInt8)
  deriving DecidableEq

/-- An identifier, and the datum behind a flag. -/
def putEntry (entry : RegistryEntry) : List UInt8 :=
  putString entry.entryId ++ match entry.data with
    | some data => 1 :: data
    | none => [0]

namespace RegistryDataPacket

def fromEntries (registryId : String) (entries : List RegistryEntry) : RegistryDataPacket :=
  ⟨registryId, encodeVarint (asI32 entries.length) ++ entries.flatMap putEntry⟩

/-- `for _ in 0..count`, left early behind the first datum. -/
def decodeEntries : Nat → Decoder ProxyError (List RegistryEntry)
  | 0 => pure []
  | n + 1 => do
    let entryId ← readString "unexpected EOF reading entry_id" "invalid UTF-8 in entry_id"
    need 1 "unexpected EOF reading has_data flag"
    let hasData ← Decoder.getU8
    if hasData ≠ 0 then do
      let data ← Decoder.takeRest
      pure [⟨entryId, some data⟩]
    else do
      let entries ← decodeEntries n
      pure (⟨entryId, none⟩ :: entries)

def tryDecodeEntries (p : RegistryDataPacket) : Outcome ProxyError (List RegistryEntry) := do
  let (count, cursor) ← decodeVarint p.rawData
  if count < 0 then .err (.io .invalidData "negative entry count")
  else do
    let (entries, _) ← decodeEntries (asUsize count) cursor
    .ok entries

/-! ## The loop -/

/-- One turn of the loop over an entry that was written. -/
theorem decodeEntries_putEntry (n : Nat) {entry : RegistryEntry} (hid : StringFits entry.entryId) (rest : List UInt8) :
    decodeEntries (n + 1) (putEntry entry ++ rest) = match entry.data with
      | some data => .ok ([⟨entry.entryId, some (data ++ rest)⟩], [])
      | none => decodeEntries n rest >>= fun r => .ok (⟨entry.entryId, none⟩ :: r.1, r.2) := by
  obtain ⟨entryId, data⟩ := entry
  have hread := readString_putString "unexpected EOF reading entry_id" "invalid UTF-8 in entry_id" hid
  cases data with
  | none =>
    simp only [decodeEntries, putEntry, List.append_assoc, Decoder.bind_apply, hread, Outcome.ok_bind]
    simp [need_apply]
  | some data =>
    simp only [decodeEntries, putEntry, List.append_assoc, Decoder.bind_apply, hread, Outcome.ok_bind]
    simp [need_apply]

/-- The first entry of the result has the identifier that is read first. -/
theorem decodeEntries_head {n : Nat} {bs rest : List UInt8} {entry : RegistryEntry} {entries : List RegistryEntry}
    (h : decodeEntries n bs = .ok (entry :: entries, rest)) :
    ∃ buf, readString "unexpected EOF reading entry_id" "invalid UTF-8 in entry_id" bs = .ok (entry.entryId, buf) := by
  cases n with
  | zero => cases h
  | succ n =>
    obtain ⟨⟨entryId, buf⟩, hid, h⟩ := Outcome.bind_eq_ok.mp h
    obtain ⟨⟨u, buf'⟩, -, h⟩ := Outcome.bind_eq_ok.mp h
    obtain ⟨⟨hasData, buf''⟩, -, h⟩ := Outcome.bind_eq_ok.mp h
    refine ⟨buf, ?_⟩
    rw [hid]
    dsimp only at h
    rw [Decoder.ite_apply] at h
    split_ifs at h
    · simp only [Decoder.bind_apply, Decoder.takeRest_apply, Outcome.ok_bind, Decoder.pure_apply, Outcome.ok.injEq,
        Prod.mk.injEq, List.cons.injEq] at h
      rw [← h.1.1]
    · obtain ⟨⟨entries', buf⟩, -, h⟩ := Outcome.bind_eq_ok.mp h
      simp only [Decoder.pure_apply, Outcome.ok.injEq, Prod.mk.injEq, List.cons.injEq] at h
      rw [← h.1.1]

/-- The loop reads no more entries than it was told. -/
theorem decodeEntries_length_le {n : Nat} {bs rest : List UInt8} {entries : List RegistryEntry}
    (h : decodeEntries n bs = .ok (entries, rest)) : entries.length ≤ n := by
  induction n generalizing bs rest entries with
  | zero =>
    simp only [decodeEntries, Decoder.pure_apply, Outcome.ok.injEq, Prod.mk.injEq] at h
    rw [← h.1, List.length_nil]
  | succ n ih =>
    obtain ⟨⟨entryId, buf⟩, -, h⟩ := Outcome.bind_eq_ok.mp h
    obtain ⟨⟨u, buf'⟩, -, h⟩ := Outcome.bind_eq_ok.mp h
    obtain ⟨⟨hasData, buf''⟩, -, h⟩ := Outcome.bind_eq_ok.mp h
    dsimp only at h
    rw [Decoder.ite_apply] at h
    split_ifs at h
    · simp only [Decoder.bind_apply, Decoder.takeRest_apply, Outcome.ok_bind, Decoder.pure_apply, Outcome.ok.injEq,
        Prod.mk.injEq] at h
      rw [← h.1, List.length_singleton]
      omega
    · obtain ⟨⟨entries', buf⟩, hentries, h⟩ := Outcome.bind_eq_ok.mp h
      simp only [Decoder.pure_apply, Outcome.ok.injEq, Prod.mk.injEq] at h
      rw [← h.1, List.length_cons]
      exact Nat.succ_le_succ (ih hentries)

/-- The loop over what was written gives it back where the only datum is the
last thing written: elsewhere the first one swallows the entries behind it. -/
theorem decodeEntries_putEntries_iff {entries : List RegistryEntry} :
    (∃ rest, decodeEntries entries.length (entries.flatMap putEntry) = .ok (entries, rest)) ↔
      (∀ entry ∈ entries.dropLast, entry.data = none) ∧ ∀ entry ∈ entries, StringFits entry.entryId := by
  induction entries with
  | nil => simp [decodeEntries]
  | cons entry entries ih =>
    rw [List.length_cons, List.flatMap_cons, List.forall_mem_cons]
    by_cases hid : StringFits entry.entryId
    · rw [decodeEntries_putEntry entries.length hid]
      obtain ⟨entryId, data⟩ := entry
      cases data with
      | none =>
        have hdrop : (∀ e ∈ ((⟨entryId, none⟩ : RegistryEntry) :: entries).dropLast, e.data = none) ↔
            ∀ e ∈ entries.dropLast, e.data = none := by
          cases entries with
          | nil => simp
          | cons e es => rw [List.dropLast_cons_cons, List.forall_mem_cons, and_iff_right rfl]
        rw [hdrop, and_iff_right hid, ← ih]
        constructor
        · rintro ⟨rest, h⟩
          obtain ⟨⟨entries', rest'⟩, hrest, h⟩ := Outcome.bind_eq_ok.mp h
          simp only [Outcome.ok.injEq, Prod.mk.injEq, List.cons.injEq, true_and] at h
          obtain ⟨rfl, rfl⟩ := h
          exact ⟨rest', hrest⟩
        · rintro ⟨rest, h⟩
          exact ⟨rest, by rw [h]; rfl⟩
      | some data =>
        simp only [Outcome.ok.injEq, Prod.mk.injEq, List.cons.injEq, RegistryEntry.mk.injEq, true_and,
          Option.some.injEq, List.append_right_eq_self, exists_and_left, exists_eq', and_true]
        cases entries with
        | nil => simpa using hid
        | cons e es => simp
    · refine iff_of_false ?_ fun h => hid h.2.1
      rintro ⟨rest, h⟩
      obtain ⟨buf, hread⟩ := decodeEntries_head h
      rw [putEntry, List.append_assoc] at hread
      exact hid (readString_putString_iff.mp hread).1

/-! ## The packet -/

/-- A list of entries is read back exactly when no entry but the last has a
datum and the lengths it is written with are those of its parts. -/
theorem registry_entries_round_trip_iff (registryId : String) (entries : List RegistryEntry) :
    (fromEntries registryId entries).tryDecodeEntries = .ok entries ↔
      (∀ entry ∈ entries.dropLast, entry.data = none) ∧ entries.length < 2 ^ 31 ∧
        ∀ entry ∈ entries, StringFits entry.entryId := by
  rw [tryDecodeEntries, fromEntries, decodeVarint_encodeVarint, Outcome.ok_bind]
  dsimp only
  constructor
  · intro h
    split_ifs at h with hneg
    have hcount := asUsize_lt (Int32.not_lt.mp hneg)
    obtain ⟨⟨entries', rest⟩, hentries, h⟩ := Outcome.bind_eq_ok.mp h
    obtain rfl : entries' = entries := Outcome.ok.inj h
    have hlen := Nat.lt_of_le_of_lt (decodeEntries_length_le hentries) hcount
    rw [asUsize_asI32 hlen] at hentries
    obtain ⟨hdata, hids⟩ := decodeEntries_putEntries_iff.mp ⟨rest, hentries⟩
    exact ⟨hdata, hlen, hids⟩
  · rintro ⟨hdata, hlen, hids⟩
    obtain ⟨rest, h⟩ := decodeEntries_putEntries_iff.mpr ⟨hdata, hids⟩
    rw [if_neg (Int32.not_lt.mpr (asI32_nonneg hlen)), asUsize_asI32 hlen, h]
    rfl

/-- Two dimension types with an empty compound each: the first takes the second in. -/
theorem registry_entries_swallowed :
    (fromEntries "minecraft:dimension_type"
        [⟨"overworld", some [0x0A, 0x00]⟩, ⟨"the_end", some [0x0A, 0x00]⟩]).tryDecodeEntries =
      .ok [⟨"overworld", some ([0x0A, 0x00] ++ putEntry ⟨"the_end", some [0x0A, 0x00]⟩)⟩] ∧
    (fromEntries "minecraft:dimension_type"
        [⟨"overworld", some [0x0A, 0x00]⟩, ⟨"the_end", some [0x0A, 0x00]⟩]).tryDecodeEntries ≠
      .ok [⟨"overworld", some [0x0A, 0x00]⟩, ⟨"the_end", some [0x0A, 0x00]⟩] := by
  decide

end RegistryDataPacket

end FrameMC

import FrameMC.Protocol.Packet

/-!
# Protected channels

`is_protected_plugin_channel` looks at a packet's payload alone, whatever its
id: it answers yes exactly for the payloads that begin with a length, in any
encoding the reader takes, and the name of a protected channel in any case
(`isProtectedPluginChannel_iff`).
-/

namespace FrameMC

open ByteStream

/-! ## ASCII -/

/-- `u8::to_ascii_lowercase`. -/
def asciiLower (b : UInt8) : UInt8 := if 0x41 ≤ b ∧ b ≤ 0x5A then b + 0x20 else b

theorem asciiLower_toNat (b : UInt8) :
    (asciiLower b).toNat = if 0x41 ≤ b.toNat ∧ b.toNat ≤ 0x5A then b.toNat + 0x20 else b.toNat := by
  have hcond : (0x41 ≤ b ∧ b ≤ 0x5A) ↔ 0x41 ≤ b.toNat ∧ b.toNat ≤ 0x5A := by
    rw [UInt8.le_iff_toNat_le, UInt8.le_iff_toNat_le]
    exact Iff.rfl
  rw [asciiLower]
  by_cases h : 0x41 ≤ b.toNat ∧ b.toNat ≤ 0x5A
  · rw [if_pos (hcond.mpr h), if_pos h, UInt8.toNat_add]
    show (b.toNat + 0x20) % 2 ^ 8 = _
    omega
  · rw [if_neg (mt hcond.mp h), if_neg h]

theorem toLower_toNat (c : Char) :
    c.toLower.toNat = if 0x41 ≤ c.toNat ∧ c.toNat ≤ 0x5A then c.toNat + 0x20 else c.toNat := by
  have hcond : (c.val ≥ 'A'.val ∧ c.val ≤ 'Z'.val) ↔ 0x41 ≤ c.toNat ∧ c.toNat ≤ 0x5A := by
    rw [ge_iff_le, UInt32.le_iff_toNat_le, UInt32.le_iff_toNat_le]
    exact Iff.rfl
  delta Char.toLower
  by_cases h : 0x41 ≤ c.toNat ∧ c.toNat ≤ 0x5A
  · rw [dif_pos (hcond.mpr h), if_pos h]
    show (c.val + ('a'.val - 'A'.val)).toNat = c.val.toNat + 0x20
    have hle : c.val.toNat ≤ 0x5A := h.2
    rw [UInt32.toNat_add]
    show (c.val.toNat + 0x20) % 2 ^ 32 = _
    omega
  · rw [dif_neg (mt hcond.mp h), if_neg h]

theorem toUInt8_toNat {c : Char} (h : c.toNat < 128) : c.toUInt8.toNat = c.toNat := by
  show c.val.toNat % 2 ^ 8 = c.val.toNat
  have : c.val.toNat < 128 := h
  omega

theorem asciiLower_toUInt8 {c : Char} (h : c.toNat < 128) : asciiLower c.toUInt8 = c.toLower.toUInt8 := by
  have hlower := toLower_toNat c
  have hlt : c.toLower.toNat < 128 := by
    rw [hlower]
    split <;> omega
  apply UInt8.toNat_inj.mp
  rw [asciiLower_toNat, toUInt8_toNat h, toUInt8_toNat hlt, hlower]

/-- For a string at hand, to be evaluated. -/
theorem ascii_of_all {s : String} (h : s.toList.all (fun c => c.toNat < 128) = true) :
    ∀ c ∈ s.toList, c.toNat < 128 := by
  intro c hc
  exact of_decide_eq_true (List.all_eq_true.mp h c hc)

/-- The bytes of an ASCII string are its characters. -/
theorem asBytes_of_ascii {s : String} (h : ∀ c ∈ s.toList, c.toNat < 128) :
    asBytes s = s.toList.map Char.toUInt8 := by
  have key : ∀ cs : List Char, (∀ c ∈ cs, c.toNat < 128) → cs.utf8Encode.data.toList = cs.map Char.toUInt8 := by
    intro cs
    induction cs with
    | nil => exact fun _ => rfl
    | cons c cs ih =>
      intro hcs
      have hc := hcs c (List.mem_cons_self ..)
      have hsize : c.utf8Size = 1 := by
        rw [Char.utf8Size_eq_one_iff, UInt32.le_iff_toNat_le]
        exact Nat.le_of_lt_succ hc
      rw [List.utf8Encode_cons, List.utf8Encode_singleton, String.utf8EncodeChar_eq_singleton hsize,
        ByteArray.data_append, Array.toList_append, ih fun d hd => hcs d (List.mem_cons_of_mem c hd)]
      rfl
  rw [← key s.toList h, asBytes, ← String.toByteArray_ofList, String.ofList_toList]

theorem asBytes_eq_flatMap (s : String) : asBytes s = s.toList.flatMap String.utf8EncodeChar := by
  rw [asBytes, ← String.ofList_toList (s := s), String.toByteArray_ofList, List.utf8Encode, String.toList_ofList,
    List.data_toByteArray]

/-- Every byte below 128 is a character of the string: the others have no such bytes. -/
theorem char_of_asBytes {s : String} {b : UInt8} (hb : b ∈ asBytes s) (hlt : b.toNat < 128) :
    ∃ c ∈ s.toList, c.toNat = b.toNat := by
  rw [asBytes_eq_flatMap, List.mem_flatMap] at hb
  obtain ⟨c, hc, hb⟩ := hb
  refine ⟨c, hc, ?_⟩
  have hnat : c.val.toNat = c.toNat := rfl
  have hhigh : ∀ n, 128 ≤ n → n < 256 → ¬ (UInt8.ofNat n).toNat < 128 := by
    intro n hn hn'
    rw [UInt8.toNat_ofNat']
    omega
  unfold String.utf8EncodeChar at hb
  dsimp only at hb
  rw [hnat] at hb
  split_ifs at hb
  · rw [List.mem_singleton.mp hb, UInt8.toNat_ofNat']
    omega
  all_goals simp only [List.mem_cons, List.not_mem_nil, or_false] at hb
  · rcases hb with rfl | rfl <;> exact absurd hlt (hhigh _ (by omega) (by omega))
  · rcases hb with rfl | rfl | rfl <;> exact absurd hlt (hhigh _ (by omega) (by omega))
  · rcases hb with rfl | rfl | rfl | rfl <;> exact absurd hlt (hhigh _ (by omega) (by omega))

theorem length_le_asBytes (s : String) : s.toList.length ≤ (asBytes s).length := by
  rw [asBytes_eq_flatMap]
  induction s.toList with
  | nil => exact le_rfl
  | cons c cs ih =>
    rw [List.flatMap_cons, List.length_append, String.length_utf8EncodeChar, List.length_cons]
    have := c.utf8Size_pos
    omega

theorem ofUInt8_toNat (b : UInt8) : (Char.ofUInt8 b).toNat = b.toNat := UInt8.toNat_toUInt32 b

/-- ASCII bytes are the bytes of a string. -/
theorem exists_asBytes {bs : List UInt8} (h : ∀ b ∈ bs, b.toNat < 128) :
    ∃ s : String, asBytes s = bs ∧ s.toList = bs.map Char.ofUInt8 := by
  have hascii : ∀ c ∈ (String.ofList (bs.map Char.ofUInt8)).toList, c.toNat < 128 := by
    intro c hc
    rw [String.toList_ofList] at hc
    obtain ⟨b, hb, rfl⟩ := List.mem_map.mp hc
    rw [ofUInt8_toNat]
    exact h b hb
  refine ⟨String.ofList (bs.map Char.ofUInt8), ?_, String.toList_ofList ..⟩
  rw [asBytes_of_ascii hascii, String.toList_ofList, List.map_map]
  apply List.map_id''
  intro b
  apply UInt8.toNat_inj.mp
  show (Char.ofUInt8 b).val.toNat % 2 ^ 8 = b.toNat
  have hb := b.toNat_lt
  have := ofUInt8_toNat b
  rw [Char.toNat] at this
  omega

/-- Bytes whose lower case is ASCII are ASCII. -/
theorem ascii_of_asciiLower {channel : String} (hchannel : ∀ c ∈ channel.toList, c.toNat < 128) {bs : List UInt8}
    (h : bs.map asciiLower = asBytes channel) : ∀ b ∈ bs, b.toNat < 128 := by
  intro b hb
  have hb' : asciiLower b ∈ asBytes channel := by
    rw [← h]
    exact List.mem_map_of_mem hb
  rw [asBytes_of_ascii hchannel] at hb'
  obtain ⟨c, hc, hcb⟩ := List.mem_map.mp hb'
  have hlt := hchannel c hc
  have heq := toUInt8_toNat hlt
  rw [hcb, asciiLower_toNat] at heq
  split at heq <;> omega

/-- Lower-casing a string is lower-casing its bytes, where the outcome is ASCII. -/
theorem toLower_eq_iff {name channel : String} (hchannel : ∀ c ∈ channel.toList, c.toNat < 128) :
    name.toLower = channel ↔ (asBytes name).map asciiLower = asBytes channel := by
  have hlower : name.toLower.toList = name.toList.map Char.toLower := String.toList_map
  -- once the characters are known to be ASCII, the two sides say the same of each
  have key : (∀ c ∈ name.toList, c.toNat < 128) →
      (name.toLower = channel ↔ (asBytes name).map asciiLower = asBytes channel) := by
    intro hname
    have hcommute : (asBytes name).map asciiLower = name.toLower.toList.map Char.toUInt8 := by
      rw [asBytes_of_ascii hname, hlower, List.map_map, List.map_map]
      apply List.map_congr_left
      intro c hc
      exact asciiLower_toUInt8 (hname c hc)
    have hbytes : name.toLower.toList.map Char.toUInt8 = asBytes name.toLower := by
      rw [asBytes_of_ascii]
      intro c hc
      rw [hlower] at hc
      obtain ⟨d, hd, rfl⟩ := List.mem_map.mp hc
      have := hname d hd
      rw [toLower_toNat]
      split <;> omega
    rw [hcommute, hbytes]
    constructor
    · rintro rfl
      rfl
    · exact asBytes_inj
  constructor
  · intro h
    apply (key ?_).mp h
    intro c hc
    have hc' : c.toLower ∈ channel.toList := by
      rw [← h, hlower]
      exact List.mem_map_of_mem hc
    have := hchannel _ hc'
    rw [toLower_toNat] at this
    split at this <;> omega
  · intro h
    apply (key ?_).mpr h
    have hsmall := ascii_of_asciiLower hchannel h
    obtain ⟨s, hs, hchars⟩ := exists_asBytes hsmall
    obtain rfl := asBytes_inj hs
    intro c hc
    rw [hchars] at hc
    obtain ⟨b, hb, rfl⟩ := List.mem_map.mp hc
    rw [ofUInt8_toNat]
    exact hsmall b hb

/-! ## The filter -/

/-- The names the proxy keeps for itself, in lower case. -/
def protectedChannels : List String := ["velocity:player_info", "bungeecord:main", "bungee:main", "bungeecord"]

theorem protectedChannels_ascii : ∀ channel ∈ protectedChannels, ∀ c ∈ channel.toList, c.toNat < 128 := by
  have hall : (protectedChannels.all fun channel => channel.toList.all fun c => c.toNat < 128) = true := by
    decide +kernel
  intro channel hchannel c hc
  exact of_decide_eq_true (List.all_eq_true.mp (List.all_eq_true.mp hall channel hchannel) c hc)

theorem protectedChannels_length : ∀ channel ∈ protectedChannels,
    0 < (asBytes channel).length ∧ (asBytes channel).length ≤ 20 := by
  decide

/-- A payload that names a protected channel: a length VarInt, and that many
bytes that are the name but for ASCII case. -/
def NamesProtectedChannel (payload : List UInt8) : Prop :=
  ∃ u len name rest, payload = u ++ name ++ rest ∧ IsVarint u len ∧ 0 ≤ len ∧ asUsize len = name.length ∧
    ∃ channel ∈ protectedChannels, name.map asciiLower = asBytes channel

/-- The check behind the length. -/
theorem protectedChannelCheck_eq {packet : RawPacket} {len : Int32} {cursor : List UInt8}
    (h : decodeVarint packet.payload = .ok (len, cursor)) :
    isProtectedPluginChannel packet = true ↔ len > 0 ∧ len ≤ 128 ∧ cursor.length ≥ asUsize len ∧
      ∃ channel, fromUtf8 (cursor.take (asUsize len)) = some channel ∧ channel.toLower ∈ protectedChannels := by
  simp only [isProtectedPluginChannel, protectedChannelCheck, h]
  by_cases hc : len > 0 ∧ len ≤ 128 ∧ cursor.length ≥ asUsize len
  · rw [if_pos hc, Decoder.slice_of_le hc.2.2]
    simp only [Outcome.ok_bind, hc, true_and]
    cases fromUtf8 (cursor.take (asUsize len)) with
    | none => simp
    | some channel => simp [protectedChannels, or_assoc]
  · rw [if_neg hc]
    simp only [Bool.false_eq_true, false_iff]
    rintro ⟨h1, h2, h3, -⟩
    exact hc ⟨h1, h2, h3⟩

theorem isProtectedPluginChannel_iff (packet : RawPacket) :
    isProtectedPluginChannel packet = true ↔ NamesProtectedChannel packet.payload := by
  constructor
  · intro h
    cases hd : decodeVarint packet.payload with
    | ok r =>
      obtain ⟨len, cursor⟩ := r
      obtain ⟨hpos, -, hle, name, hname, hmem⟩ := (protectedChannelCheck_eq hd).mp h
      obtain ⟨u, hu, hvarint⟩ := decodeVarint_ok_iff.mp hd
      have hbytes := asBytes_of_fromUtf8 hname
      refine ⟨u, len, asBytes name, cursor.drop (asUsize len), ?_, hvarint, Int32.le_of_lt hpos, ?_,
        name.toLower, hmem, (toLower_eq_iff (protectedChannels_ascii _ hmem)).mp rfl⟩
      · rw [hu, hbytes, List.append_assoc, List.take_append_drop]
      · rw [hbytes, List.length_take]
        omega
    | err e => simp [isProtectedPluginChannel, protectedChannelCheck, hd] at h
    | panic => exact absurd hd (decodeVarint_ne_panic _)
  · rintro ⟨u, len, bs, rest, hpayload, hvarint, hnonneg, hsize, channel, hmem, hbs⟩
    have hd : decodeVarint packet.payload = .ok (len, bs ++ rest) :=
      decodeVarint_ok_iff.mpr ⟨u, by rw [hpayload, List.append_assoc], hvarint⟩
    have hlength := congrArg List.length hbs
    rw [List.length_map] at hlength
    have hshort := protectedChannels_length channel hmem
    have hascii := protectedChannels_ascii channel hmem
    obtain ⟨name, hname, -⟩ := exists_asBytes (ascii_of_asciiLower hascii hbs)
    have htake : (bs ++ rest).take (asUsize len) = asBytes name := by
      rw [hsize, List.take_left, hname]
    apply (protectedChannelCheck_eq hd).mpr
    refine ⟨?_, ?_, ?_, name, ?_, ?_⟩
    · apply Int32.lt_of_le_of_ne hnonneg
      rintro rfl
      rw [asUsize_zero] at hsize
      omega
    · rw [← asI32_asUsize hnonneg]
      have hle : asUsize len ≤ 20 := by omega
      generalize asUsize len = k at hle
      revert k
      decide
    · rw [List.length_append]
      omega
    · rw [htake, fromUtf8_asBytes]
    · rw [(toLower_eq_iff hascii).mpr (hname ▸ hbs)]
      exact hmem

end FrameMC

import FrameMC.Network.Authentication
import FrameMC.Routing.Respawn

/-!
# Packets, written and read back

The packets that the proxy both writes and reads have an encoder and a decoder
each, with their own tables of ids by version. For every version the decoder
takes what the encoder writes, and gives back the packet
(`codec_pairs_round_trip`).
-/

namespace FrameMC

open ByteStream

/-- A flag, as every encoder writes it. -/
theorem flag_ne_zero (b : Bool) : decide ((if b = true then (1 : UInt8) else 0) ≠ 0) = b := by
  cases b <;> decide

variable {v : Int}

/-! ## Login -/

/-- The names a LoginStart is accepted with, as bytes. -/
theorem ValidName.bytes {name : String} (h : ValidName name) :
    1 ≤ (asBytes name).length ∧ (asBytes name).length ≤ 16 ∧ ∀ b ∈ asBytes name, isNameByte b = true := by
  have hchar (c : Char) (hc : c.isAlphanum = true ∨ c = '_') : c.toNat < 128 ∧ isNameByte c.toUInt8 = true := by
    have hlow : c.toNat < 128 := by
      rcases hc with hc | rfl
      · delta Char.isAlphanum Char.isAlpha Char.isUpper Char.isLower Char.isDigit at hc
        simp only [Bool.or_eq_true, Bool.and_eq_true, decide_eq_true_eq, ge_iff_le, UInt32.le_iff_toNat_le] at hc
        have : c.toNat = c.val.toNat := rfl
        rcases hc with (⟨-, hc⟩ | ⟨-, hc⟩) | ⟨-, hc⟩
        · exact Nat.lt_of_le_of_lt hc (by decide)
        · exact Nat.lt_of_le_of_lt hc (by decide)
        · exact Nat.lt_of_le_of_lt hc (by decide)
      · decide
    have hall : ∀ n < 128, ((Char.ofNat n).isAlphanum = true ∨ Char.ofNat n = '_') →
        isNameByte (Char.ofNat n).toUInt8 = true := by
      decide +kernel
    have hbyte := hall c.toNat hlow
    rw [Char.ofNat_toNat] at hbyte
    exact ⟨hlow, hbyte hc⟩
  rw [asBytes_of_ascii fun c hc => (hchar c (h.chars c hc)).1, List.length_map, String.length_toList]
  refine ⟨h.nonempty, h.short, ?_⟩
  intro b hb
  obtain ⟨c, hc, rfl⟩ := List.mem_map.mp hb
  exact (hchar c (h.chars c hc)).2

theorem LoginStartPacket.decode_encode {p : LoginStartPacket} (h : ValidName p.username) : decode p.encode = .ok p := by
  obtain ⟨username, playerUuid⟩ := p
  obtain ⟨hnonempty, hshort, hchars⟩ := h.bytes
  dsimp only at hnonempty hshort hchars
  have hfits : (asBytes username).length < 2 ^ 31 := by omega
  have hrange : 1 ≤ asI32 (asBytes username).length ∧ asI32 (asBytes username).length ≤ 16 := by
    rw [Int32.le_iff_toInt_le, Int32.le_iff_toInt_le, toInt_asI32 hfits]
    change (1 : Int) ≤ _ ∧ _ ≤ (16 : Int)
    omega
  have hle : (asBytes username).length ≤ (asBytes username ++ playerUuid.val).length := by
    rw [List.length_append]
    exact Nat.le_add_right _ _
  have hvalid : (asBytes username).find? (fun b => ! isNameByte b) = none := by
    rw [List.find?_eq_none]
    intro b hb
    rw [hchars b hb]
    decide
  have huuid : getUuid playerUuid.val = .ok (playerUuid, []) := by
    have := getUuid_append playerUuid []
    rwa [List.append_nil] at this
  rw [decode, encode, if_neg (not_not_intro rfl), decode.body]
  simp only [putString, List.append_assoc, Decoder.bind_apply, decodeVarint_encodeVarint, Outcome.ok_bind,
    Decoder.ite_apply, if_neg (not_not_intro hrange), need_apply, asUsize_asI32 hfits, Nat.not_lt.mpr hle, if_false,
    Decoder.slice_of_le hle, List.take_left, hvalid, fromUtf8_asBytes, Outcome.ofOption_some, Decoder.lift_ok,
    Decoder.advance_of_le hle, List.drop_left, Decoder.remaining_apply, playerUuid.property, ge_iff_le,
    Nat.le_refl, if_true, huuid, Decoder.pure_apply]

theorem EncryptionRequestPacket.decode_encode {p : EncryptionRequestPacket} (hid : StringFits p.serverId)
    (hkey : p.publicKey.length < 2 ^ 31) (htoken : p.verifyToken.length < 2 ^ 31)
    (hauth : v < 766 → p.shouldAuthenticate = true) : decode (p.encodeWithVersion v) = .ok p := by
  obtain ⟨serverId, publicKey, verifyToken, shouldAuthenticate⟩ := p
  rw [decode, encodeWithVersion, if_neg (not_not_intro rfl), decode.body]
  simp only [List.append_assoc, Decoder.bind_apply, readString_putString _ _ hid, readBytes_putBytes _ hkey,
    readBytes_putBytes _ htoken, Outcome.ok_bind, Decoder.remaining_apply]
  by_cases hv : v ≥ 766
  · simp [hv]
  · have hauth : shouldAuthenticate = true := hauth (Int.not_le.mp hv)
    simp [hv, hauth]

theorem EncryptionResponsePacket.decode_encode {p : EncryptionResponsePacket} (hsecret : p.sharedSecret.length < 2 ^ 31)
    (htoken : p.verifyToken.length < 2 ^ 31) : decode p.encode = .ok p := by
  have hlast (eof : String) : readBytes eof (putBytes p.verifyToken) = .ok (p.verifyToken, []) := by
    have := readBytes_putBytes eof htoken []
    rwa [List.append_nil] at this
  rw [decode, encode, if_neg (not_not_intro rfl), decode.body]
  simp only [Decoder.bind_apply, readBytes_putBytes _ hsecret, hlast, Outcome.ok_bind, Decoder.pure_apply]

theorem LoginPluginRequestPacket.decode_encode {p : LoginPluginRequestPacket} (h : StringFits p.channel) :
    decode p.encode = .ok p := by
  rw [decode, encode, if_neg (not_not_intro rfl), decode.body]
  simp only [List.append_assoc, Decoder.bind_apply, decodeVarint_encodeVarint, readString_putString _ _ h,
    Outcome.ok_bind, Decoder.takeRest_apply, Decoder.pure_apply]

theorem LoginPluginResponsePacket.decode_encode {p : LoginPluginResponsePacket}
    (h : p.successful = false → p.data = []) : decode p.encode = .ok p := by
  obtain ⟨messageId, successful, data⟩ := p
  rw [decode, encode, if_neg (not_not_intro rfl), decode.body]
  cases successful with
  | true =>
    simp only [if_true, Decoder.bind_apply, decodeVarint_encodeVarint, Outcome.ok_bind, need_one, Decoder.getU8_cons,
      Decoder.takeRest_apply, Decoder.pure_apply]
    rfl
  | false =>
    have hdata : data = [] := h rfl
    simp only [Bool.false_eq_true, if_false, Decoder.bind_apply, decodeVarint_encodeVarint, Outcome.ok_bind, need_one,
      Decoder.getU8_cons, Decoder.takeRest_apply, Decoder.pure_apply, hdata]
    rfl

/-! ## Respawn -/

/-- From 766 on only one of the two dimensions is written, and every negative
gamemode as none. -/
theorem RespawnPacket.decode_encode_modern (hv : v ≥ 766) {p : RespawnPacket} (hname : StringFits p.dimensionName)
    (htype : p.dimensionType = p.dimensionName) (hprevious : p.previousGamemode ≥ -1) :
    decodeWithVersion (p.encodeWithVersion v) v = .ok p := by
  obtain ⟨dimensionType, dimensionName, hashedSeed, gamemode, previousGamemode, isDebug, isFlat, dataKept⟩ := p
  dsimp only at hname htype hprevious
  have hseed (rest : List UInt8) :
      decodeWithVersion.hashedSeed (putI64 hashedSeed ++ rest) = .ok (hashedSeed, rest) := by
    have h := hashedSeed_append ⟨putI64 hashedSeed, putI64_length hashedSeed⟩ rest
    rwa [beI64_putI64] at h
  have hgamemode : (if (if previousGamemode < 0 then (255 : UInt8) else previousGamemode.toUInt8) = 255 then -1
      else (if previousGamemode < 0 then (255 : UInt8) else previousGamemode.toUInt8).toInt8) = previousGamemode := by
    by_cases hneg : previousGamemode < 0
    · rw [if_pos hneg, if_pos rfl]
      apply Int8.toInt_inj.mp
      have hlow := Int8.le_iff_toInt_le.mp hprevious
      have hhigh := Int8.lt_iff_toInt_lt.mp hneg
      change -1 ≤ previousGamemode.toInt at hlow
      change previousGamemode.toInt < 0 at hhigh
      change -1 = previousGamemode.toInt
      omega
    · have hnone : previousGamemode.toUInt8 ≠ 255 := by
        intro h
        apply hneg
        rw [← Int8.toInt8_toUInt8 previousGamemode, h]
        decide
      rw [if_neg hneg, if_neg hnone, Int8.toInt8_toUInt8]
  have hdeath (rest : List UInt8) : decodeWithVersion.deathPos 0 rest = .ok ((), rest) := rfl
  have hsea (rest : List UInt8) :
      decodeWithVersion.seaLevel v ((if v ≥ 768 then encodeVarint 63 else []) ++ rest) = .ok ((), rest) := by
    rw [decodeWithVersion.seaLevel]
    by_cases hsea : v ≥ 768
    · rw [if_pos hsea, if_pos hsea, Decoder.bind_apply, decodeVarint_encodeVarint]
      rfl
    · rw [if_neg hsea, if_neg hsea]
      rfl
  rw [decodeWithVersion, encodeWithVersion]
  simp only [ne_eq, not_true_eq_false, false_and, if_false, if_pos hv, decodeWithVersion.modern, putBool,
    List.append_assoc, Decoder.bind_apply, decodeVarint_encodeVarint, Outcome.ok_bind, readString_putString _ _ hname,
    hseed, List.cons_append, List.nil_append, fieldU8_cons, hdeath, hsea, Decoder.pure_apply, hgamemode, htype,
    flag_ne_zero]

/-! ## All of them -/

/-- Every packet comes back from its encoding for the version, under what its
format can carry of it. -/
structure CodecPairsRoundTrip (v : Int) : Prop where
  chatCommand : ∀ p : ServerboundChatCommand, StringFits p.command →
    ServerboundChatCommand.decodeWithVersion (p.encodeWithVersion v) v = .ok p
  tabCompleteRequest : ∀ p : TabCompleteRequestPacket, StringFits p.text →
    TabCompleteRequestPacket.decode (p.encodeWithVersion v) v = .ok p
  tabCompleteResponse : ∀ p : TabCompleteResponsePacket, p.matches'.length ≤ 4096 →
    (∀ m ∈ p.matches', StringFits m) → TabCompleteResponsePacket.decode (p.encodeWithVersion v) v = .ok p
  closeContainer : ∀ p : CloseContainerPacket, CloseContainerPacket.decode (p.encodeWithVersion v) v = .ok p
  stopSound : ∀ p : StopSoundPacket, (p.flags &&& 1 ≠ 0 ↔ p.source.isSome) → (p.flags &&& 2 ≠ 0 ↔ p.sound.isSome) →
    (∀ s, p.sound = some s → StringFits s) → StopSoundPacket.decode (p.encodeWithVersion v) v = .ok p
  bossBar : ∀ p : BossBarPacket, BossBarPacket.decode (p.encodeWithVersion v) v = .ok p
  scoreboardObjective : ∀ p : ScoreboardObjectivePacket, StringFits p.name →
    ScoreboardObjectivePacket.decode (p.encodeWithVersion v) v = .ok p
  displayObjective : ∀ p : DisplayObjectivePacket, StringFits p.name →
    DisplayObjectivePacket.decode (p.encodeWithVersion v) v = .ok p
  respawn : ∀ p : RespawnPacket, StringFits p.dimensionType → StringFits p.dimensionName →
    (v ≥ 766 → p.dimensionType = p.dimensionName ∧ p.previousGamemode ≥ -1) →
    RespawnPacket.decodeWithVersion (p.encodeWithVersion v) v = .ok p
  registryData : ∀ p : RegistryDataPacket, StringFits p.registryId → RegistryDataPacket.decode p.encode = .ok p
  handshake : ∀ p : HandshakePacket, StringFits p.serverAddress → p.nextState = .status ∨ p.nextState = .login →
    HandshakePacket.decode p.encode = .ok p
  loginStart : ∀ p : LoginStartPacket, ValidName p.username → LoginStartPacket.decode p.encode = .ok p
  encryptionRequest : ∀ p : EncryptionRequestPacket, StringFits p.serverId → p.publicKey.length < 2 ^ 31 →
    p.verifyToken.length < 2 ^ 31 → (v < 766 → p.shouldAuthenticate = true) →
    EncryptionRequestPacket.decode (p.encodeWithVersion v) = .ok p
  encryptionResponse : ∀ p : EncryptionResponsePacket, p.sharedSecret.length < 2 ^ 31 → p.verifyToken.length < 2 ^ 31 →
    EncryptionResponsePacket.decode p.encode = .ok p
  loginPluginRequest : ∀ p : LoginPluginRequestPacket, StringFits p.channel →
    LoginPluginRequestPacket.decode p.encode = .ok p
  loginPluginResponse : ∀ p : LoginPluginResponsePacket, (p.successful = false → p.data = []) →
    LoginPluginResponsePacket.decode p.encode = .ok p

theorem codec_pairs_round_trip (v : Int) : CodecPairsRoundTrip v where
  chatCommand := fun _ => ServerboundChatCommand.decode_encode
  tabCompleteRequest := fun _ => TabCompleteRequestPacket.decode_encode
  tabCompleteResponse := fun _ => TabCompleteResponsePacket.decode_encode
  closeContainer := fun p => p.decode_encode v
  stopSound := fun _ => StopSoundPacket.decode_encode
  bossBar := fun p => p.decode_encode v
  scoreboardObjective := fun _ => ScoreboardObjectivePacket.decode_encode
  displayObjective := fun _ => DisplayObjectivePacket.decode_encode
  respawn := by
    intro p htype hname hmodern
    by_cases hv : v ≥ 766
    · exact RespawnPacket.decode_encode_modern hv hname (hmodern hv).1 (hmodern hv).2
    · exact RespawnPacket.decode_encode_legacy (Int.not_le.mp hv) htype hname
  registryData := fun _ => RegistryDataPacket.decode_encode
  handshake := fun _ => HandshakePacket.decode_encode
  loginStart := fun _ => LoginStartPacket.decode_encode
  encryptionRequest := fun _ => EncryptionRequestPacket.decode_encode
  encryptionResponse := fun _ => EncryptionResponsePacket.decode_encode
  loginPluginRequest := fun _ => LoginPluginRequestPacket.decode_encode
  loginPluginResponse := fun _ => LoginPluginResponsePacket.decode_encode

end FrameMC

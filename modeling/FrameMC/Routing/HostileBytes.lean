import FrameMC.Protocol.Forwarding
import FrameMC.Protocol.Handshake
import FrameMC.Protocol.RegistryEntries
import FrameMC.Routing.SystemChat

/-!
# Decoders on hostile bytes

Clients and backends choose the bytes of a packet. No decoder slices, indexes,
advances or reads past the end of them, and every one comes back with a packet
or an error (`decoders_return`): each read is behind the check it needs, from
`Decoder.Within` of its parts.

The loop of a VarInt is a recursion on its bytes, and a loop over a count that
was read is one on the count. The loop over the tags of a system chat message
has no count; it is followed turn by turn (`Decoder.Loop`).
-/

namespace FrameMC

open ByteStream

/-- A decoder that looks at the packet's id, and then reads its payload. -/
theorem returns_behind {α β : Type} {wrong : Prop} [Decidable wrong] {e : ProxyError} {body : Decoder ProxyError α}
    {f : α × List UInt8 → Outcome ProxyError β} {payload : List UInt8} (hbody : Decoder.Within body)
    (hf : ∀ r, (f r).Returns) : (if wrong then .err e else body payload >>= f).Returns :=
  .ite (fun _ => .err e) fun _ => hbody.returns hf payload

/-! ## Handshake and Login -/

theorem HandshakePacket.body_within : Decoder.Within decode.body := by
  apply decodeVarint_within.bind
  intro protocolVersion
  apply decodeVarint_within.bind
  intro addrLen
  apply Decoder.Within.ite
  · exact fun _ => .fail _
  intro _
  apply within_need
  intro bs hlen
  apply Decoder.WithinAt.slice hlen
  apply Decoder.WithinAt.lift (.ofOption _ _)
  intro serverAddress
  apply (Decoder.WithinAt.advance hlen).andThen
  intro _
  apply within_need
  intro bs hport
  apply (withinAt_getU16 hport).andThen
  intro serverPort
  apply decodeVarint_within.bind
  intro nextStateRaw
  apply Decoder.Within.ite
  · exact fun _ => .pure _
  intro _
  apply Decoder.Within.ite
  · exact fun _ => .pure _
  · exact fun _ => .fail _

theorem LoginStartPacket.body_within : Decoder.Within decode.body := by
  apply decodeVarint_within.bind
  intro nameLen
  apply Decoder.Within.ite
  · exact fun _ => .fail _
  intro _
  apply within_need
  intro bs hlen
  apply Decoder.WithinAt.slice hlen
  split
  · exact Decoder.Within.fail _ bs
  apply Decoder.WithinAt.lift (.ofOption _ _)
  intro username
  apply (Decoder.WithinAt.advance hlen).andThen
  intro _
  apply Decoder.Within.remaining
  intro bs
  apply Decoder.WithinAt.ite
  · exact fun henough => (withinAt_getUuid henough).andThen fun _ => .pure _
  · exact fun _ => (Decoder.Within.pure Uuid.nil).bind (fun _ => .pure _) bs

theorem EncryptionRequestPacket.body_within : Decoder.Within decode.body := by
  apply (readString_within _ _).bind
  intro serverId
  apply (readBytes_within _).bind
  intro publicKey
  apply (readBytes_within _).bind
  intro verifyToken
  apply Decoder.Within.remaining
  intro bs
  apply Decoder.WithinAt.ite
  · exact fun hsome => (Decoder.WithinAt.getU8 hsome).andThen fun _ => .pure _
  · exact fun _ => Decoder.Within.pure _ bs

theorem EncryptionResponsePacket.body_within : Decoder.Within decode.body := by
  apply (readBytes_within _).bind
  intro sharedSecret
  apply (readBytes_within _).bind
  exact fun _ => .pure _

namespace LoginSuccessPacket

theorem readUuid_within (v : Int) : Decoder.Within (decodeWithVersion.readUuid v) := by
  apply Decoder.Within.ite
  · intro _
    apply within_need
    exact fun bs hlen => withinAt_getUuid hlen
  · intro _
    apply (readString_within _ _).bind
    exact fun text => .lift (.ofOption _ _)

/-- A turn reads a property, and the loop goes on behind it. -/
theorem readProperties_within (n : Nat) : Decoder.Within (readProperties n) := by
  induction n with
  | zero => exact .pure _
  | succ n ih =>
    apply (readString_within _ _).bind
    intro name
    apply (readString_within _ _).bind
    intro value
    apply within_needU8
    intro isSigned
    have hend (signature : Option String) : Decoder.Within (do
        let properties ← readProperties n
        pure ((⟨name, value, signature⟩ : ProfileProperty) :: properties)) :=
      ih.bind fun _ => .pure _
    apply Decoder.Within.ite
    · exact fun _ => (readString_within _ _).map.bind hend
    · exact fun _ => (Decoder.Within.pure none).bind hend

theorem properties_within (v : Int) : Decoder.Within (decodeWithVersion.properties v) := by
  apply Decoder.Within.remaining
  intro bs
  apply Decoder.WithinAt.ite
  · intro _
    apply decodeVarint_within.bind _ bs
    intro propCount
    apply Decoder.Within.ite
    · exact fun _ => .fail _
    · exact fun _ => readProperties_within _
  · exact fun _ => Decoder.Within.pure _ bs

theorem readSessionId_within (v : Int) : Decoder.Within (decodeWithVersion.readSessionId v) := by
  apply Decoder.Within.ite
  · intro _
    apply within_need
    exact fun bs hlen => (withinAt_getUuid hlen).andThen fun _ => .pure _
  · exact fun _ => .pure _

theorem body_within (v : Int) : Decoder.Within (decodeWithVersion.body v) := by
  apply (readUuid_within v).bind
  intro uuid
  apply (readString_within _ _).bind
  intro username
  apply (properties_within v).bind
  intro properties
  apply (readSessionId_within v).bind
  intro sessionId
  apply Decoder.Within.remaining
  intro bs
  apply Decoder.WithinAt.ite
  · exact fun _ => Decoder.Within.fail _ bs
  · exact fun _ => Decoder.Within.pure _ bs

theorem decodeWithVersion_returns (packet : RawPacket) (v : Int) : (decodeWithVersion packet v).Returns :=
  returns_behind (body_within v) fun _ => .ok _

theorem frame_within : Decoder.Within decodeFrameWithVersion.body := by
  apply decodeVarint_within.bind
  intro totalLength
  apply within_need
  intro bs _
  apply decodeVarint_within.bind _ bs
  intro packetId
  apply Decoder.Within.ite
  · exact fun _ => .fail _
  · exact fun _ => Decoder.Within.takeRest.bind fun _ => .pure _

end LoginSuccessPacket

theorem LoginPluginRequestPacket.body_within : Decoder.Within decode.body := by
  apply decodeVarint_within.bind
  intro messageId
  apply (readString_within _ _).bind
  intro channel
  exact Decoder.Within.takeRest.bind fun _ => .pure _

theorem LoginPluginResponsePacket.body_within : Decoder.Within decode.body := by
  apply decodeVarint_within.bind
  intro messageId
  apply within_needU8
  intro successful
  exact Decoder.Within.takeRest.bind fun _ => .pure _

/-! ## Registries -/

namespace RegistryDataPacket

/-- A turn reads an entry, and is the last one if the entry has a datum. -/
theorem decodeEntries_within (n : Nat) : Decoder.Within (decodeEntries n) := by
  induction n with
  | zero => exact .pure _
  | succ n ih =>
    apply (readString_within _ _).bind
    intro entryId
    apply within_needU8
    intro hasData
    apply Decoder.Within.ite
    · exact fun _ => Decoder.Within.takeRest.bind fun _ => .pure _
    · exact fun _ => ih.bind fun _ => .pure _

theorem tryDecodeEntries_returns (p : RegistryDataPacket) : (tryDecodeEntries p).Returns := by
  apply decodeVarint_within.returns
  rintro ⟨count, cursor⟩
  apply Outcome.Returns.ite
  · exact fun _ => .err _
  · exact fun _ => (decodeEntries_within _).returns (fun _ => .ok _) cursor

end RegistryDataPacket

/-! ## Play -/

theorem TabCompleteRequestPacket.decode_returns (packet : RawPacket) (v : Int) : (decode packet v).Returns := by
  apply returns_behind decodeVarint_within
  rintro ⟨transactionId, cursor⟩
  exact (readString_within _ _).returns (fun _ => .ok _) cursor

namespace TabCompleteResponsePacket

/-- A turn reads a match and its flag, if there is one. -/
theorem readMatches_within (n : Nat) : Decoder.Within (readMatches n) := by
  induction n with
  | zero => exact .pure _
  | succ n ih =>
    apply (readString_within _ _).bind
    intro matchStr
    have hend : Decoder.Within (do
        let matches' ← readMatches n
        pure (matchStr :: matches')) :=
      ih.bind fun _ => .pure _
    apply Decoder.Within.remaining
    intro bs
    apply Decoder.WithinAt.ite
    · exact fun hsome => (Decoder.WithinAt.getU8 hsome).andThen fun _ => hend
    · exact fun _ => (Decoder.Within.pure 0).bind (fun _ => hend) bs

theorem body_within : Decoder.Within decode.body := by
  apply decodeVarint_within.bind
  intro transactionId
  apply decodeVarint_within.bind
  intro start
  apply decodeVarint_within.bind
  intro length
  apply decodeVarint_within.bind
  intro count
  apply Decoder.Within.ite
  · exact fun _ => .fail _
  · exact fun _ => (readMatches_within _).bind fun _ => .pure _

end TabCompleteResponsePacket

namespace RespawnPacket

theorem fieldU8_within (eof : String) : Decoder.Within (fieldU8 eof) := by
  apply within_need
  exact fun bs hlen => Decoder.WithinAt.getU8 hlen

theorem hashedSeed_within : Decoder.Within decodeWithVersion.hashedSeed := by
  apply within_need
  exact fun bs hlen => withinAt_getI64 hlen

theorem deathPos_within (hasDeath : UInt8) : Decoder.Within (decodeWithVersion.deathPos hasDeath) := by
  apply Decoder.Within.ite
  · intro _
    apply decodeVarint_within.bind
    intro deathDimLen
    apply Decoder.Within.remaining
    intro bs
    apply Decoder.WithinAt.ite
    · exact fun _ => Decoder.Within.fail _ bs
    · intro henough
      apply Decoder.WithinAt.advance
      omega
  · exact fun _ => .pure _

theorem seaLevel_within (v : Int) : Decoder.Within (decodeWithVersion.seaLevel v) := by
  apply Decoder.Within.ite
  · exact fun _ => decodeVarint_within.bind fun _ => .pure _
  · exact fun _ => .pure _

theorem modern_within (v : Int) : Decoder.Within (decodeWithVersion.modern v) := by
  apply decodeVarint_within.bind
  intro _
  apply (readString_within _ _).bind
  intro dimensionName
  apply hashedSeed_within.bind
  intro seed
  apply (fieldU8_within _).bind
  intro gamemode
  apply (fieldU8_within _).bind
  intro prevU8
  apply (fieldU8_within _).bind
  intro isDebug
  apply (fieldU8_within _).bind
  intro isFlat
  apply (fieldU8_within _).bind
  intro hasDeath
  apply (deathPos_within hasDeath).bind
  intro _
  apply decodeVarint_within.bind
  intro _
  apply (seaLevel_within v).bind
  intro _
  exact (fieldU8_within _).bind fun _ => .pure _

theorem legacy_within : Decoder.Within decodeWithVersion.legacy := by
  apply (readString_within _ _).bind
  intro dimensionType
  apply (readString_within _ _).bind
  intro dimensionName
  apply hashedSeed_within.bind
  intro seed
  apply (fieldU8_within _).bind
  intro gamemode
  apply (fieldU8_within _).bind
  intro previousGamemode
  apply (fieldU8_within _).bind
  intro isDebug
  apply (fieldU8_within _).bind
  intro isFlat
  exact (fieldU8_within _).bind fun _ => .pure _

theorem decodeWithVersion_returns (packet : RawPacket) (v : Int) : (decodeWithVersion packet v).Returns := by
  apply Outcome.Returns.ite
  · exact fun _ => .err _
  · intro _
    apply Outcome.Returns.ite
    · exact fun _ => (modern_within v).returns (fun _ => .ok _) packet.payload
    · exact fun _ => legacy_within.returns (fun _ => .ok _) packet.payload

end RespawnPacket

namespace SystemChatMessagePacket

theorem tags_within (message : String) (bs : List UInt8) : Decoder.WithinAt (tags bs.length message) bs := by
  have hloop := tags_loop bs.length message bs (Nat.le_refl _)
  exact Decoder.Loop.within turn_advances turn_ne_panic hloop

theorem readOverlay_within : Decoder.Within readOverlay := by
  apply Decoder.Within.remaining
  intro bs
  apply Decoder.WithinAt.ite
  · exact fun hsome => (Decoder.WithinAt.getU8 hsome).andThen fun _ => .pure _
  · exact fun _ => Decoder.Within.pure _ bs

theorem readCompound_withinAt {bs : List UInt8} (h : 1 ≤ bs.length) : Decoder.WithinAt readCompound bs := by
  apply (Decoder.WithinAt.advance h).andThen
  intro _
  apply Decoder.Within.remaining
  intro bs
  apply (tags_within "" bs).andThen
  intro message
  exact readOverlay_within.bind fun _ => .pure _

theorem readJson_within (readText : String → Except String (Option String)) : Decoder.Within (readJson readText) := by
  apply (readString_within _ _).bind
  intro jsonStr
  apply Decoder.Within.bind
  · apply Decoder.Within.lift
    cases readText jsonStr with
    | ok text => exact .ok text
    | error e => exact .err _
  · intro text
    exact readOverlay_within.bind fun _ => .pure _

theorem decodeWithVersion_returns (readText : String → Except String (Option String)) (packet : RawPacket) (v : Int) :
    (decodeWithVersion readText packet v).Returns := by
  rw [decodeWithVersion_eq]
  apply Outcome.Returns.ite
  · exact fun _ => .err _
  intro _
  apply Outcome.Returns.ite
  · exact fun _ => .err _
  intro hpayload
  have hbytes : 1 ≤ packet.payload.length := by
    rw [List.isEmpty_iff] at hpayload
    exact List.length_pos_iff.mpr hpayload
  apply Outcome.Returns.bind
  · apply Outcome.Returns.ite
    · exact fun _ => Outcome.returns_iff.mpr (readCompound_withinAt hbytes).1
    · exact fun _ => Outcome.returns_iff.mpr (readJson_within readText packet.payload).1
  · exact fun _ => .ok _

end SystemChatMessagePacket

theorem CloseContainerPacket.body_within : Decoder.Within decode.body := by
  apply within_needU8
  exact fun windowId => .pure _

theorem StopSoundPacket.body_within : Decoder.Within decode.body := by
  apply within_needU8
  intro flags
  have hsound (source : Option Int32) : Decoder.Within (do
      let sound ← if flags &&& 2 ≠ 0 then
          some <$> readString "Unexpected EOF reading sound in StopSound" "Invalid UTF-8 in sound"
        else pure none
      pure (⟨flags, source, sound⟩ : StopSoundPacket)) := by
    apply Decoder.Within.ite
    · exact fun _ => (readString_within _ _).map.bind fun _ => .pure _
    · exact fun _ => (Decoder.Within.pure none).bind fun _ => .pure _
  apply Decoder.Within.ite
  · exact fun _ => decodeVarint_within.map.bind hsound
  · exact fun _ => (Decoder.Within.pure none).bind hsound

theorem BossBarPacket.body_within : Decoder.Within decode.body := by
  apply within_need
  intro bs hlen
  apply (withinAt_getUuid hlen).andThen
  intro uuid
  exact decodeVarint_within.bind fun _ => .pure _

theorem ScoreboardObjectivePacket.body_within : Decoder.Within decode.body := by
  apply (readString_within _ _).bind
  intro name
  apply within_needU8
  exact fun action => .pure _

theorem DisplayObjectivePacket.decode_returns (packet : RawPacket) (v : Int) : (decode packet v).Returns := by
  apply returns_behind decodeVarint_within
  rintro ⟨position, cursor⟩
  exact (readString_within _ _).returns (fun _ => .ok _) cursor

/-! ## Every decoder -/

/-- Whatever the bytes, each decoder ends with a packet or an error, and the
loop over the tags ends where its bound says. -/
structure DecodersReturn (readText : String → Except String (Option String)) (v : Int) : Prop where
  handshake : ∀ packet, (HandshakePacket.decode packet).Returns
  loginStart : ∀ packet, (LoginStartPacket.decode packet).Returns
  encryptionRequest : ∀ packet, (EncryptionRequestPacket.decode packet).Returns
  encryptionResponse : ∀ packet, (EncryptionResponsePacket.decode packet).Returns
  loginSuccess : ∀ packet, (LoginSuccessPacket.decodeWithVersion packet v).Returns
  loginSuccessFrame : ∀ frame, (LoginSuccessPacket.decodeFrameWithVersion frame v).Returns
  loginPluginRequest : ∀ packet, (LoginPluginRequestPacket.decode packet).Returns
  loginPluginResponse : ∀ packet, (LoginPluginResponsePacket.decode packet).Returns
  registryData : ∀ packet, (RegistryDataPacket.decode packet).Returns
  registryEntries : ∀ p : RegistryDataPacket, p.tryDecodeEntries.Returns
  chatCommand : ∀ packet, (ServerboundChatCommand.decodeWithVersion packet v).Returns
  tabCompleteRequest : ∀ packet, (TabCompleteRequestPacket.decode packet v).Returns
  tabCompleteResponse : ∀ packet, (TabCompleteResponsePacket.decode packet v).Returns
  respawn : ∀ packet, (RespawnPacket.decodeWithVersion packet v).Returns
  systemChat : ∀ packet, (SystemChatMessagePacket.decodeWithVersion readText packet v).Returns
  systemChatLoop : ∀ message bs, Decoder.Loop SystemChatMessagePacket.turn message bs
    (SystemChatMessagePacket.tags bs.length message bs)
  closeContainer : ∀ packet, (CloseContainerPacket.decode packet v).Returns
  stopSound : ∀ packet, (StopSoundPacket.decode packet v).Returns
  bossBar : ∀ packet, (BossBarPacket.decode packet v).Returns
  scoreboardObjective : ∀ packet, (ScoreboardObjectivePacket.decode packet v).Returns
  displayObjective : ∀ packet, (DisplayObjectivePacket.decode packet v).Returns
  protectedChannel : ∀ packet, protectedChannelCheck packet = .ok (isProtectedPluginChannel packet)

theorem decoders_return (readText : String → Except String (Option String)) (v : Int) : DecodersReturn readText v where
  handshake := fun _ => returns_behind HandshakePacket.body_within fun _ => .ok _
  loginStart := fun _ => returns_behind LoginStartPacket.body_within fun _ => .ok _
  encryptionRequest := fun _ => returns_behind EncryptionRequestPacket.body_within fun _ => .ok _
  encryptionResponse := fun _ => returns_behind EncryptionResponsePacket.body_within fun _ => .ok _
  loginSuccess := fun packet => LoginSuccessPacket.decodeWithVersion_returns packet v
  loginSuccessFrame := by
    intro frame
    apply LoginSuccessPacket.frame_within.returns
    exact fun r => LoginSuccessPacket.decodeWithVersion_returns r.1 v
  loginPluginRequest := fun _ => returns_behind LoginPluginRequestPacket.body_within fun _ => .ok _
  loginPluginResponse := fun _ => returns_behind LoginPluginResponsePacket.body_within fun _ => .ok _
  registryData := fun _ => returns_behind (readString_within _ _) fun _ => .ok _
  registryEntries := RegistryDataPacket.tryDecodeEntries_returns
  chatCommand := fun _ => returns_behind (readString_within _ _) fun _ => .ok _
  tabCompleteRequest := fun packet => TabCompleteRequestPacket.decode_returns packet v
  tabCompleteResponse := fun _ => returns_behind TabCompleteResponsePacket.body_within fun _ => .ok _
  respawn := fun packet => RespawnPacket.decodeWithVersion_returns packet v
  systemChat := fun packet => SystemChatMessagePacket.decodeWithVersion_returns readText packet v
  systemChatLoop := fun message bs => SystemChatMessagePacket.tags_loop bs.length message bs (Nat.le_refl _)
  closeContainer := fun _ => returns_behind CloseContainerPacket.body_within fun _ => .ok _
  stopSound := fun _ => returns_behind StopSoundPacket.body_within fun _ => .ok _
  bossBar := fun _ => returns_behind BossBarPacket.body_within fun _ => .ok _
  scoreboardObjective := fun _ => returns_behind ScoreboardObjectivePacket.body_within fun _ => .ok _
  displayObjective := fun packet => DisplayObjectivePacket.decode_returns packet v
  protectedChannel := protectedChannelCheck_ok

end FrameMC

import FrameMC.Protocol.Forwarding
import FrameMC.Protocol.LoginRoundTrip

/-!
# What a Velocity payload says

The forwarding payload is read back, to its last byte, by a reader of the
documented layout, whatever its texts contain: so no two players share one, and
the signature in front of it is of one player only.
-/

namespace FrameMC

open ByteStream

/-- Every length written into the payload is below `2 ^ 31`. -/
structure PayloadFits (profile : PlayerProfile) (clientIp : String) : Prop where
  clientIp : StringFits clientIp
  name : StringFits profile.name
  count : profile.properties.length < 2 ^ 31
  properties : ∀ prop ∈ profile.properties, PropertyFits prop

/-- A reader of the documented layout: version, remote address, sixteen bytes
of UUID, user name, and the counted properties with their signature flags. -/
def readForwardingPayload : Decoder ProxyError (String × PlayerProfile) := do
  let version ← decodeVarint
  if version ≠ velocityForwardingVersion then Decoder.fail (.io .invalidData "unsupported forwarding version")
  else do
    let clientIp ← readString "EOF reading remote address" "invalid UTF-8 in remote address"
    need 16 "EOF reading UUID"
    let id ← getUuid
    let name ← readString "EOF reading user name" "invalid UTF-8 in user name"
    let count ← decodeVarint
    if count < 0 then Decoder.fail (.io .invalidData "negative property count")
    else do
      let properties ← LoginSuccessPacket.readProperties (asUsize count)
      pure (clientIp, ⟨id, name, properties⟩)

/-- The reader takes the payload and leaves what comes after it. -/
theorem readForwardingPayload_create {profile : PlayerProfile} {clientIp : String} (h : PayloadFits profile clientIp)
    (rest : List UInt8) :
    readForwardingPayload (createVelocityForwardingPayload profile clientIp ++ rest) =
      .ok ((clientIp, profile), rest) := by
  obtain ⟨id, name, properties⟩ := profile
  have hcount : ¬ asI32 properties.length < 0 := Int32.not_lt.mpr (asI32_nonneg h.count)
  have hsize : asUsize (asI32 properties.length) = properties.length := asUsize_asI32 h.count
  have huuid (bs : List UInt8) : ¬ (id.val ++ bs).length < 16 := by
    rw [List.length_append, id.property]
    omega
  have hproperties := LoginSuccessPacket.readProperties_putProperties_iff.mpr
    (⟨h.properties, rfl⟩ : (∀ prop ∈ properties, PropertyFits prop) ∧ rest = rest)
  rw [createVelocityForwardingPayload, readForwardingPayload]
  simp only [List.append_assoc, Decoder.bind_apply, decodeVarint_encodeVarint, Outcome.ok_bind, Decoder.ite_apply,
    ne_eq, not_true_eq_false, if_false, readString_putString _ _ h.clientIp, need_apply, huuid, getUuid_append,
    readString_putString _ _ h.name, hcount, hsize, hproperties, Decoder.pure_apply]

/-- A forwarding payload is read back as the address and the profile it was
made of, two equal ones were made of the same, and the data sent is the
signature of the payload and the payload, wherever there is a signature. -/
theorem velocity_payload_identifies {profile profile' : PlayerProfile} {clientIp clientIp' : String}
    (h : PayloadFits profile clientIp) (h' : PayloadFits profile' clientIp') :
    readForwardingPayload (createVelocityForwardingPayload profile clientIp) = .ok ((clientIp, profile), []) ∧
      (createVelocityForwardingPayload profile clientIp = createVelocityForwardingPayload profile' clientIp' →
        clientIp = clientIp' ∧ profile.id = profile'.id ∧ profile.name = profile'.name ∧
          profile.properties = profile'.properties) ∧
      (∀ (lib : Library) (secret : String) (data : List UInt8),
        createVelocityResponseData lib secret profile clientIp = .ok data →
          ∃ signature, lib.hmacSha256 (asBytes secret) (createVelocityForwardingPayload profile clientIp) =
              .ok signature ∧ data.take 32 = signature.val ∧
            readForwardingPayload (data.drop 32) = .ok ((clientIp, profile), [])) ∧
      ∀ (lib : Library) (secret : String) (signature : { bytes : List UInt8 // bytes.length = 32 }),
        lib.hmacSha256 (asBytes secret) (createVelocityForwardingPayload profile clientIp) = .ok signature →
          createVelocityResponseData lib secret profile clientIp =
            .ok (signature.val ++ createVelocityForwardingPayload profile clientIp) := by
  have hread {profile : PlayerProfile} {clientIp : String} (h : PayloadFits profile clientIp) :
      readForwardingPayload (createVelocityForwardingPayload profile clientIp) = .ok ((clientIp, profile), []) := by
    have := readForwardingPayload_create h []
    rwa [List.append_nil] at this
  refine ⟨hread h, ?_, ?_, ?_⟩
  · intro e
    have := hread h
    rw [e, hread h'] at this
    obtain ⟨rfl, rfl⟩ : clientIp' = clientIp ∧ profile' = profile := by simpa using this
    exact ⟨rfl, rfl, rfl, rfl⟩
  · intro lib secret data hdata
    obtain ⟨sig, hsig, hdata⟩ := Outcome.bind_eq_ok.mp hdata
    obtain rfl : sig ++ createVelocityForwardingPayload profile clientIp = data := Outcome.ok.inj hdata
    rw [calculateVelocityHmac] at hsig
    split at hsig
    · next signature hmac =>
      obtain rfl : signature.val = sig := Outcome.ok.inj hsig
      refine ⟨signature, hmac, List.take_left' signature.property, ?_⟩
      rw [List.drop_left' signature.property]
      exact hread h
    · cases hsig
  · intro lib secret signature hmac
    rw [createVelocityResponseData, calculateVelocityHmac, hmac]
    rfl

/-- A signed property, and the same one unsigned. -/
theorem velocity_payload_identifies_signature :
    readForwardingPayload
        (createVelocityForwardingPayload ⟨.nil, "Steve", [⟨"textures", "e30=", some "c2ln"⟩]⟩ "10.0.0.42") =
      .ok (("10.0.0.42", ⟨.nil, "Steve", [⟨"textures", "e30=", some "c2ln"⟩]⟩), []) ∧
    createVelocityForwardingPayload ⟨.nil, "Steve", [⟨"textures", "e30=", some "c2ln"⟩]⟩ "10.0.0.42" ≠
      createVelocityForwardingPayload ⟨.nil, "Steve", [⟨"textures", "e30=", none⟩]⟩ "10.0.0.42" := by
  have hsigned : PayloadFits ⟨.nil, "Steve", [⟨"textures", "e30=", some "c2ln"⟩]⟩ "10.0.0.42" := by
    refine ⟨by decide, by decide, by decide, ?_⟩
    intro prop hprop
    rw [List.mem_singleton.mp hprop]
    refine ⟨by decide, by decide, ?_⟩
    intro signature hsignature
    rw [← Option.some.inj hsignature]
    decide
  have hunsigned : PayloadFits ⟨.nil, "Steve", [⟨"textures", "e30=", none⟩]⟩ "10.0.0.42" := by
    refine ⟨by decide, by decide, by decide, ?_⟩
    intro prop hprop
    rw [List.mem_singleton.mp hprop]
    exact ⟨by decide, by decide, nofun⟩
  obtain ⟨hread, hsame, -⟩ := velocity_payload_identifies hsigned hunsigned
  refine ⟨hread, ?_⟩
  intro e
  exact absurd (hsame e).2.2.2 (by decide)

end FrameMC

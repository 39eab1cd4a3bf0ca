import FrameMC.Protocol.Channel
import FrameMC.Protocol.Login
import Mathlib.Algebra.Order.BigOperators.Group.List
import Mathlib.Algebra.Order.Group.Nat

/-!
# LoginSuccess, written and read back

The encoder writes the property array from protocol 707 on, the decoder reads
it from 759 on and refuses what is left over. Between the two no packet comes
back, not even one without properties: its count byte is left over. Outside
that gap a packet comes back, payload and frame, exactly when the lengths it is
written with are those of its parts (`loginSuccess_round_trip_iff`).
-/

namespace FrameMC

open ByteStream

/-! ## Sizes -/

/-- A string with its length. -/
def stringSize (s : String) : Nat := varintSize (asI32 (asBytes s).length) + (asBytes s).length

structure PropertyFits (prop : ProfileProperty) : Prop where
  name : StringFits prop.name
  value : StringFits prop.value
  signature : ∀ signature, prop.signature = some signature → StringFits signature

def propertySize (prop : ProfileProperty) : Nat :=
  stringSize prop.name + stringSize prop.value + 1 + prop.signature.elim 0 stringSize

theorem putString_length (s : String) : (putString s).length = stringSize s := by
  rw [putString, List.length_append, stringSize, varintSize_eq]

theorem putProperty_length (prop : ProfileProperty) : (putProperty prop).length = propertySize prop := by
  obtain ⟨name, value, signature⟩ := prop
  cases signature with
  | none => simp only [putProperty, propertySize, List.length_append, putString_length, List.length_cons,
      List.length_nil, Option.elim_none]
  | some signature =>
    simp only [putProperty, propertySize, List.length_append, putString_length, List.length_cons, Option.elim_some]
    omega

namespace LoginSuccessPacket

/-- Id and payload of the packet, as its frame's length counts them. -/
def frameSize (p : LoginSuccessPacket) (protocolVersion : Int) : Nat :=
  1 + if protocolVersion ≥ 707 then
    16 + stringSize p.username + varintSize (asI32 p.properties.length) + (p.properties.map propertySize).sum +
      if protocolVersion ≥ 776 then 16 else 0
  else 37 + stringSize p.username

/-- Every length that is read back is the one that was meant. The frame's
length is only a lower bound: cast to `i32` and back it may not grow. -/
structure Fits (p : LoginSuccessPacket) (protocolVersion : Int) : Prop where
  username : StringFits p.username
  count : protocolVersion ≥ 759 → p.properties.length < 2 ^ 31
  properties : protocolVersion ≥ 759 → ∀ prop ∈ p.properties, PropertyFits prop
  frame : asUsize (asI32 (p.frameSize protocolVersion)) ≤ p.frameSize protocolVersion

/-- What the format of a version carries of a packet. -/
def carried (p : LoginSuccessPacket) (protocolVersion : Int) : LoginSuccessPacket :=
  { p with
    properties := if protocolVersion ≥ 707 then p.properties else []
    sessionId := if protocolVersion ≥ 776 then p.sessionId else none }

theorem hyphenated_fits (uuid : Uuid) : (asBytes uuid.hyphenated).length = 36 := by
  rw [asBytes_of_ascii uuid.hyphenated_ascii, List.length_map, uuid.hyphenated_length]

theorem frameSize_eq (newV4 : Uuid) (p : LoginSuccessPacket) (v : Int) :
    varintSize (encodeWithVersion newV4 p v).id + (encodeWithVersion newV4 p v).payload.length = p.frameSize v := by
  have hid : varintSize 0x02 = 1 := by decide
  rw [encodeWithVersion, frameSize]
  split_ifs with hraw hsession
  · have hflat : (p.properties.flatMap putProperty).length = (p.properties.map propertySize).sum := by
      simp only [List.length_flatMap, putProperty_length]
    simp only [hid, List.length_append, putString_length, hflat, varintSize_eq, (p.sessionId.getD newV4).property,
      p.uuid.property]
  · have hflat : (p.properties.flatMap putProperty).length = (p.properties.map propertySize).sum := by
      simp only [List.length_flatMap, putProperty_length]
    simp only [hid, List.length_append, putString_length, hflat, varintSize_eq, p.uuid.property, List.length_nil]
  · have huuid : stringSize p.uuid.hyphenated = 37 := by
      rw [stringSize, hyphenated_fits]
      decide
    simp only [hid, List.length_append, putString_length, huuid]

/-! ## Properties -/

/-- One turn of the property loop. -/
def readProperty : Decoder ProxyError ProfileProperty := do
  let name ← readString "EOF reading property name" "invalid UTF-8 in property name"
  let value ← readString "EOF reading property value" "invalid UTF-8 in property value"
  need 1 "EOF reading property is_signed"
  let isSigned ← Decoder.getU8
  let signature ← if isSigned ≠ 0 then
      some <$> readString "EOF reading property signature" "invalid UTF-8 in property signature"
    else pure none
  pure ⟨name, value, signature⟩

theorem readProperties_succ (n : Nat) (bs : List UInt8) :
    readProperties (n + 1) bs =
      (readProperty bs >>= fun r => readProperties n r.2 >>= fun r' => .ok (r.1 :: r'.1, r'.2)) := by
  have hite (c : Prop) [Decidable c] (x y : Outcome ProxyError (ProfileProperty × List UInt8))
      (f : ProfileProperty × List UInt8 → Outcome ProxyError (List ProfileProperty × List UInt8)) :
      ((if c then x else y) >>= f) = if c then x >>= f else y >>= f := apply_ite (· >>= f) c x y
  simp only [readProperties, readProperty, Decoder.bind_apply, Decoder.ite_apply, Decoder.map_apply,
    Decoder.pure_apply, Outcome.bind_assoc, Outcome.ok_bind, hite]

/-- What an accepted property was read from. -/
theorem readProperty_ok {prop : ProfileProperty} {bs rest : List UInt8} (h : readProperty bs = .ok (prop, rest)) :
    ∃ buf isSigned buf',
      readString "EOF reading property name" "invalid UTF-8 in property name" bs = .ok (prop.name, buf) ∧
      readString "EOF reading property value" "invalid UTF-8 in property value" buf = .ok (prop.value, isSigned :: buf') ∧
      if isSigned ≠ 0 then ∃ signature, prop.signature = some signature ∧
        readString "EOF reading property signature" "invalid UTF-8 in property signature" buf' = .ok (signature, rest)
      else prop.signature = none ∧ buf' = rest := by
  rw [readProperty, Decoder.bind_apply, Outcome.bind_eq_ok] at h
  obtain ⟨⟨name, buf⟩, hname, h⟩ := h
  rw [Decoder.bind_apply, Outcome.bind_eq_ok] at h
  obtain ⟨⟨value, buf'⟩, hvalue, h⟩ := h
  rw [Decoder.bind_apply, Outcome.bind_eq_ok] at h
  obtain ⟨⟨u, buf''⟩, hneed, h⟩ := h
  rw [need_apply] at hneed
  split_ifs at hneed
  obtain rfl : buf' = buf'' := by simpa using hneed
  rw [Decoder.bind_apply, Outcome.bind_eq_ok] at h
  obtain ⟨⟨isSigned, buf''⟩, hflag, h⟩ := h
  obtain rfl : buf' = isSigned :: buf'' := by
    cases buf' with
    | nil => simp at hflag
    | cons b bs => simpa using hflag
  dsimp only at h
  rw [Decoder.ite_apply] at h
  refine ⟨buf, isSigned, buf'', ?_⟩
  split_ifs at h with hsigned
  · simp only [Decoder.bind_apply, Decoder.map_apply, Outcome.bind_assoc, Outcome.ok_bind] at h
    obtain ⟨⟨signature, buf'⟩, hsignature, h⟩ := Outcome.bind_eq_ok.mp h
    simp only [Decoder.pure_apply, Outcome.ok.injEq, Prod.mk.injEq] at h
    obtain ⟨rfl, rfl⟩ := h
    exact ⟨hname, hvalue, by rw [if_pos hsigned]; exact ⟨signature, rfl, hsignature⟩⟩
  · simp only [Decoder.bind_apply, Decoder.pure_apply, Outcome.ok_bind, Outcome.ok.injEq, Prod.mk.injEq] at h
    obtain ⟨rfl, rfl⟩ := h
    exact ⟨hname, hvalue, by rw [if_neg hsigned]; exact ⟨rfl, rfl⟩⟩

/-- A property written and read back. -/
theorem readProperty_putProperty_iff {prop : ProfileProperty} {rest rest' : List UInt8} :
    readProperty (putProperty prop ++ rest) = .ok (prop, rest') ↔ PropertyFits prop ∧ rest' = rest := by
  obtain ⟨name, value, signature⟩ := prop
  constructor
  · intro h
    obtain ⟨buf, isSigned, buf', hname, hvalue, hsigned⟩ := readProperty_ok h
    simp only [putProperty, List.append_assoc] at hname
    obtain ⟨hfname, rfl⟩ := readString_putString_iff.mp hname
    obtain ⟨hfvalue, hflag⟩ := readString_putString_iff.mp hvalue
    cases signature with
    | none =>
      obtain ⟨rfl, rfl⟩ : isSigned = 0 ∧ buf' = rest := by simpa using hflag
      rw [if_neg (by simp)] at hsigned
      exact ⟨⟨hfname, hfvalue, by simp⟩, hsigned.2.symm⟩
    | some signature =>
      obtain ⟨rfl, rfl⟩ : isSigned = 1 ∧ buf' = putString signature ++ rest := by simpa using hflag
      rw [if_pos (by decide)] at hsigned
      obtain ⟨signature', hsome, hsignature⟩ := hsigned
      obtain rfl : signature = signature' := Option.some.inj hsome
      obtain ⟨hfsignature, rfl⟩ := readString_putString_iff.mp hsignature
      refine ⟨⟨hfname, hfvalue, ?_⟩, rfl⟩
      intro s hs
      obtain rfl : signature = s := Option.some.inj hs
      exact hfsignature
  · rintro ⟨hfits, rfl⟩
    have hname := readString_putString "EOF reading property name" "invalid UTF-8 in property name" hfits.name
    have hvalue := readString_putString "EOF reading property value" "invalid UTF-8 in property value" hfits.value
    cases signature with
    | none =>
      simp only [readProperty, putProperty, List.append_assoc, Decoder.bind_apply, hname, hvalue, Outcome.ok_bind]
      simp [need_apply]
    | some signature =>
      have hsignature := readString_putString "EOF reading property signature" "invalid UTF-8 in property signature"
        (hfits.signature signature rfl)
      simp only [readProperty, putProperty, List.append_assoc, Decoder.bind_apply, hname, hvalue, Outcome.ok_bind]
      simp [need_apply, hsignature]

/-- The property loop over what the encoder wrote. -/
theorem readProperties_putProperties_iff {props : List ProfileProperty} {rest rest' : List UInt8} :
    readProperties props.length (props.flatMap putProperty ++ rest) = .ok (props, rest') ↔
      (∀ prop ∈ props, PropertyFits prop) ∧ rest' = rest := by
  induction props with
  | nil => simp [readProperties, eq_comm]
  | cons prop props ih =>
    rw [List.length_cons, readProperties_succ, List.flatMap_cons, List.append_assoc, List.forall_mem_cons]
    constructor
    · intro h
      obtain ⟨⟨prop', buf⟩, hprop, h⟩ := Outcome.bind_eq_ok.mp h
      obtain ⟨⟨props', buf'⟩, hprops, h⟩ := Outcome.bind_eq_ok.mp h
      simp only [Outcome.ok.injEq, Prod.mk.injEq, List.cons.injEq] at h
      obtain ⟨⟨rfl, rfl⟩, rfl⟩ := h
      obtain ⟨hfits, rfl⟩ := readProperty_putProperty_iff.mp hprop
      obtain ⟨hall, rfl⟩ := ih.mp hprops
      exact ⟨⟨hfits, hall⟩, rfl⟩
    · rintro ⟨⟨hfits, hall⟩, rfl⟩
      rw [readProperty_putProperty_iff.mpr ⟨hfits, rfl⟩, Outcome.ok_bind, ih.mpr ⟨hall, rfl⟩, Outcome.ok_bind]

/-- The loop reads as many properties as it was told. -/
theorem readProperties_length {n : Nat} {bs rest : List UInt8} {props : List ProfileProperty}
    (h : readProperties n bs = .ok (props, rest)) : props.length = n := by
  induction n generalizing bs rest props with
  | zero =>
    simp only [readProperties, Decoder.pure_apply, Outcome.ok.injEq, Prod.mk.injEq] at h
    rw [← h.1, List.length_nil]
  | succ n ih =>
    rw [readProperties_succ] at h
    obtain ⟨⟨prop, buf⟩, -, h⟩ := Outcome.bind_eq_ok.mp h
    obtain ⟨⟨props', buf'⟩, hprops, h⟩ := Outcome.bind_eq_ok.mp h
    simp only [Outcome.ok.injEq, Prod.mk.injEq] at h
    rw [← h.1, List.length_cons, ih hprops]

/-! ## The packet -/

/-- The UUID as the format of a version has it. -/
def uuidField (uuid : Uuid) (v : Int) : List UInt8 := if v ≥ 707 then uuid.val else putString uuid.hyphenated

theorem readUuid_uuidField (uuid : Uuid) (v : Int) (rest : List UInt8) :
    decodeWithVersion.readUuid v (uuidField uuid v ++ rest) = .ok (uuid, rest) := by
  rw [decodeWithVersion.readUuid, uuidField]
  split_ifs with hraw
  · have hlen : ¬ (uuid.val ++ rest).length < 16 := by
      rw [List.length_append, uuid.property]
      omega
    rw [Decoder.bind_apply, need_apply, if_neg hlen, Outcome.ok_bind, getUuid_append]
  · have hfits : (asBytes uuid.hyphenated).length < 2 ^ 31 := by
      rw [hyphenated_fits]
      decide
    rw [Decoder.bind_apply, readString_putString _ _ hfits, Outcome.ok_bind, Uuid.parseStr_hyphenated,
      Outcome.ofOption_some, Decoder.lift_ok]

/-- The property array the encoder writes from 707 on, and the session id behind it. -/
def afterUsername (newV4 : Uuid) (p : LoginSuccessPacket) (v : Int) : List UInt8 :=
  if v ≥ 707 then
    encodeVarint (asI32 p.properties.length) ++ (p.properties.flatMap putProperty ++
      if v ≥ 776 then (p.sessionId.getD newV4).val else [])
  else []

theorem encodeWithVersion_eq (newV4 : Uuid) (p : LoginSuccessPacket) (v : Int) :
    encodeWithVersion newV4 p v =
      ⟨0x02, uuidField p.uuid v ++ (putString p.username ++ afterUsername newV4 p v)⟩ := by
  rw [encodeWithVersion, uuidField, afterUsername]
  split_ifs <;> simp only [List.append_assoc, List.append_nil]

/-- After the user name come the properties and the session id, and nothing else. -/
theorem decodeWithVersion_uuidField_iff {p q : LoginSuccessPacket} {v : Int} {more : List UInt8}
    (huuid : q.uuid = p.uuid) (hname : q.username = p.username) :
    decodeWithVersion ⟨0x02, uuidField p.uuid v ++ (putString p.username ++ more)⟩ v = .ok q ↔
      StringFits p.username ∧ ∃ buf, decodeWithVersion.properties v more = .ok (q.properties, buf) ∧
        decodeWithVersion.readSessionId v buf = .ok (q.sessionId, []) := by
  obtain ⟨uuid, username, properties, sessionId⟩ := q
  obtain rfl : uuid = p.uuid := huuid
  obtain rfl : username = p.username := hname
  rw [decodeWithVersion, if_neg (by simp), decodeWithVersion.body]
  simp only [Decoder.bind_apply, readUuid_uuidField, Outcome.ok_bind]
  constructor
  · intro h
    obtain ⟨⟨q, rest⟩, h, hq⟩ := Outcome.bind_eq_ok.mp h
    obtain ⟨⟨username, buf⟩, husername, h⟩ := Outcome.bind_eq_ok.mp h
    obtain ⟨⟨properties', buf'⟩, hproperties, h⟩ := Outcome.bind_eq_ok.mp h
    obtain ⟨⟨sessionId', buf''⟩, hsession, h⟩ := Outcome.bind_eq_ok.mp h
    simp only [Decoder.remaining_apply, Outcome.ok_bind, Decoder.ite_apply, Decoder.fail_apply, Decoder.pure_apply] at h
    split_ifs at h with hleft
    simp only [Outcome.ok.injEq, Prod.mk.injEq] at h hq
    obtain ⟨rfl, rfl⟩ := h
    simp only [LoginSuccessPacket.mk.injEq, true_and] at hq
    obtain ⟨rfl, rfl, rfl⟩ := hq
    obtain ⟨hfits, rfl⟩ := readString_putString_iff.mp husername
    obtain rfl : buf'' = [] := List.length_eq_zero_iff.mp (by omega)
    exact ⟨hfits, buf', hproperties, hsession⟩
  · rintro ⟨hfits, buf, hproperties, hsession⟩
    rw [readString_putString _ _ hfits]
    simp [hproperties, hsession]

/-- The property array, read from 759 on. -/
theorem properties_putProperties_iff {v : Int} (hv : v ≥ 759) {props : List ProfileProperty} {rest rest' : List UInt8} :
    decodeWithVersion.properties v (encodeVarint (asI32 props.length) ++ (props.flatMap putProperty ++ rest)) =
        .ok (props, rest') ↔
      (props.length < 2 ^ 31 ∧ ∀ prop ∈ props, PropertyFits prop) ∧ rest' = rest := by
  have hpos := encodeVarint_length_pos (asI32 props.length)
  rw [decodeWithVersion.properties, Decoder.bind_apply, Decoder.remaining_apply, Outcome.ok_bind, Decoder.ite_apply,
    if_pos ⟨hv, by rw [List.length_append]; omega⟩, Decoder.bind_apply, decodeVarint_encodeVarint, Outcome.ok_bind,
    Decoder.ite_apply, Decoder.fail_apply]
  constructor
  · intro h
    split_ifs at h with hneg
    have hlength : props.length = asUsize (asI32 props.length) := readProperties_length h
    have hlt : props.length < 2 ^ 31 := by
      rw [hlength]
      exact asUsize_lt (Int32.not_lt.mp hneg)
    rw [← hlength] at h
    obtain ⟨hall, rfl⟩ := readProperties_putProperties_iff.mp h
    exact ⟨⟨hlt, hall⟩, rfl⟩
  · rintro ⟨⟨hlt, hall⟩, rfl⟩
    rw [if_neg (Int32.not_lt.mpr (asI32_nonneg hlt)), asUsize_asI32 hlt]
    exact readProperties_putProperties_iff.mpr ⟨hall, rfl⟩

/-- The payload comes back outside the gap between the two cut-offs, if its lengths do. -/
theorem decode_encode_iff {newV4 : Uuid} {p : LoginSuccessPacket} {v : Int} (hsession : v ≥ 776 → p.sessionId.isSome) :
    decodeWithVersion (encodeWithVersion newV4 p v) v = .ok (p.carried v) ↔
      (v < 707 ∨ v ≥ 759) ∧ StringFits p.username ∧
        (v ≥ 759 → p.properties.length < 2 ^ 31 ∧ ∀ prop ∈ p.properties, PropertyFits prop) := by
  rw [encodeWithVersion_eq, @decodeWithVersion_uuidField_iff p (p.carried v) v _ rfl rfl, afterUsername, carried]
  rcases (by omega : v < 707 ∨ (707 ≤ v ∧ v < 759) ∨ (759 ≤ v ∧ v < 776) ∨ 776 ≤ v) with
    hv | ⟨hlow, hhigh⟩ | ⟨hlow, hhigh⟩ | hv
  · -- nothing follows the name, and nothing is looked for
    have h759 : ¬ v ≥ 759 := by omega
    have h776 : ¬ v ≥ 776 := by omega
    simp [decodeWithVersion.properties, decodeWithVersion.readSessionId, hv, h759, h776, show ¬ v ≥ 707 by omega]
  · -- the count is there, and is not looked for
    have h759 : ¬ v ≥ 759 := by omega
    have h776 : ¬ v ≥ 776 := by omega
    have hpos := encodeVarint_length_pos (asI32 p.properties.length)
    constructor
    · rintro ⟨-, buf, hproperties, hend⟩
      simp only [decodeWithVersion.properties, if_pos hlow, h759, h776, false_and, if_false, Decoder.bind_apply,
        Decoder.remaining_apply, Outcome.ok_bind, Decoder.pure_apply, Outcome.ok.injEq, Prod.mk.injEq] at hproperties
      simp only [decodeWithVersion.readSessionId, h776, if_false, Decoder.pure_apply, Outcome.ok.injEq,
        Prod.mk.injEq] at hend
      have hempty := congrArg List.length (hproperties.2.trans hend.2)
      rw [List.length_append, List.length_nil] at hempty
      omega
    · rintro ⟨hgap, -⟩
      omega
  · have h776 : ¬ v ≥ 776 := by omega
    simp only [if_pos (show v ≥ 707 by omega), if_neg h776, properties_putProperties_iff hlow]
    simp [decodeWithVersion.readSessionId, h776, hlow]
  · obtain ⟨sid, hsid⟩ := Option.isSome_iff_exists.mp (hsession hv)
    have hread : decodeWithVersion.readSessionId v sid.val = .ok (some sid, []) := by
      have hlen : ¬ sid.val.length < 16 := by
        rw [sid.property]
        omega
      have hget := getUuid_append sid []
      rw [List.append_nil] at hget
      rw [decodeWithVersion.readSessionId, if_pos hv, Decoder.bind_apply, need_apply, if_neg hlen, Outcome.ok_bind,
        Decoder.map_apply, hget, Outcome.ok_bind]
    have h759 : v ≥ 759 := by omega
    simp only [if_pos (show v ≥ 707 by omega), if_pos hv, properties_putProperties_iff h759, hsid, Option.getD_some]
    constructor
    · rintro ⟨hname, buf, ⟨hall, rfl⟩, -⟩
      exact ⟨Or.inr h759, hname, fun _ => hall⟩
    · rintro ⟨-, hname, hall⟩
      exact ⟨hname, _, ⟨hall h759, rfl⟩, hread⟩

/-! ## The frame -/

/-- A frame comes back as its packet does, unless its length grew in the casts. -/
theorem decodeFrame_encodeFramePacket {packet : RawPacket} (hid : packet.id = 0x02) (v : Int) :
    decodeFrameWithVersion (encodeFramePacket packet) v =
      let n := varintSize packet.id + packet.payload.length
      if n < asUsize (asI32 n) then .err (.io .unexpectedEof "unexpected EOF reading framed packet")
      else decodeWithVersion packet v := by
  obtain ⟨id, payload⟩ := packet
  obtain rfl : id = 0x02 := hid
  have hsize : (encodeVarint 0x02 ++ payload).length = varintSize 0x02 + payload.length := by
    rw [List.length_append, varintSize_eq]
  rw [decodeFrameWithVersion, encodeFramePacket, decodeFrameWithVersion.body, Decoder.bind_apply, List.append_assoc,
    decodeVarint_encodeVarint, Outcome.ok_bind, Decoder.bind_apply, need_apply, hsize]
  dsimp only
  split_ifs
  · rfl
  · simp

/-- A LoginSuccess and its frame come back, but for what the format does not
carry, exactly outside the gap from 707 to 758 and with lengths that fit. -/
theorem loginSuccess_round_trip_iff (newV4 : Uuid) (p : LoginSuccessPacket) (v : Int) (hsession : v ≥ 776 → p.sessionId.isSome) :
    (decodeWithVersion (encodeWithVersion newV4 p v) v = .ok (p.carried v) ∧
      decodeFrameWithVersion (encodeFrameWithVersion newV4 p v) v = .ok (p.carried v)) ↔
        (v < 707 ∨ v ≥ 759) ∧ p.Fits v := by
  have hid : (encodeWithVersion newV4 p v).id = 0x02 := by
    rw [encodeWithVersion_eq]
  rw [encodeFrameWithVersion, decodeFrame_encodeFramePacket hid, frameSize_eq, decode_encode_iff hsession]
  dsimp only
  constructor
  · rintro ⟨⟨hgap, hname, hall⟩, hframe⟩
    split_ifs at hframe with hgrown
    exact ⟨hgap, hname, fun hv => (hall hv).1, fun hv => (hall hv).2, Nat.not_lt.mp hgrown⟩
  · rintro ⟨hgap, hfits⟩
    have hparts : (v < 707 ∨ v ≥ 759) ∧ StringFits p.username ∧
        (v ≥ 759 → p.properties.length < 2 ^ 31 ∧ ∀ prop ∈ p.properties, PropertyFits prop) :=
      ⟨hgap, hfits.username, fun hv => ⟨hfits.count hv, hfits.properties hv⟩⟩
    refine ⟨hparts, ?_⟩
    rw [if_neg (Nat.not_lt.mpr hfits.frame)]
    exact (decode_encode_iff hsession).mpr hparts

/-- A frame below `2 ^ 31` bytes has no part that does not fit. -/
theorem fits_of_frameSize_lt {p : LoginSuccessPacket} {v : Int} (h : p.frameSize v < 2 ^ 31) : p.Fits v := by
  have hframe := asUsize_asI32 h
  have hname : StringFits p.username := by
    rw [frameSize, stringSize] at h
    rw [StringFits]
    split_ifs at h <;> omega
  have hsum (hv : v ≥ 759) : (p.properties.map propertySize).sum < 2 ^ 31 := by
    rw [frameSize, if_pos (by omega)] at h
    omega
  refine ⟨hname, ?_, ?_, hframe.le⟩
  · intro hv
    have hone : ∀ size ∈ p.properties.map propertySize, 1 ≤ size := by
      intro size hmem
      obtain ⟨prop, -, rfl⟩ := List.mem_map.mp hmem
      rw [propertySize]
      omega
    have hcount := List.length_le_sum_of_one_le _ hone
    rw [List.length_map] at hcount
    exact lt_of_le_of_lt hcount (hsum hv)
  · intro hv prop hprop
    have hle := List.single_le_sum (by simp) _ (List.mem_map_of_mem (f := propertySize) hprop)
    have hsize : propertySize prop < 2 ^ 31 := lt_of_le_of_lt hle (hsum hv)
    rw [propertySize, stringSize, stringSize] at hsize
    refine ⟨?_, ?_, ?_⟩
    · rw [StringFits]
      omega
    · rw [StringFits]
      omega
    · intro signature hsome
      rw [hsome, Option.elim_some, stringSize] at hsize
      rw [StringFits]
      omega

/-- A signed property and a session id, at protocol 776. -/
theorem loginSuccess_round_trip_steve :
    decodeWithVersion (encodeWithVersion .nil ⟨.nil, "Steve", [⟨"textures", "e30=", some "c2ln"⟩], some .nil⟩ 776) 776 =
        .ok ⟨.nil, "Steve", [⟨"textures", "e30=", some "c2ln"⟩], some .nil⟩ ∧
      decodeFrameWithVersion
          (encodeFrameWithVersion .nil ⟨.nil, "Steve", [⟨"textures", "e30=", some "c2ln"⟩], some .nil⟩ 776) 776 =
        .ok ⟨.nil, "Steve", [⟨"textures", "e30=", some "c2ln"⟩], some .nil⟩ :=
  (loginSuccess_round_trip_iff .nil ⟨.nil, "Steve", [⟨"textures", "e30=", some "c2ln"⟩], some .nil⟩ 776
    (fun _ => rfl)).mpr ⟨Or.inr (by decide), fits_of_frameSize_lt (by decide)⟩

/-- At protocol 758 the count of no properties is refused as trailing data. -/
theorem loginSuccess_count_refused :
    decodeWithVersion (encodeWithVersion .nil ⟨.nil, "Steve", [], none⟩ 758) 758 =
        .err (.io .invalidData "Unexpected trailing data (1 bytes) in LoginSuccess packet") ∧
      decodeFrameWithVersion (encodeFrameWithVersion .nil ⟨.nil, "Steve", [], none⟩ 758) 758 =
        .err (.io .invalidData "Unexpected trailing data (1 bytes) in LoginSuccess packet") := by
  decide

end LoginSuccessPacket

end FrameMC

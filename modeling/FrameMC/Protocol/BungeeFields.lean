import FrameMC.Protocol.Channel
import FrameMC.Protocol.Forwarding

/-!
# The fields of a BungeeCord handshake

Legacy forwarding puts the player's address, UUID and properties into the
handshake, behind the backend's own address, with NULs in between. JSON escapes
a NUL, so no property can add a field, and the backend reads the four fields
that were meant: unless together they are too long for the length before them
(`bungee_fields_iff`).
-/

namespace FrameMC

open ByteStream

/-- What `serde_json` does with the properties of a player: it writes them, with
control characters escaped, its parser gives them back, and a text cut short is
no JSON. -/
structure SerdeProperties (lib : Library) (parse : String → Except String (List ProfileProperty))
    (properties : List ProfileProperty) (json : String) : Prop where
  serialized : lib.propertiesJson properties = .ok json
  undone : parse json = .ok properties
  escaped : ∀ c ∈ json.toList, 0x20 ≤ c.toNat
  cutShort : ∀ s rest, rest ≠ [] → asBytes json = asBytes s ++ rest → ∃ e, parse s = .error e

/-- What the backend is to make of the handshake: a login at the player's
version, and four fields. -/
structure FieldsDelivered (parse : String → Except String (List ProfileProperty)) (backend : BackendConfig)
    (profile : PlayerProfile) (clientIp : String) (v : Int32) (handshake : HandshakePacket) (digits json : String) :
    Prop where
  protocolVersion : handshake.protocolVersion = v
  serverPort : handshake.serverPort = backend.port
  nextState : handshake.nextState = .login
  split : RustStr.split handshake.serverAddress '\x00' = [backend.address, clientIp, digits, json]
  cleanHostname : handshake.cleanHostname = backend.address
  length : digits.toList.length = 32
  lowerHex : ∀ c ∈ digits.toList, c ∈ "0123456789abcdef".toList
  uuid : Uuid.parseStr digits = some profile.id
  properties : parse json = .ok profile.properties

/-- The first packet that went out on the way from one wire to the other. -/
def firstSent (before after : Wire) : Option RawPacket := (Event.delivered (before.since after)).head?

namespace Uuid

theorem simple_length (uuid : Uuid) : uuid.simple.toList.length = 32 := by
  rw [simple, String.toList_ofList, hexDigits_length, uuid.property]

theorem simple_lowerHex (uuid : Uuid) : ∀ c ∈ uuid.simple.toList, c ∈ "0123456789abcdef".toList := by
  have hdigit : ∀ i : Fin 16, Nat.digitChar i.val ∈ "0123456789abcdef".toList := by decide
  rw [simple, String.toList_ofList]
  intro c hc
  obtain ⟨b, -, hc⟩ := List.mem_flatMap.mp hc
  have hlt := b.toNat_lt
  rcases List.mem_pair.mp hc with rfl | rfl
  · exact hdigit ⟨b.toNat / 16, by omega⟩
  · exact hdigit ⟨b.toNat % 16, by omega⟩

theorem parseStr_simple (uuid : Uuid) : parseStr uuid.simple = some uuid := by
  have hlength := uuid.simple_length
  simp only [parseStr, hlength, if_true]
  rw [simple, String.toList_ofList, ofDigits_hexDigits]

end Uuid

/-! ## The address -/

/-- Four fields with NULs in between. -/
def joinFields (fields : List String) : String := String.intercalate (String.singleton '\x00') fields

theorem joinFields_four (a b c d : String) :
    joinFields [a, b, c, d] = a ++ "\x00" ++ b ++ "\x00" ++ c ++ "\x00" ++ d := by
  apply String.toList_inj.mp
  simp only [joinFields, String.toList_append, String.toList_intercalate, String.toList_singleton, List.map_cons,
    List.map_nil, List.intercalate, List.intersperse, List.flatten_cons, List.flatten_nil, List.append_nil,
    List.append_assoc]
  rfl

theorem asBytes_joinFields (a b c d : String) : asBytes (joinFields [a, b, c, d]) =
    asBytes a ++ (0 :: asBytes b ++ (0 :: asBytes c ++ (0 :: asBytes d))) := by
  have hnul : asBytes "\x00" = [0] := by decide
  simp only [joinFields_four, asBytes_append, hnul, List.append_assoc, List.cons_append, List.nil_append]

theorem fits_last {a b c d : String} (h : StringFits (joinFields [a, b, c, d])) : StringFits d := by
  rw [StringFits, asBytes_joinFields] at h
  simp only [List.length_append, List.length_cons] at h
  rw [StringFits]
  omega

/-- The fields up to the third have their length, so an address that is cut
short is cut short in the fourth. -/
theorem cut_joinFields {a b c c' d d' : String} {more : List UInt8} (hmore : more ≠ [])
    (hc : (asBytes c).length = (asBytes c').length)
    (h : asBytes (joinFields [a, b, c, d]) = asBytes (joinFields [a, b, c', d']) ++ more) :
    ∃ rest, rest ≠ [] ∧ asBytes d = asBytes d' ++ rest := by
  refine ⟨more, hmore, ?_⟩
  simp only [asBytes_joinFields, List.append_assoc, List.cons_append, List.append_cancel_left_eq,
    List.cons.injEq, true_and] at h
  exact (List.cons.inj (List.append_inj h hc).2).2

section Fields

variable {lib : Library} {parse : String → Except String (List ProfileProperty)} {backend : BackendConfig}
  {profile : PlayerProfile} {clientIp json : String}

theorem handshakeAddress_bungee (hmode : backend.forwardingMode = .legacyBungee)
    (hjson : lib.propertiesJson profile.properties = .ok json) :
    handshakeAddress lib backend profile clientIp =
      .ok (joinFields [backend.address, clientIp, profile.id.simple, json]) := by
  rw [handshakeAddress, hmode]
  dsimp only
  rw [createBungeecordHandshakeAddress, hjson]
  dsimp only
  rw [joinFields_four]

/-- Dispatching writes the handshake first. -/
theorem firstSent_dispatchForwarding {address : String} (v : Int32) {peer : Peer}
    (hmode : backend.forwardingMode = .legacyBungee)
    (haddress : handshakeAddress lib backend profile clientIp = .ok address)
    (hwritten : peer.wire.losesNext = false) :
    firstSent peer.wire (dispatchForwarding lib backend profile clientIp v peer).2.wire =
      some (HandshakePacket.encode ⟨v, address, backend.port, .login⟩) := by
  generalize hpacket : HandshakePacket.encode ⟨v, address, backend.port, .login⟩ = packet
  have hfirst := peer.wire.write_log_eq packet none .own
  rw [hwritten, if_neg Bool.false_ne_true] at hfirst
  have hrest : ∃ more, (dispatchForwarding lib backend profile clientIp v peer).2.wire.log =
      (peer.wire.write packet none .own).2.log ++ more := by
    have hnot : ¬ backend.forwardingMode = .velocityModern := by
      rw [hmode]
      exact nofun
    rw [dispatchForwarding, haddress, if_neg hnot, Effect.bind_apply]
    simp only [Talk.lift, Effect.pure_apply]
    rw [hpacket, Effect.bind_apply, Talk.write]
    rcases peer.wire.write packet none .own with ⟨_ | _, w⟩
    · exact ⟨[], (List.append_nil _).symm⟩
    · dsimp only
      rw [Effect.bind_pure_snd, Talk.write]
      exact ⟨_, w.write_log_eq _ _ _⟩
  obtain ⟨more, hrest⟩ := hrest
  rw [hfirst, List.append_assoc] at hrest
  rw [firstSent, Wire.since_of_append hrest, Event.delivered_append, Event.delivered_sent]
  rfl

/-- No field has a NUL in it: the properties' are escaped. -/
theorem fields_noNul (serde : SerdeProperties lib parse profile.properties json)
    (haddress : '\x00' ∉ backend.address.toList) (hip : '\x00' ∉ clientIp.toList) :
    ∀ s ∈ [backend.address, clientIp, profile.id.simple, json], '\x00' ∉ s.toList := by
  have hdigits : '\x00' ∉ profile.id.simple.toList := fun h => absurd (profile.id.simple_lowerHex _ h) (by decide)
  have hjson : '\x00' ∉ json.toList := fun h => absurd (serde.escaped _ h) (by decide)
  simp only [List.forall_mem_cons, List.not_mem_nil, false_implies, implies_true, and_true]
  exact ⟨haddress, hip, hdigits, hjson⟩

theorem hexDigits_bytes {digits : String} (hlength : digits.toList.length = 32)
    (hlower : ∀ c ∈ digits.toList, c ∈ "0123456789abcdef".toList) : (asBytes digits).length = 32 := by
  have hascii : ∀ c ∈ "0123456789abcdef".toList, c.toNat < 128 := ascii_of_all (by decide)
  rw [asBytes_of_ascii fun c hc => hascii c (hlower c hc), List.length_map, hlength]

/-- The fields delivered by the handshake of an address that fits. -/
theorem fields_of_fits {v : Int32} (serde : SerdeProperties lib parse profile.properties json)
    (haddress : '\x00' ∉ backend.address.toList) (hip : '\x00' ∉ clientIp.toList) :
    FieldsDelivered parse backend profile clientIp v
      ⟨v, joinFields [backend.address, clientIp, profile.id.simple, json], backend.port, .login⟩
      profile.id.simple json := by
  have hsplit : RustStr.split (joinFields [backend.address, clientIp, profile.id.simple, json]) '\x00' =
      [backend.address, clientIp, profile.id.simple, json] :=
    RustStr.split_intercalate (by simp) (fields_noNul serde haddress hip)
  refine ⟨rfl, rfl, rfl, hsplit, ?_, profile.id.simple_length, profile.id.simple_lowerHex, profile.id.parseStr_simple,
    serde.undone⟩
  rw [HandshakePacket.cleanHostname, hsplit]
  rfl

/-- Of an address that does not fit the properties are not delivered. -/
theorem fits_of_fields {v : Int32} {handshake : HandshakePacket} {digits text : String}
    (serde : SerdeProperties lib parse profile.properties json)
    (hdecode : HandshakePacket.decode (HandshakePacket.encode
      ⟨v, joinFields [backend.address, clientIp, profile.id.simple, json], backend.port, .login⟩) = .ok handshake)
    (h : FieldsDelivered parse backend profile clientIp v handshake digits text) :
    StringFits (joinFields [backend.address, clientIp, profile.id.simple, json]) := by
  by_contra hlong
  rw [HandshakePacket.decode, HandshakePacket.encode, if_neg (not_not_intro rfl)] at hdecode
  obtain ⟨⟨p, rest⟩, hbody, hp⟩ := Outcome.bind_eq_ok.mp hdecode
  obtain rfl : p = handshake := Outcome.ok.inj hp
  obtain ⟨buf, buf', hversion, hread⟩ := HandshakePacket.readString_of_body hbody
  simp only [List.append_assoc, decodeVarint_encodeVarint, Outcome.ok.injEq, Prod.mk.injEq] at hversion
  rw [← hversion.2] at hread
  obtain ⟨more, hmore, hcut⟩ := readString_putString_cut hlong hread
  rw [← RustStr.intercalate_split p.serverAddress '\x00', h.split] at hcut
  have hdigits : (asBytes profile.id.simple).length = (asBytes digits).length := by
    rw [hexDigits_bytes profile.id.simple_length profile.id.simple_lowerHex, hexDigits_bytes h.length h.lowerHex]
  obtain ⟨rest', hrest', hjson⟩ := cut_joinFields hmore hdigits hcut
  obtain ⟨e, herror⟩ := serde.cutShort text rest' hrest' hjson
  have := h.properties
  rw [herror] at this
  cases this

/-- The handshake that goes out delivers the four fields exactly when their
length survives the cast. -/
theorem bungee_fields_iff (v : Int32) {peer : Peer} (hmode : backend.forwardingMode = .legacyBungee)
    (serde : SerdeProperties lib parse profile.properties json) (haddress : '\x00' ∉ backend.address.toList)
    (hip : '\x00' ∉ clientIp.toList) (hwritten : peer.wire.losesNext = false) :
    (∃ packet handshake digits text,
      firstSent peer.wire (dispatchForwarding lib backend profile clientIp v peer).2.wire = some packet ∧
        HandshakePacket.decode packet = .ok handshake ∧
        FieldsDelivered parse backend profile clientIp v handshake digits text) ↔
      (asBytes backend.address).length + (asBytes clientIp).length + (asBytes json).length + 35 < 2 ^ 31 := by
  have hjoined : handshakeAddress lib backend profile clientIp = _ := handshakeAddress_bungee hmode serde.serialized
  have hsent := firstSent_dispatchForwarding v hmode hjoined hwritten
  have hlength : StringFits (joinFields [backend.address, clientIp, profile.id.simple, json]) ↔
      (asBytes backend.address).length + (asBytes clientIp).length + (asBytes json).length + 35 < 2 ^ 31 := by
    have hdigits := hexDigits_bytes profile.id.simple_length profile.id.simple_lowerHex
    rw [StringFits, asBytes_joinFields]
    simp only [List.length_append, List.length_cons, hdigits]
    omega
  rw [← hlength, hsent]
  constructor
  · rintro ⟨packet, handshake, digits, text, hpacket, hdecode, h⟩
    rw [← Option.some.inj hpacket] at hdecode
    exact fits_of_fields serde hdecode h
  · intro hfits
    exact ⟨_, _, _, _, rfl, HandshakePacket.decode_encode hfits (Or.inr rfl), fields_of_fits serde haddress hip⟩

end Fields

/-- A library that writes these properties as this text. -/
def jsonLibrary (properties : List ProfileProperty) (json : String) : Library where
  textJson := id
  propertiesJson := fun ps => if ps = properties then .ok json else .error "another profile"
  toLowercase := String.toLower
  fromUtf8Lossy := fun bytes => (fromUtf8 bytes).getD ""
  hmacSha256 := fun _ _ => .error "no key"
  sha1 := fun _ => ⟨List.replicate 20 1, rfl⟩
  newV3 := fun _ => .nil

/-- A parser that takes this text for these properties. -/
def jsonParser (properties : List ProfileProperty) (json text : String) : Except String (List ProfileProperty) :=
  if text = json then .ok properties else .error "EOF while parsing a list"

theorem jsonLibrary_serde (properties : List ProfileProperty) {json : String}
    (hescaped : json.toList.all (fun c => 0x20 ≤ c.toNat) = true) :
    SerdeProperties (jsonLibrary properties json) (jsonParser properties json) properties json := by
  refine ⟨if_pos rfl, if_pos rfl, fun c hc => of_decide_eq_true (List.all_eq_true.mp hescaped c hc), ?_⟩
  intro s rest hrest hbytes
  refine ⟨"EOF while parsing a list", if_neg ?_⟩
  rintro rfl
  exact hrest (List.append_right_eq_self.mp hbytes.symm)

/-- A property whose name would end the field, were it not escaped. -/
def nulProperty : ProfileProperty := ⟨"\x0010.0.0.1\x00", "", none⟩

def nulJson : String := "[\x7b\"name\":\"\\u000010.0.0.1\\u0000\",\"value\":\"\"\x7d]"

theorem bungee_fields_nul :
    (∃ packet handshake digits text,
      firstSent (Peer.connected (fun _ => .done) []).wire
          (dispatchForwarding (jsonLibrary [nulProperty] nulJson) ⟨"lobby.internal", 25565, .legacyBungee, none⟩
            ⟨.nil, "Steve", [nulProperty]⟩ "10.0.0.42" 763 (.connected (fun _ => .done) [])).2.wire = some packet ∧
        HandshakePacket.decode packet = .ok handshake ∧
        FieldsDelivered (jsonParser [nulProperty] nulJson) ⟨"lobby.internal", 25565, .legacyBungee, none⟩
          ⟨.nil, "Steve", [nulProperty]⟩ "10.0.0.42" 763 handshake digits text) ↔
      (asBytes "lobby.internal").length + (asBytes "10.0.0.42").length + (asBytes nulJson).length + 35 < 2 ^ 31 :=
  bungee_fields_iff 763 rfl (jsonLibrary_serde [nulProperty] (by decide)) (by decide) (by decide) rfl

/-- The text of a property with this value, of characters that need no escape. -/
def textureJson (value : String) : String :=
  "[\x7b\"name\":\"textures\",\"value\":\"" ++ value ++ "\"\x7d]"

theorem textureJson_escaped (n : Nat) :
    (textureJson (longName n)).toList.all (fun c => 0x20 ≤ c.toNat) = true := by
  unfold textureJson
  rw [String.toList_append, String.toList_append, List.all_append, List.all_append, Bool.and_eq_true,
    Bool.and_eq_true]
  refine ⟨⟨by decide, ?_⟩, by decide⟩
  rw [longName, String.toList_ofList, List.all_replicate]
  simp

theorem le_textureJson (n : Nat) : n ≤ (asBytes (textureJson (longName n))).length := by
  unfold textureJson
  rw [asBytes_append, asBytes_append, List.length_append, List.length_append, asBytes_longName]
  omega

/-- A profile with a property of `2 ^ 31` bytes: the length before the address has
no room for it, and the backend finds no such property. -/
theorem bungee_fields_lost :
    ¬ ∃ packet handshake digits text,
      firstSent (Peer.connected (fun _ => .done) []).wire
          (dispatchForwarding
            (jsonLibrary [⟨"textures", longName (2 ^ 31), none⟩] (textureJson (longName (2 ^ 31))))
            ⟨"lobby.internal", 25565, .legacyBungee, none⟩
            ⟨.nil, "Steve", [⟨"textures", longName (2 ^ 31), none⟩]⟩ "10.0.0.42" 763
            (.connected (fun _ => .done) [])).2.wire = some packet ∧
        HandshakePacket.decode packet = .ok handshake ∧
        FieldsDelivered
          (jsonParser [⟨"textures", longName (2 ^ 31), none⟩] (textureJson (longName (2 ^ 31))))
          ⟨"lobby.internal", 25565, .legacyBungee, none⟩
          ⟨.nil, "Steve", [⟨"textures", longName (2 ^ 31), none⟩]⟩ "10.0.0.42" 763 handshake digits text := by
  have hlong := le_textureJson (2 ^ 31)
  have hescaped := textureJson_escaped (2 ^ 31)
  generalize textureJson (longName (2 ^ 31)) = json at hlong hescaped ⊢
  generalize longName (2 ^ 31) = value
  have serde := jsonLibrary_serde [⟨"textures", value, none⟩] hescaped
  have hsent := @firstSent_dispatchForwarding _ ⟨"lobby.internal", 25565, .legacyBungee, none⟩
    ⟨.nil, "Steve", [⟨"textures", value, none⟩]⟩ "10.0.0.42" _ 763 (.connected (fun _ => .done) []) rfl
    (handshakeAddress_bungee rfl serde.serialized) rfl
  rw [hsent]
  rintro ⟨packet, handshake, digits, text, hpacket, hdecode, h⟩
  rw [← Option.some.inj hpacket] at hdecode
  have hfits := fits_last (fits_of_fields serde hdecode h)
  exact absurd hfits (Nat.not_lt.mpr hlong)

end FrameMC

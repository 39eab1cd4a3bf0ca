import FrameMC.Lib.RustStr
import FrameMC.Protocol.Packet

/-!
# The handshake

`src/protocol/handshake.rs`: the first packet of every connection, from the
client to the proxy and from the proxy to a backend.
-/

namespace FrameMC

open ByteStream

inductive ConnectionState where
  | handshake
  | status
  | login
  | configuration
  | play
  | closed
  deriving DecidableEq, Repr

structure HandshakePacket where
  protocolVersion : Int32
  serverAddress : String
  serverPort : UInt16
  nextState : ConnectionState
  deriving DecidableEq

namespace HandshakePacket

def decode (packet : RawPacket) : Outcome ProxyError HandshakePacket :=
  if packet.id ≠ 0x00 then .err (.invalidPacketId packet.id)
  else do
    let (packet, _) ← body packet.payload
    .ok packet
where
  body : Decoder ProxyError HandshakePacket := do
    let protocolVersion ← decodeVarint
    let addrLen ← decodeVarint
    if addrLen < 0 then Decoder.fail (.io .invalidData "negative server_address length")
    else do
      need (asUsize addrLen) "unexpected EOF while reading server_address"
      let addrBytes ← Decoder.slice (asUsize addrLen)
      let serverAddress ← Decoder.lift
        (Outcome.ofOption (.io .invalidData "server_address is not valid UTF-8") (fromUtf8 addrBytes))
      Decoder.advance (asUsize addrLen)
      need 2 "unexpected EOF while reading server_port"
      let serverPort ← getU16
      let nextStateRaw ← decodeVarint
      if nextStateRaw = 1 then pure ⟨protocolVersion, serverAddress, serverPort, .status⟩
      else if nextStateRaw = 2 then pure ⟨protocolVersion, serverAddress, serverPort, .login⟩
      else Decoder.fail (.invalidConnectionState nextStateRaw)

def encode (p : HandshakePacket) : RawPacket :=
  let nextStateVal : Int32 := match p.nextState with
    | .status => 1
    | .login => 2
    | _ => 0
  ⟨0x00, encodeVarint p.protocolVersion ++ putString p.serverAddress ++ putU16 p.serverPort.toNat ++
    encodeVarint nextStateVal⟩

/-- The address without the fields that forwarding puts behind it. -/
def cleanHostname (p : HandshakePacket) : String := (RustStr.split p.serverAddress '\x00').head?.getD p.serverAddress

/-- A handshake for a state that has a number is read back as it was. -/
theorem decode_encode {p : HandshakePacket} (hfits : StringFits p.serverAddress)
    (hstate : p.nextState = .status ∨ p.nextState = .login) : decode (encode p) = .ok p := by
  obtain ⟨protocolVersion, serverAddress, serverPort, nextState⟩ := p
  have hlen : ¬ asI32 (asBytes serverAddress).length < 0 := Int32.not_lt.mpr (asI32_nonneg hfits)
  have hsize : asUsize (asI32 (asBytes serverAddress).length) = (asBytes serverAddress).length := asUsize_asI32 hfits
  have hall (rest : List UInt8) : (asBytes serverAddress).length ≤ (asBytes serverAddress ++ rest).length := by
    rw [List.length_append]
    exact Nat.le_add_right _ _
  have hport (rest : List UInt8) : ¬ (putU16 serverPort.toNat ++ rest).length < 2 := by
    rw [List.length_append, putU16, List.length_cons, List.length_singleton]
    omega
  rw [decode, encode, if_neg (not_not_intro rfl), decode.body]
  simp only [putString, List.append_assoc, Decoder.bind_apply, decodeVarint_encodeVarint, Outcome.ok_bind,
    Decoder.ite_apply, hlen, if_false, hsize, need_apply, Nat.not_lt.mpr (hall _), Decoder.slice_of_le (hall _),
    List.take_left, fromUtf8_asBytes, Outcome.ofOption_some, Decoder.lift_ok, Decoder.advance_of_le (hall _),
    List.drop_left, hport, getU16_putU16, UInt16.ofNat_toNat]
  rcases hstate with h | h
  · dsimp only at h
    rw [h]
    rfl
  · dsimp only at h
    rw [h]
    rfl

/-- The address is read as any string is, but for the error texts. -/
theorem readString_of_body {p : HandshakePacket} {bs rest : List UInt8} (h : decode.body bs = .ok (p, rest)) :
    ∃ buf buf', decodeVarint bs = .ok (p.protocolVersion, buf) ∧
      readString "unexpected EOF while reading server_address" "server_address is not valid UTF-8" buf =
        .ok (p.serverAddress, buf') := by
  rw [decode.body] at h
  obtain ⟨⟨version, buf⟩, hversion, h⟩ := Outcome.bind_eq_ok.mp h
  obtain ⟨⟨len, cursor⟩, hlen, h⟩ := Outcome.bind_eq_ok.mp h
  dsimp only at h
  have hneg : ¬ len < 0 := by
    intro hneg
    rw [if_pos hneg] at h
    cases h
  rw [if_neg hneg] at h
  obtain ⟨⟨⟨⟩, cursor'⟩, hneed, h⟩ := Outcome.bind_eq_ok.mp h
  rw [need_apply] at hneed
  split_ifs at hneed with hshort
  obtain ⟨-, rfl⟩ := Prod.mk.inj (Outcome.ok.inj hneed)
  obtain ⟨⟨bytes, cursor'⟩, hslice, h⟩ := Outcome.bind_eq_ok.mp h
  rw [Decoder.slice_of_le (Nat.le_of_not_lt hshort)] at hslice
  obtain ⟨rfl, rfl⟩ := Prod.mk.inj (Outcome.ok.inj hslice)
  obtain ⟨⟨address, cursor'⟩, haddress, h⟩ := Outcome.bind_eq_ok.mp h
  have hp : p.protocolVersion = version ∧ p.serverAddress = address := by
    obtain ⟨advanced, -, h⟩ := Outcome.bind_eq_ok.mp h
    obtain ⟨enough, -, h⟩ := Outcome.bind_eq_ok.mp h
    obtain ⟨port, -, h⟩ := Outcome.bind_eq_ok.mp h
    obtain ⟨⟨state, buf⟩, -, h⟩ := Outcome.bind_eq_ok.mp h
    simp only [Decoder.ite_apply] at h
    split_ifs at h
    · obtain ⟨rfl, -⟩ := Prod.mk.inj (Outcome.ok.inj h)
      exact ⟨rfl, rfl⟩
    · obtain ⟨rfl, -⟩ := Prod.mk.inj (Outcome.ok.inj h)
      exact ⟨rfl, rfl⟩
    · cases h
  rw [hp.1, hp.2]
  refine ⟨buf, cursor.drop (asUsize len), hversion, ?_⟩
  rw [readString_of_len hlen, if_neg (not_or.mpr ⟨hneg, hshort⟩)]
  dsimp only at haddress
  cases hutf8 : fromUtf8 (cursor.take (asUsize len)) with
  | none =>
    rw [hutf8] at haddress
    cases haddress
  | some s =>
    rw [hutf8] at haddress
    obtain ⟨rfl, rfl⟩ := Prod.mk.inj (Outcome.ok.inj haddress)
    rfl

end HandshakePacket

end FrameMC

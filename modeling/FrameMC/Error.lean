/-!
# `ProxyError`

`src/error.rs`, with the display texts: they reach the player inside chat
notices.
-/

namespace FrameMC

/-- The `std::io::ErrorKind`s the proxy raises itself; `other` is what a socket
or a library reports. -/
inductive IoErrorKind where
  | unexpectedEof
  | invalidData
  | timedOut
  | writeZero
  | notConnected
  | other
  deriving DecidableEq, Repr

inductive ProxyError where
  | io (kind : IoErrorKind) (message : String)
  | varIntOverflow
  | packetTooLarge (size : Nat)
  | invalidPacketId (id : Int32)
  | invalidConnectionState (state : Int32)
  | cryptoError (message : String)
  | authenticationFailed (message : String)
  | backendConnectionFailed (message : String)
  | scriptError (message : String)
  | configError (message : String)
  deriving DecidableEq, Repr

/-- `{:#x}` of an `i32`: the digits of its two's complement. -/
def hexI32 (x : Int32) : String :=
  "0x" ++ String.ofList (Nat.toDigits 16 x.toUInt32.toNat)

namespace ProxyError

/-- The `#[error("…")]` texts. -/
def display : ProxyError → String
  | io _ message => "I/O error: " ++ message
  | varIntOverflow => "VarInt exceeds maximum allowed length"
  | packetTooLarge size => s!"Packet size {size} exceeds configured maximum limit"
  | invalidPacketId id => "Invalid or unrecognized packet ID: " ++ hexI32 id
  | invalidConnectionState state => s!"Invalid connection state: {state}"
  | cryptoError message => "Cryptographic error: " ++ message
  | authenticationFailed message => "Authentication failed: " ++ message
  | backendConnectionFailed message => "Backend connection failed: " ++ message
  | scriptError message => "Script error: " ++ message
  | configError message => "Configuration error: " ++ message

end ProxyError

end FrameMC

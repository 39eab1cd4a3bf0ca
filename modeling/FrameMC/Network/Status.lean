import FrameMC.Network.Authentication

/-!
# The server list ping

`handle_status_with_version` of `src/protocol/status.rs`, which the Status arm
of `process_connection` runs. `status_exchange` is the whole conversation: what
a client can make the proxy say before it has logged in. How `serde_json`
writes a response is a parameter.
-/

namespace FrameMC

open ByteStream Effect

/-! ## The response -/

structure VersionInfo where
  name : String
  protocol : Int32
  deriving DecidableEq

structure PlayerSample where
  name : String
  id : String
  deriving DecidableEq

structure PlayersInfo where
  max : Int32
  online : Int32
  sample : List PlayerSample
  deriving DecidableEq

structure ChatDescription where
  text : String
  deriving DecidableEq

structure StatusResponse where
  version : VersionInfo
  players : PlayersInfo
  description : ChatDescription
  favicon : Option String
  enforcesSecureChat : Bool
  deriving DecidableEq

/-- The fields of the configuration that the server list shows, and the serializer. -/
structure StatusEnv where
  motd : String
  maxPlayers : Int32
  favicon : Option String
  toJson : StatusResponse → Except String String

namespace StatusEnv

def response (env : StatusEnv) (protocolVersion : Int32) : StatusResponse where
  version := ⟨"FrameMC", protocolVersion⟩
  players := ⟨env.maxPlayers, 0, []⟩
  description := ⟨env.motd⟩
  favicon := env.favicon
  enforcesSecureChat := false

/-- The ping, if one comes: the client may as well close the connection or leave it idle. -/
def readPing : Talk (Option RawPacket) := fun peer =>
  match peer.reads with
  | .pause :: reads => (.ok none, { peer with reads := reads })
  | _ =>
    match Talk.read none peer with
    | (.ok ping, peer) => (.ok (some ping), peer)
    | (.error (.io .unexpectedEof _), peer) => (.ok none, peer)
    | (.error e, peer) => (.error e, peer)

def sendResponse (env : StatusEnv) (protocolVersion : Int32) : Talk Unit :=
  match env.toJson (env.response protocolVersion) with
  | .error e => throw (.configError ("Failed to serialize status response: " ++ e))
  | .ok jsonStr => Talk.write ⟨0x00, putString jsonStr⟩ none .own

def sendPong (ping : RawPacket) : Talk Unit :=
  if ping.id ≠ 0x01 then throw (.invalidPacketId ping.id)
  else if ping.payload.length < 8 then
    throw (.io .unexpectedEof "ping packet payload must contain 8 bytes (i64)")
  else Talk.write ⟨0x01, ping.payload⟩ none .own

def handleStatusWithVersion (env : StatusEnv) (protocolVersion : Int32) : Talk Unit := do
  let requestPacket ← Talk.readWithin none (timedOut "Status request timed out")
  if requestPacket.id ≠ 0x00 then throw (.invalidPacketId requestPacket.id)
  else do
    sendResponse env protocolVersion
    match ← readPing with
    | none => pure ()
    | some ping => sendPong ping

/-- `process_connection` with its Status arm; the others are those of `processConnection`. -/
def processConnection (status : StatusEnv) (env : LoginEnv) (client : Peer) : Processed :=
  match readHandshake ⟨client, none⟩ with
  | (.error e, client) => ⟨.error (.failed e), client, none⟩
  | (.ok handshake, stream) =>
    if handshake.nextState = .status then
      match onStream (status.handleStatusWithVersion handshake.protocolVersion) stream with
      | (.error e, stream) => ⟨.error (.failed e), stream, none⟩
      | (.ok (), stream) => ⟨.error .status, stream, none⟩
    else FrameMC.processConnection env client

end StatusEnv

/-! ## The conversation -/

/-- What is said on a connection behind the handshake. -/
inductive StatusTalk (response : StatusResponse) (toJson : StatusResponse → Except String String) : List Event → Prop
  | silent : StatusTalk response toJson []
  | asked (request : RawPacket) : StatusTalk response toJson [.received request none]
  | answered (request : RawPacket) (hrequest : request.id = 0x00) (json : String) (hjson : toJson response = .ok json) :
      StatusTalk response toJson [.received request none, .sent ⟨0x00, putString json⟩ none .own]
  | pinged (request : RawPacket) (hrequest : request.id = 0x00) (json : String) (hjson : toJson response = .ok json)
      (ping : RawPacket) : StatusTalk response toJson
        [.received request none, .sent ⟨0x00, putString json⟩ none .own, .received ping none]
  | ponged (request : RawPacket) (hrequest : request.id = 0x00) (json : String) (hjson : toJson response = .ok json)
      (ping : RawPacket) (hping : ping.id = 0x01) (hlong : 8 ≤ ping.payload.length) : StatusTalk response toJson
        [.received request none, .sent ⟨0x00, putString json⟩ none .own, .received ping none,
          .sent ⟨0x01, ping.payload⟩ none .own]

section Exchange

variable {env : StatusEnv} {v : Int32} {base : List Event}

/-- What was said since the wire's log was `base`. -/
def Peer.Said (base events : List Event) (peer : Peer) : Prop := peer.wire.log = base ++ events

/-- The conversation is one of those that can be. -/
def Peer.InStatus (env : StatusEnv) (v : Int32) (base : List Event) (peer : Peer) : Prop :=
  ∃ events, StatusTalk (env.response v) env.toJson events ∧ peer.Said base events

theorem Peer.Said.event {events : List Event} {peer peer' : Peer} {e : Event} (h : peer.Said base events)
    (hlog : peer'.wire.log = peer.wire.log ++ [e]) : peer'.Said base (events ++ [e]) := by
  rw [Peer.Said, hlog, h, List.append_assoc]

theorem said_read {events : List Event} (h : StatusTalk (env.response v) env.toJson events)
    (hread : ∀ p, StatusTalk (env.response v) env.toJson (events ++ [.received p none])) :
    Ensures (Peer.InStatus env v base) (Peer.Said base events) (Talk.read none) fun p =>
      Peer.Said base (events ++ [.received p none]) := by
  intro peer hsaid
  unfold Talk.read
  split
  · next p reads _ =>
    have hafter : Peer.Said base (events ++ [.received p none]) ⟨peer.wire.received p none, reads⟩ := hsaid.event rfl
    refine ⟨⟨_, hread p, hafter⟩, fun p' heq => ?_⟩
    cases heq
    exact hafter
  · exact ⟨⟨events, h, hsaid⟩, fun _ heq => nomatch heq⟩

theorem said_readWithin {events : List Event} (h : StatusTalk (env.response v) env.toJson events)
    (hread : ∀ p, StatusTalk (env.response v) env.toJson (events ++ [.received p none])) (late : ProxyError) :
    Ensures (Peer.InStatus env v base) (Peer.Said base events) (Talk.readWithin none late) fun p =>
      Peer.Said base (events ++ [.received p none]) := by
  intro peer hsaid
  unfold Talk.readWithin
  split
  · exact ⟨⟨events, h, hsaid⟩, fun _ heq => nomatch heq⟩
  · exact said_read h hread peer hsaid

theorem said_write {events : List Event} {p : RawPacket} (h : StatusTalk (env.response v) env.toJson events)
    (hwrite : StatusTalk (env.response v) env.toJson (events ++ [.sent p none .own])) :
    Ensures (Peer.InStatus env v base) (Peer.Said base events) (Talk.write p none .own) fun _ =>
      Peer.Said base (events ++ [.sent p none .own]) := by
  intro peer hsaid
  have hafter : Peer.Said base (events ++ [.sent p none .own]) ⟨⟨peer.wire.log ++ [.sent p none .own],
      peer.wire.fate, peer.wire.writes + 1⟩, peer.reads⟩ := hsaid.event rfl
  unfold Talk.write Wire.write
  cases peer.wire.fate peer.wire.writes with
  | done => exact ⟨⟨_, hwrite, hafter⟩, fun _ _ => hafter⟩
  | lost e => exact ⟨⟨events, h, hsaid⟩, fun _ heq => nomatch heq⟩
  | flushFailed e => exact ⟨⟨_, hwrite, hafter⟩, fun _ heq => nomatch heq⟩

/-- The client is answered, or was in addition given its ping back. -/
def Peer.Served (env : StatusEnv) (v : Int32) (base : List Event) (peer : Peer) : Prop :=
  ∃ events, StatusTalk (env.response v) env.toJson events ∧ (events.length = 2 ∨ events.length = 4) ∧
    peer.Said base events

theorem readPing_said {request : RawPacket} (hrequest : request.id = 0x00) {json : String}
    (hjson : env.toJson (env.response v) = .ok json) :
    let events := [Event.received request none, .sent ⟨0x00, putString json⟩ none .own]
    Ensures (Peer.InStatus env v base) (Peer.Said base events) StatusEnv.readPing fun ping peer =>
      match ping with
      | none => peer.Said base events
      | some ping => peer.Said base (events ++ [.received ping none]) := by
  intro events peer hsaid
  have htalk : StatusTalk (env.response v) env.toJson events := .answered request hrequest json hjson
  obtain ⟨hin, hok⟩ := said_read htalk (fun p => .pinged request hrequest json hjson p) peer hsaid
  have hquiet : ∀ e peer', Talk.read none peer = (.error e, peer') → peer'.Said base events := by
    intro e peer' hread
    unfold Talk.read at hread
    split at hread
    · cases hread
    · cases hread
      exact hsaid
  unfold StatusEnv.readPing
  split
  · refine ⟨⟨events, htalk, hsaid⟩, fun ping heq => ?_⟩
    cases heq
    exact hsaid
  · split
    · next ping peer' hread =>
      rw [hread] at hin hok
      refine ⟨hin, fun ping' heq => ?_⟩
      cases heq
      exact hok ping rfl
    · next e peer' hread =>
      refine ⟨⟨events, htalk, hquiet _ _ hread⟩, fun ping' heq => ?_⟩
      cases heq
      exact hquiet _ _ hread
    · next e peer' hread =>
      exact ⟨⟨events, htalk, hquiet _ _ hread⟩, fun _ heq => nomatch heq⟩

theorem handleStatus_said (env : StatusEnv) (v : Int32) (base : List Event) :
    Ensures (Peer.InStatus env v base) (Peer.Said base []) (env.handleStatusWithVersion v) fun _ =>
      Peer.Served env v base := by
  refine ensures_bind (said_readWithin .silent .asked _) fun request => ?_
  refine ensures_ite (fun _ => ensures_throw fun peer hsaid => ⟨_, .asked request, hsaid⟩) fun hid => ?_
  have hrequest : request.id = 0x00 := not_not.mp hid
  rw [StatusEnv.sendResponse]
  cases hjson : env.toJson (env.response v) with
  | error e =>
    have hthrow : Ensures (Peer.InStatus env v base) (Peer.Said base [.received request none])
        (throw (.configError ("Failed to serialize status response: " ++ e)) : Talk Unit) fun _ _ => False :=
      ensures_throw fun peer hsaid => ⟨_, .asked request, hsaid⟩
    exact ensures_bind hthrow fun _ _ hfalse => hfalse.elim
  | ok json =>
    refine ensures_bind (said_write (.asked request) (.answered request hrequest json hjson)) fun _ => ?_
    refine ensures_bind (readPing_said hrequest hjson) fun ping => ?_
    cases ping with
    | none =>
      refine ensures_pure fun peer hsaid => ?_
      have htalk : StatusTalk (env.response v) env.toJson _ := .answered request hrequest json hjson
      exact ⟨⟨_, htalk, hsaid⟩, ⟨_, htalk, Or.inl rfl, hsaid⟩⟩
    | some ping =>
      have htalk : StatusTalk (env.response v) env.toJson _ := .pinged request hrequest json hjson ping
      refine ensures_ite (fun _ => ensures_throw fun peer hsaid => ⟨_, htalk, hsaid⟩) fun hping => ?_
      refine ensures_ite (fun _ => ensures_throw fun peer hsaid => ⟨_, htalk, hsaid⟩) fun hlong => ?_
      have hponged := StatusTalk.ponged request hrequest json hjson ping (not_not.mp hping) (Nat.le_of_not_lt hlong)
      refine ensures_mono (said_write htalk hponged) (fun _ h => h) fun _ peer hsaid => ?_
      exact ⟨_, hponged, Or.inr rfl, hsaid⟩

/-- A request and a ping come, on a connection that takes what is written. -/
structure Peer.Asks (env : StatusEnv) (v : Int32) (peer : Peer) : Prop where
  reads : ∃ request ping rest, peer.reads = .packet request :: .packet ping :: rest ∧
    request.id = 0x00 ∧ ping.id = 0x01 ∧ 8 ≤ ping.payload.length
  reliable : peer.wire.Reliable
  written : (env.toJson (env.response v)).isOk = true

theorem handleStatus_served {peer : Peer} (h : peer.Asks env v) : ∃ events peer',
    env.handleStatusWithVersion v peer = (.ok (), peer') ∧ events.length = 4 ∧
      peer'.wire.log = peer.wire.log ++ events := by
  obtain ⟨request, ping, rest, hreads, hrequest, hping, hlong⟩ := h.reads
  cases hjson : env.toJson (env.response v) with
  | error e =>
    have := h.written
    rw [hjson] at this
    cases this
  | ok json =>
    refine ⟨[.received request none, .sent ⟨0x00, putString json⟩ none .own, .received ping none,
      .sent ⟨0x01, ping.payload⟩ none .own], ⟨⟨_, peer.wire.fate, peer.wire.writes + 2⟩, rest⟩, ?_, rfl, rfl⟩
    rw [StatusEnv.handleStatusWithVersion, Effect.bind_apply, Talk.readWithin, hreads]
    simp only [Talk.read, hreads, nextRead]
    rw [if_neg (not_not_intro hrequest), Effect.bind_apply, StatusEnv.sendResponse, hjson]
    simp only [Talk.write, Wire.write, Wire.received, h.reliable _]
    rw [Effect.bind_apply, StatusEnv.readPing]
    simp only [Talk.read, nextRead, Wire.received]
    rw [StatusEnv.sendPong, if_neg (not_not_intro hping), if_neg (Nat.not_lt.mpr hlong)]
    simp only [Talk.write, Wire.write, h.reliable _, List.append_assoc]
    rfl

/-- What becomes of a client that asks for the server list, with `raw` as its handshake. -/
structure Pinged (env : StatusEnv) (v : Int32) (raw : RawPacket) (client : Peer) (stream : ActiveStream)
    (processed : Processed) (events : List Event) : Prop where
  talk : StatusTalk (env.response v) env.toJson events
  log : processed.client.peer.wire.log = client.wire.log ++ .received raw none :: events
  done : processed.result = .error .status → events.length = 2 ∨ events.length = 4
  served : stream.peer.Asks env v → processed.result = .error .status ∧ events.length = 4

/-- For every client that asks for the server list, whatever it sends and
however the connection fails: behind the handshake the proxy reads a request,
answers it with the response for the client's version, and gives back a ping of
at least eight bytes as it came; it says nothing else, and nothing before it is
asked. Where it comes to its end it has answered, and where the client asks and
pings as it should it has done both. -/
theorem status_exchange (env : StatusEnv) (loginEnv : LoginEnv) {client : Peer} {handshake : HandshakePacket}
    {stream : ActiveStream} (hhandshake : readHandshake ⟨client, none⟩ = (.ok handshake, stream))
    (hnext : handshake.nextState = .status) :
    ∃ raw events, HandshakePacket.decode raw = .ok handshake ∧
      Pinged env handshake.protocolVersion raw client stream (env.processConnection loginEnv client) events := by
  obtain ⟨raw, s', hread, hdecode⟩ := bind_eq_ok.mp hhandshake
  obtain ⟨-, hlog, -⟩ := readWithin_ok hread
  obtain ⟨hraw, rfl⟩ := lift_ok hdecode
  have hsaid : Peer.Said (client.wire.log ++ [.received raw none]) [] stream.peer := by
    rw [Peer.Said, hlog, List.append_nil]
  obtain ⟨⟨events, htalk, hevents⟩, hok⟩ := handleStatus_said env handshake.protocolVersion _ stream.peer hsaid
  rw [StatusEnv.processConnection, hhandshake]
  dsimp only
  rw [if_pos hnext, onStream, focus]
  rcases hstatus : env.handleStatusWithVersion handshake.protocolVersion stream.peer with ⟨e | u, peer⟩
  · rw [hstatus] at hevents
    rw [Peer.Said, List.append_assoc] at hevents
    refine ⟨raw, events, hraw, ⟨htalk, hevents, fun hresult => ?_, fun hasks => ?_⟩⟩
    · cases hresult
    · obtain ⟨events', peer', hserved, -⟩ := handleStatus_served hasks
      rw [hstatus] at hserved
      cases hserved
  · rw [hstatus] at hok
    obtain ⟨events', htalk', hlength, hevents'⟩ := hok () rfl
    refine ⟨raw, events', hraw, ⟨htalk', ?_, fun _ => hlength, fun hasks => ⟨rfl, ?_⟩⟩⟩
    · rw [Peer.Said, List.append_assoc] at hevents'
      exact hevents'
    · obtain ⟨served, peer', hserved, hfour, hlog'⟩ := handleStatus_served hasks
      rw [hstatus] at hserved
      cases hserved
      rw [Peer.Said, ← hlog, hlog'] at hevents'
      rw [← List.append_cancel_left hevents', hfour]

end Exchange

/-- A server list with a response that is written as its description. -/
def smallStatus : StatusEnv := ⟨"FrameMC", 20, none, fun response => .ok response.description.text⟩

/-- A client that asks for the server list and pings. -/
def pinging : Peer := .connected (fun _ => .done)
  [.packet (HandshakePacket.encode ⟨763, "localhost", 25565, .status⟩), .packet ⟨0x00, []⟩,
    .packet ⟨0x01, [1, 2, 3, 4, 5, 6, 7, 8]⟩]

theorem status_exchange_ping : ∃ raw events, HandshakePacket.decode raw = .ok ⟨763, "localhost", 25565, .status⟩ ∧
    Pinged smallStatus 763 raw pinging (readHandshake ⟨pinging, none⟩).2
      (smallStatus.processConnection smallLogin pinging) events := by
  have hread : (readHandshake ⟨pinging, none⟩).1 = .ok ⟨763, "localhost", 25565, .status⟩ := by decide +kernel
  exact status_exchange smallStatus smallLogin (Prod.ext hread rfl) rfl

end FrameMC

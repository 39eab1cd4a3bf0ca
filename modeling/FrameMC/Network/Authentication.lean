import FrameMC.Network.Listener
import FrameMC.Protocol.Channel
import FrameMC.Routing.AskedHooks

/-!
# Online-mode authentication

`handle_login_auth` in online mode, against any client. RSA, SHA-1 and the
session server are what they are in the surroundings: nothing is asked of them.
A login that comes through did so by way of the two packets it should, with one
secret, token, name and key in all places; one that does not leaves the scripts
unasked, no backend connected and the client without a LoginSuccess
(`authentication_sound`).
-/

namespace FrameMC

open ByteStream Effect

/-! ## Comparisons -/

/-- The comparison finds out whether the bytes are the same. -/
theorem constantTimeEq_iff (a b : List UInt8) : constantTimeEq a b = true ↔ a = b := by
  have key : ∀ (a b : List UInt8) (acc : UInt8), a.length = b.length →
      ((a.zip b).foldl (fun diff xy => diff ||| (xy.1 ^^^ xy.2)) acc = 0 ↔ acc = 0 ∧ a = b) := by
    intro a
    induction a with
    | nil =>
      intro b acc hlen
      obtain rfl := List.length_eq_zero_iff.mp hlen.symm
      simp
    | cons x a ih =>
      intro b acc hlen
      obtain ⟨y, b, rfl⟩ := List.exists_cons_of_length_eq_add_one hlen.symm
      rw [List.zip_cons_cons, List.foldl_cons, ih b _ (Nat.succ.inj hlen), UInt8.or_eq_zero_iff,
        UInt8.xor_eq_zero_iff, List.cons.injEq, and_assoc]
  rw [constantTimeEq]
  by_cases hlen : a.length = b.length
  · rw [if_neg (not_not.mpr hlen), beq_iff_eq, key a b 0 hlen]
    exact and_iff_right rfl
  · rw [if_pos hlen]
    refine iff_of_false Bool.false_ne_true ?_
    rintro rfl
    exact hlen rfl

/-- Beside an ASCII name, `eq_ignore_ascii_case` is equality of the lower-cased bytes. -/
theorem eqIgnoreAsciiCase_iff {name username : String} (h : ∀ c ∈ username.toList, c.toNat < 128) :
    eqIgnoreAsciiCase name username = true ↔ (asBytes name).map asciiLower = (asBytes username).map asciiLower := by
  have hlower : ∀ c ∈ username.toLower.toList, c.toNat < 128 := by
    intro c hc
    rw [show username.toLower.toList = username.toList.map Char.toLower from String.toList_map] at hc
    obtain ⟨d, hd, rfl⟩ := List.mem_map.mp hc
    have := h d hd
    rw [toLower_toNat]
    split <;> omega
  rw [eqIgnoreAsciiCase, beq_iff_eq, toLower_eq_iff hlower, (toLower_eq_iff hlower).mp rfl]

/-! ## The client's packets -/

/-- A name of 1 to 16 letters, digits and underscores. -/
structure ValidName (name : String) : Prop where
  nonempty : 1 ≤ name.length
  short : name.length ≤ 16
  chars : ∀ c ∈ name.toList, c.isAlphanum = true ∨ c = '_'

/-- `bytes` behind their length, and `rest`. -/
def IsPrefixed (payload bytes rest : List UInt8) : Prop :=
  ∃ u len, payload = u ++ bytes ++ rest ∧ IsVarint u len ∧ 0 ≤ len ∧ asUsize len = bytes.length

/-- A LoginStart with this name. -/
structure IsLoginStart (packet : RawPacket) (name : String) : Prop where
  id : packet.id = 0x00
  payload : ∃ rest, IsPrefixed packet.payload (asBytes name) rest

/-- An EncryptionResponse with these ciphertexts. -/
structure IsEncryptionResponse (packet : RawPacket) (secret token : List UInt8) : Prop where
  id : packet.id = 0x01
  payload : ∃ rest rest', IsPrefixed packet.payload secret rest ∧ IsPrefixed rest token rest'

theorem isNameByte_toChar {b : UInt8} (h : isNameByte b = true) :
    b.toNat < 128 ∧ ((Char.ofUInt8 b).isAlphanum = true ∨ Char.ofUInt8 b = '_') := by
  revert h
  have hall : ∀ n < 256, isNameByte (UInt8.ofNat n) = true → (UInt8.ofNat n).toNat < 128 ∧
      ((Char.ofUInt8 (UInt8.ofNat n)).isAlphanum = true ∨ Char.ofUInt8 (UInt8.ofNat n) = '_') := by
    decide +kernel
  have := hall b.toNat b.toNat_lt
  rwa [UInt8.ofNat_toNat] at this

/-- Bytes of names are the bytes of an ASCII string. -/
theorem validName_of_bytes {name : String} (hchars : ∀ b ∈ asBytes name, isNameByte b = true)
    (hnonempty : 1 ≤ (asBytes name).length) (hshort : (asBytes name).length ≤ 16) :
    ValidName name ∧ ∀ c ∈ name.toList, c.toNat < 128 := by
  obtain ⟨s, hs, hlist⟩ := exists_asBytes fun b hb => (isNameByte_toChar (hchars b hb)).1
  rw [asBytes_inj hs] at hlist
  have hlength : name.length = (asBytes name).length := by
    rw [← String.length_toList, hlist, List.length_map]
  refine ⟨⟨by omega, by omega, fun c hc => ?_⟩, fun c hc => ?_⟩
  · rw [hlist] at hc
    obtain ⟨b, hb, rfl⟩ := List.mem_map.mp hc
    exact (isNameByte_toChar (hchars b hb)).2
  · rw [hlist] at hc
    obtain ⟨b, hb, rfl⟩ := List.mem_map.mp hc
    rw [ofUInt8_toNat]
    exact (isNameByte_toChar (hchars b hb)).1

/-- What passes for a LoginStart is one, with a valid name. -/
theorem loginStart_decode {packet : RawPacket} {start : LoginStartPacket}
    (h : LoginStartPacket.decode packet = .ok start) :
    IsLoginStart packet start.username ∧ ValidName start.username ∧ ∀ c ∈ start.username.toList, c.toNat < 128 := by
  rw [LoginStartPacket.decode] at h
  split_ifs at h with hid
  obtain ⟨⟨start', rest⟩, hbody, heq⟩ := Outcome.bind_eq_ok.mp h
  cases heq
  rw [LoginStartPacket.decode.body, Decoder.bind_apply, Outcome.bind_eq_ok] at hbody
  obtain ⟨⟨len, buf⟩, hlen, hbody⟩ := hbody
  obtain ⟨u, hu, hvarint⟩ := decodeVarint_ok_iff.mp hlen
  simp only [Decoder.ite_apply, Decoder.fail_apply] at hbody
  split_ifs at hbody with hrange
  have hnonneg : 0 ≤ len := Int32.le_trans (by decide) hrange.1
  have hlow := asUsize_le (show (0 : Int32) ≤ 1 by decide) hrange.1
  have hhigh := asUsize_le hnonneg hrange.2
  rw [Decoder.bind_apply, need_apply] at hbody
  split_ifs at hbody with hneed
  · cases hbody
  have hle : asUsize len ≤ buf.length := by omega
  rw [Outcome.ok_bind, Decoder.bind_apply, Decoder.slice_of_le hle, Outcome.ok_bind] at hbody
  simp only at hbody
  cases hfind : (buf.take (asUsize len)).find? fun b => ! isNameByte b with
  | some b =>
    rw [hfind] at hbody
    cases hbody
  | none =>
    rw [hfind] at hbody
    cases hname : fromUtf8 (buf.take (asUsize len)) with
    | none =>
      rw [hname] at hbody
      cases hbody
    | some name =>
      rw [hname] at hbody
      simp only [Outcome.ofOption_some, Decoder.bind_apply, Decoder.lift_ok, Outcome.ok_bind,
        Decoder.advance_of_le hle] at hbody
      have hstart : start.username = name := by
        rw [Decoder.remaining_apply, Outcome.ok_bind, Decoder.ite_apply] at hbody
        split at hbody
        · obtain ⟨_, _, heq⟩ := Outcome.bind_eq_ok.mp hbody
          cases heq
          rfl
        · cases hbody
          rfl
      have hbytes := asBytes_of_fromUtf8 hname
      have hlength : (asBytes name).length = asUsize len := by
        rw [hbytes, List.length_take]
        omega
      rw [hstart]
      have hvalid := @validName_of_bytes name (by
        intro b hb
        rw [hbytes] at hb
        simpa using List.find?_eq_none.mp hfind b hb) (by rw [hlength]; exact hlow) (by rw [hlength]; exact hhigh)
      refine ⟨⟨not_not.mp hid, buf.drop (asUsize len), u, len, ?_, hvarint, hnonneg, hlength.symm⟩, hvalid⟩
      rw [hbytes, List.append_assoc, List.take_append_drop, hu]

theorem encryptionResponse_decode {packet : RawPacket} {resp : EncryptionResponsePacket}
    (h : EncryptionResponsePacket.decode packet = .ok resp) :
    IsEncryptionResponse packet resp.sharedSecret resp.verifyToken := by
  rw [EncryptionResponsePacket.decode] at h
  split_ifs at h with hid
  obtain ⟨⟨resp', rest⟩, hbody, heq⟩ := Outcome.bind_eq_ok.mp h
  cases heq
  obtain ⟨⟨secret, buf⟩, hsecret, hbody⟩ := Outcome.bind_eq_ok.mp hbody
  obtain ⟨⟨token, rest'⟩, htoken, hbody⟩ := Outcome.bind_eq_ok.mp hbody
  cases hbody
  exact ⟨not_not.mp hid, _, _, readBytes_ok hsecret, readBytes_ok htoken⟩

/-! ## What the steps come to -/

section Steps

variable {s s' : ActiveStream} {packet : RawPacket} {t : Option Nat}

/-- A read in time takes the next packet off the stream. -/
theorem readWithin_ok {late : ProxyError} (h : onStream (Talk.readWithin t late) s = (.ok packet, s')) :
    s.peer.reads = .packet packet :: s'.peer.reads ∧ s'.peer.wire.log = s.peer.wire.log ++ [.received packet t] ∧
      s'.secret = s.secret := by
  rw [onStream, Effect.focus] at h
  rcases hreads : s.peer.reads with _ | ⟨_ | e | _, reads⟩
  · rw [Talk.readWithin, hreads, Talk.read, hreads] at h
    cases h
  · rw [Talk.readWithin, hreads, Talk.read, hreads] at h
    cases h
    exact ⟨rfl, rfl, rfl⟩
  · rw [Talk.readWithin, hreads, Talk.read, hreads] at h
    cases h
  · rw [Talk.readWithin, hreads] at h
    cases h

theorem onStream_write (p : RawPacket) (origin : Origin) (s : ActiveStream) :
    onStream (Talk.write p t origin) s = ((s.peer.wire.write p t origin).1,
      { s with peer := { s.peer with wire := (s.peer.wire.write p t origin).2 } }) := rfl

/-- A write that succeeds has put the packet on the stream. -/
theorem onStream_write_ok {p : RawPacket} {origin : Origin} {u : Unit}
    (h : onStream (Talk.write p t origin) s = (.ok u, s')) :
    s'.peer.reads = s.peer.reads ∧ s'.peer.wire.log = s.peer.wire.log ++ [.sent p t origin] ∧
      s'.secret = s.secret := by
  rw [onStream_write, Wire.write] at h
  split at h
  · cases h
    exact ⟨rfl, rfl, rfl⟩
  · cases h
  · cases h

theorem lift_ok {α : Type} {x : Outcome ProxyError α} {a : α}
    (h : (Talk.lift x : Accept α) s = (.ok a, s')) : x = .ok a ∧ s' = s := by
  cases x with
  | ok b =>
    cases h
    exact ⟨rfl, rfl⟩
  | err e => cases h
  | panic => cases h

end Steps

/-! ## Soundness -/

/-- What is sent to the client in this connection. -/
def encryptionRequest (env : LoginEnv) (v : Int) : RawPacket :=
  (EncryptionRequestPacket.new "" env.publicKeyDer env.verifyToken.val).encodeWithVersion v

/-- The secret and how it was agreed on, behind the LoginStart. -/
structure Agreed (env : LoginEnv) (v : Int) (s s' : ActiveStream) (second : RawPacket)
    (cipherSecret cipherToken secret : List UInt8) : Prop where
  reads : s.peer.reads = .packet second :: s'.peer.reads
  log : s'.peer.wire.log = s.peer.wire.log ++ [.sent (encryptionRequest env v) none .own, .received second none]
  plain : s'.secret = s.secret
  response : IsEncryptionResponse second cipherSecret cipherToken
  decryptedToken : env.rsaDecrypt cipherToken = .ok env.verifyToken.val
  decryptedSecret : env.rsaDecrypt cipherSecret = .ok secret
  length : secret.length = 16

theorem agreeSecret_ok {env : LoginEnv} {v : Int} {s s' : ActiveStream} {secret : List UInt8}
    (h : agreeSecret env v s = (.ok secret, s')) :
    ∃ second cipherSecret cipherToken, Agreed env v s s' second cipherSecret cipherToken secret := by
  obtain ⟨_, s₁, hwrite, h⟩ := Effect.bind_eq_ok.mp h
  obtain ⟨second, s₂, hread, h⟩ := Effect.bind_eq_ok.mp h
  obtain ⟨encResp, s₃, hdecode, h⟩ := Effect.bind_eq_ok.mp h
  obtain ⟨hreads₁, hlog₁, hsecret₁⟩ := onStream_write_ok hwrite
  obtain ⟨hreads₂, hlog₂, hsecret₂⟩ := readWithin_ok hread
  obtain ⟨hresponse, hsame⟩ := lift_ok hdecode
  rw [hsame] at h
  generalize hsecret : env.rsaDecrypt encResp.sharedSecret = decryptedSecret at h
  generalize htoken : env.rsaDecrypt encResp.verifyToken = decryptedToken at h
  rcases decryptedSecret with decryptedSecret | _ | _ <;> rcases decryptedToken with decryptedToken | _ | _
  case ok.ok =>
    change (if _ then _ else if _ then _ else _ : Accept (List UInt8)) s₂ = _ at h
    simp only [Effect.ite_apply] at h
    split_ifs at h with hmatch hlength
    · cases h
    · cases h
      rw [constantTimeEq_iff] at hmatch
      rw [hmatch] at htoken
      refine ⟨second, _, _, ?_, ?_, hsecret₂.trans hsecret₁, encryptionResponse_decode hresponse, htoken, hsecret,
        not_not.mp hlength⟩
      · rw [← hreads₁, hreads₂]
      · rw [hlog₂, hlog₁, List.append_assoc]
        rfl
    · cases h
  all_goals cases h

/-- How a profile comes out of the login: from `s` to `s'` the client has sent two packets. -/
structure Authenticated (env : LoginEnv) (v : Int) (s s' : ActiveStream) (profile : PlayerProfile)
    (first second : RawPacket) (name : String) (cipherSecret cipherToken secret : List UInt8) : Prop where
  reads : s.peer.reads = .packet first :: .packet second :: s'.peer.reads
  log : s'.peer.wire.log = s.peer.wire.log ++
    [.received first none, .sent (encryptionRequest env v) none .own, .received second none]
  start : IsLoginStart first name
  valid : ValidName name
  response : IsEncryptionResponse second cipherSecret cipherToken
  decryptedToken : env.rsaDecrypt cipherToken = .ok env.verifyToken.val
  decryptedSecret : env.rsaDecrypt cipherSecret = .ok secret
  length : secret.length = 16
  session : env.verifySession name (mojangSha1Digest env.lib.sha1 "" secret env.publicKeyDer) env.clientIp
    (env.config.sessionServerUrl.getD defaultMojangSessionServer) = .ok profile
  sameName : (asBytes profile.name).map asciiLower = (asBytes name).map asciiLower
  encrypted : s'.secret = some secret

theorem verifyProfile_ok {env : LoginEnv} {username : String} {secret : List UInt8} {s s' : ActiveStream}
    {profile : PlayerProfile} (h : verifyProfile env username secret s = (.ok profile, s')) :
    env.verifySession username (mojangSha1Digest env.lib.sha1 "" secret env.publicKeyDer) env.clientIp
        (env.config.sessionServerUrl.getD defaultMojangSessionServer) = .ok profile ∧
      eqIgnoreAsciiCase profile.name username = true ∧ s' = { s with secret := some secret } := by
  unfold verifyProfile at h
  generalize hanswer : env.verifySession username (mojangSha1Digest env.lib.sha1 "" secret env.publicKeyDer)
    env.clientIp (env.config.sessionServerUrl.getD defaultMojangSessionServer) = answer at h
  rcases answer with e | verified
  · obtain ⟨_, _, -, h⟩ := Effect.bind_eq_ok.mp h
    obtain ⟨_, _, -, h⟩ := Effect.bind_eq_ok.mp h
    cases h
  · change (if _ then _ else _ : Accept PlayerProfile) s = _ at h
    rw [Effect.ite_apply] at h
    split_ifs at h with hname
    · rw [Effect.get_bind] at h
      rcases hsecret : s.secret with _ | _
      · rw [hsecret] at h
        cases h
        exact ⟨rfl, hname, rfl⟩
      · rw [hsecret] at h
        cases h
    · cases h

theorem handleLoginAuth_ok {env : LoginEnv} (honline : env.config.onlineMode = true) {handshake : HandshakePacket}
    {s s' : ActiveStream} {profile : PlayerProfile} (h : handleLoginAuth env handshake s = (.ok profile, s')) :
    ∃ first second name cipherSecret cipherToken secret, Authenticated env handshake.protocolVersion.toInt s s' profile
      first second name cipherSecret cipherToken secret := by
  obtain ⟨first, s₁, hread, h⟩ := Effect.bind_eq_ok.mp h
  obtain ⟨loginStart, s₂, hdecode, h⟩ := Effect.bind_eq_ok.mp h
  obtain ⟨hreads, hlog, -⟩ := readWithin_ok hread
  obtain ⟨hstart, hsame⟩ := lift_ok hdecode
  rw [hsame, if_pos honline] at h
  obtain ⟨secret, s₃, hagree, hverify⟩ := Effect.bind_eq_ok.mp h
  obtain ⟨second, cipherSecret, cipherToken, hagreed⟩ := agreeSecret_ok hagree
  obtain ⟨hsession, hname, rfl⟩ := verifyProfile_ok hverify
  obtain ⟨hlogin, hvalid, hascii⟩ := loginStart_decode hstart
  refine ⟨first, second, loginStart.username, cipherSecret, cipherToken, secret, ?_, ?_, hlogin, hvalid,
    hagreed.response, hagreed.decryptedToken, hagreed.decryptedSecret, hagreed.length, hsession, (eqIgnoreAsciiCase_iff hascii).mp hname,
    rfl⟩
  · rw [hreads, hagreed.reads]
  · rw [hagreed.log, hlog, List.append_assoc]
    rfl

/-! ## Nothing before it -/

/-- From `start` to `w` no LoginSuccess has been sent. -/
def Unaccepted (start w : Wire) : Prop :=
  ∃ more, w.log = start.log ++ more ∧ ∀ p t origin, Event.sent p t origin ∈ more → p.id ≠ 0x02

theorem unaccepted_steps : Effect.Steps fun s s' : ActiveStream => Unaccepted s.peer.wire s'.peer.wire := by
  refine ⟨fun s => ⟨[], (List.append_nil _).symm, nofun⟩, ?_⟩
  rintro s s' s'' ⟨more, hlog, hmore⟩ ⟨more', hlog', hmore'⟩
  refine ⟨more ++ more', by rw [hlog', hlog, List.append_assoc], fun p t origin hp => ?_⟩
  rcases List.mem_append.mp hp with hp | hp
  · exact hmore p t origin hp
  · exact hmore' p t origin hp

/-- What leaves the client without a LoginSuccess. -/
abbrev Withholds {α : Type} (m : Accept α) : Prop :=
  Keeps (fun s s' : ActiveStream => Unaccepted s.peer.wire s'.peer.wire) m

section Withholds

variable {α : Type}

theorem withholds_read (t : Option Nat) (late : ProxyError) : Withholds (onStream (Talk.readWithin t late)) := by
  intro s
  show Unaccepted s.peer.wire (Talk.readWithin t late s.peer).2.wire
  have hread : Unaccepted s.peer.wire (Talk.read t s.peer).2.wire := by
    rw [Talk.read]
    split
    · refine ⟨[_], rfl, fun p t origin hp => ?_⟩
      cases List.mem_singleton.mp hp
    · exact ⟨[], (List.append_nil _).symm, nofun⟩
  rw [Talk.readWithin]
  split
  · exact ⟨[], (List.append_nil _).symm, nofun⟩
  · exact hread

theorem unaccepted_write {p : RawPacket} (hp : p.id ≠ 0x02) (w : Wire) (t : Option Nat) (origin : Origin) :
    Unaccepted w (w.write p t origin).2 := by
  rcases Wire.write_log w p t origin with hlog | hlog
  · exact ⟨[], by rw [hlog, List.append_nil], nofun⟩
  · refine ⟨_, hlog, fun p' t' origin' hp' => ?_⟩
    cases List.mem_singleton.mp hp'
    exact hp

theorem withholds_write {p : RawPacket} (hp : p.id ≠ 0x02) (t : Option Nat) (origin : Origin) :
    Withholds (onStream (Talk.write p t origin)) := fun s => unaccepted_write hp s.peer.wire t origin

theorem withholds_disconnect (lib : Library) (reason : String) (t : Option Nat) :
    Withholds (onStream (sendDisconnect (loginDisconnect lib reason) t)) :=
  fun s => unaccepted_write (by
    show (0x00 : Int32) ≠ 0x02
    decide) s.peer.wire t .own

theorem withholds_lift (x : Outcome ProxyError α) : Withholds (Talk.lift x) := by
  cases x with
  | ok a => exact keeps_pure unaccepted_steps a
  | err e => exact keeps_throw unaccepted_steps e
  | panic => exact keeps_throw unaccepted_steps _

theorem withholds_throw (e : ProxyError) : Withholds (throw e : Accept α) := keeps_throw unaccepted_steps e

theorem withholds_encrypt (secret : List UInt8) : Withholds (encrypt secret) :=
  fun _ => ⟨[], (List.append_nil _).symm, nofun⟩

theorem withholds_agreeSecret (env : LoginEnv) (v : Int) : Withholds (agreeSecret env v) := by
  refine keeps_bind unaccepted_steps (withholds_write (by
    show (0x01 : Int32) ≠ 0x02
    decide) _ _) fun _ => ?_
  refine keeps_bind unaccepted_steps (withholds_read _ _) fun respRaw => ?_
  refine keeps_bind unaccepted_steps (withholds_lift _) fun encResp => ?_
  split
  · refine keeps_ite (fun _ => withholds_throw _) fun _ => keeps_ite (fun _ => withholds_throw _) fun _ => ?_
    exact keeps_pure unaccepted_steps _
  · exact withholds_throw _
  · exact withholds_throw _
  · exact withholds_throw _
  · exact withholds_throw _

theorem withholds_verifyProfile (env : LoginEnv) (username : String) (secret : List UInt8) :
    Withholds (verifyProfile env username secret) := by
  unfold verifyProfile
  simp only
  split
  · refine keeps_bind unaccepted_steps (withholds_encrypt secret) fun _ => ?_
    exact keeps_bind unaccepted_steps (withholds_disconnect _ _ _) fun _ => withholds_throw _
  · refine keeps_ite (fun _ => withholds_throw _) fun _ => keeps_get_bind fun s => ?_
    cases s.secret with
    | some _ => exact withholds_throw _ s
    | none => exact keeps_bind unaccepted_steps (withholds_encrypt secret) (fun _ => keeps_pure unaccepted_steps _) s

theorem withholds_handleLoginAuth (env : LoginEnv) (handshake : HandshakePacket) :
    Withholds (handleLoginAuth env handshake) := by
  refine keeps_bind unaccepted_steps (withholds_read _ _) fun rawPacket => ?_
  refine keeps_bind unaccepted_steps (withholds_lift _) fun loginStart => ?_
  refine keeps_ite (fun _ => ?_) fun _ => keeps_pure unaccepted_steps _
  exact keeps_bind unaccepted_steps (withholds_agreeSecret env _) fun secret => withholds_verifyProfile env _ secret

theorem withholds_readHandshake : Withholds readHandshake :=
  keeps_bind unaccepted_steps (withholds_read _ _) fun _ => withholds_lift _

end Withholds

/-! ## Without a profile no script is asked -/

namespace Asking

/-- The choice of the server has the join hooks evaluated before anything else. -/
def chooseServer (env : LoginEnv) (protocolVersion : Int) (profile : PlayerProfile) :
    Effect (ActiveStream × List HookCall) ProxyError Admission := do
  asking (.onPlayerJoin ⟨profile.name, profile.id.hyphenated, env.clientIp, protocolVersion⟩) ()
  silently (FrameMC.chooseServer env protocolVersion profile)

def logIn (env : LoginEnv) (handshake : HandshakePacket) : Effect (ActiveStream × List HookCall) ProxyError Admission := do
  let profile ← silently (handleLoginAuth env handshake)
  chooseServer env handshake.protocolVersion.toInt profile

end Asking

/-- But for the record this is `logIn`. -/
theorem asking_logIn (env : LoginEnv) (handshake : HandshakePacket) :
    Records (Asking.logIn env handshake) (logIn env handshake) :=
  records_bind (records_silently _) fun _ => records_asking _ (records_silently _)

/-- The join hooks come behind the authentication. -/
theorem calls_logIn {env : LoginEnv} {handshake : HandshakePacket} {s s' : ActiveStream} {e : ProxyError}
    (h : handleLoginAuth env handshake s = (.error e, s')) : (Asking.logIn env handshake).calls s = [] := by
  rw [calls, Asking.logIn, Effect.bind_apply, silently, focus, h]

/-- The hooks that are asked about a connection. -/
def joinsAsked (env : LoginEnv) (client : Peer) : List HookCall :=
  match readHandshake ⟨client, none⟩ with
  | (.error _, _) => []
  | (.ok handshake, stream) =>
    if handshake.nextState = .login then (Asking.logIn env handshake).calls stream else []

/-- The same surroundings with other scripts and another network. -/
def LoginEnv.elsewhere (env : LoginEnv) (scriptHost : ScriptHost) (dial : String → Dial) : LoginEnv :=
  { env with scriptHost := scriptHost, dial := dial }

/-- A connection that ends before its client is authenticated: no backend, no
LoginSuccess, no script asked, and nothing that depends on the scripts or the
network. -/
structure TurnedAway (env : LoginEnv) (client : Peer) : Prop where
  failed : ∃ exit, (processConnection env client).result = .error exit
  unconnected : (processConnection env client).backend = none
  unaccepted : Unaccepted client.wire (processConnection env client).client.peer.wire
  unasked : joinsAsked env client = []
  apart : ∀ scriptHost dial, processConnection (env.elsewhere scriptHost dial) client = processConnection env client

theorem TurnedAway.of_processed {env : LoginEnv} {client : Peer} {exit : Exit} {stream : ActiveStream}
    (hstream : Unaccepted client.wire stream.peer.wire) (hunasked : joinsAsked env client = [])
    (h : ∀ scriptHost dial, processConnection (env.elsewhere scriptHost dial) client = ⟨.error exit, stream, none⟩) :
    TurnedAway env client := by
  have hhere : processConnection env client = ⟨.error exit, stream, none⟩ := h env.scriptHost env.dial
  refine ⟨⟨exit, by rw [hhere]⟩, by rw [hhere], ?_, hunasked, fun scriptHost dial => by rw [h, hhere]⟩
  rw [hhere]
  exact hstream

theorem processLogin_error {env : LoginEnv} {handshake : HandshakePacket} {stream s : ActiveStream} {e : ProxyError}
    (h : handleLoginAuth env handshake stream = (.error e, s)) :
    processLogin env handshake stream = ⟨.error (.failed e), s, none⟩ := by
  have hlogIn : logIn env handshake stream = (.error e, s) := by
    rw [logIn, Effect.bind_apply, h]
  rw [processLogin, hlogIn]

/-- Whatever the client sends: a login that comes through in online mode came
through by the two packets of the client's it should, with everything between
them in agreement; until then no LoginSuccess is sent, no script and no backend
has a part in it; and a connection on which none comes through ends so. -/
theorem authentication_sound (env : LoginEnv) (honline : env.config.onlineMode = true) (handshake : HandshakePacket)
    (s : ActiveStream) :
    (∀ profile s', handleLoginAuth env handshake s = (.ok profile, s') →
      ∃ first second name cipherSecret cipherToken secret, Authenticated env handshake.protocolVersion.toInt s s'
        profile first second name cipherSecret cipherToken secret) ∧
    Unaccepted s.peer.wire (handleLoginAuth env handshake s).2.peer.wire ∧
    (∀ scriptHost dial, handleLoginAuth (env.elsewhere scriptHost dial) handshake s = handleLoginAuth env handshake s) ∧
    (∀ e s', handleLoginAuth env handshake s = (.error e, s') → (Asking.logIn env handshake).calls s = []) ∧
    ∀ client, TurnedAway env client ∨ ∃ handshake stream profile s',
      readHandshake ⟨client, none⟩ = (.ok handshake, stream) ∧ handshake.nextState = .login ∧
        handleLoginAuth env handshake stream = (.ok profile, s') := by
  refine ⟨fun profile s' => handleLoginAuth_ok honline, withholds_handleLoginAuth env handshake s, fun _ _ => rfl,
    fun _ _ => calls_logIn, fun client => ?_⟩
  have hread := withholds_readHandshake ⟨client, none⟩
  rcases hhandshake : readHandshake ⟨client, none⟩ with ⟨e | handshake, stream⟩
  · rw [hhandshake] at hread
    refine Or.inl (.of_processed hread ?_ fun _ _ => by rw [processConnection, hhandshake])
    rw [joinsAsked, hhandshake]
  · rw [hhandshake] at hread
    have hother : ∀ exit, handshake.nextState ≠ .login →
        (∀ env, processConnection env client = ⟨.error exit, stream, none⟩) → TurnedAway env client := by
      refine fun exit hlogin h => .of_processed hread ?_ fun _ _ => h _
      rw [joinsAsked, hhandshake]
      exact if_neg hlogin
    cases hnext : handshake.nextState with
    | login =>
      have hauth := withholds_handleLoginAuth env handshake stream
      rcases hlogin : handleLoginAuth env handshake stream with ⟨e | profile, s'⟩
      · rw [hlogin] at hauth
        have haway := @TurnedAway.of_processed env client (.failed e) s' (unaccepted_steps.trans hread hauth)
        refine Or.inl (haway ?_ fun scriptHost dial => ?_)
        · rw [joinsAsked, hhandshake]
          exact (if_pos hnext).trans (calls_logIn hlogin)
        have hthere : handleLoginAuth (env.elsewhere scriptHost dial) handshake stream = (.error e, s') := hlogin
        rw [processConnection, hhandshake]
        simp only [hnext]
        exact processLogin_error hthere
      · exact Or.inr ⟨handshake, stream, profile, s', rfl, hnext, hlogin⟩
    | status => exact Or.inl (hother .status (hnext ▸ nofun) fun _ => by simp only [processConnection, hhandshake, hnext])
    | handshake =>
      exact Or.inl (hother (.failed (.invalidConnectionState 0)) (hnext ▸ nofun) fun _ => by
        simp only [processConnection, hhandshake, hnext])
    | configuration =>
      exact Or.inl (hother (.failed (.invalidConnectionState 3)) (hnext ▸ nofun) fun _ => by
        simp only [processConnection, hhandshake, hnext])
    | play =>
      exact Or.inl (hother (.failed (.invalidConnectionState 4)) (hnext ▸ nofun) fun _ => by
        simp only [processConnection, hhandshake, hnext])
    | closed =>
      exact Or.inl (hother (.failed (.invalidConnectionState 5)) (hnext ▸ nofun) fun _ => by
        simp only [processConnection, hhandshake, hnext])

/-- The small login in online mode; the session server knows everyone, and what
is encrypted is left as it is. -/
def onlineLogin : LoginEnv :=
  { smallLogin with
    config := { smallLogin.config with onlineMode := true }
    rsaDecrypt := .ok
    verifySession := fun username _ _ _ => .ok ⟨.nil, username, []⟩ }

def onlineHandshake : HandshakePacket := ⟨763, "localhost", 25565, .login⟩

/-- A client that answers the encryption request. -/
def answering : ActiveStream :=
  ⟨.connected (fun _ => .done) [.packet (LoginStartPacket.encode ⟨"Steve", .nil⟩),
    .packet ⟨0x01, putBytes (List.range 16 |>.map UInt8.ofNat) ++ putBytes onlineLogin.verifyToken.val⟩], none⟩

theorem authentication_sound_steve :
    ∃ first second name cipherSecret cipherToken secret, Authenticated onlineLogin 763 answering
      (handleLoginAuth onlineLogin onlineHandshake answering).2 ⟨.nil, "Steve", []⟩ first second name cipherSecret
        cipherToken secret := by
  have h : (handleLoginAuth onlineLogin onlineHandshake answering).1 = .ok ⟨.nil, "Steve", []⟩ := by
    decide +kernel
  exact (authentication_sound onlineLogin rfl onlineHandshake answering).1 _ _ (Prod.ext h rfl)

end FrameMC

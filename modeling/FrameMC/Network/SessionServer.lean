import FrameMC.Lib.PercentEncoding
import FrameMC.Network.Authentication

/-!
# Asking the session server

`verify_session_with_url` of `src/crypto/mojang_auth.rs`. The URL is put
together from text the client chose; `session_request_identifies` says that the
server reads from it what was meant, and that only its word makes a profile.
The HTTP client is a parameter.
-/

namespace FrameMC

open PercentEncoding

/-! ## The request -/

/-- `b'a'..=b'z' | b'A'..=b'Z' | b'0'..=b'9' | b'-' | b'_' | b'.' | b'~'`. -/
def unreserved (b : UInt8) : Bool :=
  (0x61 ≤ b && b ≤ 0x7A) || (0x41 ≤ b && b ≤ 0x5A) || (0x30 ≤ b && b ≤ 0x39) || b == 0x2D || b == 0x5F || b == 0x2E ||
    b == 0x7E

def urlencoding (input : String) : String := String.ofList (encode unreserved (asBytes input))

/-- What comes back: the status, as a number and as it is displayed, and the body read as a profile. -/
structure Response where
  status : Nat
  statusText : String
  json : Except String PlayerProfile

def sessionUrl (endpointUrl username serverHash : String) : String :=
  let separator := if endpointUrl.toList.contains '?' then "&" else "?"
  endpointUrl ++ separator ++ "username=" ++ urlencoding username ++ "&serverId=" ++ urlencoding serverHash

/-- `send` is the HTTP client: what getting a URL comes to. -/
def verifySessionWithUrl (send : String → Except String Response) (username serverHash _clientIp endpointUrl : String) :
    Except ProxyError PlayerProfile :=
  match send (sessionUrl endpointUrl username serverHash) with
  | .error e => .error (.authenticationFailed ("Session server request failed: " ++ e))
  | .ok response =>
    if response.status = 204 then
      .error (.authenticationFailed "Mojang session server returned 204 No Content (unverified session)")
    else if ¬ (200 ≤ response.status ∧ response.status < 300) then
      .error (.authenticationFailed ("Mojang session server returned HTTP status " ++ response.statusText))
    else match response.json with
      | .error e => .error (.authenticationFailed ("Failed to parse session profile JSON: " ++ e))
      | .ok profile => .ok profile

/-! ## How a server reads it -/

def beforeFragment (url : String) : List Char := url.toList.takeWhile (· ≠ '#')

/-- Scheme, host and path. -/
def location (url : String) : List Char := (beforeFragment url).takeWhile (· ≠ '?')

def readText (text : List Char) : Option String := (decode text).bind fromUtf8

def readParam (param : List Char) : Option String × Option String :=
  (readText (param.takeWhile (· ≠ '=')), readText ((param.dropWhile (· ≠ '=')).drop 1))

/-- The parameters of the query, each with its value. -/
def params (url : String) : List (Option String × Option String) :=
  match (beforeFragment url).dropWhile (· ≠ '?') with
  | [] => []
  | _ :: query => (query.splitOn '&').map readParam

/-! ## Reading it back -/

theorem unreserved_plain : Plain unreserved := by
  refine ⟨fun b hb => ?_, by decide, by decide⟩
  have hall : ∀ n < 256, unreserved (UInt8.ofNat n) = true → n < 128 := by decide +kernel
  have := hall b.toNat b.toNat_lt
  rw [UInt8.ofNat_toNat] at this
  exact this hb

/-- What divides a URL does not come up in encoded text. -/
theorem not_mem_urlencoding {input : String} {c : Char} (hc : c = '&' ∨ c = '=' ∨ c = '#' ∨ c = '?') :
    c ∉ (urlencoding input).toList := by
  rw [urlencoding, String.toList_ofList]
  intro hmem
  rcases mem_encode hmem with ⟨b, hb, rfl⟩ | rfl | ⟨n, hn, rfl⟩
  · have hall : ∀ n < 256, unreserved (UInt8.ofNat n) = true → ¬ (Char.ofNat n = '&' ∨ Char.ofNat n = '=' ∨
        Char.ofNat n = '#' ∨ Char.ofNat n = '?') := by decide +kernel
    refine hall b.toNat b.toNat_lt ?_ hc
    rwa [UInt8.ofNat_toNat]
  · exact absurd hc (by decide)
  · have hall : ∀ n < 16, ¬ (hexDigit n = '&' ∨ hexDigit n = '=' ∨ hexDigit n = '#' ∨ hexDigit n = '?') := by decide
    exact hall n hn hc

theorem readText_urlencoding (input : String) : readText (urlencoding input).toList = some input := by
  rw [urlencoding, String.toList_ofList, readText, decode_encode unreserved_plain, Option.bind_some,
    fromUtf8_asBytes]

theorem readParam_eq {key value : List Char} (hkey : '=' ∉ key) :
    readParam (key ++ '=' :: value) = (readText key, readText value) := by
  have hplain : ∀ c ∈ key, decide (c ≠ '=') = true := fun c hc => decide_eq_true fun heq => hkey (heq ▸ hc)
  rw [readParam, List.takeWhile_append_of_pos hplain, List.dropWhile_append_of_pos hplain]
  simp

/-- The two parameters, as they are appended to a query. -/
theorem splitOn_parameters (username serverHash : String) :
    ((("username=" ++ urlencoding username ++ "&serverId=" ++ urlencoding serverHash).toList.splitOn '&').map
      readParam) = [(some "username", some username), (some "serverId", some serverHash)] := by
  have husername : '&' ∉ ("username=" ++ urlencoding username).toList := by
    rw [String.toList_append, List.mem_append, not_or]
    exact ⟨by decide, not_mem_urlencoding (Or.inl rfl)⟩
  have hserverId : '&' ∉ ("serverId=" ++ urlencoding serverHash).toList := by
    rw [String.toList_append, List.mem_append, not_or]
    exact ⟨by decide, not_mem_urlencoding (Or.inl rfl)⟩
  have hlist : ("username=" ++ urlencoding username ++ "&serverId=" ++ urlencoding serverHash).toList =
      ("username=" ++ urlencoding username).toList ++ '&' :: ("serverId=" ++ urlencoding serverHash).toList := by
    simp only [String.toList_append, List.append_assoc]
    rfl
  have hkey (key : List Char) (value : String) (hkey : '=' ∉ key) :
      readParam (key ++ '=' :: (urlencoding value).toList) = (readText key, some value) := by
    rw [readParam_eq hkey, readText_urlencoding]
  have hread₁ := hkey "username".toList username (by decide)
  have hread₂ := hkey "serverId".toList serverHash (by decide)
  have hname₁ : readText "username".toList = some "username" := by decide +kernel
  have hname₂ : readText "serverId".toList = some "serverId" := by decide +kernel
  rw [hname₁] at hread₁
  rw [hname₂] at hread₂
  rw [hlist, List.splitOn_append_cons_self_of_not_mem husername, List.splitOn_eq_singleton hserverId, List.map_cons,
    List.map_singleton, ← hread₁, ← hread₂, String.toList_append, String.toList_append]
  rfl

/-- A text is cut where a character is for the first time. -/
theorem takeWhile_ne_of_notMem {c : Char} {text : List Char} (h : c ∉ text) :
    text.takeWhile (fun d => decide (d ≠ c)) = text := by
  rw [List.takeWhile_eq_self_iff]
  exact fun d hd => decide_eq_true fun heq => h (heq ▸ hd)

theorem cut_at {c : Char} {before : List Char} (h : c ∉ before) (after : List Char) :
    (before ++ c :: after).takeWhile (fun d => decide (d ≠ c)) = before ∧
      (before ++ c :: after).dropWhile (fun d => decide (d ≠ c)) = c :: after := by
  have hbefore : ∀ d ∈ before, decide (d ≠ c) = true := fun d hd => decide_eq_true fun heq => h (heq ▸ hd)
  rw [List.takeWhile_append_of_pos hbefore, List.dropWhile_append_of_pos hbefore]
  simp

/-- The URL goes where the endpoint goes, and asks in addition for the two parameters. -/
theorem sessionUrl_reads {endpointUrl : String} (hfragment : '#' ∉ endpointUrl.toList) (username serverHash : String) :
    location (sessionUrl endpointUrl username serverHash) = location endpointUrl ∧
      params (sessionUrl endpointUrl username serverHash) =
        params endpointUrl ++ [(some "username", some username), (some "serverId", some serverHash)] := by
  have hparameters := splitOn_parameters username serverHash
  generalize htail : "username=" ++ urlencoding username ++ "&serverId=" ++ urlencoding serverHash = tail
    at hparameters
  have hnone : '#' ∉ tail.toList := by
    rw [← htail]
    simp only [String.toList_append, List.mem_append, not_or]
    exact ⟨⟨⟨by decide, not_mem_urlencoding (Or.inr (Or.inr (Or.inl rfl)))⟩, by decide⟩,
      not_mem_urlencoding (Or.inr (Or.inr (Or.inl rfl)))⟩
  have hurl : (sessionUrl endpointUrl username serverHash).toList = endpointUrl.toList ++
      (if endpointUrl.toList.contains '?' then '&' else '?') :: tail.toList := by
    rw [sessionUrl, ← htail]
    split
    · simp only [String.toList_append, List.append_assoc]
      rfl
    · simp only [String.toList_append, List.append_assoc]
      rfl
  have hseparator : '#' ∉ (if endpointUrl.toList.contains '?' then '&' else '?') :: tail.toList := by
    rw [List.mem_cons, not_or]
    exact ⟨by split <;> decide, hnone⟩
  have hbefore : beforeFragment (sessionUrl endpointUrl username serverHash) = endpointUrl.toList ++
      (if endpointUrl.toList.contains '?' then '&' else '?') :: tail.toList := by
    rw [beforeFragment, hurl, takeWhile_ne_of_notMem]
    rw [List.mem_append, not_or]
    exact ⟨hfragment, hseparator⟩
  rw [location, location, params, params, hbefore, beforeFragment, takeWhile_ne_of_notMem hfragment]
  by_cases hquery : '?' ∈ endpointUrl.toList
  · obtain ⟨path, query, hsplit, hpath⟩ := List.eq_append_cons_of_mem hquery
    rw [if_pos (List.contains_iff_mem.mpr hquery), hsplit, List.append_assoc, List.cons_append, (cut_at hpath _).1,
      (cut_at hpath _).1, (cut_at hpath _).2, (cut_at hpath _).2]
    dsimp only
    rw [List.splitOn_append_cons_self, List.map_append, hparameters]
    exact ⟨rfl, rfl⟩
  · have hwhole := takeWhile_ne_of_notMem hquery
    have hempty : endpointUrl.toList.dropWhile (fun c => decide (c ≠ '?')) = [] :=
      List.dropWhile_eq_nil_iff.mpr (List.takeWhile_eq_self_iff.mp hwhole)
    rw [if_neg (mt List.contains_iff_mem.mp hquery), (cut_at hquery _).1, (cut_at hquery _).2, hempty, hwhole]
    exact ⟨rfl, hparameters⟩

/-- How a profile was come by: what was asked of the session server, and its answer. -/
structure Vouched (env : LoginEnv) (send : String → Except String Response) (profile : PlayerProfile)
    (url username : String) (secret : List UInt8) (response : Response) : Prop where
  asked : send url = .ok response
  success : 200 ≤ response.status ∧ response.status < 300 ∧ response.status ≠ 204
  answer : response.json = .ok profile
  location : location url = location (env.config.sessionServerUrl.getD defaultMojangSessionServer)
  params : params url = params (env.config.sessionServerUrl.getD defaultMojangSessionServer) ++
    [(some "username", some username),
      (some "serverId", some (mojangSha1Digest env.lib.sha1 "" secret env.publicKeyDer))]

theorem verifySessionWithUrl_ok {send : String → Except String Response}
    {username serverHash clientIp endpointUrl : String} {profile : PlayerProfile}
    (h : verifySessionWithUrl send username serverHash clientIp endpointUrl = .ok profile) :
    ∃ response, send (sessionUrl endpointUrl username serverHash) = .ok response ∧
      (200 ≤ response.status ∧ response.status < 300 ∧ response.status ≠ 204) ∧ response.json = .ok profile := by
  unfold verifySessionWithUrl at h
  cases hsend : send (sessionUrl endpointUrl username serverHash) with
  | error e =>
    rw [hsend] at h
    cases h
  | ok response =>
    rw [hsend] at h
    dsimp only at h
    split_ifs at h with hnone hstatus
    refine ⟨response, rfl, ⟨hstatus.1, hstatus.2, hnone⟩, ?_⟩
    cases hjson : response.json with
    | error e =>
      rw [hjson] at h
      cases h
    | ok verified =>
      rw [hjson] at h
      cases h
      rfl

/-- Whoever gets through the login in online mode, with whatever name: the
session server was asked, where the configuration says, for that very name and
for the hash of the secret the connection is now encrypted with, and for nothing
else that the name could have smuggled in; and the profile is its answer. -/
theorem session_request_identifies {env : LoginEnv} {send : String → Except String Response}
    (hsend : env.verifySession = verifySessionWithUrl send) (honline : env.config.onlineMode = true)
    (hfragment : '#' ∉ (env.config.sessionServerUrl.getD defaultMojangSessionServer).toList)
    {handshake : HandshakePacket} {s s' : ActiveStream} {profile : PlayerProfile}
    (h : handleLoginAuth env handshake s = (.ok profile, s')) :
    ∃ first username secret url response, s.peer.reads.head? = some (.packet first) ∧ IsLoginStart first username ∧
      s'.secret = some secret ∧ Vouched env send profile url username secret response := by
  obtain ⟨first, second, username, cipherSecret, cipherToken, secret, hauth⟩ := handleLoginAuth_ok honline h
  have hsession := hauth.session
  rw [hsend] at hsession
  obtain ⟨response, hasked, hsuccess, hanswer⟩ := verifySessionWithUrl_ok hsession
  obtain ⟨hlocation, hparams⟩ := sessionUrl_reads hfragment username
    (mojangSha1Digest env.lib.sha1 "" secret env.publicKeyDer)
  refine ⟨first, username, secret, _, response, ?_, hauth.start, hauth.encrypted, hasked, hsuccess, hanswer, hlocation,
    hparams⟩
  rw [hauth.reads]
  rfl

/-- A session server that knows Steve. -/
def knowsSteve (_url : String) : Except String Response := .ok ⟨200, "200 OK", .ok ⟨.nil, "Steve", []⟩⟩

def vouchingLogin : LoginEnv := { onlineLogin with verifySession := verifySessionWithUrl knowsSteve }

theorem session_request_identifies_steve :
    ∃ first username secret url response, answering.peer.reads.head? = some (.packet first) ∧
      IsLoginStart first username ∧ (handleLoginAuth vouchingLogin onlineHandshake answering).2.secret = some secret ∧
      Vouched vouchingLogin knowsSteve ⟨.nil, "Steve", []⟩ url username secret response := by
  have h : (handleLoginAuth vouchingLogin onlineHandshake answering).1 = .ok ⟨.nil, "Steve", []⟩ := by
    decide +kernel
  exact session_request_identifies rfl rfl (by decide) (Prod.ext h rfl)

end FrameMC

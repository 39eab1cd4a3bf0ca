import FrameMC.Routing.CommandHooks

/-!
# What a completion of `/server` selects

Where no script has a suggestion, `handle_client_packet` completes `/server`
with the names of the servers. It looks for names that begin with all of the
text after `/server `, trimmed, but has the client replace what follows the last
space. The two are the same word exactly when only spaces are between
(`completion_selects_iff`).
-/

namespace FrameMC

open ByteStream

/-- A request to complete `/server `, for which the scripts have nothing. -/
structure AsksCompletion (env : Env) (session : PlayerSession) (packet : RawPacket) (req : TabCompleteRequestPacket) :
    Prop where
  request : TabCompleteRequestPacket.decode packet session.protocolVersion = .ok req
  ascii : ∀ c ∈ req.text.toList, c.toNat < 128
  server : RustStr.startsWith req.text "/server " = true
  unscripted : env.scriptHost.evalTabComplete ⟨session.profile.name, req.text, session.currentServer⟩ = []
  unprotected : isProtectedPluginChannel packet = false
  /-- Below protocol 764 the packet may also be a command. -/
  unclaimed : ∀ text, RaisesCommand packet session.protocolVersion text → (decided env session text).claims = false

/-- The proxy's own answer. -/
def completionResponse (config : ProxyConfig) (req : TabCompleteRequestPacket) : TabCompleteResponsePacket where
  transactionId := req.transactionId
  start := (completionRange req.text).1
  length := (completionRange req.text).2
  matches' := fallbackSuggestions (config.servers.map (·.1)) req.text

/-- What is sent for an answer: a packet to the client, and none if there are no suggestions. -/
def sendCompletion (packet : RawPacket) (response : TabCompleteResponsePacket) (v : Int) : Play Bool :=
  if response.matches'.isEmpty then do
    writeBackend packet
    pure true
  else do
    writeClient (response.encodeWithVersion v) .own
    pure true

/-- The text with the range replaced by a suggestion. -/
def accept (text : String) (start length : Int32) (suggestion : String) : String :=
  String.ofList (text.toList.take (asUsize start) ++ suggestion.toList ++
    text.toList.drop (asUsize start + asUsize length))

def spaces (k : Nat) : String := String.ofList (List.replicate k ' ')

theorem spaces_toList (k : Nat) : (spaces k).toList = List.replicate k ' ' := String.toList_ofList

/-- Accepting the suggestion gives the command that selects the server of that name. -/
structure Selects (servers : List String) (text : String) (response : TabCompleteResponsePacket) (name : String) :
    Prop where
  configured : name ∈ servers
  start : 0 ≤ response.start
  length : 0 ≤ response.length
  within : asUsize response.start + asUsize response.length ≤ text.toList.length
  accepted : ∃ k, accept text response.start response.length name = "/server " ++ spaces k ++ name

/-- Up to the last space there is nothing but `/server` and spaces. -/
def OneWord (text : String) : Prop := ∃ k word, text = "/server " ++ spaces k ++ word ∧ ' ' ∉ word.toList

/-- What the names are compared with. -/
def serverArg (text : String) : String := RustStr.trim (String.ofList (text.toList.drop "/server ".toList.length))

/-! ## The last space -/

section LastSpace

variable {text : String} {before word : List Char}

theorem exists_lastSpace (h : ' ' ∈ text.toList) :
    ∃ before word, text.toList = before ++ ' ' :: word ∧ ' ' ∉ word := by
  obtain ⟨front, back, hsplit, hfront⟩ := List.eq_append_cons_of_mem (List.mem_reverse.mpr h)
  refine ⟨back.reverse, front.reverse, ?_, mt List.mem_reverse.mp hfront⟩
  have := congrArg List.reverse hsplit
  rwa [List.reverse_reverse, List.reverse_append, List.reverse_cons, List.append_assoc, List.singleton_append] at this

/-- The last space is in one place only. -/
theorem lastSpace_unique {before' word' : List Char} (h : before ++ ' ' :: word = before' ++ ' ' :: word')
    (hword : ' ' ∉ word) (hword' : ' ' ∉ word') : before = before' ∧ word = word' := by
  have hlength {b w b' w' : List Char} (h : b ++ ' ' :: w = b' ++ ' ' :: w') (hw' : ' ' ∉ w') :
      b'.length ≤ b.length → b.length = b'.length := by
    intro hle
    by_contra hne
    have hat := congrArg (·[b.length]?) h
    simp only [List.getElem?_append_right (Nat.le_refl b.length), Nat.sub_self, List.getElem?_cons_zero] at hat
    obtain ⟨i, hi⟩ : ∃ i, b.length = b'.length + (i + 1) := ⟨b.length - b'.length - 1, by omega⟩
    rw [hi, List.getElem?_append_right (Nat.le_add_right _ _), Nat.add_sub_cancel_left, List.getElem?_cons_succ] at hat
    exact hw' (List.mem_of_getElem? hat.symm)
  have hsame : before.length = before'.length := by
    rcases Nat.le_total before'.length before.length with hle | hle
    · exact hlength h hword' hle
    · exact (hlength h.symm hword hle).symm
  obtain ⟨hbefore, hcons⟩ := List.append_inj h hsame
  exact ⟨hbefore, (List.cons.inj hcons).2⟩

/-- In ASCII the last space's byte index is the number of characters before it. -/
theorem rfindSpace_eq (hascii : ∀ c ∈ text.toList, c.toNat < 128) (htext : text.toList = before ++ ' ' :: word)
    (hword : ' ' ∉ word) : rfindSpace text = some before.length := by
  have hspace (c : Char) (hc : c.toNat < 128) : c.toUInt8 = 0x20 ↔ c = ' ' := by
    constructor
    · intro h
      have := congrArg UInt8.toNat h
      rw [toUInt8_toNat hc] at this
      exact Char.toNat_inj.mp this
    · rintro rfl
      rfl
  have hat : (asBytes text)[before.length]? = some 0x20 := by
    rw [asBytes_of_ascii hascii, htext, List.map_append, List.map_cons, ← List.length_map Char.toUInt8,
      List.getElem?_append_right (Nat.le_refl _), Nat.sub_self]
    rfl
  have hbehind (i : Nat) : (asBytes text)[before.length + 1 + i]? ≠ some 0x20 := by
    rw [asBytes_of_ascii hascii, htext, List.map_append, List.map_cons, Nat.add_assoc, Nat.add_comm 1 i,
      ← List.length_map Char.toUInt8, List.getElem?_append_right (Nat.le_add_right _ _), Nat.add_sub_cancel_left,
      List.getElem?_cons_succ, List.getElem?_map]
    intro h
    obtain ⟨c, hc, hbyte⟩ := Option.map_eq_some_iff.mp h
    have hmem := List.mem_of_getElem? hc
    have hlow := hascii c (by
      rw [htext]
      exact List.mem_append_right _ (List.mem_cons_of_mem _ hmem))
    exact hword ((hspace c hlow).mp hbyte ▸ hmem)
  have hlength : (asBytes text).length = before.length + 1 + word.length := by
    rw [asBytes_of_ascii hascii, List.length_map, htext, List.length_append, List.length_cons]
    omega
  rw [rfindSpace, hlength, List.range_add, List.filter_append, List.filter_map, List.range_succ, List.filter_append]
  have hnone : (List.range word.length).filter
      ((fun i => decide ((asBytes text)[i]? = some 0x20)) ∘ fun i => before.length + 1 + i) = [] := by
    rw [List.filter_eq_nil_iff]
    intro i _
    exact mt of_decide_eq_true (hbehind i)
  rw [hnone, List.map_nil, List.append_nil, List.filter_singleton, decide_eq_true hat]
  exact List.getLast?_concat

/-- The range from the last space to the end. -/
theorem completionRange_eq (hascii : ∀ c ∈ text.toList, c.toNat < 128) (hfits : StringFits text)
    (htext : text.toList = before ++ ' ' :: word) (hword : ' ' ∉ word) :
    0 ≤ (completionRange text).1 ∧ 0 ≤ (completionRange text).2 ∧
      asUsize (completionRange text).1 = before.length + 1 ∧ asUsize (completionRange text).2 = word.length := by
  have hlength : (asBytes text).length = before.length + 1 + word.length := by
    rw [asBytes_of_ascii hascii, List.length_map, htext, List.length_append, List.length_cons]
    omega
  rw [StringFits, hlength] at hfits
  have hrest : before.length + 1 + word.length - before.length - 1 = word.length := by omega
  rw [completionRange, rfindSpace_eq hascii htext hword, hlength]
  dsimp only
  rw [hrest]
  exact ⟨asI32_nonneg (by omega), asI32_nonneg (by omega), asUsize_asI32 (by omega), asUsize_asI32 (by omega)⟩

end LastSpace

/-! ## The packet -/

section Packet

variable {env : Env} {packet : RawPacket} {req : TabCompleteRequestPacket} {s : PlayStateMachine}

theorem AsksCompletion.fits {session : PlayerSession} (h : AsksCompletion env session packet req) :
    StringFits req.text := by
  have hrequest := h.request
  rw [TabCompleteRequestPacket.decode] at hrequest
  split_ifs at hrequest
  obtain ⟨⟨transactionId, cursor⟩, -, hrequest⟩ := Outcome.bind_eq_ok.mp hrequest
  obtain ⟨⟨text, rest⟩, hread, hrequest⟩ := Outcome.bind_eq_ok.mp hrequest
  rw [← Outcome.ok.inj hrequest]
  exact readString_length_lt hread

theorem AsksCompletion.decomposed {session : PlayerSession} (h : AsksCompletion env session packet req) :
    ∃ before word, req.text.toList = before ++ ' ' :: word ∧ ' ' ∉ word := by
  apply exists_lastSpace
  have hstart := List.isPrefixOf_iff_prefix.mp h.server
  exact hstart.subset (by decide)

/-- A packet that is no command goes past the scripts. -/
theorem interceptCommand_none (h : ∀ text, ¬ RaisesCommand packet s.session.protocolVersion text)
    (hunprotected : isProtectedPluginChannel packet = false) :
    interceptCommand env packet s = (.ok none, s) := by
  rw [interceptCommand, Effect.get_bind]
  by_cases hcommand : ServerboundChatCommand.isCommandPacket packet.id s.session.protocolVersion = true
  · rw [if_neg (not_not_intro hcommand)]
    cases hdecode : ServerboundChatCommand.decodeWithVersion packet s.session.protocolVersion with
    | err e => rfl
    | panic => rfl
    | ok cmdPacket =>
      dsimp only
      rw [if_pos, Effect.pure_apply]
      by_contra hplain
      rw [not_and, not_not] at hplain
      exact h cmdPacket.command ⟨hdecode, hplain, hunprotected⟩
  · rw [if_pos hcommand]
    rfl

/-- The request comes to the completion, with nothing done before. -/
theorem handle_asked (h : AsksCompletion env s.session packet req) :
    handleClientPacket env packet s = completeOrForward env packet (noteClose packet s) := by
  by_cases hraises : ∃ text, RaisesCommand packet s.session.protocolVersion text
  · obtain ⟨text, hraises⟩ := hraises
    have hunclaimed := h.unclaimed text hraises
    have hnothing : decided env s.session text = {} := decision_unclaimed hunclaimed
    rw [handle_command hraises, hunclaimed, hnothing]
    rfl
  · rw [handleClientPacket, h.unprotected, if_neg Bool.false_ne_true, Effect.modify_bind, routeClientPacket,
      Effect.bind_apply, interceptCommand_none (by rw [noteClose_session]; exact not_exists.mp hraises) h.unprotected]
    rfl

/-- And there it is given the proxy's own answer. -/
theorem handle_completion (h : AsksCompletion env s.session packet req) :
    handleClientPacket env packet s =
      sendCompletion packet (completionResponse s.config req) s.session.protocolVersion (noteClose packet s) := by
  have hid : TabCompleteRequestPacket.isTabCompleteRequest packet.id s.session.protocolVersion = true := by
    by_contra hnot
    have := h.request
    rw [TabCompleteRequestPacket.decode, if_pos hnot] at this
    cases this
  rw [handle_asked h]
  have hsession := noteClose_session packet s
  have hconfig := noteClose_config packet s
  generalize noteClose packet s = s' at hsession hconfig
  rw [← hsession] at h hid ⊢
  rw [← hconfig, completeOrForward, Effect.bind_apply, interceptTabComplete, Effect.get_bind,
    if_neg (not_not_intro hid), h.request]
  dsimp only
  rw [h.unscripted, List.isEmpty_nil, if_pos rfl, sendCompletion, completionResponse]
  dsimp only
  by_cases hnone : (fallbackSuggestions (s'.config.servers.map (·.1)) req.text).isEmpty = true
  · rw [if_pos hnone, if_pos hnone]
    rfl
  · rw [if_neg hnone, if_neg hnone, Effect.bind_apply, Effect.bind_apply]
    rcases writeClient _ .own s' with ⟨_ | _, _⟩ <;> rfl

end Packet

/-! ## The suggestions -/

section Suggestions

variable {servers : List String} {text name : String}

theorem startsWith_empty (s : String) : RustStr.startsWith s "" = true := by
  rw [RustStr.startsWith]
  exact List.isPrefixOf_nil_left

theorem mem_fallbackSuggestions (hserver : RustStr.startsWith text "/server " = true) :
    name ∈ fallbackSuggestions servers text ↔ name ∈ servers ∧ RustStr.startsWith name (serverArg text) = true := by
  rw [fallbackSuggestions, RustStr.stripPrefix, if_pos hserver]
  dsimp only
  rw [List.mem_filter, ← serverArg, Bool.or_eq_true, decide_eq_true_iff]
  constructor
  · rintro ⟨hmem, hempty | hname⟩
    · exact ⟨hmem, by rw [hempty, startsWith_empty]⟩
    · exact ⟨hmem, hname⟩
  · exact fun h => ⟨h.1, Or.inr h.2⟩

/-- Up to and with the last space the text is `/server ` and spaces. -/
def BlankBefore (before : List Char) : Prop := ∃ k, before ++ [' '] = "/server ".toList ++ List.replicate k ' '

theorem oneWord_iff {before word : List Char} (htext : text.toList = before ++ ' ' :: word) (hword : ' ' ∉ word) :
    OneWord text ↔ BlankBefore before := by
  constructor
  · rintro ⟨k, w, rfl, hw⟩
    have hserver : ("/server " ++ spaces k ++ w).toList =
        "/server".toList ++ List.replicate k ' ' ++ ' ' :: w.toList := by
      rw [String.toList_append, String.toList_append, spaces_toList, List.append_assoc, List.append_assoc,
        ← List.singleton_append (l := w.toList), ← List.append_assoc (List.replicate k ' '),
        ← List.replicate_succ', List.replicate_succ]
      rfl
    rw [hserver] at htext
    obtain ⟨rfl, -⟩ := lastSpace_unique htext hw hword
    refine ⟨k, ?_⟩
    rw [List.append_assoc, ← List.replicate_succ', List.replicate_succ]
    rfl
  · rintro ⟨k, hk⟩
    refine ⟨k, String.ofList word, ?_, by rwa [String.toList_ofList]⟩
    apply String.toList_inj.mp
    have hend : (String.ofList word).toList = word := String.toList_ofList
    rw [String.toList_append, String.toList_append, spaces_toList, hend, ← hk, htext, List.append_assoc,
      List.singleton_append]

/-- A name put in place of the last word selects its server if the rest is blank. -/
theorem accepted_iff {before word : List Char} (hascii : ∀ c ∈ text.toList, c.toNat < 128) (hfits : StringFits text)
    (htext : text.toList = before ++ ' ' :: word) (hword : ' ' ∉ word) :
    (∃ k, accept text (completionRange text).1 (completionRange text).2 name = "/server " ++ spaces k ++ name) ↔
      BlankBefore before := by
  obtain ⟨-, -, hstart, hlength⟩ := completionRange_eq hascii hfits htext hword
  have hsplit : text.toList = (before ++ [' ']) ++ word := by rw [htext, List.append_assoc, List.singleton_append]
  have hbefore : before.length + 1 = (before ++ [' ']).length := by rw [List.length_append, List.length_singleton]
  have haccept : (accept text (completionRange text).1 (completionRange text).2 name).toList =
      before ++ [' '] ++ name.toList := by
    rw [accept, hstart, hlength, String.toList_ofList, hsplit, hbefore, List.take_left, ← List.length_append,
      List.drop_length, List.append_nil]
  apply exists_congr
  intro k
  rw [← String.toList_inj, haccept, String.toList_append, String.toList_append, spaces_toList]
  exact List.append_left_inj _

end Suggestions

/-- The proxy answers with the names that begin with the trimmed text, and every
one of them, put in place of the range, selects its server exactly when the text
is one word behind `/server` and spaces, or there is no name to suggest. -/
theorem completion_selects_iff {env : Env} {packet : RawPacket} {req : TabCompleteRequestPacket}
    {s : PlayStateMachine} (h : AsksCompletion env s.session packet req) :
    handleClientPacket env packet s =
        sendCompletion packet (completionResponse s.config req) s.session.protocolVersion (noteClose packet s) ∧
      ((∀ name ∈ (completionResponse s.config req).matches',
          Selects (s.config.servers.map (·.1)) req.text (completionResponse s.config req) name) ↔
        OneWord req.text ∨
          ∀ name ∈ s.config.servers.map (·.1), RustStr.startsWith name (serverArg req.text) = false) := by
  refine ⟨handle_completion h, ?_⟩
  obtain ⟨before, word, htext, hword⟩ := h.decomposed
  have hrange := completionRange_eq h.ascii h.fits htext hword
  have haccepted {name : String} := @accepted_iff req.text name before word h.ascii h.fits htext hword
  rw [oneWord_iff htext hword]
  constructor
  · intro hall
    by_cases hsome : ∃ name ∈ s.config.servers.map (·.1), RustStr.startsWith name (serverArg req.text) = true
    · obtain ⟨name, hname, hstarts⟩ := hsome
      have hselects := hall name ((mem_fallbackSuggestions h.server).mpr ⟨hname, hstarts⟩)
      exact Or.inl (haccepted.mp hselects.accepted)
    · refine Or.inr fun name hname => ?_
      rw [Bool.eq_false_iff]
      exact fun hstarts => hsome ⟨name, hname, hstarts⟩
  · intro hcond name hname
    obtain ⟨hconfigured, hstarts⟩ := (mem_fallbackSuggestions h.server).mp hname
    refine ⟨hconfigured, hrange.1, hrange.2.1, ?_, haccepted.mpr ?_⟩
    · change asUsize (completionRange req.text).1 + asUsize (completionRange req.text).2 ≤ _
      rw [hrange.2.2.1, hrange.2.2.2, htext, List.length_append, List.length_cons]
      omega
    · rcases hcond with hblank | hnone
      · exact hblank
      · rw [hnone name hconfigured] at hstarts
        cases hstarts

/-- A request at protocol 776. -/
def completionRequest (text : String) : RawPacket := ⟨0x0F, encodeVarint 1 ++ putString text⟩

theorem completionRequest_asks {text : String} (hascii : ∀ c ∈ text.toList, c.toNat < 128) (hfits : StringFits text)
    (hserver : RustStr.startsWith text "/server " = true)
    (hunprotected : isProtectedPluginChannel (completionRequest text) = false) :
    AsksCompletion (smallEnv []) (smallSession 776).session (completionRequest text) ⟨1, text⟩ := by
  have hquiet (command : String) : decided (smallEnv []) (smallSession 776).session command = {} := rfl
  refine ⟨?_, hascii, hserver, rfl, hunprotected, fun command _ => by rw [hquiet]; rfl⟩
  exact @TabCompleteRequestPacket.decode_encode 776 ⟨1, text⟩ hfits

/-- With `lobby` and `survival` to choose from. -/
theorem completion_selects_lob :
    handleClientPacket (smallEnv []) (completionRequest "/server lob") (smallSession 776) =
        sendCompletion (completionRequest "/server lob")
          (completionResponse (smallSession 776).config ⟨1, "/server lob"⟩) 776
          (noteClose (completionRequest "/server lob") (smallSession 776)) ∧
      ((∀ name ∈ (completionResponse (smallSession 776).config ⟨1, "/server lob"⟩).matches',
          Selects ["lobby", "survival"] "/server lob"
            (completionResponse (smallSession 776).config ⟨1, "/server lob"⟩) name) ↔
        OneWord "/server lob" ∨
          ∀ name ∈ ["lobby", "survival"], RustStr.startsWith name (serverArg "/server lob") = false) :=
  completion_selects_iff
    (completionRequest_asks (ascii_of_all (by decide)) (by decide) (by decide) (by decide +kernel))

/-- A space too many, and the suggested name comes behind the word it completes. -/
theorem completion_doubles_lob :
    (completionResponse (smallSession 776).config ⟨1, "/server lob "⟩).matches' = ["lobby"] ∧
      (handleClientPacket (smallEnv []) (completionRequest "/server lob ") (smallSession 776)).2.client.log =
        [.sent ((completionResponse (smallSession 776).config ⟨1, "/server lob "⟩).encodeWithVersion 776) none .own] ∧
      accept "/server lob " (completionResponse (smallSession 776).config ⟨1, "/server lob "⟩).start
        (completionResponse (smallSession 776).config ⟨1, "/server lob "⟩).length "lobby" = "/server lob lobby" ∧
      ¬ Selects ["lobby", "survival"] "/server lob "
        (completionResponse (smallSession 776).config ⟨1, "/server lob "⟩) "lobby" := by
  have hmatches : (completionResponse (smallSession 776).config ⟨1, "/server lob "⟩).matches' = ["lobby"] := by
    decide +kernel
  refine ⟨hmatches, ?_, by decide +kernel, ?_⟩
  · have hasks := completionRequest_asks (ascii_of_all (by decide)) (by decide) (by decide)
      (show isProtectedPluginChannel (completionRequest "/server lob ") = false by decide +kernel)
    rw [handle_completion hasks, sendCompletion, hmatches]
    rfl
  · intro h
    obtain ⟨k, hk⟩ := (@accepted_iff "/server lob " "lobby" "/server lob".toList [] (ascii_of_all (by decide))
      (by decide) rfl (by decide)).mp h.accepted
    have hb : 'b' ∈ "/server ".toList ++ List.replicate k ' ' := by
      rw [← hk]
      decide
    rcases List.mem_append.mp hb with hb | hb
    · exact absurd hb (by decide)
    · exact absurd (List.eq_of_mem_replicate hb) (by decide)

end FrameMC

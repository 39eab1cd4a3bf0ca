import FrameMC.Routing.Completion
import FrameMC.Routing.Delivery
import FrameMC.Script.Composition

/-!
# How a completion request is answered

A request that the command hooks leave alone is answered by the scripts, by
the proxy itself where they have nothing, and by the backend where it has
nothing either. `completion_answered` says what the client reads: the merged
suggestions, each once, for the word behind the last space.
-/

namespace FrameMC

open ByteStream Effect

/-! ## The word to replace -/

/-- The last element of an increasing list is its greatest. -/
theorem le_getLast_of_pairwise {l : List Nat} (hl : l.Pairwise (· < ·)) {i j : Nat} (hi : l.getLast? = some i)
    (hj : j ∈ l) : j ≤ i := by
  obtain ⟨front, rfl⟩ := List.getLast?_eq_some_iff.mp hi
  rcases List.mem_append.mp hj with hj | hj
  · exact Nat.le_of_lt ((List.pairwise_append.mp hl).2.2 j hj i (List.mem_singleton_self i))
  · rw [List.mem_singleton.mp hj]

/-- The range of a completion: a word without spaces at the end of the text,
at its start or behind a space. -/
structure LastWord (text : String) (start length : Int32) (before word : List UInt8) : Prop where
  split : asBytes text = before ++ word
  start : start = asI32 before.length
  length : length = asI32 word.length
  word : 0x20 ∉ word
  before : before = [] ∨ before.getLast? = some 0x20

theorem completionRange_lastWord (text : String) :
    ∃ before word, LastWord text (completionRange text).1 (completionRange text).2 before word := by
  rw [completionRange]
  have hmem (i : Nat) : i ∈ (List.range (asBytes text).length).filter (fun i => (asBytes text)[i]? = some 0x20) ↔
      (asBytes text)[i]? = some 0x20 := by
    rw [List.mem_filter, List.mem_range, decide_eq_true_iff]
    refine and_iff_right_of_imp fun h => ?_
    exact (List.getElem?_eq_some_iff.mp h).1
  cases hlast : rfindSpace text with
  | none =>
    rw [rfindSpace, List.getLast?_eq_none_iff] at hlast
    refine ⟨[], asBytes text, rfl, rfl, rfl, fun hspace => ?_, Or.inl rfl⟩
    obtain ⟨i, hi⟩ := List.mem_iff_getElem?.mp hspace
    have := (hmem i).mpr hi
    rw [hlast] at this
    cases this
  | some i =>
    rw [rfindSpace] at hlast
    have hspace := (hmem i).mp (List.mem_of_getLast? hlast)
    obtain ⟨hlt, hat⟩ := List.getElem?_eq_some_iff.mp hspace
    refine ⟨(asBytes text).take (i + 1), (asBytes text).drop (i + 1), (List.take_append_drop ..).symm, ?_, ?_, ?_, ?_⟩
    · rw [List.length_take, Nat.min_eq_left hlt]
    · rw [List.length_drop]
      exact congrArg asI32 (Nat.sub_sub ..)
    · intro hword
      obtain ⟨j, hj⟩ := List.mem_iff_getElem?.mp hword
      rw [List.getElem?_drop] at hj
      have hle := le_getLast_of_pairwise (List.pairwise_lt_range.filter _) hlast ((hmem _).mpr hj)
      omega
    · right
      rw [List.take_add_one, hspace]
      exact List.getLast?_concat

/-! ## The answer -/

/-- A completion request that the command hooks leave alone. -/
structure Completes (env : Env) (session : PlayerSession) (packet : RawPacket) (req : TabCompleteRequestPacket) :
    Prop where
  request : TabCompleteRequestPacket.decode packet session.protocolVersion = .ok req
  unprotected : isProtectedPluginChannel packet = false
  unclaimed : ∀ text, commandText packet session.protocolVersion = some text → (decided env session text).claims = false

/-- The suggestions for a text: the scripts', or the proxy's own where they have none. -/
def offered (env : Env) (session : PlayerSession) (config : ProxyConfig) (text : String) : List String :=
  let scripted := (suggested env.scriptHost ⟨session.profile.name, text, session.currentServer⟩).eraseDups
  if scripted.isEmpty then fallbackSuggestions (config.servers.map (·.1)) text else scripted

section Answer

variable {env : Env} {packet : RawPacket} {req : TabCompleteRequestPacket} {s : PlayStateMachine}

theorem Completes.completions (h : Completes env s.session packet req) :
    completions env s.session s.config packet = offered env s.session s.config req.text := by
  rw [FrameMC.completions, h.request, offered, ← evalTabComplete_eq]

/-- It comes to the completion with nothing done before. -/
theorem Completes.handle (h : Completes env s.session packet req) :
    handleClientPacket env packet s = completeOrForward env packet (noteClose packet s) := by
  cases htext : commandText packet s.session.protocolVersion with
  | none => exact handle_uncommanded h.unprotected htext
  | some text =>
    have hunclaimed := h.unclaimed text htext
    have hquiet : decided env s.session text = {} := decision_unclaimed hunclaimed
    rw [handle_command (raisesCommand h.unprotected htext), hunclaimed, hquiet]
    rfl

/-- What becomes of a completion request. -/
structure Answered (env : Env) (packet : RawPacket) (req : TabCompleteRequestPacket) (s : PlayStateMachine) : Prop where
  forwarded : offered env s.session s.config req.text = [] →
    handleClientPacket env packet s = carryOut env packet {} (noteClose packet s)
  answered : offered env s.session s.config req.text ≠ [] → ∃ sent start length,
    handleClientPacket env packet s = (writeClient sent .own >>= fun _ => pure true) (noteClose packet s) ∧
      (∃ before word, LastWord req.text start length before word) ∧
      ((offered env s.session s.config req.text).length ≤ 4096 →
        (∀ m ∈ offered env s.session s.config req.text, StringFits m) →
          TabCompleteResponsePacket.decode sent s.session.protocolVersion =
            .ok ⟨req.transactionId, start, length, offered env s.session s.config req.text⟩)

end Answer

/-- Two scripts that complete, one name in common. -/
def suggestingEnv : Env :=
  { smallEnv [] with
    scriptHost := ⟨[⟨none, none, some fun _ => some [some "lobby", none, some "hub"]⟩,
      ⟨none, none, some fun _ => some [some "hub", some "survival"]⟩], ⟨none, none, none⟩⟩ }

end FrameMC

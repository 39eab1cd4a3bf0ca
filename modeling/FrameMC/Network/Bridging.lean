import FrameMC.Network.Listener

/-!
# Configuration bridging

The loop of `process_connection` in the Configuration state, against what
arrives from the two peers. `Arrival` is what one round meets, and the loop is a
filter on a sequence of them: it passes on, each way, what is not on a protected
channel (`bridge_faithful`), and it stops at the first point where both sides
have finished, the backend has disconnected the client, or a read fails.
-/

namespace FrameMC

open ByteStream

/-! ## Arrivals -/

/-- What a round of the loop meets. -/
inductive Arrival where
  | fromBackend (packet : RawPacket)
  | fromClient (packet : RawPacket)
  | failure (e : ProxyError)

/-- What the rounds meet, in turn, up to a read that fails. -/
def arrivals : List Turn → List PeerRead → List PeerRead → List Arrival
  | .backend :: turns, client, backend =>
    match nextRead backend with
    | (.ok packet, backend) => .fromBackend packet :: arrivals turns client backend
    | (.error e, _) => [.failure e]
  | .client :: turns, client, backend =>
    match nextRead client with
    | (.ok packet, client) => .fromClient packet :: arrivals turns client backend
    | (.error e, _) => [.failure e]
  | _, _, _ => []

namespace Arrival

/-- The packets of the backend. -/
def backendPackets (heard : List Arrival) : List RawPacket := heard.filterMap fun
  | fromBackend packet => some packet
  | _ => none

/-- The packets of the client. -/
def clientPackets (heard : List Arrival) : List RawPacket := heard.filterMap fun
  | fromClient packet => some packet
  | _ => none

/-- What an arrival leads to on the client's wire. -/
def atClient (t : Option Nat) : Arrival → List Event
  | fromBackend packet => if isProtectedPluginChannel packet then [] else [.sent packet t .relayed]
  | fromClient packet => [.received packet t]
  | failure _ => []

/-- What it leads to on the backend's. -/
def atBackend (t : Option Nat) : Arrival → List Event
  | fromBackend packet => [.received packet t]
  | fromClient packet => if isProtectedPluginChannel packet then [] else [.sent packet t .relayed]
  | failure _ => []

/-- What it changes in the loop's variables. -/
def noted (v : Int) (b : Bridging) : Arrival → Bridging
  | fromBackend packet => if isProtectedPluginChannel packet then b else noteConfiguration v packet b
  | fromClient packet =>
    if isProtectedPluginChannel packet then b
    else if (v ≥ 766 ∧ packet.id = 0x03) ∨ (v < 766 ∧ packet.id = 0x02) then { b with clientFinished := true }
    else b
  | failure _ => b

/-- Whether the loop ends with it. -/
def exit (v : Int) : Arrival → Option Exit
  | fromBackend packet =>
    if isProtectedPluginChannel packet then none
    else if packet.id = disconnectId v then some .ended
    else none
  | fromClient _ => none
  | failure e => some (.failed e)

end Arrival

/-! ## One round -/

theorem onClient_apply {α : Type} (m : Talk α) (s : Linked) :
    onClient m s = match m s.client.peer with
      | (.ok a, peer) => (.ok a, { s with client := { s.client with peer := peer } })
      | (.error e, peer) => (.error (.failed e), { s with client := { s.client with peer := peer } }) := by
  rw [onClient, Effect.handle_apply, Effect.focus]
  rcases m s.client.peer with ⟨_ | _, _⟩ <;> rfl

theorem onBackend_apply {α : Type} (m : Talk α) (s : Linked) :
    onBackend m s = match m s.backend with
      | (.ok a, peer) => (.ok a, { s with backend := peer })
      | (.error e, peer) => (.error (.failed e), { s with backend := peer }) := by
  rw [onBackend, onBackendOr, Effect.handle_apply, Effect.focus]
  rcases m s.backend with ⟨_ | _, _⟩ <;> rfl

/-- A round's effect on the two wires; both stay reliable. -/
structure Met (t : Option Nat) (a : Arrival) (s s' : Linked) : Prop where
  clientLog : s'.client.peer.wire.log = s.client.peer.wire.log ++ a.atClient t
  backendLog : s'.backend.wire.log = s.backend.wire.log ++ a.atBackend t
  clientReliable : s'.client.peer.wire.Reliable
  backendReliable : s'.backend.wire.Reliable

/-- What the rounds behind an arrival meet. -/
def Arrival.followed (a : Arrival) (turns : List Turn) (s : Linked) : List Arrival :=
  match a with
  | failure _ => []
  | _ => arrivals turns s.client.peer.reads s.backend.reads

/-- One more packet on a wire that takes everything. -/
def Wire.delivered (w : Wire) (packet : RawPacket) (t : Option Nat) : Wire :=
  { w with log := w.log ++ [.sent packet t .relayed], writes := w.writes + 1 }

section Round

variable {lib : Library} {v : Int} {t : Option Nat} {b : Bridging} {s : Linked} {packet : RawPacket}
  {reads : List PeerRead}

theorem readBackend_ok (h : nextRead s.backend.reads = (.ok packet, reads)) :
    onBackend (Talk.read t) s = (.ok packet, { s with backend := ⟨s.backend.wire.received packet t, reads⟩ }) := by
  rw [onBackend_apply, Talk.read, h]

theorem readClient_ok (h : nextRead s.client.peer.reads = (.ok packet, reads)) :
    onClient (Talk.read t) s =
      (.ok packet, { s with client := { s.client with peer := ⟨s.client.peer.wire.received packet t, reads⟩ } }) := by
  rw [onClient_apply, Talk.read, h]

theorem relayToClient_ok (h : s.client.peer.wire.Reliable) :
    onClient (Talk.write packet t .relayed) s = (.ok (), { s with client := { s.client with
      peer := { s.client.peer with wire := s.client.peer.wire.delivered packet t } } }) := by
  rw [onClient_apply, Talk.write, h.write]
  rfl

theorem relayToBackend_ok (h : s.backend.wire.Reliable) :
    onBackend (Talk.write packet t .relayed) s =
      (.ok (), { s with backend := { s.backend with wire := s.backend.wire.delivered packet t } }) := by
  rw [onBackend_apply, Talk.write, h.write]
  rfl

/-- A round on the backend's side. -/
theorem bridgeTurn_backend (hclient : s.client.peer.wire.Reliable) (hbackend : s.backend.wire.Reliable)
    (hread : nextRead s.backend.reads = (.ok packet, reads)) :
    (bridgeTurn lib v t b .backend s).2.client.peer.reads = s.client.peer.reads ∧
      (bridgeTurn lib v t b .backend s).2.backend.reads = reads ∧
      Met t (.fromBackend packet) s (bridgeTurn lib v t b .backend s).2 ∧
      (bridgeTurn lib v t b .backend s).1 = match (Arrival.fromBackend packet).exit v with
        | some exit => .error exit
        | none => .ok ((Arrival.fromBackend packet).noted v b) := by
  rw [bridgeTurn, Effect.bind_apply, readBackend_ok hread]
  simp only [Arrival.exit, Arrival.noted]
  by_cases hprotected : isProtectedPluginChannel packet = true
  · simp only [if_pos hprotected]
    refine ⟨rfl, rfl, ⟨?_, rfl, hclient, hbackend⟩, rfl⟩
    rw [Arrival.atClient, if_pos hprotected]
    exact (List.append_nil _).symm
  · simp only [if_neg hprotected]
    have hrelay := @relayToClient_ok t { s with backend := ⟨s.backend.wire.received packet t, reads⟩ } packet hclient
    rw [Effect.bind_apply, hrelay]
    have hmet : Met t (.fromBackend packet) s { s with
        client := { s.client with peer := { s.client.peer with wire := s.client.peer.wire.delivered packet t } }
        backend := ⟨s.backend.wire.received packet t, reads⟩ } := by
      refine ⟨?_, rfl, hclient, hbackend⟩
      rw [Arrival.atClient, if_neg hprotected]
      rfl
    split_ifs
    · exact ⟨rfl, rfl, hmet, rfl⟩
    · exact ⟨rfl, rfl, hmet, rfl⟩

/-- A round on the client's side. -/
theorem bridgeTurn_client (hclient : s.client.peer.wire.Reliable) (hbackend : s.backend.wire.Reliable)
    (hread : nextRead s.client.peer.reads = (.ok packet, reads)) :
    (bridgeTurn lib v t b .client s).2.client.peer.reads = reads ∧
      (bridgeTurn lib v t b .client s).2.backend.reads = s.backend.reads ∧
      Met t (.fromClient packet) s (bridgeTurn lib v t b .client s).2 ∧
      (bridgeTurn lib v t b .client s).1 = .ok ((Arrival.fromClient packet).noted v b) := by
  rw [bridgeTurn, Effect.bind_apply, readClient_ok hread]
  simp only [Arrival.noted]
  by_cases hprotected : isProtectedPluginChannel packet = true
  · simp only [if_pos hprotected]
    refine ⟨rfl, rfl, ⟨rfl, ?_, hclient, hbackend⟩, rfl⟩
    rw [Arrival.atBackend, if_pos hprotected]
    exact (List.append_nil _).symm
  · simp only [if_neg hprotected]
    have hrelay := @relayToBackend_ok t
      { s with client := { s.client with peer := ⟨s.client.peer.wire.received packet t, reads⟩ } } packet hbackend
    rw [Effect.bind_apply, hrelay]
    have hmet : Met t (.fromClient packet) s { s with
        client := { s.client with peer := ⟨s.client.peer.wire.received packet t, reads⟩ }
        backend := { s.backend with wire := s.backend.wire.delivered packet t } } := by
      refine ⟨rfl, ?_, hclient, hbackend⟩
      rw [Arrival.atBackend, if_neg hprotected]
      rfl
    split_ifs
    · exact ⟨rfl, rfl, hmet, rfl⟩
    · exact ⟨rfl, rfl, hmet, rfl⟩

/-- A round, by what it meets. -/
theorem bridgeTurn_arrival {turn : Turn} (hturn : turn ≠ .shutdown) (hclient : s.client.peer.wire.Reliable)
    (hbackend : s.backend.wire.Reliable) :
    ∃ a, (∀ turns, arrivals (turn :: turns) s.client.peer.reads s.backend.reads =
        a :: a.followed turns (bridgeTurn lib v t b turn s).2) ∧
      Met t a s (bridgeTurn lib v t b turn s).2 ∧
      (bridgeTurn lib v t b turn s).1 = match a.exit v with
        | some exit => .error exit
        | none => .ok (a.noted v b) := by
  cases turn with
  | shutdown => exact absurd rfl hturn
  | backend =>
    rcases hread : nextRead s.backend.reads with ⟨result, reads⟩
    cases result with
    | error e =>
      refine ⟨.failure e, fun turns => by rw [arrivals, hread]; rfl, ?_⟩
      rw [bridgeTurn, Effect.bind_apply, onBackend_apply, Talk.read, hread]
      exact ⟨⟨(List.append_nil _).symm, (List.append_nil _).symm, hclient, hbackend⟩, rfl⟩
    | ok packet =>
      obtain ⟨hreads, hreads', hmet, hresult⟩ := @bridgeTurn_backend lib v t b s packet reads hclient hbackend hread
      refine ⟨.fromBackend packet, fun turns => ?_, hmet, hresult⟩
      rw [arrivals, hread, Arrival.followed, hreads, hreads']
      exact nofun
  | client =>
    rcases hread : nextRead s.client.peer.reads with ⟨result, reads⟩
    cases result with
    | error e =>
      refine ⟨.failure e, fun turns => by rw [arrivals, hread]; rfl, ?_⟩
      rw [bridgeTurn, Effect.bind_apply, onClient_apply, Talk.read, hread]
      exact ⟨⟨(List.append_nil _).symm, (List.append_nil _).symm, hclient, hbackend⟩, rfl⟩
    | ok packet =>
      obtain ⟨hreads, hreads', hmet, hresult⟩ := @bridgeTurn_client lib v t b s packet reads hclient hbackend hread
      refine ⟨.fromClient packet, fun turns => ?_, hmet, hresult⟩
      rw [arrivals, hread, Arrival.followed, hreads, hreads']
      exact nofun

end Round

/-! ## The loop on arrivals -/

/-- Both sides have finished. -/
def Bridging.Ready (b : Bridging) : Prop := b.clientFinished = true ∧ b.backendFinished = true

instance (b : Bridging) : Decidable b.Ready := inferInstanceAs (Decidable (_ ∧ _))

/-- The loop as a function of what arrives: its outcome, and the arrivals it has heard. -/
def bridged (v : Int) (b : Bridging) : List Arrival → Except Exit SessionRegistryCache × List Arrival
  | [] => if b.Ready then (.ok b.cache, []) else (.error .waiting, [])
  | a :: rest =>
    if b.Ready then (.ok b.cache, [])
    else match a.exit v with
      | some exit => (.error exit, [a])
      | none => ((bridged v (a.noted v b) rest).1, a :: (bridged v (a.noted v b) rest).2)

/-- Many rounds' effect on the two wires. -/
structure AllMet (t : Option Nat) (heard : List Arrival) (s s' : Linked) : Prop where
  clientLog : s'.client.peer.wire.log = s.client.peer.wire.log ++ heard.flatMap (Arrival.atClient t)
  backendLog : s'.backend.wire.log = s.backend.wire.log ++ heard.flatMap (Arrival.atBackend t)

theorem AllMet.nil (t : Option Nat) (s : Linked) : AllMet t [] s s :=
  ⟨(List.append_nil _).symm, (List.append_nil _).symm⟩

theorem AllMet.cons {t : Option Nat} {a : Arrival} {heard : List Arrival} {s s' s'' : Linked} (h : Met t a s s')
    (h' : AllMet t heard s' s'') : AllMet t (a :: heard) s s'' := by
  refine ⟨?_, ?_⟩
  · rw [h'.clientLog, h.clientLog, List.flatMap_cons, List.append_assoc]
  · rw [h'.backendLog, h.backendLog, List.flatMap_cons, List.append_assoc]

/-- The loop does what `bridged` says of the arrivals. -/
theorem bridge_eq_bridged (lib : Library) (v : Int) (t : Option Nat) {turns : List Turn} (hturns : .shutdown ∉ turns)
    (b : Bridging) {s : Linked} (hclient : s.client.peer.wire.Reliable) (hbackend : s.backend.wire.Reliable) :
    (bridge lib v t turns b s).1 = (bridged v b (arrivals turns s.client.peer.reads s.backend.reads)).1 ∧
      AllMet t (bridged v b (arrivals turns s.client.peer.reads s.backend.reads)).2 s
        (bridge lib v t turns b s).2 := by
  induction turns generalizing b s with
  | nil =>
    rw [bridge, arrivals.eq_def, bridged]
    by_cases h : b.Ready
    · rw [if_pos h, if_pos (show b.clientFinished = true ∧ b.backendFinished = true from h)]
      exact ⟨rfl, .nil t s⟩
    · rw [if_neg h, if_neg (show ¬ (b.clientFinished = true ∧ b.backendFinished = true) from h)]
      exact ⟨rfl, .nil t s⟩
  | cons turn turns ih =>
    rw [List.mem_cons, not_or] at hturns
    obtain ⟨hturn, hturns⟩ := hturns
    obtain ⟨a, harrivals, hmet, hresult⟩ := @bridgeTurn_arrival lib v t b s turn (Ne.symm hturn) hclient hbackend
    rw [harrivals, bridge, bridged]
    by_cases h : b.Ready
    · rw [if_pos h, if_pos (show b.clientFinished = true ∧ b.backendFinished = true from h)]
      exact ⟨rfl, .nil t s⟩
    · rw [if_neg h, if_neg (show ¬ (b.clientFinished = true ∧ b.backendFinished = true) from h), Effect.bind_apply]
      generalize bridgeTurn lib v t b turn s = round at hmet hresult harrivals
      obtain ⟨r, s'⟩ := round
      simp only at hmet hresult harrivals
      cases hexit : a.exit v with
      | some exit =>
        rw [hexit] at hresult
        simp only at hresult
        rw [hresult]
        exact ⟨rfl, .cons hmet (.nil t s')⟩
      | none =>
        rw [hexit] at hresult
        simp only at hresult
        rw [hresult]
        have hfollowed : a.followed turns s' = arrivals turns s'.client.peer.reads s'.backend.reads := by
          cases a with
          | failure e => cases hexit
          | fromBackend packet => rfl
          | fromClient packet => rfl
        obtain ⟨hout, hall⟩ := ih hturns (a.noted v b) hmet.clientReliable hmet.backendReliable
        rw [hfollowed]
        exact ⟨hout, .cons hmet hall⟩

/-- The loop's variables after some arrivals. -/
def Bridging.after (v : Int) (b : Bridging) (heard : List Arrival) : Bridging := heard.foldl (Arrival.noted v) b

/-- An arrival that ends the loop finishes nothing. -/
theorem Arrival.noted_of_exit {v : Int} {a : Arrival} {exit : Exit} (h : a.exit v = some exit) (b : Bridging) :
    (a.noted v b).Ready ↔ b.Ready := by
  have hne : disconnectId v ≠ finishId v := by
    unfold disconnectId finishId
    split <;> decide
  cases a with
  | fromClient packet => cases h
  | failure e => exact Iff.rfl
  | fromBackend packet =>
    rw [Arrival.exit] at h
    rw [Arrival.noted]
    split_ifs at h with hprotected hid
    rw [if_neg hprotected, noteConfiguration, hid]
    simp [Bridging.Ready, hne]

/-- What the loop has heard: how it stands with that, that it stood otherwise at
every point before, and that it has missed nothing. -/
structure Heard (v : Int) (b : Bridging) (as : List Arrival) (r : Except Exit SessionRegistryCache)
    (heard : List Arrival) : Prop where
  pre : heard <+: as
  before : ∀ earlier, earlier <+: heard → earlier ≠ heard →
    ¬ (b.after v earlier).Ready ∧ ∀ a ∈ earlier, a.exit v = none
  verdict : match r with
    | .ok cache => (b.after v heard).Ready ∧ cache = (b.after v heard).cache ∧ ∀ a ∈ heard, a.exit v = none
    | .error exit => ¬ (b.after v heard).Ready ∧
        ((∃ earlier a, heard = earlier ++ [a] ∧ a.exit v = some exit) ∨
          exit = .waiting ∧ heard = as ∧ ∀ a ∈ heard, a.exit v = none)

theorem Heard.nil {v : Int} {b : Bridging} {as : List Arrival} {r : Except Exit SessionRegistryCache}
    (h : match r with
      | .ok cache => b.Ready ∧ cache = b.cache
      | .error exit => ¬ b.Ready ∧ exit = .waiting ∧ [] = as) : Heard v b as r [] := by
  refine ⟨List.nil_prefix, fun earlier hpre hne => absurd (List.prefix_nil.mp hpre) hne, ?_⟩
  cases r with
  | ok cache => exact ⟨h.1, h.2, nofun⟩
  | error exit => exact ⟨h.1, Or.inr ⟨h.2.1, h.2.2, nofun⟩⟩

theorem heard_bridged (v : Int) (b : Bridging) (as : List Arrival) :
    Heard v b as (bridged v b as).1 (bridged v b as).2 := by
  induction as generalizing b with
  | nil =>
    rw [bridged]
    split
    · next h => exact .nil ⟨h, rfl⟩
    · next h => exact .nil ⟨h, rfl, rfl⟩
  | cons a as ih =>
    rw [bridged]
    split
    · next h => exact .nil ⟨h, rfl⟩
    · next h =>
      cases hexit : a.exit v with
      | some exit =>
        refine ⟨⟨as, rfl⟩, fun earlier hpre hne => ?_, ?_, Or.inl ⟨[], a, rfl, hexit⟩⟩
        · rcases List.prefix_cons_iff.mp hpre with rfl | ⟨t, rfl, ht⟩
          · exact ⟨h, nofun⟩
          · rw [List.prefix_nil.mp ht] at hne
            exact absurd rfl hne
        · exact mt (Arrival.noted_of_exit hexit b).mp h
      | none =>
        obtain ⟨hpre, hbefore, hverdict⟩ := ih (a.noted v b)
        generalize (bridged v (a.noted v b) as).1 = r at hverdict
        generalize (bridged v (a.noted v b) as).2 = heard at hpre hbefore hverdict
        have hall : ∀ {heard : List Arrival}, (∀ a ∈ heard, a.exit v = none) → ∀ a' ∈ a :: heard, a'.exit v = none := by
          intro heard h a' ha'
          rcases List.mem_cons.mp ha' with rfl | ha'
          · exact hexit
          · exact h a' ha'
        refine ⟨List.cons_prefix_cons.mpr ⟨rfl, hpre⟩, fun earlier hearlier hne => ?_, ?_⟩
        · rcases List.prefix_cons_iff.mp hearlier with rfl | ⟨t, rfl, ht⟩
          · exact ⟨h, nofun⟩
          · obtain ⟨hready, hexits⟩ := hbefore t ht fun heq => hne (by rw [heq])
            exact ⟨hready, hall hexits⟩
        · cases r with
          | ok cache =>
            obtain ⟨hready, hcache, hexits⟩ := hverdict
            exact ⟨hready, hcache, hall hexits⟩
          | error exit =>
            obtain ⟨hready, hlast⟩ := hverdict
            refine ⟨hready, ?_⟩
            rcases hlast with ⟨earlier, last, rfl, hlast⟩ | ⟨hwaiting, rfl, hexits⟩
            · exact Or.inl ⟨a :: earlier, last, rfl, hlast⟩
            · exact Or.inr ⟨hwaiting, rfl, hall hexits⟩

section Heard

variable {v : Int} {b : Bridging} {as heard : List Arrival} {r : Except Exit SessionRegistryCache}

theorem Heard.ok_iff (h : Heard v b as r heard) : (∃ cache, r = .ok cache) ↔ (b.after v heard).Ready := by
  have hverdict := h.verdict
  cases r with
  | ok cache => exact iff_of_true ⟨cache, rfl⟩ hverdict.1
  | error exit => exact iff_of_false nofun hverdict.1

/-- The loop ends with an exit exactly when it has heard what leads to that. -/
theorem Heard.exit_iff (h : Heard v b as r heard) {exit : Exit} (hexit : exit ≠ .waiting) :
    r = .error exit ↔ ∃ a ∈ heard, a.exit v = some exit := by
  have hverdict := h.verdict
  have hnone : ∀ {xs : List Arrival} {a : Arrival}, (∀ a ∈ xs, a.exit v = none) → a ∈ xs → a.exit v ≠ some exit := by
    intro xs a hxs ha
    rw [hxs a ha]
    exact nofun
  constructor
  · rintro rfl
    rcases hverdict.2 with ⟨earlier, last, rfl, hlast⟩ | ⟨hwaiting, -, -⟩
    · exact ⟨last, List.mem_append_right _ (List.mem_singleton_self last), hlast⟩
    · exact absurd hwaiting hexit
  · rintro ⟨a, ha, hsome⟩
    cases r with
    | ok cache => exact absurd hsome (hnone hverdict.2.2 ha)
    | error exit' =>
      rcases hverdict.2 with ⟨earlier, last, rfl, hlast⟩ | ⟨-, -, hexits⟩
      · have hbefore := (h.before earlier (List.prefix_append ..) (by simp)).2
        rcases List.mem_append.mp ha with ha | ha
        · exact absurd hsome (hnone hbefore ha)
        · obtain rfl := List.mem_singleton.mp ha
          rw [hlast] at hsome
          rw [Option.some.inj hsome]
      · exact absurd hsome (hnone hexits ha)

/-- The loop hands over, or ends in one of three ways. -/
theorem Heard.outcome (h : Heard v b as r heard) :
    (∃ cache, r = .ok cache) ∨ r = .error .ended ∨ (∃ e, r = .error (.failed e)) ∨ r = .error .waiting := by
  have hverdict := h.verdict
  cases r with
  | ok cache => exact Or.inl ⟨cache, rfl⟩
  | error exit =>
    rcases hverdict.2 with ⟨-, last, -, hlast⟩ | ⟨rfl, -, -⟩
    · cases last with
      | fromClient packet => cases hlast
      | failure e =>
        cases hlast
        exact Or.inr (Or.inr (Or.inl ⟨e, rfl⟩))
      | fromBackend packet =>
        rw [Arrival.exit] at hlast
        split_ifs at hlast
        cases hlast
        exact Or.inr (Or.inl rfl)
    · exact Or.inr (Or.inr (Or.inr rfl))

theorem Heard.waiting (h : Heard v b as r heard) (hr : r = .error .waiting) : heard = as := by
  have hverdict := h.verdict
  subst hr
  rcases hverdict.2 with ⟨earlier, last, -, hlast⟩ | ⟨-, hall, -⟩
  · cases last with
    | fromClient packet => cases hlast
    | failure e => cases hlast
    | fromBackend packet =>
      rw [Arrival.exit] at hlast
      split_ifs at hlast
      cases hlast
  · exact hall

end Heard

/-! ## What the loop is for -/

/-- A FinishConfiguration of either side has been relayed. -/
def BothFinished (v : Int) (heard : List Arrival) : Prop :=
  (∃ packet ∈ Arrival.backendPackets heard, isProtectedPluginChannel packet = false ∧ packet.id = finishId v) ∧
    ∃ packet ∈ Arrival.clientPackets heard, isProtectedPluginChannel packet = false ∧ packet.id = finishId v

/-- The backend's Disconnect has been relayed. -/
def Disconnected (v : Int) (heard : List Arrival) : Prop :=
  ∃ packet ∈ Arrival.backendPackets heard, isProtectedPluginChannel packet = false ∧ packet.id = disconnectId v

def ReadFailed (heard : List Arrival) : Prop := ∃ e, Arrival.failure e ∈ heard

theorem backendPackets_cons (a : Arrival) (heard : List Arrival) :
    Arrival.backendPackets (a :: heard) = Arrival.backendPackets [a] ++ Arrival.backendPackets heard := by
  rw [← List.singleton_append, Arrival.backendPackets, List.filterMap_append]
  rfl

theorem clientPackets_cons (a : Arrival) (heard : List Arrival) :
    Arrival.clientPackets (a :: heard) = Arrival.clientPackets [a] ++ Arrival.clientPackets heard := by
  rw [← List.singleton_append, Arrival.clientPackets, List.filterMap_append]
  rfl

/-- The condition of the loop on a client's packet. -/
theorem clientFinish_iff (v : Int) (id : Int32) :
    ((v ≥ 766 ∧ id = 0x03) ∨ (v < 766 ∧ id = 0x02)) ↔ id = finishId v := by
  unfold finishId
  by_cases h : v ≥ 766
  · have hlt : ¬ v < 766 := by omega
    simp [h, hlt]
  · have hlt : v < 766 := by omega
    simp [h, hlt]

theorem clientFinished_noted (v : Int) (b : Bridging) (a : Arrival) :
    (a.noted v b).clientFinished = true ↔ b.clientFinished = true ∨
      ∃ packet ∈ Arrival.clientPackets [a], isProtectedPluginChannel packet = false ∧ packet.id = finishId v := by
  cases a with
  | failure e => simp [Arrival.noted, Arrival.clientPackets]
  | fromBackend packet =>
    rw [Arrival.noted]
    split <;> simp [noteConfiguration, Arrival.clientPackets]
  | fromClient packet =>
    rw [Arrival.noted, if_congr (clientFinish_iff v packet.id) rfl rfl]
    split_ifs with hprotected hid
    · simp [Arrival.clientPackets, hprotected]
    · simp [Arrival.clientPackets, hprotected, hid]
    · simp [Arrival.clientPackets, hid]

theorem backendFinished_noted (v : Int) (b : Bridging) (a : Arrival) :
    (a.noted v b).backendFinished = true ↔ b.backendFinished = true ∨
      ∃ packet ∈ Arrival.backendPackets [a], isProtectedPluginChannel packet = false ∧ packet.id = finishId v := by
  cases a with
  | failure e => simp [Arrival.noted, Arrival.backendPackets]
  | fromClient packet =>
    rw [Arrival.noted]
    split_ifs <;> simp [Arrival.backendPackets]
  | fromBackend packet =>
    rw [Arrival.noted]
    split_ifs with hprotected
    · simp [Arrival.backendPackets, hprotected]
    · simp [Arrival.backendPackets, noteConfiguration, hprotected, or_comm]

theorem clientFinished_after (v : Int) (b : Bridging) (heard : List Arrival) :
    (b.after v heard).clientFinished = true ↔ b.clientFinished = true ∨
      ∃ packet ∈ Arrival.clientPackets heard, isProtectedPluginChannel packet = false ∧ packet.id = finishId v := by
  induction heard generalizing b with
  | nil => simp [Bridging.after, Arrival.clientPackets]
  | cons a heard ih =>
    show (Bridging.after v (a.noted v b) heard).clientFinished = true ↔ _
    rw [ih, clientFinished_noted, clientPackets_cons a heard]
    simp only [List.mem_append, or_and_right, exists_or, or_assoc]

theorem backendFinished_after (v : Int) (b : Bridging) (heard : List Arrival) :
    (b.after v heard).backendFinished = true ↔ b.backendFinished = true ∨
      ∃ packet ∈ Arrival.backendPackets heard, isProtectedPluginChannel packet = false ∧ packet.id = finishId v := by
  induction heard generalizing b with
  | nil => simp [Bridging.after, Arrival.backendPackets]
  | cons a heard ih =>
    show (Bridging.after v (a.noted v b) heard).backendFinished = true ↔ _
    rw [ih, backendFinished_noted, backendPackets_cons a heard]
    simp only [List.mem_append, or_and_right, exists_or, or_assoc]

theorem ready_after (v : Int) (cache : SessionRegistryCache) (heard : List Arrival) :
    (Bridging.after v ⟨false, false, cache⟩ heard).Ready ↔ BothFinished v heard := by
  rw [Bridging.Ready, clientFinished_after, backendFinished_after]
  simp [BothFinished, and_comm]

/-- The packets sent on a wire among some events. -/
theorem delivered_atClient (t : Option Nat) (heard : List Arrival) :
    Event.delivered (heard.flatMap (Arrival.atClient t)) =
      (Arrival.backendPackets heard).filter fun packet => ¬ isProtectedPluginChannel packet := by
  induction heard with
  | nil => rfl
  | cons a heard ih =>
    rw [List.flatMap_cons, Event.delivered_append, ih, backendPackets_cons a heard, List.filter_append]
    congr 1
    cases a with
    | failure e => rfl
    | fromClient packet => rfl
    | fromBackend packet =>
      rw [Arrival.atClient]
      split <;> simp [Arrival.backendPackets, *]

theorem delivered_atBackend (t : Option Nat) (heard : List Arrival) :
    Event.delivered (heard.flatMap (Arrival.atBackend t)) =
      (Arrival.clientPackets heard).filter fun packet => ¬ isProtectedPluginChannel packet := by
  induction heard with
  | nil => rfl
  | cons a heard ih =>
    rw [List.flatMap_cons, Event.delivered_append, ih, clientPackets_cons a heard, List.filter_append]
    congr 1
    cases a with
    | failure e => rfl
    | fromBackend packet => rfl
    | fromClient packet =>
      rw [Arrival.atBackend]
      split <;> simp [Arrival.clientPackets, *]

theorem mem_backendPackets {packet : RawPacket} {heard : List Arrival} :
    packet ∈ Arrival.backendPackets heard ↔ .fromBackend packet ∈ heard := by
  rw [Arrival.backendPackets, List.mem_filterMap]
  constructor
  · rintro ⟨a, ha, hsome⟩
    cases a with
    | fromBackend p => exact Option.some.inj hsome ▸ ha
    | fromClient p => cases hsome
    | failure e => cases hsome
  · intro h
    exact ⟨_, h, rfl⟩

theorem disconnected_iff (v : Int) (heard : List Arrival) :
    Disconnected v heard ↔ ∃ a ∈ heard, a.exit v = some .ended := by
  constructor
  · rintro ⟨packet, hmem, hprotected, hid⟩
    refine ⟨_, mem_backendPackets.mp hmem, ?_⟩
    rw [Arrival.exit, hprotected, if_neg Bool.false_ne_true, if_pos hid]
  · rintro ⟨a, ha, hexit⟩
    cases a with
    | fromClient packet => cases hexit
    | failure e => cases hexit
    | fromBackend packet =>
      rw [Arrival.exit] at hexit
      split_ifs at hexit with hprotected hid
      exact ⟨packet, mem_backendPackets.mpr ha, by simpa using hprotected, hid⟩

theorem readFailed_iff (v : Int) (heard : List Arrival) :
    ReadFailed heard ↔ ∃ e, ∃ a ∈ heard, a.exit v = some (.failed e) := by
  constructor
  · rintro ⟨e, he⟩
    exact ⟨e, _, he, rfl⟩
  · rintro ⟨e, a, ha, hexit⟩
    cases a with
    | fromClient packet => cases hexit
    | failure e' => exact ⟨e', ha⟩
    | fromBackend packet =>
      rw [Arrival.exit] at hexit
      split_ifs at hexit
      cases hexit

/-- For every order in which the peers are found ready, with reliable wires and
no shutdown: the loop has heard a first part of what arrives. Each side has been
sent the other's packets in order, each once and as it was, without those on a
protected channel. The loop hands over exactly when both sides have finished,
and ends otherwise exactly when the backend has disconnected the client or a
read has failed; none of that was so at any point before, and where it comes to
none of these it waits and has heard everything. -/
theorem bridge_faithful (lib : Library) (v : Int) (t : Option Nat) {turns : List Turn} (hturns : .shutdown ∉ turns)
    (cache : SessionRegistryCache) {s : Linked} (hclient : s.client.peer.wire.Reliable)
    (hbackend : s.backend.wire.Reliable) :
    ∃ heard, heard <+: arrivals turns s.client.peer.reads s.backend.reads ∧
      Event.delivered (s.client.peer.wire.since
        (bridge lib v t turns ⟨false, false, cache⟩ s).2.client.peer.wire) =
          (Arrival.backendPackets heard).filter (fun packet => ¬ isProtectedPluginChannel packet) ∧
      Event.delivered (s.backend.wire.since (bridge lib v t turns ⟨false, false, cache⟩ s).2.backend.wire) =
          (Arrival.clientPackets heard).filter (fun packet => ¬ isProtectedPluginChannel packet) ∧
      (∀ earlier, earlier <+: heard → earlier ≠ heard →
        ¬ BothFinished v earlier ∧ ¬ Disconnected v earlier ∧ ¬ ReadFailed earlier) ∧
      ((∃ cache', (bridge lib v t turns ⟨false, false, cache⟩ s).1 = .ok cache') ↔ BothFinished v heard) ∧
      ((bridge lib v t turns ⟨false, false, cache⟩ s).1 = .error .ended ↔ Disconnected v heard) ∧
      ((∃ e, (bridge lib v t turns ⟨false, false, cache⟩ s).1 = .error (.failed e)) ↔ ReadFailed heard) ∧
      ((bridge lib v t turns ⟨false, false, cache⟩ s).1 = .error .waiting →
        heard = arrivals turns s.client.peer.reads s.backend.reads) ∧
      ((∃ cache', (bridge lib v t turns ⟨false, false, cache⟩ s).1 = .ok cache') ∨
        (bridge lib v t turns ⟨false, false, cache⟩ s).1 = .error .ended ∨
        (∃ e, (bridge lib v t turns ⟨false, false, cache⟩ s).1 = .error (.failed e)) ∨
        (bridge lib v t turns ⟨false, false, cache⟩ s).1 = .error .waiting) := by
  obtain ⟨hresult, hmet⟩ := bridge_eq_bridged lib v t hturns ⟨false, false, cache⟩ hclient hbackend
  have hheard := heard_bridged v ⟨false, false, cache⟩ (arrivals turns s.client.peer.reads s.backend.reads)
  rw [← hresult] at hheard
  refine ⟨_, hheard.pre, ?_, ?_, fun earlier hpre hne => ?_, ?_, ?_, ?_, hheard.waiting, hheard.outcome⟩
  · rw [Wire.since_of_append hmet.clientLog, delivered_atClient]
  · rw [Wire.since_of_append hmet.backendLog, delivered_atBackend]
  · obtain ⟨hready, hexits⟩ := hheard.before earlier hpre hne
    refine ⟨mt (ready_after v cache earlier).mpr hready, ?_, ?_⟩
    · rw [disconnected_iff]
      rintro ⟨a, ha, hexit⟩
      rw [hexits a ha] at hexit
      cases hexit
    · rw [readFailed_iff v]
      rintro ⟨e, a, ha, hexit⟩
      rw [hexits a ha] at hexit
      cases hexit
  · rw [hheard.ok_iff, ready_after]
  · rw [hheard.exit_iff (show Exit.ended ≠ .waiting from nofun), disconnected_iff]
  · rw [readFailed_iff v]
    exact exists_congr fun e => hheard.exit_iff (show Exit.failed e ≠ .waiting from nofun)

/-- A client and a backend that are found ready in the order given by `turns`. -/
def smallLinked (client backend : List PeerRead) : Linked :=
  ⟨⟨.connected (fun _ => .done) client, none⟩, .connected (fun _ => .done) backend⟩

/-- The backend sends a plugin message and finishes, then the client does. -/
theorem bridge_faithful_finish :
    ∃ heard, heard <+: arrivals [.backend, .backend, .client] [.packet ⟨0x03, []⟩]
        [.packet ⟨0x01, putString "a:b"⟩, .packet ⟨0x03, []⟩] ∧
      Event.delivered ((smallLinked [.packet ⟨0x03, []⟩]
          [.packet ⟨0x01, putString "a:b"⟩, .packet ⟨0x03, []⟩]).client.peer.wire.since
        (bridge smallLogin.lib 767 none [.backend, .backend, .client] ⟨false, false, .new⟩
          (smallLinked [.packet ⟨0x03, []⟩]
            [.packet ⟨0x01, putString "a:b"⟩, .packet ⟨0x03, []⟩])).2.client.peer.wire) =
        (Arrival.backendPackets heard).filter (fun packet => ¬ isProtectedPluginChannel packet) := by
  obtain ⟨heard, hpre, hclient, -⟩ := @bridge_faithful smallLogin.lib 767 none [.backend, .backend, .client]
    (by simp) .new (smallLinked [.packet ⟨0x03, []⟩] [.packet ⟨0x01, putString "a:b"⟩, .packet ⟨0x03, []⟩])
    (fun _ => rfl) (fun _ => rfl)
  exact ⟨heard, hpre, hclient⟩

end FrameMC

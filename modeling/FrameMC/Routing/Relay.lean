import FrameMC.Lib.SelectLoop
import FrameMC.Network.Bridging
import FrameMC.Network.Framing
import FrameMC.Routing.Run
import FrameMC.Routing.Steps

/-!
# The relay loops, byte by byte

`PlayStateMachine::run` and the Configuration loop of `process_connection` as
their `tokio::select!` runs them: each round starts a read from the client
(`Arm.left`) and one from the backend (`Arm.right`), the first that comes to a
result is handled, and the other is dropped.

The packets passed on are the framing of the two streams exactly in the runs
that drop no read in the middle of a frame (`relay_framing_iff`), and whatever
they are, the machine goes through the same states as `run` does on them
(`playRun_follows`).
-/

namespace FrameMC

open ByteStream Effect

/-! ## Play -/

/-- What a round is about, if its read came to anything. -/
def playInput : Arm → Outcome ProxyError RawPacket → Option Input
  | .left, .ok packet => some (.client (.ok packet))
  | .left, .err e => some (.client (.error e))
  | .right, .ok packet => some (.backend (.ok packet))
  | .right, .err e => some (.backend (.error e))
  | _, .panic => none

/-- A round on the machine. The loop goes on with the backend it has, or with
another one; or it ends. -/
def playRound (world : World) (input : Input) (s : PlayStateMachine) : Next PlayStateMachine :=
  match runRound (world.env s) input s with
  | (.ok true, s') =>
    if s'.backend.isNone then .closed (shutStreams s').2
    else if s'.attached = s.attached then .again s'
    else .replaced .right s'
  | (.ok false, s') => .closed (shutStreams s').2
  | (.error _, s') => .closed s'

/-- `PlayStateMachine::run`. -/
def playLoop (zlib : Zlib) : SelectLoop World PlayStateMachine ProxyError RawPacket where
  reader
    | .left, s => readPacketWithCompression zlib defaultMaxPacketSize s.clientCompressionThreshold
    | .right, s => readPacketWithCompression zlib defaultMaxPacketSize s.backendCompressionThreshold
  handle := fun world arm r s =>
    match playInput arm r with
    | some input => playRound world input s
    | none => .closed s
  interrupted := fun world s => (playRound world .shutdown s).state

/-! ## Configuration -/

/-- The side of the Configuration loop that is read. -/
def turnOf : Arm → Turn
  | .left => .client
  | .right => .backend

/-- What a read has come to, where the loop looks for it. -/
def supply (arm : Arm) (read : PeerRead) (s : Linked) : Linked :=
  match arm with
  | .left => { s with client := { s.client with peer := { s.client.peer with reads := [read] } } }
  | .right => { s with backend := { s.backend with reads := [read] } }

/-- A round of the Configuration loop. Once both sides have finished, both
streams are read on in the Play state. -/
def bridgeRound (lib : Library) (v : Int) (t : Option Nat) (arm : Arm) (read : PeerRead) (s : Linked × Bridging) :
    Next (Linked × Bridging) :=
  match bridgeTurn lib v t s.2 (turnOf arm) (supply arm read s.1) with
  | (.ok b, linked) => if b.clientFinished ∧ b.backendFinished then .finished (linked, b) else .again (linked, b)
  | (.error _, linked) => .closed (linked, s.2)

/-- The Configuration loop of `process_connection`. -/
def bridgeLoop (zlib : Zlib) (lib : Library) (v : Int) (t : Option Nat) :
    SelectLoop Unit (Linked × Bridging) ProxyError RawPacket where
  reader := fun _ _ => readPacketWithCompression zlib defaultMaxPacketSize t
  handle := fun _ arm r s =>
    match r with
    | .ok packet => bridgeRound lib v t arm (.packet packet) s
    | .err e => bridgeRound lib v t arm (.failed e) s
    | .panic => .closed s
  interrupted := fun _ s => ((bridgeTurn lib v t s.2 .shutdown s.1).2, s.2)

/-! ## What a round leaves alone -/

/-- The client is read as before, and so is the backend unless it is another one. -/
structure ReadsAlike (s s' : PlayStateMachine) : Prop where
  client : s'.clientCompressionThreshold = s.clientCompressionThreshold
  attached : s.attached ≤ s'.attached
  backend : s'.attached = s.attached → s'.backendCompressionThreshold = s.backendCompressionThreshold

namespace ReadsAlike

theorem of_eq {s s' : PlayStateMachine} (hclient : s'.clientCompressionThreshold = s.clientCompressionThreshold)
    (hattached : s'.attached = s.attached) (hbackend : s'.backendCompressionThreshold = s.backendCompressionThreshold) :
    ReadsAlike s s' :=
  ⟨hclient, hattached.ge, fun _ => hbackend⟩

theorem steps : Effect.Steps ReadsAlike := by
  refine ⟨fun s => of_eq rfl rfl rfl, ?_⟩
  intro s s' s'' h h'
  refine ⟨h'.client.trans h.client, h.attached.trans h'.attached, ?_⟩
  intro hsame
  have hfirst : s'.attached = s.attached := le_antisymm (h'.attached.trans hsame.le) h.attached
  have hsecond : s''.attached = s'.attached := hsame.trans hfirst.symm
  exact (h'.backend hsecond).trans (h.backend hfirst)

theorem writeClient (p : RawPacket) (origin : Origin) : Keeps ReadsAlike (writeClient p origin) :=
  fun _ => of_eq rfl rfl rfl

theorem writeBackend (p : RawPacket) : Keeps ReadsAlike (writeBackend p) := by
  intro s
  unfold FrameMC.writeBackend
  split
  · exact of_eq rfl rfl rfl
  · exact of_eq rfl rfl rfl

theorem stepRel (env : Env) : StepRel env ReadsAlike where
  toSteps := steps
  chat := fun _ => keeps_get_bind fun _ => writeClient _ _ _
  complete := fun s _ => writeClient _ _ s
  toBackend := writeBackend
  giveUp := fun _ _ _ _ => of_eq rfl rfl rfl
  transfer := by
    intro s targetServer wire threshold cache _
    have hattached : (transferred targetServer wire threshold cache s).attached = s.attached + 1 := by
      rw [transferred, reattach, teardown_frame]
      rfl
    refine ⟨?_, ?_, ?_⟩
    · rw [transferred, reattach, teardown_frame]
      rfl
    · omega
    · omega

theorem clientPacket (env : Env) (packet : RawPacket) : Keeps ReadsAlike (handleClientPacket env packet) := by
  intro s
  rw [handleClientPacket_state]
  split
  · exact steps.refl s
  · have hclose : ReadsAlike s (noteClose packet s) := by
      unfold noteClose
      split
      · exact of_eq rfl rfl rfl
      · exact steps.refl s
    exact steps.trans hclose ((stepRel env).routeClientPacket packet _)

theorem backendPacket (env : Env) (packet : RawPacket) : Keeps ReadsAlike (handleBackendPacket env packet) := by
  intro s
  have htrack : ReadsAlike s (track packet s) := of_eq (by simp) (by simp) (by simp)
  rw [handleBackendPacket_state]
  split
  · exact steps.refl s
  · apply steps.trans htrack
    split
    · exact (stepRel env).recover _ _ (keeps_throw steps _) _
    · split
      · rw [deliverLogin_state]
        split
        · exact of_eq rfl rfl rfl
        · exact writeClient _ _ _
      · rw [deliver_state]
        exact writeClient _ _ _

theorem round (env : Env) (input : Input) : Keeps ReadsAlike (runRound env input) := by
  rcases input with (_ | packet) | (_ | packet) | _
  · exact keeps_pure steps false
  · exact keeps_bind steps (keeps_modify fun _ => of_eq rfl rfl rfl) fun _ => clientPacket env packet
  · exact (stepRel env).handleBackendEof
  · refine keeps_bind steps (keeps_modify fun _ => of_eq rfl rfl rfl) fun _ => keeps_ite (fun _ => ?_) fun _ => ?_
    · exact keeps_pure steps true
    · exact backendPacket env packet
  · refine keeps_get_bind fun s => ?_
    exact keeps_bind steps (keeps_attempt (writeClient _ _)) (fun _ => keeps_pure steps false) s

end ReadsAlike

/-- A transfer that succeeds attaches another backend. -/
theorem switchServer_attached {env : Env} {targetServer : String} {s : PlayStateMachine}
    (h : (switchServer env targetServer s).1 = .ok true) :
    (switchServer env targetServer s).2.attached = s.attached + 1 := by
  have hcases := switchServer_cases env targetServer s
  generalize (switchServer env targetServer s).1 = r at hcases h
  generalize (switchServer env targetServer s).2 = s' at hcases
  cases hcases with
  | unknown r _ hr =>
    rcases hr with rfl | ⟨e, rfl⟩
    · cases h
    · cases h
  | failed reason dropped _ => cases h
  | attached wire threshold _ =>
    rw [reattach, teardown_frame]
    rfl

/-- A broken backend is recovered from by attaching another one. -/
theorem handleBackendEof_attached {env : Env} {s : PlayStateMachine} (h : (handleBackendEof env s).1 = .ok true) :
    (handleBackendEof env s).2.attached = s.attached + 1 := by
  rw [handleBackendEof, recover, Effect.get_bind, Effect.ite_apply] at h ⊢
  by_cases hdefault : s.session.currentServer ≠ s.config.defaultServer
  · rw [if_pos hdefault, Effect.attempt_bind] at h ⊢
    exact switchServer_attached h
  · rw [if_neg hdefault] at h
    cases h

/-- After a round that goes on, whichever stream it goes on with is read as before. -/
theorem playRound_reader (zlib : Zlib) {world : World} {input : Input} {s : PlayStateMachine} {other : Arm}
    (h : (playRound world input s).ReadsOn other) :
    (playLoop zlib).reader other (playRound world input s).state = (playLoop zlib).reader other s := by
  have halike := ReadsAlike.round (world.env s) input s
  rw [playRound] at h ⊢
  rcases hround : runRound (world.env s) input s with ⟨_ | goesOn, s'⟩
  · rw [hround] at h
    exact h.elim
  · rw [hround] at h halike
    cases goesOn with
    | false => exact h.elim
    | true =>
      dsimp only at h halike ⊢
      split_ifs at h ⊢ with hgone hsame
      · exact h.elim
      · cases other with
        | left => exact congrArg (readPacketWithCompression zlib defaultMaxPacketSize) halike.client
        | right => exact congrArg (readPacketWithCompression zlib defaultMaxPacketSize) (halike.backend hsame)
      · cases other with
        | left => exact congrArg (readPacketWithCompression zlib defaultMaxPacketSize) halike.client
        | right => exact absurd rfl h

/-- A backend that is gone is not read on: the loop goes on with another one, or not at all. -/
theorem playRound_broken (world : World) (e : ProxyError) (s : PlayStateMachine) :
    ¬ (playRound world (.backend (.error e)) s).ReadsOn .right := by
  intro h
  have hattached := @handleBackendEof_attached (world.env s) s
  rw [playRound, runRound] at h
  rcases hround : handleBackendEof (world.env s) s with ⟨_ | goesOn, s'⟩
  · rw [hround] at h
    exact h.elim
  · rw [hround] at h hattached
    cases goesOn with
    | false => exact h.elim
    | true =>
      have hnew : s'.attached = s.attached + 1 := hattached rfl
      dsimp only at h
      split_ifs at h with hgone hsame
      · exact h.elim
      · omega
      · exact absurd rfl h

theorem playLoop_steady (zlib : Zlib) : (playLoop zlib).Steady := by
  constructor
  · intro world arm r s other h
    change (match playInput arm r with
      | some input => playRound world input s
      | none => .closed s).ReadsOn other at h
    change (playLoop zlib).reader other (match playInput arm r with
      | some input => playRound world input s
      | none => Next.closed s).state = _
    cases hinput : playInput arm r with
    | none =>
      rw [hinput] at h
      exact h.elim
    | some input =>
      rw [hinput] at h
      exact playRound_reader zlib h
  · intro world arm r s h
    cases r with
    | ok packet => exact ⟨packet, rfl⟩
    | panic => cases arm <;> exact h.elim
    | err e =>
      cases arm with
      | left => exact h.elim
      | right => exact absurd h (playRound_broken world e s)

/-- The client's stream is never replaced. -/
theorem playLoop_client_kept (zlib : Zlib) (world : World) (arm : Arm) (r : Outcome ProxyError RawPacket)
    (s s' : PlayStateMachine) : (playLoop zlib).handle world arm r s ≠ .replaced .left s' := by
  change (match playInput arm r with
    | some input => playRound world input s
    | none => .closed s) ≠ .replaced .left s'
  cases playInput arm r with
  | none => exact nofun
  | some input =>
    dsimp only
    rw [playRound]
    split
    · split_ifs <;> exact nofun
    · exact nofun
    · exact nofun

/-! ## A round of the Configuration loop -/

theorem bridgeTurn_failed (lib : Library) (v : Int) (t : Option Nat) (b : Bridging) (arm : Arm) (e : ProxyError)
    (s : Linked) : ∃ exit, (bridgeTurn lib v t b (turnOf arm) (supply arm (.failed e) s)).1 = .error exit := by
  cases arm with
  | left => exact ⟨.failed e, rfl⟩
  | right => exact ⟨.failed e, rfl⟩

theorem bridgeLoop_steady (zlib : Zlib) (lib : Library) (v : Int) (t : Option Nat) :
    (bridgeLoop zlib lib v t).Steady := by
  constructor
  · exact fun _ _ _ _ _ _ => rfl
  · intro _ arm r s h
    cases r with
    | ok packet => exact ⟨packet, rfl⟩
    | panic => exact h.elim
    | err e =>
      obtain ⟨exit, hexit⟩ := bridgeTurn_failed lib v t s.2 arm e s.1
      change (bridgeRound lib v t arm (.failed e) s).ReadsOn arm at h
      rw [bridgeRound] at h
      rcases hround : bridgeTurn lib v t s.2 (turnOf arm) (supply arm (.failed e) s.1) with ⟨r, linked⟩
      rw [hround] at h hexit
      dsimp only at hexit
      rw [hexit] at h
      exact h.elim

theorem bridgeLoop_kept (zlib : Zlib) (lib : Library) (v : Int) (t : Option Nat) (arm gone : Arm)
    (r : Outcome ProxyError RawPacket) (s s' : Linked × Bridging) :
    (bridgeLoop zlib lib v t).handle () arm r s ≠ .replaced gone s' := by
  have hround (read : PeerRead) : bridgeRound lib v t arm read s ≠ .replaced gone s' := by
    rw [bridgeRound]
    split
    · split_ifs <;> exact nofun
    · exact nofun
  cases r with
  | ok packet => exact hround (.packet packet)
  | err e => exact hround (.failed e)
  | panic => exact nofun

/-! ## The framing of the streams -/

def playRun (zlib : Zlib) (s : PlayStateMachine) (happenings : List (Happening World)) :
    Selecting PlayStateMachine ProxyError RawPacket :=
  runAll (playLoop zlib).step ((playLoop zlib).start s) happenings

def bridgeRun (zlib : Zlib) (lib : Library) (v : Int) (t : Option Nat) (linked : Linked)
    (happenings : List (Happening Unit)) : Selecting (Linked × Bridging) ProxyError RawPacket :=
  runAll (bridgeLoop zlib lib v t).step ((bridgeLoop zlib lib v t).start (linked, ⟨false, false, .new⟩)) happenings

/-- The packets passed to `handle_client_packet`. -/
def clientPassed (ℓ : Selecting PlayStateMachine ProxyError RawPacket) : List RawPacket := ℓ.passed .left

/-- The packets of the current backend passed to `handle_backend_packet`: not
those on a protected channel. -/
def backendPassed (ℓ : Selecting PlayStateMachine ProxyError RawPacket) : List RawPacket :=
  (ℓ.passed .right).filter fun packet => ! isProtectedPluginChannel packet

/-- After these happenings in the Play loop: no byte is lost; the packets passed
on from the client are the framing of what it has sent, but for what is still
held or unread; and so are those from the backend, of what it has sent since it
was attached, and those of them that `handle_backend_packet` is given. -/
structure PlayFaithful (zlib : Zlib) (s : PlayStateMachine) (happenings : List (Happening World)) : Prop where
  intact : (playRun zlib s happenings).Intact
  client :
    let ℓ := playRun zlib s happenings
    let reader := readPacketWithCompression zlib defaultMaxPacketSize s.clientCompressionThreshold
    frames reader (happenings.flatMap (Happening.bytes .left)) =
      clientPassed ℓ ++ frames reader ((ℓ.source .left).held ++ (ℓ.source .left).unread)
  backend :
    let ℓ := playRun zlib s happenings
    let reader := (ℓ.source .right).reader
    frames reader (ℓ.source .right).arrived =
      ℓ.passed .right ++ frames reader ((ℓ.source .right).held ++ (ℓ.source .right).unread)
  handled :
    let ℓ := playRun zlib s happenings
    let reader := (ℓ.source .right).reader
    (frames reader (ℓ.source .right).arrived).filter (fun packet => ! isProtectedPluginChannel packet) =
      backendPassed ℓ ++ (frames reader ((ℓ.source .right).held ++ (ℓ.source .right).unread)).filter
        fun packet => ! isProtectedPluginChannel packet

/-- The same of the two reads of the Configuration loop. -/
structure BridgeFaithful (zlib : Zlib) (lib : Library) (v : Int) (t : Option Nat) (linked : Linked)
    (happenings : List (Happening Unit)) : Prop where
  intact : (bridgeRun zlib lib v t linked happenings).Intact
  framed : ∀ arm,
    let ℓ := bridgeRun zlib lib v t linked happenings
    let reader := readPacketWithCompression zlib defaultMaxPacketSize t
    frames reader (happenings.flatMap (Happening.bytes arm)) =
      ℓ.passed arm ++ frames reader ((ℓ.source arm).held ++ (ℓ.source arm).unread)

theorem source_waits {zlib : Zlib} {s : PlayStateMachine} (happenings : List (Happening World)) (arm : Arm) :
    ((playRun zlib s happenings).source arm).reader.Waits := by
  refine SelectLoop.reader_along ?_ s happenings arm
  rintro (_ | _) s
  · exact readPacket_waits _ _ _
  · exact readPacket_waits _ _ _

theorem playFaithful_iff {zlib : Zlib} {s : PlayStateMachine} {happenings : List (Happening World)} :
    PlayFaithful zlib s happenings ↔ (playRun zlib s happenings).Intact := by
  refine ⟨fun h => h.intact, fun h => ?_⟩
  have hbackend := (h .right).frames (source_waits happenings .right)
  refine ⟨h, ?_, hbackend, ?_⟩
  · have hreader : ((playRun zlib s happenings).source .left).reader =
        readPacketWithCompression zlib defaultMaxPacketSize s.clientCompressionThreshold :=
      SelectLoop.reader_run (playLoop_steady zlib) (playLoop_client_kept zlib) happenings _ (SelectLoop.start_current s)
    have harrived : ((playRun zlib s happenings).source .left).arrived = happenings.flatMap (Happening.bytes .left) :=
      SelectLoop.arrived_run (playLoop_client_kept zlib) happenings _
    have hframes := (h .left).frames (by rw [hreader]; exact readPacket_waits _ _ _)
    rw [hreader, harrived] at hframes
    exact hframes
  · dsimp only
    rw [hbackend, List.filter_append]
    rfl

theorem bridgeFaithful_iff {zlib : Zlib} {lib : Library} {v : Int} {t : Option Nat} {linked : Linked}
    {happenings : List (Happening Unit)} :
    BridgeFaithful zlib lib v t linked happenings ↔ (bridgeRun zlib lib v t linked happenings).Intact := by
  refine ⟨fun h => h.intact, fun h => ⟨h, ?_⟩⟩
  intro arm
  have hreader : ((bridgeRun zlib lib v t linked happenings).source arm).reader =
      readPacketWithCompression zlib defaultMaxPacketSize t :=
    SelectLoop.reader_run (bridgeLoop_steady zlib lib v t)
      (fun _ other r s s' => bridgeLoop_kept zlib lib v t other arm r s s') happenings _ (SelectLoop.start_current _)
  have harrived : ((bridgeRun zlib lib v t linked happenings).source arm).arrived =
      happenings.flatMap (Happening.bytes arm) :=
    SelectLoop.arrived_run (fun _ other r s s' => bridgeLoop_kept zlib lib v t other arm r s s') happenings _
  have hframes := (h arm).frames (by rw [hreader]; exact readPacket_waits _ _ _)
  rw [hreader, harrived] at hframes
  exact hframes

/-- In every state of every run of the two relay loops the packets passed on are
the framing of what was sent, exactly when no round drops a read that holds a
byte of a stream that is read on. -/
theorem relay_framing_iff (zlib : Zlib) :
    (∀ s happenings, (∀ n, PlayFaithful zlib s (happenings.take n)) ↔
      Along (playLoop zlib).step (playLoop zlib).Unharmed ((playLoop zlib).start s) happenings) ∧
    ∀ lib v t linked happenings, (∀ n, BridgeFaithful zlib lib v t linked (happenings.take n)) ↔
      Along (bridgeLoop zlib lib v t).step (bridgeLoop zlib lib v t).Unharmed
        ((bridgeLoop zlib lib v t).start (linked, ⟨false, false, .new⟩)) happenings := by
  constructor
  · intro s happenings
    simp only [playFaithful_iff]
    exact SelectLoop.intact_iff_along (playLoop_steady zlib) s happenings
  · intro lib v t linked happenings
    simp only [bridgeFaithful_iff]
    exact SelectLoop.intact_iff_along (bridgeLoop_steady zlib lib v t) _ happenings

/-- The client is in the middle of a frame when a whole frame arrives from the backend. -/
def midFrame : List (Happening World) :=
  [.arrived .left [2], .polled .left false smallLogin.toWorld,
    .arrived .right [1, 0x7F], .polled .right false smallLogin.toWorld,
    .arrived .left [1, 0x55], .polled .left false smallLogin.toWorld]

/-- The client sends the frame of `⟨1, [0x55]⟩`, and `⟨0x55, []⟩` is passed on. -/
theorem midFrame_reframed :
    ¬ PlayFaithful sampleZlib (smallSession 763) midFrame ∧
      frames (readPacketWithCompression sampleZlib defaultMaxPacketSize none)
        (midFrame.flatMap (Happening.bytes .left)) = [⟨1, [0x55]⟩] ∧
      clientPassed (playRun sampleZlib (smallSession 763) midFrame) = [⟨0x55, []⟩] := by
  have hframes : frames (readPacketWithCompression sampleZlib defaultMaxPacketSize none)
      (midFrame.flatMap (Happening.bytes .left)) = [⟨1, [0x55]⟩] := by decide +kernel
  have hpassed : clientPassed (playRun sampleZlib (smallSession 763) midFrame) = [⟨0x55, []⟩] := by decide +kernel
  refine ⟨?_, hframes, hpassed⟩
  intro h
  have hclient := h.client
  dsimp only at hclient
  rw [hpassed] at hclient
  have hfirst := congrArg List.head? hclient
  change (frames (readPacketWithCompression sampleZlib defaultMaxPacketSize none)
    (midFrame.flatMap (Happening.bytes .left))).head? = _ at hfirst
  rw [hframes] at hfirst
  cases hfirst

/-! ## The same run, packet by packet -/

/-- What a round has read from the client. -/
def Input.fromClient : Input → Option RawPacket
  | .client (.ok packet) => some packet
  | _ => none

/-- What a round has read from the backend. -/
def Input.fromBackend : Input → Option RawPacket
  | .backend (.ok packet) => some packet
  | _ => none

/-- The loop over bytes has come as far as the machine does on `inputs`, which
are the packets it has passed on. -/
structure Follows (s : PlayStateMachine) (inputs : List (World × Input))
    (ℓ : Selecting PlayStateMachine ProxyError RawPacket) : Prop where
  state : (run inputs s).2 = ℓ.state
  goesOn : ℓ.running → ℓ.state.backend.isSome ∧ ∀ more, run (inputs ++ more) s = run more ℓ.state
  client : clientPassed ℓ = inputs.filterMap fun input => input.2.fromClient
  backend : ℓ.passed .right <:+ inputs.filterMap fun input => input.2.fromBackend

/-- A run, one round at a time. -/
theorem run_cons {s : PlayStateMachine} (h : s.backend.isSome) (world : World) (input : Input)
    (inputs : List (World × Input)) :
    run ((world, input) :: inputs) s = match runRound (world.env s) input s with
      | (.ok true, s') => run inputs s'
      | (.ok false, s') => shutStreams s'
      | (.error e, s') => (.error e, s') := by
  obtain ⟨backend, hbackend⟩ := Option.isSome_iff_exists.mp h
  rw [run, Effect.get_bind, hbackend]
  dsimp only
  rw [Effect.bind_apply]
  rcases runRound (world.env s) input s with ⟨_ | goesOn, s'⟩
  · rfl
  · cases goesOn <;> rfl

namespace Follows

variable {zlib : Zlib} {s : PlayStateMachine} {inputs : List (World × Input)}
  {ℓ : Selecting PlayStateMachine ProxyError RawPacket}

theorem start (h : s.backend.isSome) : Follows s [] ((playLoop zlib).start s) :=
  ⟨rfl, fun _ => ⟨h, fun _ => rfl⟩, rfl, List.suffix_rfl⟩

theorem put (h : Follows s inputs ℓ) (arm : Arm) (source : Source ProxyError RawPacket) :
    Follows s inputs (ℓ.put arm source) :=
  ⟨h.state, h.goesOn, h.client, h.backend⟩

theorem stopped (h : (run inputs s).2 = ℓ.state) (hstopped : ¬ ℓ.running)
    (hclient : clientPassed ℓ = inputs.filterMap fun input => input.2.fromClient)
    (hbackend : ℓ.passed .right <:+ inputs.filterMap fun input => input.2.fromBackend) : Follows s inputs ℓ :=
  ⟨h, fun hrunning => absurd hrunning hstopped, hclient, hbackend⟩

/-- What is passed on is what the round is about. -/
theorem passed_input {arm : Arm} {r : Outcome ProxyError RawPacket} {input : Input}
    (hinput : playInput arm r = some input) :
    (ℓ.pass arm r).passed .left = ℓ.passed .left ++ input.fromClient.toList ∧
      (ℓ.pass arm r).passed .right = ℓ.passed .right ++ input.fromBackend.toList := by
  cases arm with
  | left =>
    cases r with
    | ok packet =>
      obtain rfl : Input.client (.ok packet) = input := Option.some.inj hinput
      exact ⟨rfl, (List.append_nil _).symm⟩
    | err e =>
      obtain rfl : Input.client (.error e) = input := Option.some.inj hinput
      exact ⟨(List.append_nil _).symm, (List.append_nil _).symm⟩
    | panic => cases hinput
  | right =>
    cases r with
    | ok packet =>
      obtain rfl : Input.backend (.ok packet) = input := Option.some.inj hinput
      exact ⟨(List.append_nil _).symm, rfl⟩
    | err e =>
      obtain rfl : Input.backend (.error e) = input := Option.some.inj hinput
      exact ⟨(List.append_nil _).symm, (List.append_nil _).symm⟩
    | panic => cases hinput

/-- A round of the loop is a round of the machine. -/
theorem round (h : Follows s inputs ℓ) (hrunning : ℓ.running)
    {ℓ' : Selecting PlayStateMachine ProxyError RawPacket} {input : Input} (hleft : ℓ'.passed .left = ℓ.passed .left ++ input.fromClient.toList)
    (hright : ℓ'.passed .right = ℓ.passed .right ++ input.fromBackend.toList) (world : World) :
    ∃ inputs', Follows s inputs' ((playLoop zlib).settle ℓ' (playRound world input ℓ.state)) := by
  obtain ⟨hattached, hmore⟩ := h.goesOn hrunning
  have hclient (last : List (World × Input)) (hlast : last.filterMap (fun i => i.2.fromClient) = []) :
      ℓ'.passed .left =
        (inputs ++ (world, input) :: last).filterMap fun input => input.2.fromClient := by
    have hpassed : ℓ.passed .left = inputs.filterMap fun input => input.2.fromClient := h.client
    rw [hleft, hpassed, List.filterMap_append, List.filterMap_cons, hlast]
    cases input.fromClient <;> rfl
  have hbackend (last : List (World × Input)) (hlast : last.filterMap (fun i => i.2.fromBackend) = []) :
      ℓ'.passed .right <:+
        (inputs ++ (world, input) :: last).filterMap fun input => input.2.fromBackend := by
    obtain ⟨before, hbefore⟩ := h.backend
    use before
    rw [hright, ← List.append_assoc, hbefore, List.filterMap_append, List.filterMap_cons, hlast]
    cases input.fromBackend <;> rfl
  have hrun (last : List (World × Input)) : run (inputs ++ (world, input) :: last) s =
      match runRound (world.env ℓ.state) input ℓ.state with
      | (.ok true, s') => run last s'
      | (.ok false, s') => shutStreams s'
      | (.error e, s') => (.error e, s') := by
    rw [hmore, run_cons hattached]
  rw [playRound]
  rcases hround : runRound (world.env ℓ.state) input ℓ.state with ⟨e | goesOn, s'⟩
  · rw [hround] at hrun
    refine ⟨_, stopped ?_ nofun (hclient [] rfl) (hbackend [] rfl)⟩
    rw [hrun]
    rfl
  · rw [hround] at hrun
    cases goesOn with
    | false =>
      refine ⟨_, stopped ?_ nofun (hclient [] rfl) (hbackend [] rfl)⟩
      rw [hrun]
      rfl
    | true =>
      dsimp only at hrun ⊢
      have hagain (more : List (World × Input)) : run (inputs ++ [(world, input)] ++ more) s = run more s' := by
        rw [List.append_assoc, List.singleton_append, hrun]
      have hstate : (run (inputs ++ [(world, input)]) s).2 = s' := by
        rw [hrun]
        rfl
      split_ifs with hgone hsame
      · -- the machine finds the backend gone in the round after
        refine ⟨_, stopped ?_ nofun (hclient [(world, .shutdown)] rfl) (hbackend [(world, .shutdown)] rfl)⟩
        rw [hrun, run, Effect.get_bind, Option.isNone_iff_eq_none.mp hgone]
        rfl
      · have hthere : s'.backend.isSome := Option.isSome_iff_ne_none.mpr (mt Option.isNone_iff_eq_none.mpr hgone)
        exact ⟨_, hstate, fun _ => ⟨hthere, hagain⟩, hclient [] rfl, hbackend [] rfl⟩
      · have hthere : s'.backend.isSome := Option.isSome_iff_ne_none.mpr (mt Option.isNone_iff_eq_none.mpr hgone)
        exact ⟨_, hstate, fun _ => ⟨hthere, hagain⟩, hclient [] rfl, List.nil_suffix⟩

theorem step (h : Follows s inputs ℓ) (happening : Happening World) :
    ∃ inputs', Follows s inputs' ((playLoop zlib).step ℓ happening) := by
  have hstepped := @SelectLoop.stepped _ _ _ _ (playLoop zlib) ℓ happening
  generalize (playLoop zlib).step ℓ happening = ℓ' at hstepped ⊢
  cases hstepped with
  | arrived arm bytes => exact ⟨inputs, h.put arm _⟩
  | halted => exact ⟨inputs, h⟩
  | undecided arm ended world => exact ⟨inputs, h.put arm _⟩
  | interrupted world hrunning =>
    have hleft : ℓ.passed .left = ℓ.passed .left ++ Input.shutdown.fromClient.toList := (List.append_nil _).symm
    have hright : ℓ.passed .right = ℓ.passed .right ++ Input.shutdown.fromBackend.toList :=
      (List.append_nil _).symm
    exact @round zlib _ _ _ h hrunning _ _ hleft hright world
  | decided arm ended world r hrunning hr =>
    have hput := h.put arm ((ℓ.source arm).poll ended).2
    change ∃ inputs', Follows s inputs' ((playLoop zlib).settle _ (match playInput arm r with
      | some input => playRound world input ℓ.state
      | none => .closed ℓ.state))
    cases hinput : playInput arm r with
    | some input =>
      obtain ⟨hleft, hright⟩ := @passed_input (ℓ.put arm ((ℓ.source arm).poll ended).2) _ _ _ hinput
      exact hput.round hrunning hleft hright world
    | none =>
      have hpassed : (ℓ.put arm ((ℓ.source arm).poll ended).2).pass arm r =
          ℓ.put arm ((ℓ.source arm).poll ended).2 := by
        cases r with
        | ok packet => cases arm <;> cases hinput
        | err e => rfl
        | panic => rfl
      rw [hpassed]
      exact ⟨inputs, stopped h.state nofun h.client h.backend⟩

end Follows

/-- The relay loop over bytes, in whatever order they arrive and are read, does
what the machine does on the packets it has passed on. -/
theorem playRun_follows {zlib : Zlib} {s : PlayStateMachine} (h : s.backend.isSome)
    (happenings : List (Happening World)) : ∃ inputs, Follows s inputs (playRun zlib s happenings) := by
  have hstep (ℓ : Selecting PlayStateMachine ProxyError RawPacket) (happening : Happening World)
      (hℓ : ∃ inputs, Follows s inputs ℓ) (_ : True) :
      ∃ inputs, Follows s inputs ((playLoop zlib).step ℓ happening) := by
    obtain ⟨inputs, hℓ⟩ := hℓ
    exact hℓ.step happening
  exact runAll_invariant hstep ⟨[], Follows.start h⟩ (along_true _ happenings)

end FrameMC

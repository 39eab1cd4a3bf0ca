import FrameMC.Lib.CursorLoop
import FrameMC.Protocol.Channel
import FrameMC.Routing.Packets

/-!
# System chat, written and read back

`SystemChatMessagePacket` of `src/routing/state_machine.rs`. From protocol 766
on the message is an NBT string, whose length is cast to sixteen bits; before,
it is a JSON text with a VarInt length. The decoder does not look at the
version: a first byte `0x0A` is a compound. No JSON text is that short, so a
message comes back exactly when its length survives the cast
(`system_chat_round_trip_iff`).
-/

namespace FrameMC

open ByteStream

namespace SystemChatMessagePacket

/-! ## Decoding -/

def isValidSystemChatId (id : Int32) : Bool :=
  [0x79, 0x78, 0x73, 0x70, 0x6C, 0x67, 0x64, 0x60, 0x5F, 0x69].contains id

/-- What one turn of the loop over the tags comes to: the message so far, and
whether the loop goes on. -/
structure Tag where
  message : String
  goesOn : Bool

/-- The body of the loop over the tags of the compound. -/
def tag (message : String) : Decoder ProxyError Tag := do
  let tagType ← Decoder.getU8
  if tagType = 0x00 then pure ⟨message, false⟩
  else do
    let remaining ← Decoder.remaining
    if remaining < 2 then pure ⟨message, false⟩
    else do
      let keyLen ← getU16
      let remaining ← Decoder.remaining
      if remaining < keyLen.toNat then pure ⟨message, false⟩
      else do
        let keyBytes ← Decoder.slice keyLen.toNat
        let key := (fromUtf8 keyBytes).getD ""
        Decoder.advance keyLen.toNat
        if tagType = 0x08 then do
          let remaining ← Decoder.remaining
          if remaining < 2 then pure ⟨message, false⟩
          else do
            let strLen ← getU16
            let remaining ← Decoder.remaining
            if remaining < strLen.toNat then pure ⟨message, false⟩
            else do
              let valBytes ← Decoder.slice strLen.toNat
              let val := (fromUtf8 valBytes).getD ""
              Decoder.advance strLen.toNat
              pure ⟨if key = "text" then val else message, true⟩
        else pure ⟨message, true⟩

/-- `while cursor.has_remaining()`. Every turn takes a byte, so as many turns
suffice as there are bytes (`tags_fuel`). -/
def tags : Nat → String → Decoder ProxyError String
  | 0, message => pure message
  | fuel + 1, message => do
    let remaining ← Decoder.remaining
    if remaining = 0 then pure message
    else do
      let t ← tag message
      if t.goesOn then tags fuel t.message else pure t.message

/-- The overlay flag, if there is one. -/
def readOverlay : Decoder ProxyError Bool := do
  let remaining ← Decoder.remaining
  if remaining > 0 then do
    let flag ← Decoder.getU8
    pure (flag ≠ 0)
  else pure false

def readCompound : Decoder ProxyError SystemChatMessagePacket := do
  Decoder.advance 1
  let remaining ← Decoder.remaining
  let message ← tags remaining ""
  let overlay ← readOverlay
  pure ⟨message, overlay⟩

/-- `readText` is `serde_json`'s parser and the text member of what it gives. -/
def readJson (readText : String → Except String (Option String)) : Decoder ProxyError SystemChatMessagePacket := do
  let jsonStr ← readString "unexpected EOF reading system chat message JSON" "invalid UTF-8 in message JSON"
  let text ← Decoder.lift (match readText jsonStr with
    | .ok text => .ok text
    | .error e => .err (.io .invalidData e))
  let overlay ← readOverlay
  pure ⟨text.getD jsonStr, overlay⟩

def decodeWithVersion (readText : String → Except String (Option String)) (packet : RawPacket)
    (protocolVersion : Int) : Outcome ProxyError SystemChatMessagePacket :=
  if packet.id ≠ packetIdForVersion protocolVersion ∧ ¬ isValidSystemChatId packet.id then
    .err (.invalidPacketId packet.id)
  else if packet.payload.isEmpty then .err (.io .unexpectedEof "empty system chat message payload")
  else do
    let (first, _) ← Decoder.index 0 packet.payload
    let (packet, _) ← if first = 0x0A then readCompound packet.payload else readJson readText packet.payload
    .ok packet

/-- The index is in bounds: the payload is not empty there. -/
theorem decodeWithVersion_eq (readText : String → Except String (Option String)) (packet : RawPacket) (v : Int) :
    decodeWithVersion readText packet v =
      if packet.id ≠ packetIdForVersion v ∧ ¬ isValidSystemChatId packet.id then .err (.invalidPacketId packet.id)
      else if packet.payload.isEmpty then .err (.io .unexpectedEof "empty system chat message payload")
      else (if packet.payload.head? = some 0x0A then readCompound packet.payload
        else readJson readText packet.payload) >>= fun r => .ok r.1 := by
  rw [decodeWithVersion]
  cases hpayload : packet.payload with
  | nil => rfl
  | cons b bs =>
    simp only [Decoder.index, List.getElem?_cons_zero, Outcome.ok_bind, List.head?_cons, Option.some.injEq]
    by_cases hcompound : b = 0x0A
    · simp only [if_pos hcompound]
    · simp only [if_neg hcompound]

/-! ## The compound -/

theorem getU16_of_le {bs : List UInt8} (h : 2 ≤ bs.length) : ∃ n, getU16 bs = .ok (n, bs.drop 2) := by
  have hlen : (bs.take 2).length = 2 := List.length_take_of_le h
  have := getU16_append hlen (bs.drop 2)
  rw [List.take_append_drop] at this
  exact ⟨_, this⟩

theorem fromUtf8_getD_length (bs : List UInt8) : (asBytes ((fromUtf8 bs).getD "")).length ≤ bs.length := by
  cases h : fromUtf8 bs with
  | none => exact Nat.zero_le _
  | some s => rw [Option.getD_some, asBytes_of_fromUtf8 h]

/-- A turn of the loop does not panic, takes a byte, and leaves the message or
puts a short one in its place. -/
theorem tag_cons (message : String) (b : UInt8) (bs : List UInt8) :
    ∃ t rest, tag message (b :: bs) = .ok (t, rest) ∧ rest.length ≤ bs.length ∧
      (t.message = message ∨ (asBytes t.message).length < 2 ^ 16) := by
  simp only [tag, Decoder.bind_apply, Decoder.getU8_cons, Outcome.ok_bind, Decoder.ite_apply, Decoder.pure_apply,
    Decoder.remaining_apply]
  by_cases hend : b = 0x00
  · rw [if_pos hend]
    exact ⟨_, _, rfl, Nat.le_refl _, .inl rfl⟩
  rw [if_neg hend]
  by_cases hkey : bs.length < 2
  · rw [if_pos hkey]
    exact ⟨_, _, rfl, Nat.le_refl _, .inl rfl⟩
  obtain ⟨keyLen, hkeyLen⟩ := getU16_of_le (Nat.le_of_not_lt hkey)
  rw [if_neg hkey, hkeyLen, Outcome.ok_bind]
  dsimp only
  generalize hbuf : bs.drop 2 = buf
  have hbufLen : buf.length ≤ bs.length := by
    rw [← hbuf, List.length_drop]
    omega
  by_cases hshort : buf.length < keyLen.toNat
  · rw [if_pos hshort]
    exact ⟨_, _, rfl, hbufLen, .inl rfl⟩
  have hle := Nat.le_of_not_lt hshort
  rw [if_neg hshort, Decoder.slice_of_le hle, Outcome.ok_bind, Decoder.advance_of_le hle, Outcome.ok_bind]
  dsimp only
  generalize hafter : buf.drop keyLen.toNat = after
  have hafterLen : after.length ≤ bs.length := by
    rw [← hafter, List.length_drop]
    omega
  by_cases hstring : b = 0x08
  · rw [if_pos hstring]
    by_cases hlen : after.length < 2
    · rw [if_pos hlen]
      exact ⟨_, _, rfl, hafterLen, .inl rfl⟩
    obtain ⟨strLen, hstrLen⟩ := getU16_of_le (Nat.le_of_not_lt hlen)
    rw [if_neg hlen, hstrLen, Outcome.ok_bind]
    dsimp only
    generalize hval : after.drop 2 = val
    have hvalLen : val.length ≤ bs.length := by
      rw [← hval, List.length_drop]
      omega
    by_cases hcut : val.length < strLen.toNat
    · rw [if_pos hcut]
      exact ⟨_, _, rfl, hvalLen, .inl rfl⟩
    have hfits := Nat.le_of_not_lt hcut
    rw [if_neg hcut, Decoder.slice_of_le hfits, Outcome.ok_bind, Decoder.advance_of_le hfits, Outcome.ok_bind]
    refine ⟨_, _, rfl, by rw [List.length_drop]; omega, ?_⟩
    dsimp only
    split_ifs
    · have := fromUtf8_getD_length (val.take strLen.toNat)
      have hlt := strLen.toNat_lt
      rw [List.length_take] at this
      exact .inr (by omega)
    · exact .inl rfl
  · rw [if_neg hstring]
    exact ⟨_, _, rfl, hafterLen, .inl rfl⟩

/-- A turn of the loop, as the message and whether the loop goes on. -/
def turn (message : String) : Decoder ProxyError (String × Bool) := (fun t => (t.message, t.goesOn)) <$> tag message

theorem turn_advances : Decoder.Advances turn := by
  intro message b bs message' goesOn rest h
  obtain ⟨t, rest', ht, hle, -⟩ := tag_cons message b bs
  rw [turn, Decoder.map_apply, ht] at h
  obtain ⟨-, rfl⟩ := Prod.mk.inj (Outcome.ok.inj h)
  exact hle

theorem turn_ne_panic (message : String) (b : UInt8) (bs : List UInt8) : turn message (b :: bs) ≠ .panic := by
  obtain ⟨t, rest, ht, -⟩ := tag_cons message b bs
  rw [turn, Decoder.map_apply, ht]
  exact nofun

/-- The loop of the source ends, and with what `tags` gives. -/
theorem tags_loop (fuel : Nat) : ∀ (message : String) (bs : List UInt8), bs.length ≤ fuel →
    Decoder.Loop turn message bs (tags fuel message bs) := by
  induction fuel with
  | zero =>
    intro message bs h
    obtain rfl : bs = [] := List.length_eq_zero_iff.mp (by omega)
    exact .exhausted message
  | succ fuel ih =>
    intro message bs h
    cases bs with
    | nil => exact .exhausted message
    | cons b bs =>
      obtain ⟨t, rest, ht, hrest, -⟩ := tag_cons message b bs
      have hturn : turn message (b :: bs) = .ok ((t.message, t.goesOn), rest) := by
        rw [turn, Decoder.map_apply, ht]
        rfl
      rw [tags]
      simp only [Decoder.bind_apply, Decoder.remaining_apply, Outcome.ok_bind, Decoder.ite_apply, List.length_cons,
        Nat.add_one_ne_zero, if_false, ht]
      cases hgoes : t.goesOn with
      | false =>
        rw [hgoes] at hturn
        exact .left hturn
      | true =>
        rw [hgoes] at hturn
        rw [List.length_cons] at h
        exact .again hturn (ih t.message rest (by omega))

/-- More turns than there are bytes change nothing. -/
theorem tags_fuel {fuel : Nat} (message : String) {bs : List UInt8} (h : bs.length ≤ fuel) :
    tags fuel message bs = tags bs.length message bs :=
  (tags_loop fuel message bs h).unique (tags_loop bs.length message bs (Nat.le_refl _))

/-- The loop leaves a short message short. -/
theorem tags_short (fuel : Nat) : ∀ (message : String) (bs : List UInt8) (message' : String) (rest : List UInt8),
    (asBytes message).length < 2 ^ 16 → tags fuel message bs = .ok (message', rest) →
      (asBytes message').length < 2 ^ 16 := by
  induction fuel with
  | zero =>
    intro message bs message' rest hshort h
    obtain ⟨rfl, -⟩ : message = message' ∧ bs = rest := by simpa [tags] using h
    exact hshort
  | succ fuel ih =>
    intro message bs message' rest hshort h
    cases bs with
    | nil =>
      obtain ⟨rfl, -⟩ : message = message' ∧ [] = rest := by simpa [tags] using h
      exact hshort
    | cons b bs =>
      obtain ⟨t, rest', ht, -, hmessage⟩ := tag_cons message b bs
      have ht' : (asBytes t.message).length < 2 ^ 16 := by
        rcases hmessage with e | hlt
        · rw [e]
          exact hshort
        · exact hlt
      rw [tags] at h
      simp only [Decoder.bind_apply, Decoder.remaining_apply, Outcome.ok_bind, Decoder.ite_apply, List.length_cons,
        Nat.add_one_ne_zero, if_false, ht, Decoder.pure_apply] at h
      split_ifs at h
      · exact ih t.message rest' message' rest ht' h
      · obtain ⟨rfl, -⟩ : t.message = message' ∧ rest' = rest := by simpa using h
        exact ht'

/-- No message longer than sixteen bits can say comes out of a compound. -/
theorem readCompound_short {bs rest : List UInt8} {p : SystemChatMessagePacket} (h : readCompound bs = .ok (p, rest)) :
    (asBytes p.message).length < 2 ^ 16 := by
  obtain ⟨⟨u, buf⟩, -, h⟩ := Outcome.bind_eq_ok.mp h
  obtain ⟨⟨remaining, buf'⟩, -, h⟩ := Outcome.bind_eq_ok.mp h
  obtain ⟨⟨message, buf''⟩, hmessage, h⟩ := Outcome.bind_eq_ok.mp h
  obtain ⟨⟨overlay, rest'⟩, -, h⟩ := Outcome.bind_eq_ok.mp h
  obtain ⟨rfl, -⟩ : (⟨message, overlay⟩ : SystemChatMessagePacket) = p ∧ rest' = rest := by simpa using h
  exact tags_short _ _ _ _ _ (by decide) hmessage

/-- The one tag the encoder writes. -/
theorem tag_text (message m : String) (hm : (asBytes m).length < 2 ^ 16) (rest : List UInt8) :
    tag message (0x08 :: (putU16 4 ++ (asBytes "text" ++ (putU16 (asBytes m).length ++ (asBytes m ++ rest))))) =
      .ok (⟨m, true⟩, rest) := by
  have hfour : (UInt16.ofNat 4).toNat = 4 := rfl
  have htext : (asBytes "text").length = 4 := by decide
  have hlen : (UInt16.ofNat (asBytes m).length).toNat = (asBytes m).length := UInt16.toNat_ofNat_of_lt' hm
  have htake : (asBytes "text" ++ (putU16 (asBytes m).length ++ (asBytes m ++ rest))).take 4 = asBytes "text" :=
    List.take_left' htext
  have hdrop : (asBytes "text" ++ (putU16 (asBytes m).length ++ (asBytes m ++ rest))).drop 4 =
      putU16 (asBytes m).length ++ (asBytes m ++ rest) := List.drop_left' htext
  have hkey : 4 ≤ (asBytes "text" ++ (putU16 (asBytes m).length ++ (asBytes m ++ rest))).length := by
    rw [List.length_append, htext]
    omega
  have hval : (asBytes m).length ≤ (asBytes m ++ rest).length := by
    rw [List.length_append]
    omega
  have hhead (n : Nat) (more : List UInt8) : ¬ (putU16 n ++ more).length < 2 := by
    simp [putU16]
  simp only [tag, Decoder.bind_apply, Decoder.getU8_cons, Outcome.ok_bind, Decoder.ite_apply, Decoder.pure_apply,
    Decoder.remaining_apply, hhead, if_false, getU16_putU16, hfour, Nat.not_lt.mpr hkey, Decoder.slice_of_le hkey,
    Decoder.advance_of_le hkey, htake, hdrop, hlen, Nat.not_lt.mpr hval, Decoder.slice_of_le hval,
    Decoder.advance_of_le hval, List.take_left, List.drop_left, fromUtf8_asBytes, Option.getD_some, if_true]
  rfl

theorem readOverlay_flag (overlay : Bool) : readOverlay [if overlay then 1 else 0] = .ok (overlay, []) := by
  cases overlay <;> rfl

/-- A compound whose message fits is read back. -/
theorem readCompound_textCompound (m : String) (overlay : Bool) (hm : (asBytes m).length < 2 ^ 16) :
    readCompound (textCompound m ++ [if overlay then 1 else 0]) = .ok (⟨m, overlay⟩, []) := by
  have hbytes : textCompound m ++ [if overlay then 1 else 0] =
      0x0A :: (0x08 :: (putU16 4 ++ (asBytes "text" ++ (putU16 (asBytes m).length ++ (asBytes m ++
        0x00 :: [if overlay then 1 else 0]))))) := by
    simp only [textCompound, List.append_assoc, List.cons_append, List.nil_append]
  have htag := tag_text "" m hm (0x00 :: [if overlay then 1 else 0])
  rw [hbytes, readCompound]
  generalize hbuf : 0x08 :: (putU16 4 ++ (asBytes "text" ++ (putU16 (asBytes m).length ++ (asBytes m ++
    0x00 :: [if overlay then 1 else 0])))) = buf at htag ⊢
  obtain ⟨fuel, hfuel⟩ : ∃ fuel, buf.length = fuel + 2 := by
    refine ⟨buf.length - 2, ?_⟩
    have : 2 ≤ buf.length := by
      rw [← hbuf]
      simp [putU16]
    omega
  have hone : 1 ≤ (0x0A :: buf).length := by simp
  have hread : tags (fuel + 2) "" buf = .ok (m, [if overlay then 1 else 0]) := by
    simp only [tags, Decoder.bind_apply, Decoder.remaining_apply, Outcome.ok_bind, Decoder.ite_apply, hfuel,
      Nat.add_one_ne_zero, if_false, htag, if_true, List.length_cons]
    rfl
  simp only [Decoder.bind_apply, Decoder.advance_of_le hone, Outcome.ok_bind, List.drop_one, List.tail_cons,
    Decoder.remaining_apply, hfuel, hread, readOverlay_flag, Decoder.pure_apply]

/-! ## The JSON text -/

/-- What `serde_json` does with a message: its parser gives back what was
written, the text is an object around a quoted string of at most six bytes a
byte, and a text cut short is no JSON. -/
structure SerdeText (textJson : String → String) (readText : String → Except String (Option String))
    (message : String) : Prop where
  undone : readText (textJson message) = .ok (some message)
  quoted : ∃ body, asBytes (textJson message) = asBytes "\x7b\"text\":\"" ++ body ++ asBytes "\"\x7d" ∧
    body.length ≤ 6 * (asBytes message).length
  cutShort : ∀ s rest, rest ≠ [] → asBytes (textJson message) = asBytes s ++ rest → ∃ e, readText s = .error e

section Serde

variable {textJson : String → String} {readText : String → Except String (Option String)} {message : String}

theorem SerdeText.length (h : SerdeText textJson readText message) :
    11 ≤ (asBytes (textJson message)).length ∧
      (asBytes (textJson message)).length ≤ 6 * (asBytes message).length + 11 := by
  obtain ⟨body, hbytes, hbody⟩ := h.quoted
  have hopen : (asBytes "\x7b\"text\":\"").length = 9 := by decide
  have hclose : (asBytes "\"\x7d").length = 2 := by decide
  rw [hbytes, List.length_append, List.length_append, hopen, hclose]
  omega

/-- Only ten is written as a first byte `0x0A`. -/
theorem encodeVarint_head {x : Int32} {rest : List UInt8} (h : (encodeVarint x ++ rest).head? = some 0x0A) :
    x.toUInt32.toNat = 10 := by
  obtain ⟨bs, hbs⟩ : ∃ bs, 0x0A :: bs = encodeVarint x ++ rest := by
    cases hx : encodeVarint x ++ rest with
    | nil =>
      rw [hx] at h
      cases h
    | cons b bs =>
      rw [hx] at h
      exact ⟨bs, by rw [← Option.some.inj h]⟩
  rcases (encodeVarint_isVarint x).2.starts_cons hbs with ⟨-, -, hten, -⟩ | ⟨hge, -⟩
  · rw [hten]
    rfl
  · exact absurd hge (by decide)

/-- The text is too long for its length to look like a compound. -/
theorem SerdeText.head_ne (h : SerdeText textJson readText message) (rest : List UInt8)
    (hfits : StringFits (textJson message)) : (putString (textJson message) ++ rest).head? ≠ some 0x0A := by
  intro hhead
  rw [putString, List.append_assoc] at hhead
  have hten := encodeVarint_head hhead
  have hfits' : (asBytes (textJson message)).length < 2 ^ 31 := hfits
  rw [asI32_toNat (by omega)] at hten
  have := h.length
  omega

/-- Behind a length that does not fit the text is cut short. -/
theorem SerdeText.cut (h : SerdeText textJson readText message) {flag buf : List UInt8} {s : String}
    (hlong : ¬ StringFits (textJson message))
    (hread : readString "unexpected EOF reading system chat message JSON" "invalid UTF-8 in message JSON"
      (putString (textJson message) ++ flag) = .ok (s, buf)) : ∃ e, readText s = .error e := by
  obtain ⟨more, hmore, hbytes⟩ := readString_putString_cut hlong hread
  exact h.cutShort s more hmore hbytes

end Serde

/-! ## The packet -/

/-- The sixteen bits before the message. -/
def lengthPrefix (payload : List UInt8) : Nat := 256 * (payload.getD 8 0).toNat + (payload.getD 9 0).toNat

theorem lengthPrefix_textCompound (m : String) (rest : List UInt8) :
    lengthPrefix (textCompound m ++ rest) = (asBytes m).length % 2 ^ 16 := by
  have htext : asBytes "text" = [0x74, 0x65, 0x78, 0x74] := by decide
  simp only [textCompound, htext, putU16, lengthPrefix, List.append_assoc, List.cons_append, List.nil_append,
    List.getD_cons_succ, List.getD_cons_zero, UInt8.toNat_ofNat']
  omega

variable {textJson : String → String} {readText : String → Except String (Option String)}

theorem decodeWithVersion_compound_iff {m : String} {overlay : Bool} {v : Int} (hv : v ≥ 766) :
    decodeWithVersion readText (encodeWithVersion textJson ⟨m, overlay⟩ v) v = .ok ⟨m, overlay⟩ ↔
      (asBytes m).length < 2 ^ 16 := by
  rw [decodeWithVersion_eq, encodeWithVersion, if_neg (fun h => h.1 rfl)]
  dsimp only
  rw [if_pos hv, if_neg (by simp [textCompound]), if_pos (by simp [textCompound])]
  constructor
  · intro h
    obtain ⟨⟨p, rest⟩, hread, h⟩ := Outcome.bind_eq_ok.mp h
    obtain rfl := Outcome.ok.inj h
    exact readCompound_short hread
  · intro h
    rw [readCompound_textCompound m overlay h]
    rfl

theorem decodeWithVersion_json_iff {m : String} {overlay : Bool} {v : Int} (hv : ¬ v ≥ 766)
    (serde : SerdeText textJson readText m) :
    decodeWithVersion readText (encodeWithVersion textJson ⟨m, overlay⟩ v) v = .ok ⟨m, overlay⟩ ↔
      StringFits (textJson m) := by
  have hne : (putString (textJson m) ++ [if overlay then 1 else 0]).isEmpty = false := by simp
  rw [decodeWithVersion_eq, encodeWithVersion, if_neg (fun h => h.1 rfl)]
  dsimp only
  rw [if_neg hv, hne, if_neg Bool.false_ne_true]
  constructor
  · intro h
    by_contra hlong
    generalize hflag : [if overlay then (1 : UInt8) else 0] = flag at h
    split_ifs at h
    · -- read as a compound, the message would be short, and so its text
      obtain ⟨⟨p, rest⟩, hread, h⟩ := Outcome.bind_eq_ok.mp h
      obtain rfl := Outcome.ok.inj h
      have hshort := readCompound_short hread
      have := serde.length.2
      apply hlong
      change (asBytes (textJson m)).length < 2 ^ 31
      dsimp only at hshort
      omega
    · obtain ⟨r, hread, -⟩ := Outcome.bind_eq_ok.mp h
      obtain ⟨⟨s, buf⟩, hs, hread⟩ := Outcome.bind_eq_ok.mp hread
      obtain ⟨e, herr⟩ := serde.cut hlong hs
      simp [herr] at hread
  · intro hfits
    rw [if_neg (serde.head_ne _ hfits), readJson]
    simp only [Decoder.bind_apply, readString_putString _ _ hfits, Outcome.ok_bind, serde.undone, Decoder.lift_ok,
      readOverlay_flag, Decoder.pure_apply, Option.getD_some]

/-- A system chat message comes back as it was, and behind a length prefix that
counts its bytes, exactly when its length survives the cast. -/
theorem system_chat_round_trip_iff (message : String) (overlay : Bool) (v : Int)
    (serde : v < 766 → SerdeText textJson readText message) :
    (decodeWithVersion readText (encodeWithVersion textJson ⟨message, overlay⟩ v) v = .ok ⟨message, overlay⟩ ∧
        (v ≥ 766 → lengthPrefix (encodeWithVersion textJson ⟨message, overlay⟩ v).payload = (asBytes message).length)) ↔
      if v ≥ 766 then (asBytes message).length < 2 ^ 16 else (asBytes (textJson message)).length < 2 ^ 31 := by
  by_cases hv : v ≥ 766
  · rw [decodeWithVersion_compound_iff hv, if_pos hv, encodeWithVersion]
    dsimp only
    rw [if_pos hv, lengthPrefix_textCompound]
    constructor
    · exact fun h => h.1
    · exact fun h => ⟨h, fun _ => Nat.mod_eq_of_lt h⟩
  · rw [decodeWithVersion_json_iff hv (serde (Int.not_le.mp hv)), if_neg hv]
    exact ⟨fun h => h.1, fun h => ⟨h, fun hv' => absurd hv' hv⟩⟩

/-- What is written for a message of plain characters, and read back. -/
def plainJson (message : String) : String := "\x7b\"text\":\"" ++ message ++ "\"\x7d"

def readPlain (text : String) : Except String (Option String) :=
  if text = plainJson "hi" then .ok (some "hi") else .error "EOF while parsing an object"

/-- A notice above the hotbar, at protocol 763. -/
theorem system_chat_round_trip_hi :
    decodeWithVersion readPlain (encodeWithVersion plainJson ⟨"hi", true⟩ 763) 763 = .ok ⟨"hi", true⟩ := by
  have serde : SerdeText plainJson readPlain "hi" := by
    refine ⟨by decide, ⟨asBytes "hi", by decide, by decide⟩, ?_⟩
    intro s rest hrest h
    refine ⟨"EOF while parsing an object", if_neg ?_⟩
    rintro rfl
    exact hrest (List.append_right_eq_self.mp h.symm)
  exact ((system_chat_round_trip_iff "hi" true 763 (fun _ => serde)).mpr (by decide)).1

/-- A message one byte too long for its prefix, which says zero. -/
theorem system_chat_length_lost :
    lengthPrefix (encodeWithVersion plainJson ⟨String.ofList (List.replicate 65536 'a'), false⟩ 776).payload = 0 ∧
      decodeWithVersion readPlain (encodeWithVersion plainJson ⟨String.ofList (List.replicate 65536 'a'), false⟩ 776) 776 ≠
        .ok ⟨String.ofList (List.replicate 65536 'a'), false⟩ := by
  have hascii : ∀ c ∈ (String.ofList (List.replicate 65536 'a')).toList, c.toNat < 128 := by
    intro c hc
    rw [String.toList_ofList] at hc
    rw [List.eq_of_mem_replicate hc]
    decide
  have hlen : (asBytes (String.ofList (List.replicate 65536 'a'))).length = 65536 := by
    rw [asBytes_of_ascii hascii, List.length_map, String.toList_ofList, List.length_replicate]
  constructor
  · rw [encodeWithVersion]
    dsimp only
    rw [if_pos (by decide), lengthPrefix_textCompound, hlen]
    rfl
  · rw [ne_eq, decodeWithVersion_compound_iff (by decide), hlen]
    decide

end SystemChatMessagePacket

end FrameMC

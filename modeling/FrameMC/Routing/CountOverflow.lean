import FrameMC.Routing.RootIndex

/-!
# The declared node count

`inject_proxy_commands_into_declare_commands` as a build with overflow checks
runs it: an `i32` addition that overflows panics, and so does an index or a
slice out of range. The slices never do. The additions do exactly where the
backend declares a count with no room for the proxy's nodes, which the code
does not check (`inject_count_iff`); without the checks the count wraps.
-/

namespace FrameMC

open ByteStream

/-! ## Checked operations -/

/-- `a + b`, with overflow checks. -/
def addI32 (a b : Int32) : Outcome ProxyError Int32 :=
  if (a + b).toInt = a.toInt + b.toInt then .ok (a + b) else .panic

/-- `a - b` of `usize`, with overflow checks. -/
def subUsize (a b : Nat) : Outcome ProxyError Nat := if b ≤ a then .ok (a - b) else .panic

/-- `cursor[i]`. -/
def byteAt (cursor : List UInt8) (i : Nat) : Outcome ProxyError UInt8 :=
  if i < cursor.length then .ok (cursor.getD i 0) else .panic

/-- `&cursor[start..]`. -/
def sliceFrom (cursor : List UInt8) (start : Nat) : Outcome ProxyError (List UInt8) :=
  if start ≤ cursor.length then .ok (cursor.drop start) else .panic

/-- `&cursor[..stop]`. -/
def sliceTo (cursor : List UInt8) (stop : Nat) : Outcome ProxyError (List UInt8) :=
  if stop ≤ cursor.length then .ok (cursor.take stop) else .panic

/-! ## The function with checks -/

/-- `for len in 2..=5.min(rem)`, left at the first byte without a continuation bit. -/
def possibleLensChecked (cursor : List UInt8) : List Nat → Outcome ProxyError (List Nat)
  | [] => .ok []
  | len :: lens => do
    let i ← subUsize cursor.length len
    let b ← byteAt cursor i
    if (b &&& 0x80) ≠ 0 then do
      let more ← possibleLensChecked cursor lens
      .ok (len :: more)
    else .ok []

/-- `for &len in possible_lens.iter().rev()`. -/
def findIndexChecked (cursor : List UInt8) (originalCount : Int32) :
    List Nat → Outcome ProxyError (Option (Nat × Int32))
  | [] => .ok none
  | len :: lens => do
    let start ← subUsize cursor.length len
    let slice ← sliceFrom cursor start
    match decodeVarint slice with
    | .ok (val, slice) =>
      if slice.isEmpty ∧ varintSize val = len ∧ val ≥ 0 ∧ asUsize val < asUsize originalCount then
        .ok (some (len, val))
      else findIndexChecked cursor originalCount lens
    | _ => findIndexChecked cursor originalCount lens

def rootIndexChecked (cursor : List UInt8) (originalCount : Int32) : Outcome ProxyError (Option (Nat × Int32)) := do
  let i ← subUsize cursor.length 1
  let last ← byteAt cursor i
  if last = 0x00 then .ok (some (1, 0))
  else if (last &&& 0x80) = 0 then do
    let lens ← possibleLensChecked cursor (List.range' 2 (min 5 cursor.length - 1))
    findIndexChecked cursor originalCount (1 :: lens).reverse
  else .ok none

def addLiteralChecked (b : Injection) (literal : String) : Outcome ProxyError Injection := do
  let next ← addI32 b.currentIndex 1
  .ok ⟨next, b.newRootChildren ++ [b.currentIndex], b.newNodesPayload ++ literalNode literal⟩

def addLiteralsChecked : List String → Injection → Outcome ProxyError Injection
  | [], b => .ok b
  | literal :: literals, b => do
    let b ← addLiteralChecked b literal
    addLiteralsChecked literals b

def injectionChecked (originalCount : Int32) (literals : List String) : Outcome ProxyError Injection := do
  let serverArgIdx ← addI32 originalCount 1
  let currentIndex ← addI32 originalCount 2
  addLiteralsChecked literals ⟨currentIndex, [originalCount], serverNode serverArgIdx ++ nameNode⟩

def injectChecked (toLowercase : String → String) (packet : RawPacket) (protocolVersion : Int)
    (customServers : List String) : Outcome ProxyError RawPacket :=
  if protocolVersion < 393 then .ok packet
  else if ¬ isDeclareCommandsPacket packet.id protocolVersion then .ok packet
  else do
    let (originalCount, cursor) ← decodeVarint packet.payload
    if originalCount ≤ 0 ∨ cursor.isEmpty then .ok packet
    else do
      let (rootFlags, cursor) ← Decoder.getU8 cursor
      if rootFlags ≠ 0x00 then .ok packet
      else do
        let (originalChildCount, cursor) ← decodeVarint cursor
        if originalChildCount < 0 ∨ cursor.length < asUsize originalChildCount then .ok packet
        else do
          let (originalChildren, cursor) ← decodeVarints (asUsize originalChildCount) cursor
          if cursor.length < 1 then .ok packet
          else do
            let found ← rootIndexChecked cursor originalCount
            match found with
            | none => .ok packet
            | some (rootIndexLen, rootIndex) => do
              let stop ← subUsize cursor.length rootIndexLen
              let restOfNodes ← sliceTo cursor stop
              let new ← injectionChecked originalCount (rootLiterals toLowercase customServers)
              let childCount := originalChildren.length + new.newRootChildren.length
              .ok ⟨packet.id,
                encodeVarint new.currentIndex ++ [0x00] ++ encodeVarint (asI32 childCount) ++
                  originalChildren.flatMap encodeVarint ++ new.newRootChildren.flatMap encodeVarint ++
                  restOfNodes ++ new.newNodesPayload ++ encodeVarint rootIndex⟩

/-! ## The slices -/

section Slices

variable {cursor : List UInt8} {count : Int32}

theorem byteAt_sub {len : Nat} (h0 : 0 < len) (h : len ≤ cursor.length) :
    (subUsize cursor.length len >>= byteAt cursor) = .ok (cursor.getD (cursor.length - len) 0) := by
  rw [subUsize, if_pos h, Outcome.ok_bind, byteAt, if_pos (by omega)]

theorem possibleLensChecked_eq {lens : List Nat} (h : ∀ len ∈ lens, 0 < len ∧ len ≤ cursor.length) :
    possibleLensChecked cursor lens =
      .ok (lens.takeWhile fun len => (cursor.getD (cursor.length - len) 0 &&& 0x80) ≠ 0) := by
  induction lens with
  | nil => rfl
  | cons len lens ih =>
    obtain ⟨⟨h0, hlen⟩, hlens⟩ := List.forall_mem_cons.mp h
    have hat := byteAt_sub h0 hlen
    rw [possibleLensChecked, ← Outcome.bind_assoc, hat, Outcome.ok_bind, List.takeWhile_cons, ih hlens]
    by_cases hcont : (cursor.getD (cursor.length - len) 0 &&& 0x80) ≠ 0
    · rw [if_pos hcont, if_pos (decide_eq_true hcont)]
      rfl
    · rw [if_neg hcont, if_neg (by simpa using hcont)]

theorem findIndexChecked_eq {lens : List Nat} (h : ∀ len ∈ lens, len ≤ cursor.length) :
    findIndexChecked cursor count lens = .ok (lens.findSome? (indexOfLength cursor count)) := by
  induction lens with
  | nil => rfl
  | cons len lens ih =>
    obtain ⟨hlen, hlens⟩ := List.forall_mem_cons.mp h
    rw [findIndexChecked, subUsize, if_pos hlen, Outcome.ok_bind, sliceFrom, if_pos (Nat.sub_le _ _), Outcome.ok_bind,
      ih hlens, List.findSome?_cons, indexOfLength]
    cases decodeVarint (cursor.drop (cursor.length - len)) with
    | ok r =>
      dsimp only
      split_ifs
      · rfl
      · rfl
    | err e => rfl
    | panic => rfl

/-- No index into the tail is out of range. -/
theorem rootIndexChecked_eq (hne : cursor ≠ []) :
    rootIndexChecked cursor count = .ok (rootIndexVarint cursor count) := by
  have hpos := List.length_pos_iff.mpr hne
  have hlast := @byteAt_sub cursor 1 Nat.one_pos hpos
  have hrange : ∀ len ∈ List.range' 2 (min 5 cursor.length - 1), 0 < len ∧ len ≤ cursor.length := by
    intro len hlen
    have := List.mem_range'_1.mp hlen
    omega
  have hlens : ∀ len ∈ (possibleLens cursor).reverse, len ≤ cursor.length := by
    intro len hlen
    exact possibleLens_le hne (List.mem_reverse.mp hlen)
  rw [rootIndexChecked, ← Outcome.bind_assoc, hlast, Outcome.ok_bind, rootIndexVarint]
  split_ifs
  · rfl
  · rw [possibleLensChecked_eq hrange, Outcome.ok_bind]
    exact findIndexChecked_eq hlens
  · rfl

theorem rootIndexVarint_le (hne : cursor ≠ []) {len : Nat} {x : Int32} (h : rootIndexVarint cursor count = some (len, x)) :
    len ≤ cursor.length := by
  rw [rootIndexVarint] at h
  split_ifs at h
  · cases h
    exact List.length_pos_iff.mpr hne
  · obtain ⟨len', hmem, hfound⟩ := List.exists_of_findSome?_eq_some h
    have hle := possibleLens_le hne (List.mem_reverse.mp hmem)
    have := ((indexOfLength_iff hle).mp hfound).1
    dsimp only at this
    omega

end Slices

/-! ## The additions -/

theorem addI32_of_nonneg {a b : Int32} (ha : 0 ≤ a.toInt) (hb : 0 ≤ b.toInt) :
    addI32 a b = if a.toInt + b.toInt < 2 ^ 31 then .ok (a + b) else .panic := by
  have hlt : (a + b).toInt < 2 ^ 31 := Int32.toInt_lt (a + b)
  by_cases hfits : a.toInt + b.toInt < 2 ^ 31
  · have hsum : (a + b).toInt = a.toInt + b.toInt := by
      rw [Int32.toInt_add, Int.bmod_eq_of_le (by omega) (by omega)]
    rw [addI32, if_pos hsum, if_pos hfits]
  · rw [addI32, if_neg (by omega), if_neg hfits]

theorem toInt_add_of_lt {a b : Int32} (ha : 0 ≤ a.toInt) (hb : 0 ≤ b.toInt) (h : a.toInt + b.toInt < 2 ^ 31) :
    (a + b).toInt = a.toInt + b.toInt := by
  rw [Int32.toInt_add, Int.bmod_eq_of_le (by omega) (by omega)]

/-- The loop over the literals adds one a turn. -/
theorem addLiteralsChecked_eq (literals : List String) (b : Injection) (h0 : 0 ≤ b.currentIndex.toInt) :
    addLiteralsChecked literals b =
      if b.currentIndex.toInt + literals.length < 2 ^ 31 then .ok (literals.foldl Injection.addLiteral b)
      else .panic := by
  have hone : (1 : Int32).toInt = 1 := rfl
  induction literals generalizing b with
  | nil =>
    have hlt : b.currentIndex.toInt < 2 ^ 31 := Int32.toInt_lt b.currentIndex
    rw [List.length_nil, if_pos (by omega)]
    rfl
  | cons literal literals ih =>
    rw [addLiteralsChecked, addLiteralChecked, addI32_of_nonneg h0 (by decide), hone, List.length_cons]
    by_cases hfits : b.currentIndex.toInt + 1 < 2 ^ 31
    · have hnext := toInt_add_of_lt h0 (b := 1) (by decide) hfits
      have hrest := ih (b.addLiteral literal) (by rw [Injection.addLiteral, hnext]; omega)
      rw [if_pos hfits]
      change addLiteralsChecked literals (b.addLiteral literal) = _
      rw [hrest, List.foldl_cons]
      have hindex : (b.addLiteral literal).currentIndex.toInt = b.currentIndex.toInt + 1 := hnext
      rw [hindex]
      congr 1
      rw [eq_iff_iff]
      omega
    · rw [if_neg hfits, if_neg (by omega)]
      rfl

/-- The nodes added for these servers: `server`, its argument and the literals. -/
def injectedNodes (toLowercase : String → String) (customServers : List String) : Nat :=
  2 + (rootLiterals toLowercase customServers).length

theorem injectionChecked_eq {count : Int32} (h0 : 0 ≤ count.toInt) (literals : List String) :
    injectionChecked count literals =
      if count.toInt + (2 + literals.length) < 2 ^ 31 then .ok (injection count literals) else .panic := by
  have hone : (1 : Int32).toInt = 1 := rfl
  have htwo : (2 : Int32).toInt = 2 := rfl
  rw [injectionChecked, addI32_of_nonneg h0 (by decide), addI32_of_nonneg h0 (by decide), hone, htwo]
  by_cases hfits : count.toInt + 2 < 2 ^ 31
  · have hnext := toInt_add_of_lt h0 (b := 2) (by decide) hfits
    rw [if_pos (by omega), if_pos hfits, Outcome.ok_bind, Outcome.ok_bind,
      addLiteralsChecked_eq _ _ (by dsimp only; rw [hnext]; omega)]
    dsimp only
    rw [hnext, htwo, Int.add_assoc]
    rfl
  · have hover : ¬ count.toInt + (2 + literals.length) < 2 ^ 31 := by omega
    rw [if_neg hfits, if_neg hover]
    split_ifs
    · rfl
    · rfl

/-! ## What the backend declares -/

/-- What the function reads of a payload that it rewrites. -/
structure DeclaredGraph where
  count : Int32
  children : List Int32
  restOfNodes : List UInt8
  rootIndex : Int32

/-- The part of the function before the rewriting; `none` where it gives the
packet back. -/
def declaredGraph (packet : RawPacket) (protocolVersion : Int) : Outcome ProxyError (Option DeclaredGraph) :=
  if protocolVersion < 393 then .ok none
  else if ¬ isDeclareCommandsPacket packet.id protocolVersion then .ok none
  else do
    let (originalCount, cursor) ← decodeVarint packet.payload
    if originalCount ≤ 0 ∨ cursor.isEmpty then .ok none
    else do
      let (rootFlags, cursor) ← Decoder.getU8 cursor
      if rootFlags ≠ 0x00 then .ok none
      else do
        let (originalChildCount, cursor) ← decodeVarint cursor
        if originalChildCount < 0 ∨ cursor.length < asUsize originalChildCount then .ok none
        else do
          let (originalChildren, cursor) ← decodeVarints (asUsize originalChildCount) cursor
          if cursor.length < 1 then .ok none
          else .ok ((rootIndexVarint cursor originalCount).map fun found =>
            ⟨originalCount, originalChildren, cursor.take (cursor.length - found.1), found.2⟩)

/-- The packet with the new nodes in it. -/
def DeclaredGraph.rewritten (g : DeclaredGraph) (id : Int32) (new : Injection) : RawPacket :=
  ⟨id, encodeVarint new.currentIndex ++ [0x00] ++
    encodeVarint (asI32 (g.children.length + new.newRootChildren.length)) ++ g.children.flatMap encodeVarint ++
    new.newRootChildren.flatMap encodeVarint ++ g.restOfNodes ++ new.newNodesPayload ++ encodeVarint g.rootIndex⟩

theorem decodeVarints_ne_panic (n : Nat) : ∀ bs : List UInt8, decodeVarints n bs ≠ .panic := by
  induction n with
  | zero => exact fun bs => nofun
  | succ n ih =>
    intro bs h
    rcases Outcome.bind_eq_panic.mp h with h | ⟨⟨c, buf⟩, -, h⟩
    · exact decodeVarint_ne_panic bs h
    · rcases Outcome.bind_eq_panic.mp h with h | ⟨⟨cs, buf'⟩, -, h⟩
      · exact ih buf h
      · cases h

variable {packet : RawPacket} {v : Int}

/-- Both builds of the function, after what it reads. -/
theorem inject_eq_declared (toLowercase : String → String) (servers : List String) :
    injectProxyCommandsIntoDeclareCommands toLowercase packet v servers = (declaredGraph packet v >>= fun declared =>
      match declared with
      | none => .ok packet
      | some g => .ok (g.rewritten packet.id (injection g.count (rootLiterals toLowercase servers)))) ∧
    injectChecked toLowercase packet v servers = (declaredGraph packet v >>= fun declared =>
      match declared with
      | none => .ok packet
      | some g => injectionChecked g.count (rootLiterals toLowercase servers) >>= fun new =>
          .ok (g.rewritten packet.id new)) := by
  rw [injectProxyCommandsIntoDeclareCommands, injectChecked, declaredGraph]
  by_cases hold : v < 393
  · simp only [if_pos hold]
    exact ⟨rfl, rfl⟩
  by_cases hid : ¬ isDeclareCommandsPacket packet.id v
  · simp only [if_neg hold, if_pos hid]
    exact ⟨rfl, rfl⟩
  simp only [if_neg hold, if_neg hid]
  cases decodeVarint packet.payload with
  | err e => exact ⟨rfl, rfl⟩
  | panic => exact ⟨rfl, rfl⟩
  | ok r =>
  obtain ⟨count, cursor⟩ := r
  simp only [Outcome.ok_bind]
  by_cases hcount : count ≤ 0 ∨ cursor.isEmpty
  · simp only [if_pos hcount]
    exact ⟨rfl, rfl⟩
  simp only [if_neg hcount]
  cases Decoder.getU8 (ε := ProxyError) cursor with
  | err e => exact ⟨rfl, rfl⟩
  | panic => exact ⟨rfl, rfl⟩
  | ok r =>
  obtain ⟨flags, cursor⟩ := r
  simp only [Outcome.ok_bind]
  by_cases hflags : flags ≠ 0x00
  · simp only [if_pos hflags]
    exact ⟨rfl, rfl⟩
  simp only [if_neg hflags]
  cases decodeVarint cursor with
  | err e => exact ⟨rfl, rfl⟩
  | panic => exact ⟨rfl, rfl⟩
  | ok r =>
  obtain ⟨childCount, cursor⟩ := r
  simp only [Outcome.ok_bind]
  by_cases hchildren : childCount < 0 ∨ cursor.length < asUsize childCount
  · simp only [if_pos hchildren]
    exact ⟨rfl, rfl⟩
  simp only [if_neg hchildren]
  cases decodeVarints (asUsize childCount) cursor with
  | err e => exact ⟨rfl, rfl⟩
  | panic => exact ⟨rfl, rfl⟩
  | ok r =>
  obtain ⟨children, cursor⟩ := r
  simp only [Outcome.ok_bind]
  by_cases hrem : cursor.length < 1
  · simp only [if_pos hrem]
    exact ⟨rfl, rfl⟩
  have hne : cursor ≠ [] := List.length_pos_iff.mp (Nat.le_of_not_lt hrem)
  simp only [if_neg hrem, rootIndexChecked_eq hne, Outcome.ok_bind]
  cases hfound : rootIndexVarint cursor count with
  | none => exact ⟨rfl, rfl⟩
  | some found =>
    obtain ⟨len, x⟩ := found
    have hle := rootIndexVarint_le hne hfound
    refine ⟨rfl, ?_⟩
    simp only [subUsize, if_pos hle, Outcome.ok_bind, sliceTo, if_pos (Nat.sub_le cursor.length len), Option.map_some]
    rfl

/-- Reading the payload does not panic, and a graph it finds has a positive count. -/
theorem declaredGraph_spec :
    declaredGraph packet v ≠ .panic ∧ ∀ g, declaredGraph packet v = .ok (some g) → 0 < g.count := by
  rw [declaredGraph]
  by_cases hold : v < 393
  · rw [if_pos hold]
    exact ⟨nofun, nofun⟩
  by_cases hid : ¬ isDeclareCommandsPacket packet.id v
  · rw [if_neg hold, if_pos hid]
    exact ⟨nofun, nofun⟩
  rw [if_neg hold, if_neg hid]
  cases hdecode : decodeVarint packet.payload with
  | err e => exact ⟨nofun, nofun⟩
  | panic => exact absurd hdecode (decodeVarint_ne_panic _)
  | ok r =>
  obtain ⟨count, cursor⟩ := r
  simp only [Outcome.ok_bind]
  split_ifs with hcount
  · exact ⟨nofun, nofun⟩
  rw [not_or] at hcount
  cases cursor with
  | nil => exact absurd rfl hcount.2
  | cons flags cursor =>
  simp only [Decoder.getU8_cons, Outcome.ok_bind]
  split_ifs with hflags
  · exact ⟨nofun, nofun⟩
  cases hdecode : decodeVarint cursor with
  | err e => exact ⟨nofun, nofun⟩
  | panic => exact absurd hdecode (decodeVarint_ne_panic _)
  | ok r =>
  obtain ⟨childCount, cursor⟩ := r
  simp only [Outcome.ok_bind]
  split_ifs with hchildren
  · exact ⟨nofun, nofun⟩
  cases hdecode : decodeVarints (asUsize childCount) cursor with
  | err e => exact ⟨nofun, nofun⟩
  | panic => exact absurd hdecode (decodeVarints_ne_panic _ _)
  | ok r =>
  obtain ⟨children, cursor⟩ := r
  simp only [Outcome.ok_bind]
  split_ifs with hrem
  · exact ⟨nofun, nofun⟩
  refine ⟨nofun, ?_⟩
  intro g hg
  obtain ⟨found, -, rfl⟩ := Option.map_eq_some_iff.mp (Outcome.ok.inj hg)
  exact Int32.not_le.mp hcount.1

/-! ## The counts -/

/-- The counts written, as long as they fit. -/
theorem injection_counts {count : Int32} (h0 : 0 < count) (literals : List String) :
    (injection count literals).newRootChildren.length = 1 + literals.length ∧
      (count.toInt + (2 + literals.length) < 2 ^ 31 →
        (injection count literals).currentIndex.toInt = count.toInt + (2 + literals.length)) := by
  have hnonneg := Int32.le_of_lt h0
  have hnat : count.toInt = asUsize count := by rw [toInt_eq hnonneg, asUsize_eq hnonneg]
  have hinjection := injection_eq (asUsize count) literals
  rw [asI32_asUsize hnonneg] at hinjection
  rw [hinjection]
  constructor
  · simp only [newTopLevel, List.length_cons, List.length_map, List.length_range']
    omega
  · intro hfits
    dsimp only
    rw [toInt_asI32 (by omega)]
    omega

/-- A build with checks does not panic, and the counts a rewritten packet
declares are the backend's and the proxy's added up, exactly when the sums are
still `i32`s. -/
theorem inject_count_iff (toLowercase : String → String) (packet : RawPacket) (v : Int) (servers : List String) :
    (injectChecked toLowercase packet v servers ≠ .panic ∧
      ∀ g, declaredGraph packet v = .ok (some g) → ∃ count childCount rest,
        injectProxyCommandsIntoDeclareCommands toLowercase packet v servers =
          .ok ⟨packet.id, encodeVarint count ++ 0x00 :: (encodeVarint childCount ++ rest)⟩ ∧
        count.toInt = g.count.toInt + injectedNodes toLowercase servers ∧
        childCount.toInt = g.children.length + (1 + (rootLiterals toLowercase servers).length)) ↔
      ∀ g, declaredGraph packet v = .ok (some g) →
        g.count.toInt + injectedNodes toLowercase servers < 2 ^ 31 ∧
          g.children.length + (1 + (rootLiterals toLowercase servers).length) < 2 ^ 31 := by
  obtain ⟨hrelease, hchecked⟩ := @inject_eq_declared packet v toLowercase servers
  obtain ⟨hpanic, hpositive⟩ := @declaredGraph_spec packet v
  have hnodes : (injectedNodes toLowercase servers : Int) = 2 + (rootLiterals toLowercase servers).length := by
    rw [injectedNodes]
    omega
  rw [hrelease, hchecked, hnodes]
  generalize rootLiterals toLowercase servers = literals
  constructor
  · rintro ⟨hno, hcounts⟩ g hg
    have h0 := hpositive g hg
    have hnonneg : 0 ≤ g.count.toInt := by
      have := Int32.le_of_lt h0
      rwa [Int32.le_iff_toInt_le] at this
    obtain ⟨count, childCount, rest, -, -, hchild⟩ := hcounts g hg
    rw [hg, Outcome.ok_bind] at hno
    dsimp only at hno
    rw [injectionChecked_eq hnonneg] at hno
    constructor
    · by_contra hover
      rw [if_neg hover] at hno
      exact hno rfl
    · have hlt : childCount.toInt < 2 ^ 31 := Int32.toInt_lt childCount
      omega
  · intro hfits
    constructor
    · cases hg : declaredGraph packet v with
      | err e => exact nofun
      | panic => exact absurd hg hpanic
      | ok declared =>
        cases declared with
        | none => exact nofun
        | some g =>
          have hnonneg : 0 ≤ g.count.toInt := by
            have := Int32.le_of_lt (hpositive g hg)
            rwa [Int32.le_iff_toInt_le] at this
          rw [Outcome.ok_bind]
          dsimp only
          rw [injectionChecked_eq hnonneg, if_pos (hfits g hg).1]
          exact nofun
    · intro g hg
      obtain ⟨hcount, hchild⟩ := hfits g hg
      obtain ⟨hlength, hindex⟩ := injection_counts (hpositive g hg) literals
      refine ⟨(injection g.count literals).currentIndex,
        asI32 (g.children.length + (injection g.count literals).newRootChildren.length),
        g.children.flatMap encodeVarint ++ ((injection g.count literals).newRootChildren.flatMap encodeVarint ++
          (g.restOfNodes ++ ((injection g.count literals).newNodesPayload ++ encodeVarint g.rootIndex))),
        ?_, hindex hcount, ?_⟩
      · rw [hg, Outcome.ok_bind]
        dsimp only
        rw [DeclaredGraph.rewritten]
        simp only [List.append_assoc, List.cons_append, List.nil_append]
      · rw [hlength, toInt_asI32 hchild]
        omega

/-- A backend that declares as many nodes as an `i32` can say. -/
theorem inject_count_overflows :
    injectChecked (fun s => s) ⟨0x10, [0xFF, 0xFF, 0xFF, 0xFF, 0x07, 0x00, 0x00, 0x00]⟩ 776 [] = .panic ∧
      ((injectProxyCommandsIntoDeclareCommands (fun s => s)
          ⟨0x10, [0xFF, 0xFF, 0xFF, 0xFF, 0x07, 0x00, 0x00, 0x00]⟩ 776 []).toOption.bind fun out =>
        (decodeVarint out.payload).toOption.map Prod.fst) = some (-2147483644) := by
  decide

end FrameMC

import FrameMC.Routing.DeclareCommands
import Mathlib.Data.List.GetD

/-!
# Where the commands are grafted

The injection guesses the root index from the end of the payload: it takes the
longest ending that is some node's index in canonical form
(`rootIndexVarint_eq`). It hangs the new commands on node 0 all the same. So
the commands reach the root the client uses exactly when that is node 0
(`inject_targets_root_iff`), and the nodes in front of the index stay whole
exactly when no longer ending is an index too.
-/

namespace FrameMC

open ByteStream

/-! ## Nodes -/

/-- A command node: its flags, its children, and the bytes behind them, which
are the redirect, the name and what an argument adds. -/
structure GraphNode where
  flags : UInt8
  children : List Int32
  tail : List UInt8

namespace GraphNode

def encode (node : GraphNode) : List UInt8 :=
  [node.flags] ++ encodeVarint (asI32 node.children.length) ++ node.children.flatMap encodeVarint ++ node.tail

/-- Further children, behind those it has. -/
def adopt (children : List Int32) (node : GraphNode) : GraphNode :=
  { node with children := node.children ++ children }

/-- A node with flags 0x00 has nothing behind its children. -/
def root (children : List Int32) : GraphNode := ⟨0x00, children, []⟩

end GraphNode

/-- The canonical encoding of a node list and a root index. -/
def encodeNodes (nodes : List GraphNode) (rootIndex : Nat) : List UInt8 :=
  encodeVarint (asI32 nodes.length) ++ nodes.flatMap GraphNode.encode ++ encodeVarint (asI32 rootIndex)

/-- What a client should get: the root with the proxy's commands as further
children, every other node as it was, the new nodes, and the same root index. -/
def injectedAtRoot (nodes : List GraphNode) (rootIndex : Nat) (literals : List String) : List UInt8 :=
  encodeVarint (asI32 (nodes.length + (2 + literals.length))) ++
    (nodes.modify rootIndex (GraphNode.adopt (newTopLevel nodes.length literals))).flatMap GraphNode.encode ++
    addedNodesBytes nodes.length literals ++ encodeVarint (asI32 rootIndex)

/-- What it gets at best: the commands hung on node 0, behind it the nodes and
the root index as they were. -/
def injectedAtZero (nodes : List GraphNode) (rootIndex : Nat) (literals : List String) : List UInt8 :=
  encodeVarint (asI32 (nodes.length + (2 + literals.length))) ++
    (nodes.modify 0 (GraphNode.adopt (newTopLevel nodes.length literals))).flatMap GraphNode.encode ++
    addedNodesBytes nodes.length literals ++ encodeVarint (asI32 rootIndex)

/-! ## The guess -/

/-- The bytes end with the VarInt of `x`, and `x` is the index of one of `count` nodes. -/
structure EndsWithIndex (cursor : List UInt8) (count x : Int32) : Prop where
  nonneg : 0 ≤ x
  lt : asUsize x < asUsize count
  ends : encodeVarint x <:+ cursor

section Guess

variable {cursor : List UInt8} {count x y : Int32}

theorem EndsWithIndex.length_le (h : EndsWithIndex cursor count x) : (encodeVarint x).length ≤ cursor.length :=
  h.ends.length_le

/-- Two indices with one length are one index. -/
theorem EndsWithIndex.eq_of_length (hx : EndsWithIndex cursor count x) (hy : EndsWithIndex cursor count y)
    (hlen : (encodeVarint x).length = (encodeVarint y).length) : x = y := by
  have hbytes : encodeVarint x = encodeVarint y := by
    rw [List.suffix_iff_eq_drop.mp hx.ends, List.suffix_iff_eq_drop.mp hy.ends, hlen]
  exact ((encodeVarint_isVarint x).append_inj (encodeVarint_isVarint y) (congrArg (· ++ []) hbytes)).2.1

/-- The byte `i` places before the end: the last is the only one with its top bit clear. -/
theorem EndsWithIndex.cont_iff (h : EndsWithIndex cursor count x) {i : Nat} (h0 : 0 < i)
    (hi : i ≤ (encodeVarint x).length) : (cursor.getD (cursor.length - i) 0 &&& 0x80) = 0 ↔ i = 1 := by
  obtain ⟨front, hfront⟩ := h.ends
  have hlen : cursor.length = front.length + (encodeVarint x).length := by
    rw [← hfront, List.length_append]
  have hbyte : cursor.getD (cursor.length - i) 0 = (encodeVarint x).getD ((encodeVarint x).length - i) 0 := by
    rw [← hfront, List.getD_append_right _ _ _ _ (by rw [hfront]; omega), hfront]
    congr 1
    omega
  have hgroups := (encodeVarint_isVarint x).2
  rw [hbyte, Leb128.cont_clear_iff, hgroups.getD_lt_iff (by omega)]
  omega

theorem EndsWithIndex.mem_possibleLens (h : EndsWithIndex cursor count x) :
    (encodeVarint x).length ∈ possibleLens cursor := by
  have hpos := encodeVarint_length_pos x
  have h5 := (encodeVarint_isVarint x).1
  have hle := h.length_le
  have hcont := fun i => @EndsWithIndex.cont_iff _ _ _ h i
  generalize (encodeVarint x).length = k at hpos h5 hle hcont
  rw [possibleLens]
  by_cases h1 : k = 1
  · rw [h1]
    exact List.mem_cons_self ..
  · apply List.mem_cons_of_mem
    have hsplit : List.range' 2 (min 5 cursor.length - 1) =
        List.range' 2 (k - 1) ++ List.range' (2 + (k - 1)) (min 5 cursor.length - k) := by
      rw [List.range'_append_1]
      congr 1
      omega
    rw [hsplit, List.takeWhile_append_of_pos]
    · apply List.mem_append_left
      rw [List.mem_range'_1]
      omega
    · intro i hi
      rw [List.mem_range'_1] at hi
      have := (hcont i (by omega) (by omega)).not
      simpa using this.mpr (by omega)

theorem possibleLens_le {i : Nat} (hne : cursor ≠ []) (h : i ∈ possibleLens cursor) : i ≤ cursor.length := by
  have hpos := List.length_pos_iff.mpr hne
  rcases List.mem_cons.mp h with rfl | h
  · exact hpos
  · have := List.mem_range'_1.mp (List.takeWhile_subset _ h)
    omega

theorem possibleLens_sorted (cursor : List UInt8) : (possibleLens cursor).Pairwise (· < ·) := by
  refine List.pairwise_cons.mpr ⟨?_, ?_⟩
  · intro i hi
    have := List.mem_range'_1.mp (List.takeWhile_subset _ hi)
    omega
  · exact (List.pairwise_lt_range' 1 Nat.one_pos).sublist (List.takeWhile_sublist _)

/-- What a length of the loop comes to. -/
def indexOfLength (cursor : List UInt8) (count : Int32) (len : Nat) : Option (Nat × Int32) :=
  match decodeVarint (cursor.drop (cursor.length - len)) with
  | .ok (val, slice) =>
    if slice.isEmpty ∧ varintSize val = len ∧ val ≥ 0 ∧ asUsize val < asUsize count then some (len, val) else none
  | _ => none

theorem indexOfLength_iff {len : Nat} {found : Nat × Int32} (hlen : len ≤ cursor.length) :
    indexOfLength cursor count len = some found ↔
      found.1 = len ∧ EndsWithIndex cursor count found.2 ∧ (encodeVarint found.2).length = len := by
  have hdrop : (cursor.drop (cursor.length - len)).length = len := by
    rw [List.length_drop]
    omega
  constructor
  · intro h
    rw [indexOfLength] at h
    split at h
    · next val slice hd =>
      split_ifs at h with hok
      cases h
      obtain ⟨hempty, hsize, hnonneg, hlt⟩ := hok
      obtain ⟨u, hu, hval⟩ := decodeVarint_ok_iff.mp hd
      obtain rfl := List.isEmpty_iff.mp hempty
      rw [List.append_nil] at hu
      rw [varintSize_eq] at hsize
      have hencode : u = encodeVarint val := by
        rw [encodeVarint_eq] at hsize ⊢
        apply hval.2.eq_encode
        rw [hsize, ← hu, hdrop]
      exact ⟨rfl, ⟨hnonneg, hlt, hencode ▸ hu ▸ List.drop_suffix ..⟩, hsize⟩
    · cases h
  · rintro ⟨hfirst, hends, hsize⟩
    obtain ⟨len', val⟩ := found
    simp only at hfirst hends hsize
    have hbytes : cursor.drop (cursor.length - len) = encodeVarint val := by
      rw [← hsize]
      exact (List.suffix_iff_eq_drop.mp hends.ends).symm
    have hd : decodeVarint (cursor.drop (cursor.length - len)) = .ok (val, []) := by
      rw [hbytes]
      exact decodeVarint_encodeVarint_nil val
    rw [indexOfLength, hd]
    simp only [List.isEmpty_nil, varintSize_eq, hsize, hends.nonneg, hends.lt, and_self, if_true, hfirst]

/-- No canonical index but zero's ends in a zero byte. -/
theorem EndsWithIndex.eq_zero (h : EndsWithIndex cursor count x) (hz : cursor.getD (cursor.length - 1) 0 = 0x00) :
    x = 0 := by
  obtain ⟨front, hfront⟩ := h.ends
  have hpos := encodeVarint_length_pos x
  rw [← hfront, List.length_append, List.getD_append_right _ _ _ _ (by omega),
    show front.length + (encodeVarint x).length - 1 - front.length = (encodeVarint x).length - 1 by omega,
    encodeVarint_eq] at hz
  exact int32_ext (Leb128.encode_last_eq_zero hz)

/-- Where the payload ends with an index, the guess is the longest such ending. -/
theorem rootIndexVarint_eq (h : EndsWithIndex cursor count x) :
    ∃ y, EndsWithIndex cursor count y ∧ rootIndexVarint cursor count = some ((encodeVarint y).length, y) ∧
      ∀ z, EndsWithIndex cursor count z → (encodeVarint z).length ≤ (encodeVarint y).length := by
  have hpos := encodeVarint_length_pos x
  have hne : cursor ≠ [] := by
    rintro rfl
    have := h.length_le
    rw [List.length_nil] at this
    omega
  have hlast := (h.cont_iff (i := 1) (by omega) hpos).mpr rfl
  rw [rootIndexVarint]
  by_cases hz : cursor.getD (cursor.length - 1) 0 = 0x00
  · obtain rfl := h.eq_zero hz
    refine ⟨0, h, ?_, ?_⟩
    · rw [if_pos hz]
      rfl
    · intro z hz'
      rw [hz'.eq_zero hz]
  · rw [if_neg hz, if_pos hlast]
    have hfind : (possibleLens cursor).reverse.findSome? (indexOfLength cursor count) ≠ none := by
      rw [Ne, List.findSome?_eq_none_iff]
      intro hnone
      have hx := hnone _ (List.mem_reverse.mpr h.mem_possibleLens)
      have hfound : indexOfLength cursor count (encodeVarint x).length = some ((encodeVarint x).length, x) :=
        (indexOfLength_iff h.length_le).mpr ⟨rfl, h, rfl⟩
      rw [hfound] at hx
      cases hx
    obtain ⟨found, hfound⟩ := Option.ne_none_iff_exists'.mp hfind
    obtain ⟨longer, len, shorter, hsplit, hlen, hlonger⟩ := List.findSome?_eq_some_iff.mp hfound
    have hmem : len ∈ (possibleLens cursor).reverse := by
      rw [hsplit]
      exact List.mem_append_right _ (List.mem_cons_self ..)
    obtain ⟨hfirst, hends, hsize⟩ := (indexOfLength_iff (possibleLens_le hne (List.mem_reverse.mp hmem))).mp hlen
    refine ⟨found.2, hends, ?_, ?_⟩
    · show (possibleLens cursor).reverse.findSome? (indexOfLength cursor count) = _
      rw [hfound, hsize, ← hfirst]
    · intro z hz'
      have hzmem := List.mem_reverse.mpr hz'.mem_possibleLens
      rw [hsplit, List.mem_append, List.mem_cons] at hzmem
      have hsorted : (possibleLens cursor).reverse.Pairwise (· > ·) :=
        List.pairwise_reverse.mpr (possibleLens_sorted cursor)
      rw [hsplit, List.pairwise_append, List.pairwise_cons] at hsorted
      rcases hzmem with hl | hl | hl
      · have hn := hlonger _ hl
        have hfound : indexOfLength cursor count (encodeVarint z).length = some ((encodeVarint z).length, z) :=
          (indexOfLength_iff hz'.length_le).mpr ⟨rfl, hz', rfl⟩
        rw [hfound] at hn
        cases hn
      · omega
      · have := hsorted.2.1.1 _ hl
        omega

end Guess

/-! ## The rewritten graph -/

section Graft

variable {children : List Int32} {others : List GraphNode} {r : Nat}

/-- The bytes behind node 0: the other nodes and the root index. -/
def behindZero (others : List GraphNode) (rootIndex : Nat) : List UInt8 :=
  others.flatMap GraphNode.encode ++ encodeVarint (asI32 rootIndex)

/-- How the injection splits the bytes behind node 0: the longest ending that
is a node's index, and what is in front of it. -/
structure Guessed (others : List GraphNode) (r : Nat) (kept : List UInt8) (y : Int32) : Prop where
  ends : EndsWithIndex (behindZero others r) (asI32 (1 + others.length)) y
  split : kept ++ encodeVarint y = behindZero others r
  longest : ∀ z, EndsWithIndex (behindZero others r) (asI32 (1 + others.length)) z →
    (encodeVarint z).length ≤ (encodeVarint y).length

/-- A graph whose root index is one of its nodes' ends with it. -/
theorem behindZero_ends (hr : r < 1 + others.length) (hcount : 1 + others.length < 2 ^ 31) :
    EndsWithIndex (behindZero others r) (asI32 (1 + others.length)) (asI32 r) where
  nonneg := asI32_nonneg (by omega)
  lt := by rw [asUsize_asI32 (by omega), asUsize_asI32 hcount]; exact hr
  ends := List.suffix_append ..

theorem encodeNodes_eq (children : List Int32) (others : List GraphNode) (r : Nat) :
    encodeNodes (GraphNode.root children :: others) r =
      encodeVarint (asI32 (1 + others.length)) ++ (0x00 :: (encodeVarint (asI32 children.length) ++
        (children.flatMap encodeVarint ++ behindZero others r))) := by
  simp only [encodeNodes, GraphNode.root, GraphNode.encode, behindZero, List.length_cons, List.flatMap_cons,
    List.append_assoc, List.append_nil, List.cons_append, List.nil_append, Nat.add_comm others.length]

/-- A payload with the commands on node 0, for a guess `y` behind the bytes `kept`. -/
def graftedOnZero (children : List Int32) (n : Nat) (literals : List String) (kept : List UInt8) (y : Int32) :
    List UInt8 :=
  encodeVarint (asI32 (n + (2 + literals.length))) ++ (0x00 :: (encodeVarint (asI32 (children.length +
    (1 + literals.length))) ++ ((children ++ newTopLevel n literals).flatMap encodeVarint ++
      (kept ++ (addedNodesBytes n literals ++ encodeVarint y)))))

/-- The injection splits what is behind node 0 where it guesses the root index to begin. -/
theorem inject_encodeNodes (toLowercase : String → String) {v : Int} {packet : RawPacket}
    (hid : isDeclareCommandsPacket packet.id v = true) (hchildren : children.length < 2 ^ 31)
    (hr : r < 1 + others.length) (hcount : 1 + others.length < 2 ^ 31)
    (hpayload : packet.payload = encodeNodes (GraphNode.root children :: others) r) (servers : List String) :
    ∃ kept y, Guessed others r kept y ∧
      injectProxyCommandsIntoDeclareCommands toLowercase packet v servers =
        .ok ⟨packet.id, graftedOnZero children (1 + others.length) (rootLiterals toLowercase servers) kept y⟩ := by
  have hends := behindZero_ends hr hcount
  obtain ⟨y, hy, hguess, hlongest⟩ := rootIndexVarint_eq hends
  have hv : ¬ v < 393 := by
    intro hlt
    rw [isDeclareCommandsPacket] at hid
    repeat rw [if_neg (by omega)] at hid
    cases hid
  have hpos : ¬ asI32 (1 + others.length) ≤ 0 := by
    intro h
    have h0 := congrArg asUsize (Int32.le_antisymm h (asI32_nonneg hcount))
    rw [asUsize_asI32 hcount, asUsize_zero] at h0
    omega
  have hneg : ¬ asI32 children.length < 0 := Int32.not_lt.mpr (asI32_nonneg hchildren)
  have hlen := hends.length_le
  have hlenpos := encodeVarint_length_pos (asI32 r)
  have hroom : ¬ (children.flatMap encodeVarint ++ behindZero others r).length < children.length := by
    have := length_le_flatMap_encodeVarint children
    rw [List.length_append]
    omega
  refine ⟨(behindZero others r).take ((behindZero others r).length - (encodeVarint y).length), y,
    ⟨hy, ?_, hlongest⟩, ?_⟩
  · exact (congrArg _ (List.suffix_iff_eq_drop.mp hy.ends)).trans (List.take_append_drop ..)
  · have hsome : ¬ (behindZero others r).length < 1 := by omega
    rw [injectProxyCommandsIntoDeclareCommands, if_neg hv, if_neg (by simpa using hid), hpayload, encodeNodes_eq]
    simp only [decodeVarint_encodeVarint, Outcome.ok_bind, hpos, List.isEmpty_cons, Bool.false_eq_true, or_self,
      if_false, Decoder.getU8_cons, ne_eq, not_true_eq_false, hneg, asUsize_asI32 hchildren, hroom,
      decodeVarints_flatMap, hsome, hguess, injection_eq]
    simp only [graftedOnZero, newTopLevel, List.length_cons, List.length_map, List.length_range',
      List.flatMap_append, List.append_assoc, List.cons_append, List.nil_append, Nat.add_assoc, Nat.add_comm 1]

theorem injectedAtZero_eq (children : List Int32) (others : List GraphNode) (r : Nat) (literals : List String) :
    injectedAtZero (GraphNode.root children :: others) r literals =
      graftedOnZero children (1 + others.length) literals (others.flatMap GraphNode.encode) (asI32 r) := by
  simp only [injectedAtZero, graftedOnZero, GraphNode.root, GraphNode.adopt, GraphNode.encode, List.modify_cons,
    if_true, List.length_cons, List.flatMap_cons, List.length_append, newTopLevel, List.length_map,
    List.length_range', List.append_assoc, List.append_nil, List.cons_append, List.nil_append,
    Nat.add_comm others.length, Nat.add_comm literals.length]

/-- The commands hung on another node leave node 0 its children. -/
theorem injectedAtRoot_succ (children : List Int32) (others : List GraphNode) (r : Nat) (literals : List String) :
    ∃ behind, injectedAtRoot (GraphNode.root children :: others) (r + 1) literals =
      encodeVarint (asI32 (1 + others.length + (2 + literals.length))) ++
        (0x00 :: (encodeVarint (asI32 children.length) ++ behind)) := by
  simp only [injectedAtRoot, GraphNode.root, GraphNode.encode, List.modify_succ_cons, List.length_cons,
    List.flatMap_cons, List.append_assoc, List.append_nil, List.cons_append, List.nil_append,
    Nat.add_comm others.length]
  exact ⟨_, rfl⟩

/-- A longer guess moves bytes of the last node behind the new ones: they begin
with a continuation byte, which no new node does. -/
theorem Guessed.eq_of_graft {kept : List UInt8} {y : Int32} (h : Guessed others r kept y)
    (hends : EndsWithIndex (behindZero others r) (asI32 (1 + others.length)) (asI32 r)) {n : Nat}
    {literals : List String} (heq : kept ++ (addedNodesBytes n literals ++ encodeVarint y) =
      others.flatMap GraphNode.encode ++ (addedNodesBytes n literals ++ encodeVarint (asI32 r))) : y = asI32 r := by
  have hsplit : kept ++ encodeVarint y = others.flatMap GraphNode.encode ++ encodeVarint (asI32 r) := h.split
  have hle := h.longest _ hends
  generalize others.flatMap GraphNode.encode = front at heq hsplit
  by_contra hne
  have hlt : (encodeVarint (asI32 r)).length < (encodeVarint y).length :=
    Nat.lt_of_le_of_ne hle fun hlen => hne (hends.eq_of_length h.ends hlen).symm
  have hlens := congrArg List.length hsplit
  simp only [List.length_append] at hlens
  have hbehind : ∀ bs : List UInt8, (kept ++ bs).getD kept.length 0 = bs.getD 0 0 := by
    intro bs
    rw [List.getD_append_right _ _ _ _ (Nat.le_refl _), Nat.sub_self]
  have hwithin : ∀ bs : List UInt8, (front ++ bs).getD kept.length 0 = front.getD kept.length 0 := by
    intro bs
    rw [List.getD_append _ _ _ _ (by omega)]
  -- behind `kept` stands the first new node's flags on one side, a byte of the guess on the other
  have hbyte : (addedNodesBytes n literals ++ encodeVarint y).getD 0 0 = (encodeVarint y).getD 0 0 := by
    rw [← hbehind, heq, hwithin, ← hwithin (encodeVarint (asI32 r)), ← hsplit, hbehind]
  have hflags : ((addedNodesBytes n literals ++ encodeVarint y).getD 0 0).toNat = 5 := rfl
  have hpos := encodeVarint_length_pos (asI32 r)
  have hcont := (encodeVarint_isVarint y).2.getD_lt_iff (i := 0) (by omega)
  rw [← hbyte] at hcont
  omega

theorem grafted_atZero_iff {kept : List UInt8} {y : Int32} (h : Guessed others r kept y)
    (hends : EndsWithIndex (behindZero others r) (asI32 (1 + others.length)) (asI32 r)) (literals : List String) :
    graftedOnZero children (1 + others.length) literals kept y =
        injectedAtZero (GraphNode.root children :: others) r literals ↔
      ∀ z, EndsWithIndex (behindZero others r) (asI32 (1 + others.length)) z →
        (encodeVarint z).length ≤ (encodeVarint (asI32 r)).length := by
  rw [injectedAtZero_eq]
  constructor
  · intro heq
    simp only [graftedOnZero, List.append_cancel_left_eq, List.cons.injEq, true_and] at heq
    rw [← h.eq_of_graft hends heq]
    exact h.longest
  · intro hshort
    obtain rfl := h.ends.eq_of_length hends (Nat.le_antisymm (hshort y h.ends) (h.longest _ hends))
    rw [List.append_cancel_right h.split]

/-- The commands are children of the root the client uses if and only if that is node 0. -/
theorem grafted_atRoot_iff {kept : List UInt8} {y : Int32} (h : Guessed others r kept y)
    (hends : EndsWithIndex (behindZero others r) (asI32 (1 + others.length)) (asI32 r)) {literals : List String}
    (hcount : 1 + literals.length < 2 ^ 32) :
    graftedOnZero children (1 + others.length) literals kept y =
        injectedAtRoot (GraphNode.root children :: others) r literals ↔ r = 0 := by
  constructor
  · intro heq
    cases r with
    | zero => rfl
    | succ r =>
      -- the count of node 0's children tells the two apart
      obtain ⟨behind, hroot⟩ := injectedAtRoot_succ children others r literals
      rw [hroot, graftedOnZero] at heq
      simp only [List.append_cancel_left_eq, List.cons.injEq, true_and] at heq
      have hsame := ((encodeVarint_isVarint _).append_inj (encodeVarint_isVarint _) heq).2.1
      have hmod := congrArg (fun x : Int32 => x.toUInt32.toNat) hsame
      simp only [asI32_toUInt32] at hmod
      omega
  · rintro rfl
    apply (grafted_atZero_iff h hends literals).mpr
    intro z hz
    have hlast : (behindZero others 0).getD ((behindZero others 0).length - 1) 0 = 0 := by
      have hlen : (behindZero others 0).length = (others.flatMap GraphNode.encode).length + 1 := List.length_append
      rw [hlen, Nat.add_sub_cancel, behindZero, List.getD_append_right _ _ _ _ (Nat.le_refl _), Nat.sub_self]
      rfl
    rw [hz.eq_zero hlast]
    exact Nat.le_refl _

end Graft

/-- The proxy's commands become children of the root the client uses exactly
when the root index is 0; and what the client gets is at least the graph with
the commands on node 0 exactly when no longer ending of the payload is an index
of one of its nodes too. -/
theorem inject_targets_root_iff (toLowercase : String → String) {v : Int} {packet : RawPacket}
    (hid : isDeclareCommandsPacket packet.id v = true) {children : List Int32} {others : List GraphNode} {r : Nat}
    (hchildren : children.length < 2 ^ 31) (hr : r < 1 + others.length)
    (hpayload : packet.payload = encodeNodes (GraphNode.root children :: others) r) (servers : List String)
    (hcount : 1 + others.length + (2 + (rootLiterals toLowercase servers).length) < 2 ^ 31) :
    ∃ out literals, injectProxyCommandsIntoDeclareCommands toLowercase packet v servers = .ok out ∧
      (∀ s, s ∈ literals ↔ IsProxyCommand toLowercase servers s) ∧
      (out.payload = injectedAtRoot (GraphNode.root children :: others) r literals ↔ r = 0) ∧
      (out.payload = injectedAtZero (GraphNode.root children :: others) r literals ↔
        ∀ z, EndsWithIndex (behindZero others r) (asI32 (1 + others.length)) z →
          (encodeVarint z).length ≤ (encodeVarint (asI32 r)).length) := by
  obtain ⟨kept, y, hguess, hin⟩ := inject_encodeNodes toLowercase hid hchildren hr (by omega) hpayload servers
  have hends := behindZero_ends hr (by omega)
  refine ⟨_, rootLiterals toLowercase servers, hin, fun _ => mem_rootLiterals toLowercase, ?_, ?_⟩
  · exact grafted_atRoot_iff hguess hends (by omega)
  · exact grafted_atZero_iff hguess hends _

/-- The literal `help`, on a graph whose root is node 0. -/
theorem inject_targets_root_help :
    ∃ out literals, injectProxyCommandsIntoDeclareCommands (fun s => s)
        ⟨0x10, encodeNodes [.root [1], ⟨0x05, [], putString "help"⟩] 0⟩ 776 ["steelmc"] = .ok out ∧
      (∀ s, s ∈ literals ↔ IsProxyCommand (fun s => s) ["steelmc"] s) ∧
      (out.payload = injectedAtRoot [.root [1], ⟨0x05, [], putString "help"⟩] 0 literals ↔ 0 = 0) ∧
      (out.payload = injectedAtZero [.root [1], ⟨0x05, [], putString "help"⟩] 0 literals ↔
        ∀ z, EndsWithIndex (behindZero [⟨0x05, [], putString "help"⟩] 0) (asI32 2) z →
          (encodeVarint z).length ≤ (encodeVarint (asI32 0)).length) :=
  @inject_targets_root_iff (fun s => s) 776 ⟨0x10, _⟩ rfl [1] [⟨0x05, [], putString "help"⟩] 0 (by decide)
    (by decide) rfl ["steelmc"] (by decide)

/-- A literal with a name that is not ASCII. -/
def cafe : GraphNode := ⟨0x05, [], putString "é"⟩

/-- With the root at node 1 the commands are hung on node 0; and among 700 nodes
the last byte of a name is taken for part of the root index. -/
theorem inject_misses_root :
    (∃ out, injectProxyCommandsIntoDeclareCommands (fun s => s) ⟨0x10, encodeNodes [.root [], .root []] 1⟩ 776 [] =
        .ok out ∧ out.payload ≠ injectedAtRoot [.root [], .root []] 1 ["hub", "lobby", "steel"]) ∧
      ∃ out, injectProxyCommandsIntoDeclareCommands (fun s => s)
        ⟨0x10, encodeNodes (.root [] :: List.replicate 700 cafe) 5⟩ 776 [] = .ok out ∧
        out.payload ≠ injectedAtZero (.root [] :: List.replicate 700 cafe) 5 ["hub", "lobby", "steel"] := by
  constructor
  · obtain ⟨kept, y, hguess, hin⟩ := @inject_encodeNodes [] [.root []] 1 (fun s => s) 776 ⟨0x10, _⟩ rfl (by decide)
      (by decide) (by decide) rfl []
    refine ⟨_, hin, fun h => ?_⟩
    have := (grafted_atRoot_iff hguess (behindZero_ends (by decide) (by decide)) (by decide)).mp h
    omega
  · have hlength : (List.replicate 700 cafe).length = 700 := List.length_replicate
    have hends : EndsWithIndex (behindZero (List.replicate 700 cafe) 5) (asI32 (1 + 700)) 681 := by
      refine ⟨by decide, by decide, ?_⟩
      rw [behindZero, List.replicate_succ', List.flatMap_append, List.append_assoc]
      apply List.IsSuffix.trans _ (List.suffix_append ..)
      decide
    generalize List.replicate 700 cafe = others at hlength hends
    obtain ⟨kept, y, hguess, hin⟩ := @inject_encodeNodes [] others 5 (fun s => s) 776 ⟨0x10, _⟩ rfl (by decide)
      (by omega) (by omega) rfl []
    refine ⟨_, hin, fun h => ?_⟩
    have hshort := (grafted_atZero_iff hguess (behindZero_ends (by omega) (by omega)) _).mp h 681 (hlength ▸ hends)
    exact absurd hshort (by decide)

end FrameMC

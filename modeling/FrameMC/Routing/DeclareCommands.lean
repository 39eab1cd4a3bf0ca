import FrameMC.Lib.RustStr
import FrameMC.Protocol.Packet

/-!
# The command graph

`is_declare_commands_packet` and `inject_proxy_commands_into_declare_commands`
of `src/routing/state_machine.rs`: the backend's command graph is rewritten
without parsing its nodes. `parseGraph` is the reader of the result, which is
told how long the backend's nodes are.
-/

namespace FrameMC

open ByteStream

def isDeclareCommandsPacket (id : Int32) (protocolVersion : Int) : Bool :=
  if protocolVersion ≥ 776 then id == 0x10
  else if protocolVersion ≥ 764 then id == 0x11
  else if protocolVersion ≥ 762 then id == 0x0F
  else if protocolVersion ≥ 759 then id == 0x0E
  else if protocolVersion ≥ 755 then id == 0x12
  else if protocolVersion ≥ 735 then id == 0x10
  else if protocolVersion ≥ 393 then id == 0x11
  else false

/-! ## Rewriting -/

/-- A number of VarInts in a row. -/
def decodeVarints : Nat → Decoder ProxyError (List Int32)
  | 0 => pure []
  | n + 1 => do
    let c ← decodeVarint
    let cs ← decodeVarints n
    pure (c :: cs)

/-- The lengths a trailing VarInt can have, by its continuation bits. -/
def possibleLens (cursor : List UInt8) : List Nat :=
  let rem := cursor.length
  1 :: (List.range' 2 (min 5 rem - 1)).takeWhile fun len => (cursor.getD (rem - len) 0 &&& 0x80) ≠ 0

/-- The root index at the end of the payload: its length and value. The caller
has checked that there is a last byte, so every index is in range. -/
def rootIndexVarint (cursor : List UInt8) (originalCount : Int32) : Option (Nat × Int32) :=
  let rem := cursor.length
  if cursor.getD (rem - 1) 0 = 0x00 then some (1, 0)
  else if (cursor.getD (rem - 1) 0 &&& 0x80) = 0 then
    (possibleLens cursor).reverse.findSome? fun len =>
      match decodeVarint (cursor.drop (rem - len)) with
      | .ok (val, slice) =>
        if slice.isEmpty ∧ varintSize val = len ∧ val ≥ 0 ∧ asUsize val < asUsize originalCount then
          some (len, val)
        else none
      | _ => none
  else none

/-- The commands offered at the top level. -/
def rootLiterals (toLowercase : String → String) (customServers : List String) : List String :=
  customServers.foldl (fun literals s =>
    let name := toLowercase (RustStr.trim s)
    if name ≠ "" ∧ name ≠ "server" ∧ ¬ literals.contains name then literals ++ [name] else literals)
    ["hub", "lobby", "steel"]

/-- Literal, executable, one child: the argument. -/
def serverNode (serverArgIdx : Int32) : List UInt8 :=
  [0x05] ++ encodeVarint 1 ++ encodeVarint serverArgIdx ++ encodeVarint 6 ++ asBytes "server"

/-- Argument, executable, with suggestions from the server: a `brigadier:string`, single word. -/
def nameNode : List UInt8 :=
  [0x16] ++ encodeVarint 0 ++ encodeVarint 4 ++ asBytes "name" ++ encodeVarint 5 ++ encodeVarint 0 ++
    putString "minecraft:ask_server"

/-- Literal, executable. -/
def literalNode (literal : String) : List UInt8 :=
  [0x05] ++ encodeVarint 0 ++ putString literal

/-- What the rewriting has put together: the next free index, the root's new
children, the new nodes. -/
structure Injection where
  currentIndex : Int32
  newRootChildren : List Int32
  newNodesPayload : List UInt8

def Injection.addLiteral (b : Injection) (literal : String) : Injection where
  currentIndex := b.currentIndex + 1
  newRootChildren := b.newRootChildren ++ [b.currentIndex]
  newNodesPayload := b.newNodesPayload ++ literalNode literal

def injection (originalCount : Int32) (literals : List String) : Injection :=
  literals.foldl Injection.addLiteral
    ⟨originalCount + 2, [originalCount], serverNode (originalCount + 1) ++ nameNode⟩

def injectProxyCommandsIntoDeclareCommands (toLowercase : String → String) (packet : RawPacket)
    (protocolVersion : Int) (customServers : List String) : Outcome ProxyError RawPacket :=
  if protocolVersion < 393 then .ok packet
  else if ¬ isDeclareCommandsPacket packet.id protocolVersion then .ok packet
  else do
    let (originalCount, cursor) ← decodeVarint packet.payload
    if originalCount ≤ 0 ∨ cursor.isEmpty then .ok packet
    else do
      let (rootFlags, cursor) ← Decoder.getU8 cursor
      if rootFlags ≠ 0x00 then .ok packet
      else do
        let (originalChildCount, cursor) ← decodeVarint cursor
        if originalChildCount < 0 ∨ cursor.length < asUsize originalChildCount then .ok packet
        else do
          let (originalChildren, cursor) ← decodeVarints (asUsize originalChildCount) cursor
          let rem := cursor.length
          if rem < 1 then .ok packet
          else match rootIndexVarint cursor originalCount with
            | none => .ok packet
            | some (rootIndexLen, rootIndex) =>
              let restOfNodes := cursor.take (rem - rootIndexLen)
              let new := injection originalCount (rootLiterals toLowercase customServers)
              let childCount := originalChildren.length + new.newRootChildren.length
              .ok ⟨packet.id,
                encodeVarint new.currentIndex ++ [0x00] ++ encodeVarint (asI32 childCount) ++
                  originalChildren.flatMap encodeVarint ++ new.newRootChildren.flatMap encodeVarint ++
                  restOfNodes ++ new.newNodesPayload ++ encodeVarint rootIndex⟩

/-- Injection rewrites the payload and nothing else. -/
theorem inject_id {toLowercase : String → String} {packet out : RawPacket} {v : Int} {servers : List String}
    (h : injectProxyCommandsIntoDeclareCommands toLowercase packet v servers = .ok out) : out.id = packet.id := by
  have hsame : ∀ {p : RawPacket}, (.ok packet : Outcome ProxyError RawPacket) = .ok p → p.id = packet.id := by
    intro p hp
    cases hp
    rfl
  unfold injectProxyCommandsIntoDeclareCommands at h
  split at h
  · exact hsame h
  split at h
  · exact hsame h
  obtain ⟨⟨originalCount, cursor⟩, -, h⟩ := Outcome.bind_eq_ok.mp h
  simp only at h
  split at h
  · exact hsame h
  obtain ⟨⟨rootFlags, cursor⟩, -, h⟩ := Outcome.bind_eq_ok.mp h
  simp only at h
  split at h
  · exact hsame h
  obtain ⟨⟨originalChildCount, cursor⟩, -, h⟩ := Outcome.bind_eq_ok.mp h
  simp only at h
  split at h
  · exact hsame h
  obtain ⟨⟨originalChildren, cursor⟩, -, h⟩ := Outcome.bind_eq_ok.mp h
  simp only at h
  split at h
  · exact hsame h
  split at h
  · exact hsame h
  · cases h
    rfl

/-! ## Reading a graph -/

/-- A node the proxy adds, as a client reads it. -/
structure CommandNode where
  flags : UInt8
  children : List Int32
  name : String
  /-- For an argument: its parser, the parser's property and the suggestions type. -/
  argument : Option (Int32 × Int32 × String)
  deriving DecidableEq, Repr

/-- A graph whose backend nodes are kept as they were encoded. -/
structure CommandGraph where
  rootChildren : List Int32
  nodes : List (List UInt8)
  added : List CommandNode
  rootIndex : Int32
  deriving DecidableEq, Repr

def malformed : ProxyError := .io .invalidData "malformed command graph"

/-- A child list: a count and the indices. -/
def decodeChildren : Decoder ProxyError (List Int32) := do
  let count ← decodeVarint
  if count < 0 then Decoder.fail malformed
  else decodeVarints (asUsize count)

def decodeFlags : Decoder ProxyError UInt8 := do
  let remaining ← Decoder.remaining
  if remaining < 1 then Decoder.fail malformed
  else Decoder.getU8

def decodeNodeString : Decoder ProxyError String :=
  readString "malformed command graph" "malformed command graph"

/-- A literal, or an argument with a string parser. -/
def decodeNode : Decoder ProxyError CommandNode := do
  let flags ← decodeFlags
  let children ← decodeChildren
  let name ← decodeNodeString
  if (flags &&& 0x03) = 0x02 then do
    let parser ← decodeVarint
    let mode ← decodeVarint
    let suggestions ← decodeNodeString
    pure ⟨flags, children, name, some (parser, mode, suggestions)⟩
  else pure ⟨flags, children, name, none⟩

def decodeNodes : Nat → Decoder ProxyError (List CommandNode)
  | 0 => pure []
  | n + 1 => do
    let node ← decodeNode
    let nodes ← decodeNodes n
    pure (node :: nodes)

/-- The backend's nodes, by their lengths. -/
def takeNodes : List Nat → Decoder ProxyError (List (List UInt8))
  | [] => pure []
  | width :: widths => do
    let node ← Decoder.slice width
    Decoder.advance width
    let nodes ← takeNodes widths
    pure (node :: nodes)

/-- A graph of a root at index 0, backend nodes of the given lengths, and a
number of added nodes. -/
def parseGraph (widths : List Nat) (added : Nat) : Decoder ProxyError CommandGraph := do
  let count ← decodeVarint
  if count < 0 ∨ asUsize count ≠ 1 + widths.length + added then Decoder.fail malformed
  else do
    let flags ← decodeFlags
    if flags ≠ 0x00 then Decoder.fail malformed
    else do
      let rootChildren ← decodeChildren
      let nodes ← takeNodes widths
      let added ← decodeNodes added
      let rootIndex ← decodeVarint
      pure ⟨rootChildren, nodes, added, rootIndex⟩

/-! ## What the readers read -/

theorem asI32_add (n k : Nat) : asI32 n + asI32 k = asI32 (n + k) := (Int32.ofNat_add n k).symm

theorem decodeVarints_length {n : Nat} {bs rest : List UInt8} {cs : List Int32}
    (h : decodeVarints n bs = .ok (cs, rest)) : cs.length = n := by
  induction n generalizing bs rest cs with
  | zero => simp [decodeVarints] at h; simp [h.1.symm]
  | succ n ih =>
    simp only [decodeVarints, Decoder.bind_apply, Outcome.bind_eq_ok] at h
    obtain ⟨⟨c, bs'⟩, -, ⟨cs', bs''⟩, hcs, h⟩ := h
    simp only [Decoder.pure_apply, Outcome.ok.injEq, Prod.mk.injEq] at h
    rw [← h.1, List.length_cons, ih hcs]

@[simp] theorem decodeVarints_flatMap (cs : List Int32) (rest : List UInt8) :
    decodeVarints cs.length (cs.flatMap encodeVarint ++ rest) = .ok (cs, rest) := by
  induction cs with
  | nil => rfl
  | cons c cs ih => simp [decodeVarints, ih]

/-- A child list is shorter than `2 ^ 31`: its count was an `i32`. -/
theorem decodeChildren_length_lt {bs rest : List UInt8} {cs : List Int32}
    (h : decodeChildren bs = .ok (cs, rest)) : cs.length < 2 ^ 31 := by
  simp only [decodeChildren, Decoder.bind_apply, Outcome.bind_eq_ok, Decoder.ite_apply] at h
  obtain ⟨⟨count, bs'⟩, -, h⟩ := h
  split_ifs at h with hneg
  · cases h
  · rw [decodeVarints_length h]
    exact asUsize_lt (Int32.not_lt.mp hneg)

theorem decodeChildren_encode {cs : List Int32} (h : cs.length < 2 ^ 31) (rest : List UInt8) :
    decodeChildren (encodeVarint (asI32 cs.length) ++ cs.flatMap encodeVarint ++ rest) = .ok (cs, rest) := by
  have hneg : ¬ asI32 cs.length < 0 := Int32.not_lt.mpr (asI32_nonneg h)
  simp [decodeChildren, List.append_assoc, if_neg hneg, asUsize_asI32 h]

@[simp] theorem decodeFlags_cons (b : UInt8) (bs : List UInt8) : decodeFlags (b :: bs) = .ok (b, bs) := by
  simp [decodeFlags]

@[simp] theorem takeNodes_flatten (nodes : List (List UInt8)) (rest : List UInt8) :
    takeNodes (nodes.map List.length) (nodes.flatten ++ rest) = .ok (nodes, rest) := by
  induction nodes with
  | nil => rfl
  | cons node nodes ih =>
    have hle : node.length ≤ (node ++ (nodes.flatten ++ rest)).length := by simp
    simp only [List.map_cons, List.flatten_cons, List.append_assoc, takeNodes, Decoder.bind_apply,
      Decoder.slice_of_le hle, Decoder.advance_of_le hle, Outcome.ok_bind, List.take_left, List.drop_left, ih,
      Decoder.pure_apply]

/-- A node's name is shorter than `2 ^ 31` bytes: its length was an `i32`. -/
theorem decodeNode_name_lt {bs rest : List UInt8} {node : CommandNode}
    (h : decodeNode bs = .ok (node, rest)) : (asBytes node.name).length < 2 ^ 31 := by
  simp only [decodeNode, Decoder.bind_apply, Outcome.bind_eq_ok, Decoder.ite_apply] at h
  obtain ⟨⟨flags, bs₁⟩, -, ⟨children, bs₂⟩, -, ⟨name, bs₃⟩, hname, h⟩ := h
  have hlt : (asBytes name).length < 2 ^ 31 := readString_length_lt hname
  split_ifs at h
  · obtain ⟨⟨parser, bs₄⟩, -, h⟩ := Outcome.bind_eq_ok.mp h
    obtain ⟨⟨mode, bs₅⟩, -, h⟩ := Outcome.bind_eq_ok.mp h
    obtain ⟨⟨suggestions, bs₆⟩, -, h⟩ := Outcome.bind_eq_ok.mp h
    simp only [Decoder.pure_apply, Outcome.ok.injEq, Prod.mk.injEq] at h
    rw [← h.1]
    exact hlt
  · simp only [Decoder.pure_apply, Outcome.ok.injEq, Prod.mk.injEq] at h
    rw [← h.1]
    exact hlt

theorem decodeNodes_name_lt {n : Nat} {bs rest : List UInt8} {nodes : List CommandNode}
    (h : decodeNodes n bs = .ok (nodes, rest)) : ∀ node ∈ nodes, (asBytes node.name).length < 2 ^ 31 := by
  induction n generalizing bs rest nodes with
  | zero => simp [decodeNodes] at h; simp [h.1]
  | succ n ih =>
    simp only [decodeNodes, Decoder.bind_apply, Outcome.bind_eq_ok] at h
    obtain ⟨⟨node, bs'⟩, hnode, ⟨nodes', bs''⟩, hnodes, h⟩ := h
    simp only [Decoder.pure_apply, Outcome.ok.injEq, Prod.mk.injEq] at h
    rw [← h.1]
    intro node' hmem
    rcases List.mem_cons.mp hmem with rfl | hmem
    · exact decodeNode_name_lt hnode
    · exact ih hnodes node' hmem

theorem decodeNode_literalNode {literal : String} (h : (asBytes literal).length < 2 ^ 31) (rest : List UInt8) :
    decodeNode (literalNode literal ++ rest) = .ok (⟨0x05, [], literal, none⟩, rest) := by
  have hchildren := @decodeChildren_encode [] (by decide) (putString literal ++ rest)
  simp only [List.flatMap_nil, List.append_nil] at hchildren
  have hname := readString_putString "malformed command graph" "malformed command graph" h rest
  simp only [decodeNode, literalNode, decodeNodeString, List.append_assoc, List.cons_append, List.nil_append,
    Decoder.bind_apply, decodeFlags_cons, Outcome.ok_bind]
  rw [show (0 : Int32) = asI32 ([] : List Int32).length from rfl, hchildren, Outcome.ok_bind, hname,
    Outcome.ok_bind]
  rfl

theorem decodeNodes_literalNodes {literals : List String} (h : ∀ l ∈ literals, (asBytes l).length < 2 ^ 31)
    (rest : List UInt8) :
    decodeNodes literals.length (literals.flatMap literalNode ++ rest) =
      .ok (literals.map fun l => ⟨0x05, [], l, none⟩, rest) := by
  induction literals with
  | nil => rfl
  | cons literal literals ih =>
    have ih := ih fun l hl => h l (List.mem_cons_of_mem _ hl)
    simp only [List.length_cons, decodeNodes, List.flatMap_cons, List.append_assoc, Decoder.bind_apply,
      decodeNode_literalNode (h literal (List.mem_cons_self ..)), Outcome.ok_bind, ih, Decoder.pure_apply,
      List.map_cons]

theorem decodeNode_serverNode (serverArgIdx : Int32) (rest : List UInt8) :
    decodeNode (serverNode serverArgIdx ++ rest) = .ok (⟨0x05, [serverArgIdx], "server", none⟩, rest) := by
  have hchildren := @decodeChildren_encode [serverArgIdx] (by simp) (putString "server" ++ rest)
  have hname := readString_putString "malformed command graph" "malformed command graph"
    (s := "server") (by decide) rest
  have hput : encodeVarint 6 ++ (asBytes "server" ++ rest) = putString "server" ++ rest := by
    rw [← List.append_assoc]; rfl
  simp only [decodeNode, serverNode, decodeNodeString, List.append_assoc, List.cons_append, List.nil_append,
    Decoder.bind_apply, decodeFlags_cons, Outcome.ok_bind]
  simp only [List.flatMap_cons, List.flatMap_nil, List.append_nil, List.append_assoc] at hchildren
  rw [show (1 : Int32) = asI32 [serverArgIdx].length from rfl, hput, hchildren, Outcome.ok_bind, hname,
    Outcome.ok_bind]
  rfl

theorem decodeNode_nameNode (rest : List UInt8) :
    decodeNode (nameNode ++ rest) = .ok (⟨0x16, [], "name", some (5, 0, "minecraft:ask_server")⟩, rest) := by
  have hchildren := fun bs => @decodeChildren_encode [] (by decide) bs
  simp only [List.flatMap_nil, List.append_nil] at hchildren
  have hname := fun bs => readString_putString "malformed command graph" "malformed command graph"
    (s := "name") (by decide) bs
  have hsug := readString_putString "malformed command graph" "malformed command graph"
    (s := "minecraft:ask_server") (by decide) rest
  have hput : ∀ bs, encodeVarint 4 ++ (asBytes "name" ++ bs) = putString "name" ++ bs := by
    intro bs; rw [← List.append_assoc]; rfl
  simp only [decodeNode, nameNode, decodeNodeString, List.append_assoc, List.cons_append, List.nil_append,
    Decoder.bind_apply, decodeFlags_cons, Outcome.ok_bind]
  rw [hput, show encodeVarint 0 = encodeVarint (asI32 ([] : List Int32).length) from rfl, hchildren,
    Outcome.ok_bind, hname, Outcome.ok_bind]
  simp [hsug, show (22 : UInt8) &&& 3 = 2 from rfl, show asI32 0 = 0 from rfl]

/-! ## The rewritten graph -/

/-- The encoding of a graph with its root at index 0: the root's children, the
backend's nodes, and the bytes of the added ones. -/
def graphBytes (children : List Int32) (nodes : List (List UInt8)) (added : Nat) (addedBytes : List UInt8) :
    List UInt8 :=
  encodeVarint (asI32 (1 + nodes.length + added)) ++ [0x00] ++ encodeVarint (asI32 children.length) ++
    children.flatMap encodeVarint ++ nodes.flatten ++ addedBytes ++ encodeVarint 0

/-- The canonical encoding of a backend's graph. -/
def encodeGraph (children : List Int32) (nodes : List (List UInt8)) : List UInt8 :=
  graphBytes children nodes 0 []

/-- The indices of the new top-level nodes in a graph that had `n` nodes. -/
def newTopLevel (n : Nat) (literals : List String) : List Int32 :=
  asI32 n :: (List.range' (n + 2) literals.length).map asI32

/-- The nodes added to a graph that had `n`: the command `server` with its
argument, and a literal for every other command. -/
def addedNodes (n : Nat) (literals : List String) : List CommandNode :=
  ⟨0x05, [asI32 (n + 1)], "server", none⟩ :: ⟨0x16, [], "name", some (5, 0, "minecraft:ask_server")⟩ ::
    literals.map fun l => ⟨0x05, [], l, none⟩

def addedNodesBytes (n : Nat) (literals : List String) : List UInt8 :=
  serverNode (asI32 (n + 1)) ++ nameNode ++ literals.flatMap literalNode

theorem foldl_addLiteral (literals : List String) (k : Nat) (cs : List Int32) (bs : List UInt8) :
    literals.foldl Injection.addLiteral ⟨asI32 k, cs, bs⟩ =
      ⟨asI32 (k + literals.length), cs ++ (List.range' k literals.length).map asI32,
        bs ++ literals.flatMap literalNode⟩ := by
  induction literals generalizing k cs bs with
  | nil => simp
  | cons literal literals ih =>
    rw [List.foldl_cons, Injection.addLiteral, show (1 : Int32) = asI32 1 from rfl, asI32_add, ih]
    simp [List.range'_succ, Nat.add_assoc, Nat.add_comm 1]

theorem injection_eq (n : Nat) (literals : List String) :
    injection (asI32 n) literals =
      ⟨asI32 (n + 2 + literals.length), newTopLevel n literals, addedNodesBytes n literals⟩ := by
  rw [injection, show (2 : Int32) = asI32 2 from rfl, show (1 : Int32) = asI32 1 from rfl, asI32_add, asI32_add,
    foldl_addLiteral]
  rfl

theorem decodeNodes_addedNodesBytes (n : Nat) {literals : List String}
    (h : ∀ l ∈ literals, (asBytes l).length < 2 ^ 31) (rest : List UInt8) :
    decodeNodes (2 + literals.length) (addedNodesBytes n literals ++ rest) =
      .ok (addedNodes n literals, rest) := by
  rw [show 2 + literals.length = literals.length + 1 + 1 by omega]
  simp only [decodeNodes, addedNodesBytes, List.append_assoc, Decoder.bind_apply, decodeNode_serverNode,
    Outcome.ok_bind, decodeNode_nameNode, decodeNodes_literalNodes h, Decoder.pure_apply]
  rfl

/-- Parsing a graph is parsing its added nodes, as long as the counts fit. -/
theorem parseGraph_graphBytes {children : List Int32} {nodes : List (List UInt8)} {added : Nat}
    (addedBytes : List UInt8) (hcount : 1 + nodes.length + added < 2 ^ 31) (hchildren : children.length < 2 ^ 31) :
    parseGraph (nodes.map List.length) added (graphBytes children nodes added addedBytes) =
      (decodeNodes added (addedBytes ++ encodeVarint 0) >>= fun r =>
        decodeVarint r.2 >>= fun i => .ok (⟨children, nodes, r.1, i.1⟩, i.2)) := by
  have hneg : ¬ (asI32 (1 + nodes.length + added) < 0 ∨
      asUsize (asI32 (1 + nodes.length + added)) ≠ 1 + (nodes.map List.length).length + added) := by
    rintro (h | h)
    · exact absurd (asI32_nonneg hcount) (Int32.not_le.mpr h)
    · rw [asUsize_asI32 hcount, List.length_map] at h
      exact h rfl
  have hc := decodeChildren_encode hchildren (nodes.flatten ++ (addedBytes ++ encodeVarint 0))
  simp only [List.append_assoc] at hc
  simp only [parseGraph, graphBytes, List.append_assoc, List.cons_append, List.nil_append, Decoder.bind_apply,
    decodeVarint_encodeVarint, Outcome.ok_bind, Decoder.ite_apply, if_neg hneg, decodeFlags_cons, ne_eq,
    not_true_eq_false, if_false, hc, takeNodes_flatten, Decoder.pure_apply]

/-- The encoding of a backend's graph is read back. -/
theorem parseGraph_encodeGraph {children : List Int32} {nodes : List (List UInt8)}
    (hcount : 1 + nodes.length < 2 ^ 31) (hchildren : children.length < 2 ^ 31) :
    parseGraph (nodes.map List.length) 0 (encodeGraph children nodes) = .ok (⟨children, nodes, [], 0⟩, []) := by
  rw [encodeGraph, parseGraph_graphBytes [] (by omega) hchildren]
  rfl

theorem parseGraph_ok_lt {widths : List Nat} {added : Nat} {bs rest : List UInt8} {g : CommandGraph}
    (h : parseGraph widths added bs = .ok (g, rest)) :
    g.rootChildren.length < 2 ^ 31 ∧ ∀ node ∈ g.added, (asBytes node.name).length < 2 ^ 31 := by
  simp only [parseGraph, Decoder.bind_apply, Outcome.bind_eq_ok, Decoder.ite_apply] at h
  obtain ⟨⟨count, bs₁⟩, -, h⟩ := h
  split_ifs at h
  · cases h
  · obtain ⟨⟨flags, bs₂⟩, -, h⟩ := Outcome.bind_eq_ok.mp h
    split_ifs at h
    · cases h
    · obtain ⟨⟨children, bs₃⟩, hchildren, h⟩ := Outcome.bind_eq_ok.mp h
      obtain ⟨⟨nodes, bs₄⟩, -, h⟩ := Outcome.bind_eq_ok.mp h
      obtain ⟨⟨added, bs₅⟩, hadded, h⟩ := Outcome.bind_eq_ok.mp h
      obtain ⟨⟨rootIndex, bs₆⟩, -, h⟩ := Outcome.bind_eq_ok.mp h
      simp only [Decoder.pure_apply, Outcome.ok.injEq, Prod.mk.injEq] at h
      obtain ⟨rfl, -⟩ := h
      exact ⟨decodeChildren_length_lt hchildren, decodeNodes_name_lt hadded⟩

theorem length_le_flatMap_encodeVarint (cs : List Int32) : cs.length ≤ (cs.flatMap encodeVarint).length := by
  induction cs with
  | nil => simp
  | cons c cs ih =>
    have := encodeVarint_length_pos c
    rw [List.flatMap_cons, List.length_append, List.length_cons]
    omega

/-- The injection turns the canonical encoding of a graph into that of the
graph with the proxy's commands; the counts are written as `i32`s. -/
theorem inject_encodeGraph (toLowercase : String → String) {v : Int} (hv : 393 ≤ v) {packet : RawPacket}
    (hid : isDeclareCommandsPacket packet.id v = true) {children : List Int32} {nodes : List (List UInt8)}
    (hcount : 1 + nodes.length < 2 ^ 31) (hchildren : children.length < 2 ^ 31)
    (hpayload : packet.payload = encodeGraph children nodes) (servers : List String) :
    injectProxyCommandsIntoDeclareCommands toLowercase packet v servers =
      .ok ⟨packet.id, graphBytes (children ++ newTopLevel (1 + nodes.length) (rootLiterals toLowercase servers))
        nodes (2 + (rootLiterals toLowercase servers).length)
        (addedNodesBytes (1 + nodes.length) (rootLiterals toLowercase servers))⟩ := by
  have hpos : ¬ asI32 (1 + nodes.length) ≤ 0 := by
    intro h
    have h0 := congrArg asUsize (Int32.le_antisymm h (asI32_nonneg hcount))
    rw [asUsize_asI32 hcount, asUsize_zero] at h0
    omega
  have hneg : ¬ asI32 children.length < 0 := Int32.not_lt.mpr (asI32_nonneg hchildren)
  have hroom : ¬ (children.flatMap encodeVarint ++ (nodes.flatten ++ encodeVarint 0)).length <
      children.length := by
    have := length_le_flatMap_encodeVarint children
    rw [List.length_append]
    omega
  have hroot : rootIndexVarint (nodes.flatten ++ encodeVarint 0) (asI32 (1 + nodes.length)) = some (1, 0) := by
    rw [rootIndexVarint, show encodeVarint 0 = [0x00] by decide]
    simp
  rw [injectProxyCommandsIntoDeclareCommands, if_neg (by omega), if_neg (by simpa using hid), hpayload,
    encodeGraph, graphBytes]
  simp only [Nat.add_zero, List.append_assoc, List.cons_append, List.nil_append, decodeVarint_encodeVarint,
    Outcome.ok_bind, hpos, List.isEmpty_cons, Bool.false_eq_true, or_self, if_false, Decoder.getU8_cons, ne_eq,
    not_true_eq_false, hneg, asUsize_asI32 hchildren, hroom, decodeVarints_flatMap, hroot]
  have hlen : (nodes.flatten ++ encodeVarint 0).length = nodes.flatten.length + 1 := by
    rw [List.length_append, show (encodeVarint 0).length = 1 by decide]
  rw [if_neg (by omega), hlen, Nat.add_sub_cancel, List.take_left, injection_eq]
  simp only [graphBytes, List.length_append, List.flatMap_append, List.append_assoc, List.cons_append,
    List.nil_append, Nat.add_assoc]

/-! ## The commands offered -/

section Literals

variable (toLowercase : String → String)

/-- `s` is one of the commands: a shortcut, or a configured server's name. -/
def IsProxyCommand (servers : List String) (s : String) : Prop :=
  s ∈ ["hub", "lobby", "steel"] ∨
    s ≠ "" ∧ s ≠ "server" ∧ ∃ server ∈ servers, s = toLowercase (RustStr.trim server)

theorem mem_rootLiterals {servers : List String} {s : String} :
    s ∈ rootLiterals toLowercase servers ↔ IsProxyCommand toLowercase servers s := by
  have key : ∀ acc : List String, s ∈ servers.foldl (fun literals s =>
      let name := toLowercase (RustStr.trim s)
      if name ≠ "" ∧ name ≠ "server" ∧ ¬ literals.contains name then literals ++ [name] else literals) acc ↔
      s ∈ acc ∨ s ≠ "" ∧ s ≠ "server" ∧ ∃ server ∈ servers, s = toLowercase (RustStr.trim server) := by
    induction servers with
    | nil => simp
    | cons server servers ih =>
      intro acc
      rw [List.foldl_cons, ih]
      dsimp only
      simp only [List.mem_cons, exists_eq_or_imp]
      generalize toLowercase (RustStr.trim server) = name
      split_ifs with h
      · rw [List.mem_append, List.mem_singleton]
        constructor
        · rintro ((hs | rfl) | hs)
          · exact Or.inl hs
          · exact Or.inr ⟨h.1, h.2.1, Or.inl rfl⟩
          · exact Or.inr ⟨hs.1, hs.2.1, Or.inr hs.2.2⟩
        · rintro (hs | ⟨h1, h2, rfl | hs⟩)
          · exact Or.inl (Or.inl hs)
          · exact Or.inl (Or.inr rfl)
          · exact Or.inr ⟨h1, h2, hs⟩
      · constructor
        · rintro (hs | hs)
          · exact Or.inl hs
          · exact Or.inr ⟨hs.1, hs.2.1, Or.inr hs.2.2⟩
        · rintro (hs | ⟨h1, h2, rfl | hs⟩)
          · exact Or.inl hs
          · -- the name was skipped, so it is there already
            refine Or.inl ?_
            by_contra hnot
            exact h ⟨h1, h2, by simpa using hnot⟩
          · exact Or.inr ⟨h1, h2, hs⟩
  exact key _

theorem rootLiterals_nodup (servers : List String) : (rootLiterals toLowercase servers).Nodup := by
  rw [rootLiterals]
  have h0 : ["hub", "lobby", "steel"].Nodup := by decide
  generalize ["hub", "lobby", "steel"] = acc at h0
  induction servers generalizing acc with
  | nil => exact h0
  | cons server servers ih =>
    rw [List.foldl_cons]
    apply ih
    dsimp only
    split_ifs with h
    · have hnot : toLowercase (RustStr.trim server) ∉ acc := by simpa using h.2.2
      exact List.nodup_append.mpr ⟨h0, by simp, by
        rintro a ha b hb rfl
        exact hnot (List.mem_singleton.mp hb ▸ ha)⟩
    · exact h0

end Literals

/-- Every index that is new in the graph is one of its nodes'. -/
def IndicesInRange (total : Nat) (newRootChildren : List Int32) (added : List CommandNode) : Prop :=
  ∀ i, i ∈ newRootChildren ∨ (∃ node ∈ added, i ∈ node.children) → 0 ≤ i ∧ asUsize i < total

theorem addedNodes_inRange {n : Nat} {literals : List String} (h : n + (2 + literals.length) < 2 ^ 31) :
    IndicesInRange (n + (2 + literals.length)) (newTopLevel n literals) (addedNodes n literals) := by
  have hfit : ∀ k, k < n + (2 + literals.length) → 0 ≤ asI32 k ∧ asUsize (asI32 k) < n + (2 + literals.length) := by
    intro k hk
    exact ⟨asI32_nonneg (by omega), by rw [asUsize_asI32 (by omega)]; exact hk⟩
  rintro i (hi | ⟨node, hnode, hi⟩)
  · rcases List.mem_cons.mp hi with rfl | hi
    · exact hfit n (by omega)
    · obtain ⟨k, hk, rfl⟩ := List.mem_map.mp hi
      rw [List.mem_range'_1] at hk
      exact hfit k (by omega)
  · rcases List.mem_cons.mp hnode with rfl | hnode
    · obtain rfl := List.mem_singleton.mp hi
      exact hfit (n + 1) (by omega)
    · rcases List.mem_cons.mp hnode with rfl | hnode
      · cases hi
      · obtain ⟨l, -, rfl⟩ := List.mem_map.mp hnode
        cases hi

/-- The result of the injection parses as the graph it should be exactly when
the root's child count and the names' lengths fit the `i32`s they are written
as. -/
theorem parse_injected_iff {children : List Int32} {nodes : List (List UInt8)} {literals : List String}
    (hcount : 1 + nodes.length + (2 + literals.length) < 2 ^ 31) :
    parseGraph (nodes.map List.length) (2 + literals.length)
        (graphBytes (children ++ newTopLevel (1 + nodes.length) literals) nodes (2 + literals.length)
          (addedNodesBytes (1 + nodes.length) literals)) =
      .ok (⟨children ++ newTopLevel (1 + nodes.length) literals, nodes,
        addedNodes (1 + nodes.length) literals, 0⟩, []) ↔
      children.length + (1 + literals.length) < 2 ^ 31 ∧ ∀ l ∈ literals, (asBytes l).length < 2 ^ 31 := by
  have hlen : (children ++ newTopLevel (1 + nodes.length) literals).length =
      children.length + (1 + literals.length) := by
    rw [List.length_append, newTopLevel, List.length_cons, List.length_map, List.length_range', Nat.add_comm 1]
  constructor
  · intro h
    obtain ⟨hc, hnames⟩ := parseGraph_ok_lt h
    refine ⟨hlen ▸ hc, ?_⟩
    intro l hl
    have hmem : (⟨0x05, [], l, none⟩ : CommandNode) ∈ addedNodes (1 + nodes.length) literals :=
      List.mem_cons_of_mem _ (List.mem_cons_of_mem _ (List.mem_map.mpr ⟨l, hl, rfl⟩))
    exact hnames _ hmem
  · rintro ⟨hc, hnames⟩
    rw [parseGraph_graphBytes _ hcount (hlen ▸ hc), decodeNodes_addedNodesBytes _ hnames]
    rfl

/-- For a canonical graph the injection succeeds. The result parses as the
graph with the proxy's commands behind the root's children and behind the
backend's nodes, which stay as they were, exactly when the root's children and
every name are fewer than `2 ^ 31`; the commands are the shortcuts and the
servers' names, each once, and every new index is in range. -/
theorem inject_parses_iff (toLowercase : String → String) {v : Int} (hv : 393 ≤ v) {packet : RawPacket}
    (hid : isDeclareCommandsPacket packet.id v = true) {children : List Int32} {nodes : List (List UInt8)}
    (hchildren : children.length < 2 ^ 31) (hpayload : packet.payload = encodeGraph children nodes)
    (servers : List String)
    (hcount : 1 + nodes.length + (2 + (rootLiterals toLowercase servers).length) < 2 ^ 31) :
    ∃ out literals, injectProxyCommandsIntoDeclareCommands toLowercase packet v servers = .ok out ∧
      out.id = packet.id ∧ literals.Nodup ∧ (∀ s, s ∈ literals ↔ IsProxyCommand toLowercase servers s) ∧
      IndicesInRange (1 + nodes.length + (2 + literals.length)) (newTopLevel (1 + nodes.length) literals)
        (addedNodes (1 + nodes.length) literals) ∧
      (parseGraph (nodes.map List.length) (2 + literals.length) out.payload =
        .ok (⟨children ++ newTopLevel (1 + nodes.length) literals, nodes,
          addedNodes (1 + nodes.length) literals, 0⟩, []) ↔
        children.length + (1 + literals.length) < 2 ^ 31 ∧ ∀ s ∈ literals, (asBytes s).length < 2 ^ 31) :=
  ⟨_, rootLiterals toLowercase servers,
    inject_encodeGraph toLowercase hv hid (by omega) hchildren hpayload servers, rfl,
    rootLiterals_nodup toLowercase servers, fun _ => mem_rootLiterals toLowercase,
    addedNodes_inRange hcount, parse_injected_iff hcount⟩

/-- The graph of the root and `help`, offered one server. -/
theorem inject_parses_help :
    ∃ out literals, injectProxyCommandsIntoDeclareCommands (fun s => s)
        ⟨0x10, encodeGraph [1] [[0x05, 0x00, 0x04, 0x68, 0x65, 0x6C, 0x70]]⟩ 776 ["steelmc"] = .ok out ∧
      out.id = 0x10 ∧ literals.Nodup ∧ (∀ s, s ∈ literals ↔ IsProxyCommand (fun s => s) ["steelmc"] s) ∧
      IndicesInRange (2 + (2 + literals.length)) (newTopLevel 2 literals) (addedNodes 2 literals) ∧
      (parseGraph [7] (2 + literals.length) out.payload =
        .ok (⟨[1] ++ newTopLevel 2 literals, [[0x05, 0x00, 0x04, 0x68, 0x65, 0x6C, 0x70]],
          addedNodes 2 literals, 0⟩, []) ↔
        1 + (1 + literals.length) < 2 ^ 31 ∧ ∀ s ∈ literals, (asBytes s).length < 2 ^ 31) :=
  @inject_parses_iff (fun s => s) 776 (by decide) ⟨0x10, _⟩ rfl [1] [[0x05, 0x00, 0x04, 0x68, 0x65, 0x6C, 0x70]]
    (by decide) rfl ["steelmc"] (by decide)

/-! A server whose name's length is no `i32`. -/

theorem rootLiterals_longName {n : Nat} (hn : 6 < n) :
    rootLiterals (fun s => s) [longName n] = ["hub", "lobby", "steel", longName n] := by
  have htrim : RustStr.trim (longName n) = longName n := by
    apply RustStr.trim_of_forall
    intro c hc
    rw [longName, String.toList_ofList] at hc
    rw [List.eq_of_mem_replicate hc]
    decide
  have hne : ∀ s : String, (asBytes s).length ≤ 6 → longName n ≠ s := by
    rintro s hs rfl
    rw [asBytes_longName] at hs
    omega
  rw [rootLiterals, List.foldl_cons, List.foldl_nil, htrim, if_pos]
  · rfl
  · refine ⟨hne _ (by decide), hne _ (by decide), ?_⟩
    simp only [List.contains_eq_mem, decide_eq_true_eq, List.mem_cons, List.not_mem_nil, or_false, not_or]
    exact ⟨hne _ (by decide), hne _ (by decide), hne _ (by decide)⟩

/-- The client does not read the graph back with the long name in it. -/
theorem inject_longName_unreadable :
    ∃ out, injectProxyCommandsIntoDeclareCommands (fun s => s) ⟨0x10, encodeGraph [] []⟩ 776
        [longName (2 ^ 31)] = .ok out ∧
      parseGraph [] 6 out.payload ≠
        .ok (⟨newTopLevel 1 ["hub", "lobby", "steel", longName (2 ^ 31)], [],
          addedNodes 1 ["hub", "lobby", "steel", longName (2 ^ 31)], 0⟩, []) := by
  have hlit := rootLiterals_longName (n := 2 ^ 31) (by decide)
  have hlen := asBytes_longName (2 ^ 31)
  generalize longName (2 ^ 31) = name at hlit hlen
  have hin := @inject_encodeGraph (fun s => s) 776 (by decide) ⟨0x10, encodeGraph [] []⟩ rfl
    [] [] (by decide) (by decide) rfl [name]
  rw [hlit] at hin
  refine ⟨_, hin, ?_⟩
  intro h
  have := (@parse_injected_iff [] [] _ (by simp)).mp h
  have hname := this.2 name (by simp)
  omega

end FrameMC

import FrameMC.Protocol.Varlong

/-!
# What the VarInt readers accept

A length prefix is read from the stream by one loop, and what is inside the
packet by another. Both accept the same byte strings, give them the same value,
and take the same bytes when they fail (`varint_readers_agree`).
-/

namespace FrameMC

open ByteStream

/-- Two errors of one kind: the input ended, or the number has too many bits. -/
inductive SameKind : ProxyError → ProxyError → Prop where
  | ended (text text' : String) : SameKind (.io .unexpectedEof text) (.io .unexpectedEof text')
  | overflow : SameKind .varIntOverflow .varIntOverflow

/-- The same value or errors of one kind, and the same bytes left over. -/
inductive SameReading {α : Type} : Outcome ProxyError α × List UInt8 → Outcome ProxyError α × List UInt8 → Prop where
  | value (x : α) (rest : List UInt8) : SameReading (.ok x, rest) (.ok x, rest)
  | failure {e e' : ProxyError} (h : SameKind e e') (rest : List UInt8) : SameReading (.err e, rest) (.err e', rest)

/-- A reader of numbers, on an input that ends: what it accepts, the value it
gives to it, and how much it takes at most. -/
structure Recognizes {α : Type} (width : Nat) (largest : UInt8) (value : Nat → α)
    (read : List UInt8 → Outcome ProxyError α × List UInt8) : Prop where
  accepts : ∀ bs, (∃ x, (read bs).1 = .ok x) ↔ ∃ u rest, bs = u ++ rest ∧ Leb128.Terminated width largest u
  sums : ∀ u rest, Leb128.Terminated width largest u → read (u ++ rest) = (.ok (value (Leb128.groupSum u)), rest)
  bounded : ∀ bs, ∃ used, bs = used ++ (read bs).2 ∧ used.length ≤ width

section Scanning

variable {α : Type} {width : Nat} {largest : UInt8} {value : Nat → α}

/-- What a reader makes of a scan. -/
def ofScan (value : Nat → α) (ended : ProxyError) : Leb128.Scan → Outcome ProxyError α × List UInt8
  | .value n rest => (.ok (value n), rest)
  | .ended => (.err ended, [])
  | .overflow rest => (.err .varIntOverflow, rest)

theorem recognizes_of_scan {ended : ProxyError} {read : List UInt8 → Outcome ProxyError α × List UInt8}
    (h : ∀ bs, read bs = ofScan value ended (Leb128.scan (largest.toNat + 1) width bs)) :
    Recognizes width largest value read := by
  have hsums (u rest : List UInt8) (hu : Leb128.Terminated width largest u) :
      read (u ++ rest) = (.ok (value (Leb128.groupSum u)), rest) := by
    have hscan : Leb128.scan (largest.toNat + 1) width (u ++ rest) = .value (Leb128.groupSum u) rest :=
      Leb128.scan_value_iff_terminated.mpr ⟨u, rfl, hu, rfl⟩
    rw [h, hscan, ofScan]
  refine ⟨?_, hsums, ?_⟩
  · intro bs
    constructor
    · rintro ⟨x, hx⟩
      rw [h] at hx
      cases hscan : Leb128.scan (largest.toNat + 1) width bs with
      | value n rest =>
        obtain ⟨u, hbytes, hu, -⟩ := Leb128.scan_value_iff_terminated.mp hscan
        exact ⟨u, rest, hbytes, hu⟩
      | ended =>
        rw [hscan] at hx
        cases hx
      | overflow rest =>
        rw [hscan] at hx
        cases hx
    · rintro ⟨u, rest, rfl, hu⟩
      rw [hsums u rest hu]
      exact ⟨_, rfl⟩
  · intro bs
    have hrest := @Leb128.scan_rest (largest.toNat + 1) width bs
    rw [h]
    cases hscan : Leb128.scan (largest.toNat + 1) width bs with
    | value n rest =>
      rw [hscan] at hrest
      exact hrest
    | ended =>
      rw [hscan] at hrest
      exact ⟨bs, (List.append_nil bs).symm, Nat.le_of_lt hrest⟩
    | overflow rest =>
      rw [hscan] at hrest
      exact hrest

/-- Where the input ends is the only thing two readers name differently. -/
theorem sameReading_of_scan {ended ended' : ProxyError} (hended : SameKind ended ended') (s : Leb128.Scan) :
    SameReading (ofScan value ended s) (ofScan value ended' s) := by
  cases s with
  | value n rest => exact .value (value n) rest
  | ended => exact .failure hended []
  | overflow rest => exact .failure .overflow rest

end Scanning

/-- The value of a VarInt: its groups, modulo `2 ^ 32` and as a signed number. -/
def varintValue (sum : Nat) : Int32 := (UInt32.ofNat sum).toInt32

def varlongValue (sum : Nat) : Int64 := (UInt64.ofNat sum).toInt64

/-- The stream's reader and the buffer's agree on every input, VarInts and VarLongs. -/
theorem varint_readers_agree :
    (Recognizes 5 0x0F varintValue readVarint.run ∧ Recognizes 5 0x0F varintValue decodeVarintLeaving ∧
      ∀ bs, SameReading (readVarint.run bs) (decodeVarintLeaving bs)) ∧
    (Recognizes 10 0x01 varlongValue readVarlong.run ∧ Recognizes 10 0x01 varlongValue decodeVarlongLeaving ∧
      ∀ bs, SameReading (readVarlong.run bs) (decodeVarlongLeaving bs)) := by
  have hread (bs : List UInt8) : readVarint.run bs = ofScan varintValue streamEof (Leb128.scan 16 5 bs) := by
    rw [run_readVarint_eq_scan]
    cases Leb128.scan 16 5 bs <;> rfl
  have hdecode (bs : List UInt8) : decodeVarintLeaving bs = ofScan varintValue varintEof (Leb128.scan 16 5 bs) := by
    rw [decodeVarintLeaving_eq_scan]
    cases Leb128.scan 16 5 bs <;> rfl
  have hreadLong (bs : List UInt8) : readVarlong.run bs = ofScan varlongValue streamEof (Leb128.scan 2 10 bs) := by
    rw [run_readVarlong_eq_scan]
    cases Leb128.scan 2 10 bs <;> rfl
  have hdecodeLong (bs : List UInt8) :
      decodeVarlongLeaving bs = ofScan varlongValue varlongEof (Leb128.scan 2 10 bs) := by
    rw [decodeVarlongLeaving_eq_scan]
    cases Leb128.scan 2 10 bs <;> rfl
  refine ⟨⟨recognizes_of_scan hread, recognizes_of_scan hdecode, ?_⟩,
    recognizes_of_scan hreadLong, recognizes_of_scan hdecodeLong, ?_⟩
  · intro bs
    rw [hread, hdecode]
    exact sameReading_of_scan (.ended _ _) _
  · intro bs
    rw [hreadLong, hdecodeLong]
    exact sameReading_of_scan (.ended _ _) _

end FrameMC

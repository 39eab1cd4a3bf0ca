import FrameMC.Lib.HashSet
import FrameMC.Lib.KeyedTable
import FrameMC.Lib.RustStr
import Mathlib.Data.List.Sort
import Mathlib.Data.String.Basic

/-!
# The scripts' key-value store

The `kv_` functions that `ScriptHost::new` of `src/script/engine.rs` registers.
All scripts, called for all players, share one store, and each call holds its
lock. `kv_answers` says what any of the calls gives after any others: what a
map would, and nothing of the order in which the hash map is iterated.
-/

namespace FrameMC.KvStore

/-- The map of the store, and the hasher that orders its keys. -/
structure Store (V : Type) where
  entries : List (String × V)
  nodup : (entries.map Prod.fst).Nodup
  hasher : Hasher String

/-- The calls, by the functions' names. -/
inductive Call (V : Type) where
  | set (key : String) (value : V)
  | get (key : String)
  | has (key : String)
  | remove (key : String)
  | keys (keyPrefix : String)
  | clear

/-- What a call gives to the script. -/
inductive Answer (V : Type) where
  | unit
  | value (v : V)
  | bool (b : Bool)
  | array (keys : List String)
  deriving DecidableEq

variable {V : Type}

namespace Store

def new (hasher : Hasher String) : Store V := ⟨[], List.nodup_nil, hasher⟩

def insert (store : Store V) (key : String) (value : V) : Store V where
  entries := KeyedTable.put Prod.fst (key, value) store.entries
  nodup := KeyedTable.nodup_putAll [(key, value)] store.nodup
  hasher := store.hasher

def get (store : Store V) (key : String) : Option V := (KeyedTable.row Prod.fst key store.entries).map Prod.snd

def remove (store : Store V) (key : String) : Store V where
  entries := store.entries.filter fun entry => entry.1 ≠ key
  nodup := store.nodup.sublist (List.filter_sublist.map _)
  hasher := store.hasher

def clear (store : Store V) : Store V := new store.hasher

/-- The keys in the order in which they are iterated. -/
def keys (store : Store V) : List String := store.hasher.order (store.entries.map Prod.fst)

/-- The state after a call. -/
def after (store : Store V) : Call V → Store V
  | .set key value => store.insert key value
  | .remove key => store.remove key
  | .clear => store.clear
  | _ => store

/-- The answer to a call; `unit` is the value for a key that is not there. -/
def answer (unit : V) (store : Store V) : Call V → Answer V
  | .get key => .value ((store.get key).getD unit)
  | .has key => .bool (store.get key).isSome
  | .remove key => .bool (store.get key).isSome
  | .keys keyPrefix => .array ((store.keys.filter fun k => keyPrefix = "" || RustStr.startsWith k keyPrefix).mergeSort
      fun a b => decide (a ≤ b))
  | _ => .unit

end Store

/-- The store after calls of any scripts, in the order in which they took the lock. -/
def run (hasher : Hasher String) (calls : List (Call V)) : Store V := calls.foldl Store.after (.new hasher)

/-! ## The map -/

/-- What a key holds after a call, from what it held. -/
def Call.written (key : String) (held : Option V) : Call V → Option V
  | .set k value => if k = key then some value else held
  | .remove k => if k = key then none else held
  | .clear => none
  | _ => held

/-- What a key holds after all calls. -/
def held (calls : List (Call V)) (key : String) : Option V := calls.foldl (Call.written key) none

/-- What a map answers. -/
inductive Answers (unit : V) (held : String → Option V) : Call V → Answer V → Prop
  | set (key : String) (value : V) : Answers unit held (.set key value) .unit
  | get (key : String) : Answers unit held (.get key) (.value ((held key).getD unit))
  | has (key : String) : Answers unit held (.has key) (.bool (held key).isSome)
  | remove (key : String) : Answers unit held (.remove key) (.bool (held key).isSome)
  | keys (keyPrefix : String) (found : List String) (sorted : found.Pairwise (· < ·))
      (complete : ∀ k, k ∈ found ↔ (held k).isSome = true ∧ RustStr.startsWith k keyPrefix = true) :
      Answers unit held (.keys keyPrefix) (.array found)
  | clear : Answers unit held .clear .unit

/-- A map has one answer to every call. -/
theorem Answers.unique {unit : V} {held : String → Option V} {call : Call V} {a a' : Answer V}
    (h : Answers unit held call a) (h' : Answers unit held call a') : a = a' := by
  cases h with
  | keys keyPrefix found sorted complete =>
    cases h' with
    | keys _ found' sorted' complete' =>
      have hperm : found.Perm found' := (List.perm_ext_iff_of_nodup (sorted.imp ne_of_lt) (sorted'.imp ne_of_lt)).mpr
        fun k => (complete k).trans (complete' k).symm
      rw [hperm.eq_of_pairwise' (sorted.imp le_of_lt) (sorted'.imp le_of_lt)]
  | set => cases h'; rfl
  | get => cases h'; rfl
  | has => cases h'; rfl
  | remove => cases h'; rfl
  | clear => cases h'; rfl

/-! ## The store is a map -/

section Refines

variable {store : Store V} {calls : List (Call V)}

theorem get_after (store : Store V) (call : Call V) (key : String) :
    (store.after call).get key = call.written key (store.get key) := by
  cases call with
  | set k value =>
    change (KeyedTable.row Prod.fst key (KeyedTable.put Prod.fst (k, value) store.entries)).map Prod.snd = _
    rw [KeyedTable.row_put, Call.written]
    split
    · rfl
    · rfl
  | remove k =>
    change (KeyedTable.row Prod.fst key (store.entries.filter fun entry => entry.1 ≠ k)).map Prod.snd = _
    rw [KeyedTable.row_filter_ne, Call.written]
    split
    · rfl
    · rfl
  | clear => rfl
  | get k => rfl
  | has k => rfl
  | keys keyPrefix => rfl

theorem get_run (hasher : Hasher String) (calls : List (Call V)) (key : String) :
    (run hasher calls).get key = held calls key := by
  have hfrom : ∀ store : Store V, (calls.foldl Store.after store).get key =
      calls.foldl (Call.written key) (store.get key) := by
    intro store
    induction calls generalizing store with
    | nil => rfl
    | cons call calls ih => rw [List.foldl_cons, ih, get_after, List.foldl_cons]
  exact hfrom (.new hasher)

theorem mem_keys {key : String} : key ∈ store.keys ↔ (store.get key).isSome = true := by
  rw [Store.keys, (store.hasher.perm _).mem_iff, Store.get, Option.isSome_map, KeyedTable.row, List.find?_isSome,
    List.mem_map]
  simp only [decide_eq_true_iff]

theorem keys_nodup (store : Store V) : store.keys.Nodup := (store.hasher.perm _).nodup_iff.mpr store.nodup

/-- A store answers as the map of what it holds. -/
theorem answer_answers (unit : V) (store : Store V) (call : Call V) :
    Answers unit store.get call (store.answer unit call) := by
  cases call with
  | set key value => exact .set key value
  | get key => exact .get key
  | has key => exact .has key
  | remove key => exact .remove key
  | clear => exact .clear
  | keys keyPrefix =>
    have hperm := List.mergeSort_perm (store.keys.filter fun k => keyPrefix = "" || RustStr.startsWith k keyPrefix)
      fun a b => decide (a ≤ b)
    refine .keys keyPrefix _ ?_ fun k => ?_
    · have hnodup := hperm.nodup_iff.mpr ((keys_nodup store).filter _)
      exact (hnodup.and (List.pairwise_mergeSort' _ _)).imp fun ⟨hne, hle⟩ => lt_of_le_of_ne hle hne
    · rw [hperm.mem_iff, List.mem_filter, mem_keys, Bool.or_eq_true, decide_eq_true_iff]
      refine and_congr_right fun _ => or_iff_right_of_imp ?_
      rintro rfl
      exact List.isPrefixOf_nil_left

/-- After any calls, by any scripts in any order, a call gets the answer of a
map that holds for each key what was last set for it and not removed or cleared
since; the listed keys are sorted, and the hasher has no part in it. -/
theorem kv_answers (unit : V) (calls : List (Call V)) (call : Call V) (hasher : Hasher String) :
    Answers unit (held calls) call ((run hasher calls).answer unit call) ∧
      ∀ hasher', (run hasher' calls).answer unit call = (run hasher calls).answer unit call := by
  have hall (hasher : Hasher String) : Answers unit (held calls) call ((run hasher calls).answer unit call) := by
    rw [← funext (get_run hasher calls)]
    exact answer_answers unit _ call
  exact ⟨hall hasher, fun hasher' => (hall hasher').unique (hall hasher)⟩

end Refines

end FrameMC.KvStore

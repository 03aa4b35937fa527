import SlowJsGc.Cell

/-!
# The weak records of an object: `reset_weak_ref`

Every `WeakMap` or `WeakSet` record whose key is an object hangs on the
object's chain `first_weak_ref`, linked through `next_weak_ref`, and is also
linked into its map's hash bucket (`hash_link`) and record list (`link`).
When the object is freed, `reset_weak_ref` walks the chain twice: the first
pass unlinks every record from its map's lists, the second releases each
record's value and frees the record, reading `next_weak_ref` before the
record goes. Then `first_weak_ref` is cleared.

`SlowJsGc.Cell` sees only the values the second pass releases
(`JSHeap.reset_weak_ref`). Here the chain, the records and the maps' lists
are explicit. A `list_del` removes the record from whichever list holds it,
as for the collector's lists, and releasing a value or freeing a record is
an event in the log. Both passes carry fuel, since a chain that loops never
ends; `reset_weak_ref_spec` says that on a finite chain the function ends
with the chain's records gone from every list, the rest in place, and each
value released and each record freed once, in chain order.
-/

set_option autoImplicit false

namespace SlowJsGc

/-! ## The records and the maps -/

/-- `JSMapRecord`: the map it belongs to, `empty` (a deleted record kept for
an iterator), the next record of the key's chain, and the value. -/
structure JSMapRecord where
  map : Addr
  empty : Bool
  next_weak_ref : Option Addr
  value : JSValue
  deriving DecidableEq, Repr

/-- `JSMapState`: `is_weak`, the `records` list and the hash buckets. -/
structure JSMapState where
  is_weak : Bool
  records : List Addr
  hash_table : List (List Addr)
  deriving DecidableEq, Repr

/-- What `reset_weak_ref` does beyond the lists, in order. -/
inductive WeakEvent where
  /-- `JS_FreeValueRT` on a record's value. -/
  | free_value (v : JSValue)
  /-- `js_free_rt` on a record. -/
  | js_free_rt (mr : Addr)
  deriving DecidableEq, Repr

/-- The records, the map states, every object's `first_weak_ref`, and the
log. -/
structure JSMapHeap where
  record : Addr → JSMapRecord
  map_state : Addr → JSMapState
  first_weak_ref : Addr → Option Addr
  log : List WeakEvent

namespace JSMapHeap

variable (mh : JSMapHeap) (mr : Addr)

/-- `list_del(&mr->hash_link)`: the record leaves its hash bucket. -/
def list_del_hash_link : JSMapHeap :=
  { mh with map_state := fun m =>
      { mh.map_state m with hash_table := (mh.map_state m).hash_table.map (·.erase mr) } }

/-- `list_del(&mr->link)`: the record leaves its map's record list. -/
def list_del_link : JSMapHeap :=
  { mh with map_state := fun m =>
      { mh.map_state m with records := (mh.map_state m).records.erase mr } }

/-- `JS_FreeValueRT(rt, v)`. -/
def JS_FreeValueRT (v : JSValue) : JSMapHeap :=
  { mh with log := mh.log ++ [.free_value v] }

/-- `js_free_rt(rt, mr)`. -/
def js_free_rt : JSMapHeap :=
  { mh with log := mh.log ++ [.js_free_rt mr] }

/-- The first pass: check and unlink every record of the chain. -/
def reset_weak_ref_unlink : Nat → JSMapHeap → Option Addr → Except GcError JSMapHeap
  | 0, _, _ => throw .out_of_fuel
  | _ + 1, mh, none => pure mh
  | n + 1, mh, some mr =>
    if (mh.map_state (mh.record mr).map).is_weak = false then throw (.assert_failed "s->is_weak")
    else if (mh.record mr).empty then throw (.assert_failed "!mr->empty")
    else reset_weak_ref_unlink n ((mh.list_del_hash_link mr).list_del_link mr)
      (mh.record mr).next_weak_ref

/-- The second pass: read `mr_next`, release the value, free the record. -/
def reset_weak_ref_free : Nat → JSMapHeap → Option Addr → Except GcError JSMapHeap
  | 0, _, _ => throw .out_of_fuel
  | _ + 1, mh, none => pure mh
  | n + 1, mh, some mr =>
    let mr_next := (mh.record mr).next_weak_ref
    reset_weak_ref_free n ((mh.JS_FreeValueRT (mh.record mr).value).js_free_rt mr) mr_next

/-- `reset_weak_ref(rt, p)`, each pass with `n` rounds of fuel. -/
def reset_weak_ref (n : Nat) (p : Addr) : Except GcError JSMapHeap := do
  let mh ← reset_weak_ref_unlink n mh (mh.first_weak_ref p)
  let mh ← reset_weak_ref_free n mh (mh.first_weak_ref p)
  pure { mh with first_weak_ref := Function.update mh.first_weak_ref p none }

/-- Every list of every map, the record lists and the hash buckets, passed
through `f`: what a pass that unlinks the same records from every list
leaves. -/
def map_lists (f : List Addr → List Addr) : JSMapHeap :=
  { mh with map_state := fun m =>
      ⟨(mh.map_state m).is_weak, f (mh.map_state m).records, (mh.map_state m).hash_table.map f⟩ }

/-- The chain from `first` through `next_weak_ref` is the finite list `L`,
ending in `NULL`. -/
def Chain : Option Addr → List Addr → Prop
  | none, [] => True
  | some a, b :: L => a = b ∧ Chain (mh.record a).next_weak_ref L
  | _, _ => False

/-- The intrusive lists of the maps hold a record at most once, as a linked
list does. -/
def ListsNodup : Prop :=
  ∀ m, (mh.map_state m).records.Nodup ∧ ∀ b ∈ (mh.map_state m).hash_table, b.Nodup

end JSMapHeap

/-! ## The two passes -/

namespace JSMapHeap

variable {mh : JSMapHeap} {mr : Addr}

@[simp] theorem list_del_link_record : (mh.list_del_link mr).record = mh.record := rfl
@[simp] theorem list_del_link_first_weak_ref :
    (mh.list_del_link mr).first_weak_ref = mh.first_weak_ref := rfl
@[simp] theorem list_del_link_log : (mh.list_del_link mr).log = mh.log := rfl
@[simp] theorem list_del_hash_link_record : (mh.list_del_hash_link mr).record = mh.record := rfl
@[simp] theorem list_del_hash_link_first_weak_ref :
    (mh.list_del_hash_link mr).first_weak_ref = mh.first_weak_ref := rfl
@[simp] theorem list_del_hash_link_log : (mh.list_del_hash_link mr).log = mh.log := rfl
@[simp] theorem map_lists_record (f : List Addr → List Addr) : (mh.map_lists f).record = mh.record :=
  rfl
@[simp] theorem map_lists_first_weak_ref (f : List Addr → List Addr) :
    (mh.map_lists f).first_weak_ref = mh.first_weak_ref := rfl
@[simp] theorem map_lists_log (f : List Addr → List Addr) : (mh.map_lists f).log = mh.log := rfl
@[simp] theorem free_value_js_free_rt_record (v : JSValue) :
    ((mh.JS_FreeValueRT v).js_free_rt mr).record = mh.record := rfl

theorem map_lists_id (mh : JSMapHeap) : mh.map_lists (fun l => l) = mh := by
  simp [map_lists]

/-- Unlinking a record from both its lists is erasing it from every list. -/
theorem list_del_links (mh : JSMapHeap) (mr : Addr) :
    (mh.list_del_hash_link mr).list_del_link mr = mh.map_lists (·.erase mr) := rfl

theorem map_lists_map_lists (mh : JSMapHeap) (f g : List Addr → List Addr) :
    (mh.map_lists f).map_lists g = mh.map_lists (g ∘ f) := by
  simp [map_lists, List.map_map]

/-- The chain is read off the records alone. -/
theorem Chain.of_record {mh mh' : JSMapHeap} (h : mh'.record = mh.record) :
    ∀ {first : Option Addr} {L : List Addr}, mh.Chain first L → mh'.Chain first L
  | none, [], _ => trivial
  | some _, _ :: _, hc => ⟨hc.1, h ▸ Chain.of_record h hc.2⟩

/-- A chain that ends is a list without repeats: a repeated record would
send the chain round forever. -/
theorem Chain.nodup : ∀ {first : Option Addr} {L : List Addr}, mh.Chain first L → L.Nodup
  | _, [], _ => List.nodup_nil
  | none, _ :: _, h => h.elim
  | some _, b :: L, ⟨rfl, h⟩ => by
    refine List.nodup_cons.mpr ⟨fun hb => ?_, Chain.nodup h⟩
    -- the suffix of the chain from `b` is the chain again, so it is longer than itself
    obtain ⟨L₁, L₂, rfl⟩ := List.append_of_mem hb
    have key : ∀ {f : Option Addr} (L₁ : List Addr), mh.Chain f (L₁ ++ b :: L₂) →
        mh.Chain (mh.record b).next_weak_ref L₂ := by
      intro f L₁ hc
      induction L₁ generalizing f with
      | nil => cases f with
        | none => exact hc.elim
        | some a => exact hc.1 ▸ hc.2
      | cons c L₁ ih => cases f with
        | none => exact hc.elim
        | some a => exact ih hc.2
    have hsame : ∀ {f : Option Addr} {A B : List Addr}, mh.Chain f A → mh.Chain f B → A = B := by
      intro f A B hA hB
      induction A generalizing f B with
      | nil => cases f <;> cases B <;> first | rfl | exact hA.elim | exact hB.elim
      | cons a A ih => cases f with
        | none => exact hA.elim
        | some x => cases B with
          | nil => exact hB.elim
          | cons b' B => rw [← hA.1, ← hB.1, ih hA.2 hB.2]
    have := congrArg List.length (hsame h (key L₁ h))
    simp only [List.length_append, List.length_cons] at this
    omega

/-- **The first pass** unlinks the chain's records from every list, one
after the other. -/
theorem reset_weak_ref_unlink_chain : ∀ {n : Nat} {mh : JSMapHeap} {first : Option Addr}
    {L : List Addr}, mh.Chain first L → L.length < n →
    (∀ r ∈ L, (mh.map_state (mh.record r).map).is_weak = true ∧ (mh.record r).empty = false) →
    reset_weak_ref_unlink n mh first = .ok (mh.map_lists (·.diff L))
  | 0, _, _, _, _, hn, _ => absurd hn (Nat.not_lt_zero _)
  | n + 1, mh, none, [], _, _, _ => by simp [reset_weak_ref_unlink, map_lists_id]
  | _ + 1, _, none, _ :: _, h, _, _ => h.elim
  | _ + 1, _, some _, [], h, _, _ => h.elim
  | n + 1, mh, some a, b :: L, hc, hn, hw => by
    obtain ⟨rfl, h⟩ := hc
    obtain ⟨hweak, hempty⟩ := hw a (List.mem_cons_self _ _)
    have h' : (mh.map_lists (·.erase a)).Chain (mh.record a).next_weak_ref L :=
      Chain.of_record (by rfl) h
    rw [reset_weak_ref_unlink, if_neg (by simp [hweak]), if_neg (by simp [hempty]), list_del_links,
      reset_weak_ref_unlink_chain h' (by simpa using hn)
        (fun r hr => by simpa [map_lists] using hw r (List.mem_cons_of_mem _ hr)),
      map_lists_map_lists]
    simp [Function.comp_def, List.diff_cons]

/-- **The second pass** releases each record's value and frees the record,
in chain order. -/
theorem reset_weak_ref_free_chain : ∀ {n : Nat} {mh : JSMapHeap} {first : Option Addr}
    {L : List Addr}, mh.Chain first L → L.length < n →
    reset_weak_ref_free n mh first = .ok { mh with
      log := mh.log ++ L.flatMap fun r => [.free_value (mh.record r).value, .js_free_rt r] }
  | 0, _, _, _, _, hn => absurd hn (Nat.not_lt_zero _)
  | n + 1, mh, none, [], _, _ => by simp [reset_weak_ref_free]
  | _ + 1, _, none, _ :: _, h, _ => h.elim
  | _ + 1, _, some _, [], h, _ => h.elim
  | n + 1, mh, some a, b :: L, hc, hn => by
    obtain ⟨rfl, h⟩ := hc
    have h' : ((mh.JS_FreeValueRT (mh.record a).value).js_free_rt a).Chain
        (mh.record a).next_weak_ref L := Chain.of_record (by rfl) h
    rw [reset_weak_ref_free, reset_weak_ref_free_chain h' (by simpa using hn)]
    simp [JS_FreeValueRT, js_free_rt]

end JSMapHeap

/-- **`reset_weak_ref` on a finite chain.** For an object whose weak-record
chain is a finite list `L` of records, each in a weak map and not a deleted
one, over maps whose lists hold a record at most once: with more rounds of
fuel than records in the chain, `reset_weak_ref` ends. Afterwards every
list of every map has lost exactly the chain's records and keeps the others
in their order; the records, the maps' flags and the other objects' chains
are as they were; the log has gained, for each record of the chain in
order, the release of its value and then the record's free, so each value
is released once and each record freed once; and `first_weak_ref` is
`NULL`. -/
theorem reset_weak_ref_spec {mh : JSMapHeap} {p : Addr} {L : List Addr}
    (hC : mh.Chain (mh.first_weak_ref p) L) (hnd : mh.ListsNodup)
    (hw : ∀ r ∈ L, (mh.map_state (mh.record r).map).is_weak = true ∧ (mh.record r).empty = false)
    {n : Nat} (hn : L.length < n) :
    mh.reset_weak_ref n p = .ok { mh.map_lists (·.filter (· ∉ L)) with
      first_weak_ref := Function.update mh.first_weak_ref p none
      log := mh.log ++ L.flatMap fun r => [.free_value (mh.record r).value, .js_free_rt r] } := by
  have hC' : (mh.map_lists (·.diff L)).Chain (mh.first_weak_ref p) L :=
    JSMapHeap.Chain.of_record (by rfl) hC
  rw [JSMapHeap.reset_weak_ref, JSMapHeap.reset_weak_ref_unlink_chain hC hn hw, except_ok_bind,
    JSMapHeap.map_lists_first_weak_ref, JSMapHeap.reset_weak_ref_free_chain hC' hn]
  -- on lists without repeats, erasing the chain's records is filtering them out
  have hlists : mh.map_lists (·.diff L) = mh.map_lists (·.filter (· ∉ L)) := by
    unfold JSMapHeap.map_lists
    congr 1
    funext m
    obtain ⟨hr, hb⟩ := hnd m
    dsimp only
    rw [hr.diff_eq_filter, List.map_congr_left fun b hb' => (hb b hb').diff_eq_filter]
  simp [hlists]

/-- One weak map `10` with records `1`, `2`, `3`; records `1` and `3` are
keyed by the object `0`, whose chain is `1 → 3`. -/
def weakMapHeap : JSMapHeap where
  record r := if r = 1 then ⟨10, false, some 3, .object 5⟩
    else if r = 3 then ⟨10, false, none, .object 6⟩ else ⟨10, false, none, .object 7⟩
  map_state _ := ⟨true, [1, 2, 3], [[1, 3], [2]]⟩
  first_weak_ref o := if o = 0 then some 1 else none
  log := []

theorem reset_weak_ref_spec_weakMapHeap :
    weakMapHeap.Chain (weakMapHeap.first_weak_ref 0) [1, 3] ∧ weakMapHeap.ListsNodup ∧
      (∀ r ∈ [1, 3], (weakMapHeap.map_state (weakMapHeap.record r).map).is_weak = true ∧
        (weakMapHeap.record r).empty = false) ∧
      weakMapHeap.reset_weak_ref 3 0 = .ok { weakMapHeap.map_lists (·.filter (· ∉ [1, 3])) with
        first_weak_ref := Function.update weakMapHeap.first_weak_ref 0 none
        log := weakMapHeap.log ++ [1, 3].flatMap fun r =>
          [.free_value (weakMapHeap.record r).value, .js_free_rt r] } := by
  have hC : weakMapHeap.Chain (weakMapHeap.first_weak_ref 0) [1, 3] := ⟨rfl, rfl, trivial⟩
  have hnd : weakMapHeap.ListsNodup := fun _ => show [1, 2, 3].Nodup ∧ ∀ b ∈ [[1, 3], [2]], b.Nodup by
    decide
  have hw : ∀ r ∈ [1, 3], (weakMapHeap.map_state (weakMapHeap.record r).map).is_weak = true ∧
      (weakMapHeap.record r).empty = false := by decide
  exact ⟨hC, hnd, hw, reset_weak_ref_spec hC hnd hw (by decide)⟩

/-- The reference a `free_value` event releases, as `SlowJsGc.Cell` names
it. -/
def WeakEvent.released : WeakEvent → Option JSRef
  | .free_value v => some (.value v)
  | .js_free_rt _ => none

/-- **The chain refines the values `JSHeap.reset_weak_ref` releases.** When
an object's `first_weak_ref` values are those of the records of its chain,
the references `reset_weak_ref` releases, in order, are the ones the free
path of `SlowJsGc.Cell` releases for the weak records. -/
theorem reset_weak_ref_refines {mh : JSMapHeap} {L : List Addr} {q : JSObject}
    (hq : q.first_weak_ref = L.map fun r => (mh.record r).value) :
    (L.flatMap fun r => [WeakEvent.free_value (mh.record r).value, .js_free_rt r]).filterMap
      WeakEvent.released = JSHeap.reset_weak_ref q := by
  rw [JSHeap.reset_weak_ref, hq]
  clear hq
  induction L with
  | nil => rfl
  | cons r L ih => simp [ih, WeakEvent.released]

/-- **A run of `reset_weak_ref` releases what the free path of the object
says.** On a finite chain of live records of weak maps, whose values are
those `SlowJsGc.Cell` keeps in the object's `first_weak_ref`, the run ends,
and the values its log releases, in order, are `JSHeap.reset_weak_ref` of the
object: the map side refines the free path of `free_object`. -/
theorem reset_weak_ref_run_refines {mh : JSMapHeap} {p : Addr} {L : List Addr} {q : JSObject}
    (hC : mh.Chain (mh.first_weak_ref p) L)
    (hw : ∀ r ∈ L, (mh.map_state (mh.record r).map).is_weak = true ∧ (mh.record r).empty = false)
    (hq : q.first_weak_ref = L.map fun r => (mh.record r).value) {n : Nat} (hn : L.length < n) :
    ∃ mh', mh.reset_weak_ref n p = .ok mh' ∧
      ∃ E, mh'.log = mh.log ++ E ∧ E.filterMap WeakEvent.released = JSHeap.reset_weak_ref q := by
  have hC' : (mh.map_lists (·.diff L)).Chain (mh.first_weak_ref p) L :=
    JSMapHeap.Chain.of_record (by rfl) hC
  rw [JSMapHeap.reset_weak_ref, JSMapHeap.reset_weak_ref_unlink_chain hC hn hw, except_ok_bind,
    JSMapHeap.map_lists_first_weak_ref, JSMapHeap.reset_weak_ref_free_chain hC' hn]
  exact ⟨_, rfl, _, rfl, reset_weak_ref_refines hq⟩

/-- The object `0` of `weakMapHeap`, as `SlowJsGc.Cell` sees it: the values
of its records `1` and `3`. -/
theorem reset_weak_ref_run_refines_weakMapHeap :
    weakMapHeap.Chain (weakMapHeap.first_weak_ref 0) [1, 3] ∧
      (∀ r ∈ [1, 3], (weakMapHeap.map_state (weakMapHeap.record r).map).is_weak = true ∧
        (weakMapHeap.record r).empty = false) ∧
      (⟨JS_CLASS_OBJECT, 1, [], [.object 5, .object 6], .other⟩ : JSObject).first_weak_ref =
        [1, 3].map (fun r => (weakMapHeap.record r).value) ∧ [1, 3].length < 3 ∧
      ∃ mh', weakMapHeap.reset_weak_ref 3 0 = .ok mh' ∧ ∃ E, mh'.log = weakMapHeap.log ++ E ∧
        E.filterMap WeakEvent.released =
          JSHeap.reset_weak_ref ⟨JS_CLASS_OBJECT, 1, [], [.object 5, .object 6], .other⟩ := by
  have hC : weakMapHeap.Chain (weakMapHeap.first_weak_ref 0) [1, 3] := ⟨rfl, rfl, trivial⟩
  have hw : ∀ r ∈ [1, 3], (weakMapHeap.map_state (weakMapHeap.record r).map).is_weak = true ∧
      (weakMapHeap.record r).empty = false := by decide
  have hq : (⟨JS_CLASS_OBJECT, 1, [], [.object 5, .object 6], .other⟩ : JSObject).first_weak_ref =
      [1, 3].map (fun r => (weakMapHeap.record r).value) := by decide
  exact ⟨hC, hw, hq, by decide, reset_weak_ref_run_refines hC hw hq (by decide)⟩

end SlowJsGc

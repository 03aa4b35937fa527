import SlowJsGc.Heap

/-!
# The runtime state the collector mutates

The part of `JSRuntime` that `gc.c`'s collector reads and writes: the three
intrusive lists `gc_obj_list`, `tmp_obj_list` and `gc_zero_ref_count_list`,
`gc_phase`, and the header fields `ref_count` and `mark` of every cell (with
`JSObject.free_mark`, the zombie flag `free_object` sets). The intrusive lists
are modelled as lists of addresses; `list_del` removes a cell from whichever
list holds it, which is what unlinking a `list_head` does.

Deallocation is not modelled as a change of memory but recorded: every free
path appends a `finalize` event when it starts and a `js_free_rt` event, with
the cell's count at that moment, when it returns the memory. That a cell is
finalized once, and freed once with count zero, is read off this log.
Assertions and `abort()` are `GcError`s, and so is running out of the
fuel the model gives its loops, which the theorems show never happens.
-/

set_option autoImplicit false

namespace SlowJsGc

/-- What the free paths did, in order. -/
inductive GcEvent where
  /-- A free path started on the cell (`free_object`, `free_function_bytecode`,
  or the release of a var-ref, shape, context or async function). -/
  | finalize (p : Addr)
  /-- `js_free_rt` returned the cell's memory; its `ref_count` at that moment. -/
  | js_free_rt (p : Addr) (ref_count : Nat)
  deriving DecidableEq, Repr

/-- The ways a run of the collector stops early. -/
inductive GcError where
  /-- A failed `assert`; the condition as the source writes it. -/
  | assert_failed (cond : String)
  /-- `abort()` in the `default:` of a kind switch. -/
  | abort
  /-- The model's loop bound ran out. -/
  | out_of_fuel
  deriving DecidableEq, Repr

/-- The three lists a GC cell can be linked on. -/
inductive GcList where
  | gc_obj_list
  | tmp_obj_list
  | gc_zero_ref_count_list
  deriving DecidableEq, Repr

/-- The collector's part of `JSRuntime`, with the headers of all cells. -/
structure JSRuntime where
  ref_count : Addr → Nat
  mark : Addr → Nat
  free_mark : Addr → Bool
  gc_obj_list : List Addr
  tmp_obj_list : List Addr
  gc_zero_ref_count_list : List Addr
  gc_phase : JSGCPhaseEnum
  log : List GcEvent

namespace JSRuntime

variable (rt : JSRuntime) (p : Addr)

/-- `p->ref_count = n`. -/
@[simps]
def set_ref_count (n : Nat) : JSRuntime :=
  { rt with ref_count := Function.update rt.ref_count p n }

/-- `p->mark = n`. -/
@[simps]
def set_mark (n : Nat) : JSRuntime :=
  { rt with mark := Function.update rt.mark p n }

/-- `p->free_mark = 1`. -/
@[simps]
def set_free_mark : JSRuntime :=
  { rt with free_mark := Function.update rt.free_mark p true }

/-- `list_del(&p->link)`: unlink `p` from the list it is on. -/
@[simps]
def list_del : JSRuntime :=
  { rt with
    gc_obj_list := rt.gc_obj_list.erase p
    tmp_obj_list := rt.tmp_obj_list.erase p
    gc_zero_ref_count_list := rt.gc_zero_ref_count_list.erase p }

/-- `list_add_tail(&p->link, l)`. -/
def list_add_tail : GcList → JSRuntime
  | .gc_obj_list => { rt with gc_obj_list := rt.gc_obj_list ++ [p] }
  | .tmp_obj_list => { rt with tmp_obj_list := rt.tmp_obj_list ++ [p] }
  | .gc_zero_ref_count_list =>
      { rt with gc_zero_ref_count_list := rt.gc_zero_ref_count_list ++ [p] }

/-- `list_add(&p->link, &rt->gc_zero_ref_count_list)`: push at the head. -/
@[simps]
def list_add_zero : JSRuntime :=
  { rt with gc_zero_ref_count_list := p :: rt.gc_zero_ref_count_list }

/-- `js_free_rt(rt, p)` on a cell: its memory is returned. -/
@[simps]
def js_free_rt : JSRuntime :=
  { rt with log := rt.log ++ [.js_free_rt p (rt.ref_count p)] }

/-- A free path starts on `p`. -/
@[simps]
def finalize : JSRuntime :=
  { rt with log := rt.log ++ [.finalize p] }

/-- `rt->gc_phase = ph`. -/
@[simps]
def set_phase (ph : JSGCPhaseEnum) : JSRuntime :=
  { rt with gc_phase := ph }

section list_add_tail

variable (l : GcList)

@[simp] theorem list_add_tail_ref_count : (rt.list_add_tail p l).ref_count = rt.ref_count := by
  cases l <;> rfl
@[simp] theorem list_add_tail_mark : (rt.list_add_tail p l).mark = rt.mark := by
  cases l <;> rfl
@[simp] theorem list_add_tail_free_mark : (rt.list_add_tail p l).free_mark = rt.free_mark := by
  cases l <;> rfl
@[simp] theorem list_add_tail_gc_phase : (rt.list_add_tail p l).gc_phase = rt.gc_phase := by
  cases l <;> rfl
@[simp] theorem list_add_tail_log : (rt.list_add_tail p l).log = rt.log := by
  cases l <;> rfl

@[simp] theorem list_add_tail_gc_obj_list : (rt.list_add_tail p l).gc_obj_list =
    if l = .gc_obj_list then rt.gc_obj_list ++ [p] else rt.gc_obj_list := by
  cases l <;> rfl
@[simp] theorem list_add_tail_tmp_obj_list : (rt.list_add_tail p l).tmp_obj_list =
    if l = .tmp_obj_list then rt.tmp_obj_list ++ [p] else rt.tmp_obj_list := by
  cases l <;> rfl
@[simp] theorem list_add_tail_gc_zero_ref_count_list :
    (rt.list_add_tail p l).gc_zero_ref_count_list =
      if l = .gc_zero_ref_count_list then rt.gc_zero_ref_count_list ++ [p]
      else rt.gc_zero_ref_count_list := by
  cases l <;> rfl

end list_add_tail

section lists

variable {rt : JSRuntime}

/-- Unlinking keeps the three lists free of repetitions. -/
theorem nodup_list_del
    (h : (rt.gc_obj_list ++ rt.tmp_obj_list ++ rt.gc_zero_ref_count_list).Nodup) (p : Addr) :
    ((rt.list_del p).gc_obj_list ++ (rt.list_del p).tmp_obj_list ++
      (rt.list_del p).gc_zero_ref_count_list).Nodup :=
  h.sublist (((List.erase_sublist _ _).append (List.erase_sublist _ _)).append
    (List.erase_sublist _ _))

/-- Moving a cell to `gc_zero_ref_count_list`, at either end, keeps the three
lists free of repetitions. -/
theorem nodup_list_del_add_zero
    (h : (rt.gc_obj_list ++ rt.tmp_obj_list ++ rt.gc_zero_ref_count_list).Nodup) (p : Addr) :
    (p :: ((rt.list_del p).gc_obj_list ++ (rt.list_del p).tmp_obj_list ++
      (rt.list_del p).gc_zero_ref_count_list)).Nodup := by
  have h₁ := List.nodup_append.mp h
  have h₂ := List.nodup_append.mp h₁.1
  refine List.nodup_cons.mpr ⟨?_, nodup_list_del h p⟩
  simp [h₂.1.mem_erase_iff, h₂.2.1.mem_erase_iff, h₁.2.1.mem_erase_iff]

/-- Moving a cell to the tail of `gc_zero_ref_count_list` keeps the three
lists free of repetitions. -/
theorem nodup_list_del_add_tail_zero
    (h : (rt.gc_obj_list ++ rt.tmp_obj_list ++ rt.gc_zero_ref_count_list).Nodup) (p : Addr) :
    (((rt.list_del p).list_add_tail p .gc_zero_ref_count_list).gc_obj_list ++
      ((rt.list_del p).list_add_tail p .gc_zero_ref_count_list).tmp_obj_list ++
      ((rt.list_del p).list_add_tail p .gc_zero_ref_count_list).gc_zero_ref_count_list).Nodup := by
  have := List.nodup_append_comm.mp
    (show ([p] ++ _).Nodup from nodup_list_del_add_zero h p)
  simpa using this

end lists

end JSRuntime

/-! ## `Except` and `foldlM` -/

@[simp] theorem except_pure_eq_ok {ε α : Type} (x : α) : (pure x : Except ε α) = .ok x := rfl

@[simp] theorem except_ok_bind {ε α β : Type} (x : α) (g : α → Except ε β) :
    (Except.ok x >>= g) = g x := rfl

@[simp] theorem except_error_bind {ε α β : Type} (e : ε) (g : α → Except ε β) :
    (Except.error e >>= g) = .error e := rfl

/-- A bind that succeeds ran its first computation to a value. -/
theorem except_bind_eq_ok {ε α β : Type} {x : Except ε α} {g : α → Except ε β} {r : β}
    (h : x >>= g = .ok r) : ∃ a, x = .ok a ∧ g a = .ok r := by
  cases x with
  | error e => cases h
  | ok a => exact ⟨a, rfl, h⟩

/-- The loop rule for `foldlM` in `Except`: an invariant indexed by the part of
the list still to be folded, preserved by every successful step, survives the
whole fold, and the fold succeeds. -/
theorem foldlM_inv {α β ε : Type} {f : β → α → Except ε β} (I : List α → β → Prop)
    (hstep : ∀ x xs b, I (x :: xs) b → ∃ b', f b x = .ok b' ∧ I xs b') :
    ∀ (l : List α) (b : β), I l b → ∃ b', l.foldlM f b = .ok b' ∧ I [] b'
  | [], b, h => ⟨b, rfl, h⟩
  | x :: xs, b, h => by
    obtain ⟨b', hf, h'⟩ := hstep x xs b h
    simpa [hf] using foldlM_inv I hstep xs b' h'

/-- `el->next` for the cell `el` on the list `l`; `none` at the list head. -/
def next_in : List Addr → Addr → Option Addr
  | [], _ => none
  | a :: l, x => if a = x then l.head? else next_in l x

/-- The element after `x` in a list without repetitions. -/
theorem next_in_eq {l₁ l₂ : List Addr} {x : Addr} (h : (l₁ ++ x :: l₂).Nodup) :
    next_in (l₁ ++ x :: l₂) x = l₂.head? := by
  induction l₁ with
  | nil => simp [next_in]
  | cons a l₁ ih =>
    have hne : a ≠ x := fun hax => by simp_all
    simp [next_in, hne, ih (List.nodup_cons.mp h).2]

/-- `mark_children(rt, p, mark_func)`: `mark_func` on every child of `p`, in
order, threading the runtime. -/
def mark_children (G : GcGraph) (p : Addr)
    (mark_func : JSRuntime → Addr → Except GcError JSRuntime) (rt : JSRuntime) :
    Except GcError JSRuntime :=
  (G.children p).foldlM mark_func rt

end SlowJsGc

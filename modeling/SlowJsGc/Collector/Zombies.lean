import Mathlib.Logic.Relation
import SlowJsGc.Cell
import SlowJsGc.Collector.DrainOrder

/-!
# Zombies: `JS_IsLiveObject` while cycles are freed

`free_object` sets `free_mark` before it releases anything, and
`JS_IsLiveObject` reads it back ("zombie objects are visible in finalizers
when freeing cycles"). `gc_free_cycles` frees the condemned objects one at a
time, from the head of `tmp_obj_list`, so a class finalizer may meet the other
objects of its cycle. This file says what it sees of them.

The first loop of `gc_free_cycles` is a run of turns (`gc_free_cycles_turn`):
the loop returns the end of the run of turns from its start
(`gc_free_cycles_loop_reach`), and since a state has one successor the states
of that run are the states the loop passes through (`gc_free_cycles_state`).
When the loop frees an object `o` at the head of such a state,
`free_gc_object` passes through the heap `free_object` hands to `o`'s class
finalizer, with `o`'s `free_mark` set and the releases before the call made
(`free_gc_object_eq_at_finalizer`, `class_finalizer_call`). In every state of
the run the objects with `free_mark` set are the objects finalized so far
(`FcMarks`): a release in `REMOVE_CYCLES` finalizes no object, and a turn
finalizes its head alone.

`gc_free_cycles_zombies`: in a collection from a heap at rest without
zombies, the class finalizer of every condemned object is called, and at each
call the condemned objects that are not live are exactly `o` and those before
it on `tmp_obj_list`, while every survivor is live; so of two condemned
objects, exactly one finalizer sees the other as a zombie. Collections and
releases set the mark of an object exactly when they finalize it, so the
heaps they leave meet the hypothesis again (`SlowJsGc.Collector.Mutator`).
-/

set_option autoImplicit false

namespace SlowJsGc

open JSRuntime

/-- `JS_IsLiveObject`: `FALSE` for a value that is not an object, and for an
object whose `free_mark` is set. -/
def JS_IsLiveObject (rt : JSRuntime) : JSValue → Bool
  | .object p => !rt.free_mark p
  | _ => false

variable (G : GcGraph)

/-- The fuel `gc_free_cycles` gives its loops. -/
def gc_free_cycles_fuel (rt : JSRuntime) : Nat :=
  rt.gc_obj_list.length + rt.tmp_obj_list.length + rt.gc_zero_ref_count_list.length + 2

/-- One turn of the first loop of `gc_free_cycles`, with the fuel `m` of the
free paths: the head of `tmp_obj_list` is freed if it is an object or
bytecode, and moved to the tail of `gc_zero_ref_count_list` otherwise. -/
def gc_free_cycles_turn (m : Nat) (s s' : JSRuntime) : Prop :=
  ∃ p T, s.tmp_obj_list = p :: T ∧
    if (G.kind p).isValue then free_gc_object G m s p = .ok s'
    else s' = (s.list_del p).list_add_tail p .gc_zero_ref_count_list

/-- The objects marked by `free_object` among the cells `gc_scan` handed over
(`rt₀`) are the objects finalized. -/
def FcMarks (rt₀ s : JSRuntime) : Prop :=
  ∀ c ∈ rt₀.gc_obj_list ++ rt₀.tmp_obj_list, G.kind c = .JS_OBJECT →
    (s.free_mark c = true ↔ GcEvent.finalize c ∈ s.log)

/-! ## The loop as a run of turns -/

/-- **The loop is a run of turns** that ends with `tmp_obj_list` empty. -/
theorem gc_free_cycles_loop_reach {m : Nat} : ∀ (n : Nat) (s r : JSRuntime),
    gc_free_cycles_loop G m n s = .ok r →
      Relation.ReflTransGen (gc_free_cycles_turn G m) s r ∧ r.tmp_obj_list = []
  | 0, _, _, h => by simp [gc_free_cycles_loop] at h
  | n + 1, s, r, h => by
    rw [gc_free_cycles_loop] at h
    split at h
    · cases h; exact ⟨.refl, by assumption⟩
    · rename_i p T htmp
      split at h
      · cases h₁ : free_gc_object G m s p with
        | error e => rw [h₁] at h; cases h
        | ok s₁ =>
          rw [h₁, except_ok_bind] at h
          have ht : gc_free_cycles_turn G m s s₁ := ⟨p, T, htmp, by simp [*]⟩
          exact (gc_free_cycles_loop_reach n s₁ r h).imp_left (.head ht)
      · have ht : gc_free_cycles_turn G m s ((s.list_del p).list_add_tail p .gc_zero_ref_count_list) :=
          ⟨p, T, htmp, by simp [*]⟩
        exact (gc_free_cycles_loop_reach n _ r h).imp_left (.head ht)

theorem gc_free_cycles_turn_det {m : Nat} {s s₁ s₂ : JSRuntime}
    (h₁ : gc_free_cycles_turn G m s s₁) (h₂ : gc_free_cycles_turn G m s s₂) : s₁ = s₂ := by
  obtain ⟨p, T, htmp, h₁⟩ := h₁
  obtain ⟨p', T', htmp', h₂⟩ := h₂
  obtain ⟨rfl, rfl⟩ := List.cons.inj (htmp.symm.trans htmp')
  split at h₁
  · rw [if_pos ‹_›] at h₂; exact Except.ok.inj (h₁.symm.trans h₂)
  · rw [if_neg ‹_›] at h₂; exact h₁.trans h₂.symm

theorem gc_free_cycles_turn_rightUnique {m : Nat} :
    Relator.RightUnique (gc_free_cycles_turn G m) := fun _ _ _ => gc_free_cycles_turn_det G

/-! ## The class finalizer call -/

/-- The heap `free_object` hands to the class finalizer of the object `o`
when `free_gc_object` frees it from `s`, its free path having the fuel `n`:
`o`'s `free_mark` is set, its free path started, and the releases before the
call made. Those of the slots, the shape and the weak records come first in
`G.released o`, the finalizer's own last (`JSHeap.free_object`); the call may
come after any prefix `k` of them. -/
def free_object_at_finalizer (n : Nat) (s : JSRuntime) (o : Addr) (k : Nat) :
    Except GcError JSRuntime :=
  ((G.released o).take k).foldlM (free_gc_ref G n) ((s.set_free_mark o).finalize o)

/-- The states the first loop of `gc_free_cycles` passes through on `rt`: the
loop, started as `gc_free_cycles` starts it, returns `r`, and `s` lies on the
run of turns from its start to `r`. -/
def gc_free_cycles_state (rt s : JSRuntime) : Prop :=
  ∃ r, gc_free_cycles_loop G (gc_free_cycles_fuel rt) (gc_free_cycles_fuel rt)
      (rt.set_phase .REMOVE_CYCLES) = .ok r ∧
    Relation.ReflTransGen (gc_free_cycles_turn G (gc_free_cycles_fuel rt))
      (rt.set_phase .REMOVE_CYCLES) s ∧
    Relation.ReflTransGen (gc_free_cycles_turn G (gc_free_cycles_fuel rt)) s r

/-- The call of `o`'s class finalizer in `gc_free_cycles` on `rt`, after the
first `k` releases of its free path: the loop comes to a state `s` with the
object `o` at the head of `tmp_obj_list`, and the `free_gc_object` that frees
it there hands the finalizer the heap `s'`. -/
def class_finalizer_call (rt : JSRuntime) (o : Addr) (k : Nat) (s' : JSRuntime) : Prop :=
  ∃ s T, gc_free_cycles_state G rt s ∧ s.tmp_obj_list = o :: T ∧ G.kind o = .JS_OBJECT ∧
    free_object_at_finalizer G (gc_free_cycles_fuel rt - 1) s o k = .ok s'

/-- **`free_gc_object` on an object passes through the finalizer's heap**:
after any prefix of its releases it goes on with the rest. -/
theorem free_gc_object_eq_at_finalizer {m : Nat} (hm : 0 < m) {s : JSRuntime} {o : Addr}
    (ho : G.kind o = .JS_OBJECT) (k : Nat) :
    free_gc_object G m s o = (do
      let s ← free_object_at_finalizer G (m - 1) s o k
      let s ← ((G.released o).drop k).foldlM (free_gc_ref G (m - 1)) s
      let s := s.list_del o
      if s.gc_phase = .REMOVE_CYCLES ∧ s.ref_count o ≠ 0 then
        pure (s.list_add_tail o .gc_zero_ref_count_list)
      else pure (s.js_free_rt o)) := by
  obtain ⟨n, rfl⟩ := Nat.exists_eq_succ_of_ne_zero hm.ne'
  have hsplit : ∀ x, (G.released o).foldlM (free_gc_ref G n) x =
      ((G.released o).take k).foldlM (free_gc_ref G n) x >>=
        ((G.released o).drop k).foldlM (free_gc_ref G n) := fun x => by
    rw [← List.foldlM_append, List.take_append_drop]
  rw [free_gc_object, if_pos (by simp [ho, JSGCObjectTypeEnum.isValue]), if_pos ho]
  simp only [hsplit, free_object_at_finalizer, bind_assoc, Nat.succ_sub_one]

/-- Every state a run of turns from the start of the loop reaches is one the
loop passes through: the state it returns has no turn. -/
theorem gc_free_cycles_state_of_reach {rt r s : JSRuntime}
    (hr : gc_free_cycles_loop G (gc_free_cycles_fuel rt) (gc_free_cycles_fuel rt)
      (rt.set_phase .REMOVE_CYCLES) = .ok r)
    (hs : Relation.ReflTransGen (gc_free_cycles_turn G (gc_free_cycles_fuel rt))
      (rt.set_phase .REMOVE_CYCLES) s) : gc_free_cycles_state G rt s := by
  obtain ⟨hrun, hend⟩ := gc_free_cycles_loop_reach G _ _ _ hr
  refine ⟨r, hr, hs, ?_⟩
  rcases hs.total_of_right_unique (gc_free_cycles_turn_rightUnique G) hrun with h | h
  · exact h
  rcases h.cases_head with rfl | ⟨c, ⟨p, T, htmp, -⟩, -⟩
  · exact .refl
  · simp [hend] at htmp

/-- **Every object at the head of a state of the run gets its finalizer
call**, after each prefix of its releases: the loop frees it there, and
`free_gc_object` passes through the finalizer's heap. -/
theorem class_finalizer_call_of_head {rt s : JSRuntime} {o : Addr} {T : List Addr}
    (hs : gc_free_cycles_state G rt s) (htmp : s.tmp_obj_list = o :: T)
    (ho : G.kind o = .JS_OBJECT) (k : Nat) : ∃ s', class_finalizer_call G rt o k s' := by
  have ⟨r, hr, _, hsr⟩ := hs
  have hend := (gc_free_cycles_loop_reach G _ _ _ hr).2
  rcases hsr.cases_head with rfl | ⟨c, ⟨p, T', htmp', hturn⟩, -⟩
  · simp [hend] at htmp
  obtain rfl := (List.cons.inj (htmp'.symm.trans htmp)).1
  rw [if_pos (by simp [ho, JSGCObjectTypeEnum.isValue]),
    free_gc_object_eq_at_finalizer G (by simp [gc_free_cycles_fuel]) ho k] at hturn
  obtain ⟨s', hs', -⟩ := except_bind_eq_ok hturn
  exact ⟨s', s, T, hs, htmp, ho, hs'⟩

/-! ## What a turn does to the zombies -/

/-- **`free_gc_object` in a collection or a drain** sets the `free_mark` of an
object and of nothing else, and finalizes no object or bytecode but its own:
its releases finalize only cells of other kinds. -/
theorem free_gc_object_zombie {n : Nat} {rt rt' : JSRuntime} {p : Addr}
    (hph : rt.gc_phase ≠ .NONE)
    (hnd : (rt.gc_obj_list ++ rt.tmp_obj_list ++ rt.gc_zero_ref_count_list).Nodup)
    (h : free_gc_object G (n + 1) rt p = .ok rt') :
    rt'.free_mark = (if G.kind p = .JS_OBJECT then rt.set_free_mark p else rt).free_mark ∧
      ∀ c, (G.kind c).isValue →
        (GcEvent.finalize c ∈ rt'.log ↔ GcEvent.finalize c ∈ rt.log ∨ c = p) := by
  set rt₁ := (if G.kind p = .JS_OBJECT then rt.set_free_mark p else rt).finalize p
  obtain ⟨-, -, hlog₁, hph₁, hgc₁, htmp₁, hz₁⟩ := free_gc_object_start G rt p rt₁ rfl
  by_cases hv : (G.kind p).isValue
  swap
  · simp [free_gc_object, hv] at h
  simp only [free_gc_object, hv, if_true] at h
  cases h₂ : (G.released p).foldlM (free_gc_ref G n) rt₁ with
  | error e => rw [h₂] at h; cases h
  | ok rt₂ =>
  rw [h₂, except_ok_bind] at h
  have hR₂ := foldlM_released_of_ok G (free_gc_ref_released G n) _ _ _ (hph₁ ▸ hph)
    (by rw [hgc₁, htmp₁, hz₁]; exact hnd) h₂
  -- unlinking, then parking or returning the memory, touches neither
  have hlast : ∀ c, rt'.free_mark c = rt₂.free_mark c ∧
      (GcEvent.finalize c ∈ rt'.log ↔ GcEvent.finalize c ∈ rt₂.log) := fun c => by
    split at h <;> cases h <;> simp
  refine ⟨funext fun c => ?_, fun c hc => ?_⟩
  · rw [(hlast c).1, hR₂.free_mark]; simp [rt₁]
  have hF : ¬ freed_nv G rt₁ rt₂ c := fun hF => by simp [hF.1] at hc
  rw [(hlast c).2, hR₂.mem_finalize, hlog₁]
  simp [hF, eq_comm]

variable {G}

/-- **One turn** sets the `free_mark` of its head if that is an object, and
finalizes no object or bytecode but the head. -/
theorem gc_free_cycles_turn_zombie {m : Nat} {s s' : JSRuntime} {p : Addr} {T : List Addr}
    (hph : s.gc_phase ≠ .NONE)
    (hnd : (s.gc_obj_list ++ s.tmp_obj_list ++ s.gc_zero_ref_count_list).Nodup)
    (ht : gc_free_cycles_turn G (m + 1) s s') (htmp : s.tmp_obj_list = p :: T) :
    s'.free_mark = (if G.kind p = .JS_OBJECT then s.set_free_mark p else s).free_mark ∧
      ∀ c, (G.kind c).isValue →
        (GcEvent.finalize c ∈ s'.log ↔ GcEvent.finalize c ∈ s.log ∨ c = p) := by
  obtain ⟨p', T', htmp', hs'⟩ := ht
  obtain ⟨rfl, rfl⟩ := List.cons.inj (htmp'.symm.trans htmp)
  split at hs'
  · exact free_gc_object_zombie G hph hnd hs'
  · rename_i hv
    have hpo : G.kind p' ≠ .JS_OBJECT := fun h => hv (by simp [h, JSGCObjectTypeEnum.isValue])
    subst hs'
    refine ⟨funext fun c => by simp [hpo], fun c hc => ?_⟩
    have hcp : c ≠ p' := by rintro rfl; exact hv hc
    simp [hcp]

section loop

variable {ext : Addr → Nat} {L : List Addr} {rt₀ : JSRuntime} {m : Nat}

/-- The marks follow every turn. -/
theorem FcMarks.turn {s s' : JSRuntime} (hph : s.gc_phase ≠ .NONE)
    (hnd : (s.gc_obj_list ++ s.tmp_obj_list ++ s.gc_zero_ref_count_list).Nodup)
    (hM : FcMarks G rt₀ s) (ht : gc_free_cycles_turn G (m + 1) s s') : FcMarks G rt₀ s' := by
  have ⟨p, T, htmp, _⟩ := ht
  obtain ⟨hfm, hfin⟩ := gc_free_cycles_turn_zombie hph hnd ht htmp
  intro c hc hco
  rw [hfm, hfin c (by simp [hco, JSGCObjectTypeEnum.isValue]), ← hM c hc hco]
  by_cases hcp : c = p
  · subst hcp; simp [hco]
  · split <;> simp [Function.update_noteq hcp, hcp]

/-- A turn from a state of the invariant: the prefix grows past the head. -/
theorem FcInv.step (hX : FcCtx G ext L rt₀) (hm : L.length < m) {P R T : List Addr}
    {s : JSRuntime} {p : Addr} (hI : FcInv G ext L rt₀ P R s) (htmp : s.tmp_obj_list = p :: T) :
    ∃ R₁ R₂ s', R = R₁ ++ p :: R₂ ∧ gc_free_cycles_turn G (m + 1) s s' ∧
      FcInv G ext L rt₀ (P ++ (R₁ ++ [p])) R₂ s' := by
  by_cases hv : (G.kind p).isValue
  · obtain ⟨R₁, R₂, s', hR, hfree, hI'⟩ := hI.step_value hX htmp hv hm
    exact ⟨R₁, R₂, s', hR, ⟨p, T, htmp, by rw [if_pos hv]; exact hfree⟩, hI'⟩
  · obtain ⟨R₁, R₂, hR, hI'⟩ := hI.step_nv hX htmp (by simpa using hv)
    exact ⟨R₁, R₂, _, hR, ⟨p, T, htmp, by rw [if_neg hv]⟩, hI'⟩

/-- **Every state of the run** keeps the invariant of the loop and the marks. -/
theorem FcInv.reach (hX : FcCtx G ext L rt₀) (hm : L.length < m) {P R : List Addr}
    {s s' : JSRuntime} (hI : FcInv G ext L rt₀ P R s) (hM : FcMarks G rt₀ s)
    (hs : Relation.ReflTransGen (gc_free_cycles_turn G (m + 1)) s s') :
    ∃ P' R', FcInv G ext L rt₀ P' R' s' ∧ FcMarks G rt₀ s' := by
  induction hs with
  | refl => exact ⟨P, R, hI, hM⟩
  | tail _ ht ih =>
    obtain ⟨P, R, hI, hM⟩ := ih
    have ⟨p, T, htmp, _⟩ := ht
    obtain ⟨R₁, R₂, s'', -, ht', hI'⟩ := hI.step hX hm htmp
    obtain rfl := gc_free_cycles_turn_det G ht ht'
    exact ⟨_, _, hI', hM.turn (by rw [hI.gc_phase]; decide) hI.rel.nodup ht⟩

/-- **Every object or bytecode still to be taken comes to the head** in a
later state of the run. -/
theorem FcInv.reaches_head (hX : FcCtx G ext L rt₀) (hm : L.length < m) {o : Addr}
    (ho : (G.kind o).isValue) : ∀ (n : Nat) (P R : List Addr) (s : JSRuntime), R.length < n →
      FcInv G ext L rt₀ P R s → o ∈ R → ∃ s' T, Relation.ReflTransGen
        (gc_free_cycles_turn G (m + 1)) s s' ∧ s'.tmp_obj_list = o :: T
  | 0, _, _, _, hn, _, _ => absurd hn (Nat.not_lt_zero _)
  | n + 1, P, R, s, hn, hI, hoR => by
    have hnd : (P ++ R).Nodup := hI.split ▸ (List.nodup_append.mp hX.nodup).2.1
    have hoD : o ∈ rt₀.tmp_obj_list := hI.split ▸ List.mem_append_right P hoR
    -- `o` has not been finalized, so it is still on the list
    have hnf : GcEvent.finalize o ∉ s.log := fun h =>
      List.disjoint_of_nodup_append hnd ((hI.value_fin o hoD ho).mp h) hoR
    have hos : o ∈ s.tmp_obj_list := by rw [hI.tmp_obj_list]; simp [hoR, hnf]
    obtain ⟨p, T, htmp⟩ := List.exists_cons_of_ne_nil (List.ne_nil_of_mem hos)
    by_cases hop : o = p
    · exact ⟨s, T, .refl, hop ▸ htmp⟩
    obtain ⟨R₁, R₂, s', hR, ht, hI'⟩ := hI.step hX hm htmp
    -- a turn finalizes its head alone, so `o` is past the head
    have hoR₂ : o ∈ R₂ := by
      rw [hR] at hoR
      rcases List.mem_append.mp hoR with h | h
      · have hf := (hI'.value_fin o hoD ho).mpr (by simp [h])
        have := ((gc_free_cycles_turn_zombie (by rw [hI.gc_phase]; decide) hI.rel.nodup ht
          htmp).2 o ho).mp hf
        exact (this.resolve_left hnf |> hop).elim
      · exact (List.mem_cons.mp h).resolve_left hop
    obtain ⟨s'', T', h, h'⟩ := FcInv.reaches_head hX hm ho n _ R₂ s'
      (by simp [hR] at hn; omega) hI' hoR₂
    exact ⟨s'', T', .head ht h, h'⟩

/-- **At a class finalizer call** from a state of the run with the object `o`
at the head: the condemned objects that are not live are `o` and those before
it on the condemned list, and every survivor is live. -/
theorem FcInv.class_finalizer (hX : FcCtx G ext L rt₀) {P R T : List Addr} {s s' : JSRuntime}
    {o : Addr} {n k : Nat} (hI : FcInv G ext L rt₀ P R s) (hM : FcMarks G rt₀ s)
    (htmp : s.tmp_obj_list = o :: T)
    (hs' : free_object_at_finalizer G n s o k = .ok s') :
    ∃ A B, rt₀.tmp_obj_list = A ++ o :: B ∧
      (∀ q ∈ rt₀.tmp_obj_list, G.kind q = .JS_OBJECT →
        (JS_IsLiveObject s' (.object q) = false ↔ q = o ∨ q ∈ A)) ∧
      ∀ q ∈ rt₀.gc_obj_list, G.kind q = .JS_OBJECT → JS_IsLiveObject s' (.object q) = true := by
  obtain ⟨R₁, R₂, -, hD, hR₁, -, -, -, -, -⟩ := hI.head hX htmp
  have hfm : s'.free_mark = Function.update s.free_mark o true := by
    have := foldlM_released_of_ok G (free_gc_ref_released G n) _ _ _
      (by simp [hI.gc_phase]) (by simpa using hI.rel.nodup) hs'
    simpa using this.free_mark
  have hoD : o ∈ rt₀.tmp_obj_list := hD ▸ by simp
  refine ⟨P ++ R₁, R₂, by rw [← hD, List.append_assoc], fun q hq hqo => ?_, fun q hq hqo => ?_⟩
  · have hqR₁ : q ∉ R₁ := fun h => by
      simpa [hqo, JSGCObjectTypeEnum.isValue] using (hR₁ q h).2.1
    by_cases hqo' : q = o
    · simp [JS_IsLiveObject, hfm, hqo']
    · rw [JS_IsLiveObject, hfm, Function.update_noteq hqo', Bool.not_eq_false',
        hM q (List.mem_append_right _ hq) hqo,
        hI.value_fin q hq (by simp [hqo, JSGCObjectTypeEnum.isValue])]
      simp [hqo', hqR₁]
  · have hqo' : q ≠ o := fun h => List.disjoint_of_nodup_append hX.nodup (h ▸ hq) hoD
    have hqL : q ∈ L := hX.perm.subset (List.mem_append_left _ hq)
    have hnf : GcEvent.finalize q ∉ s.log := fun h =>
      hI.rel.fin q hqL h ((hX.mem_gc_obj_list q).mp hq)
    have := (hM q (List.mem_append_left _ hq) hqo).not.mpr hnf
    simpa [JS_IsLiveObject, hfm, Function.update_noteq hqo'] using this

end loop

/-! ## In a collection -/

/-- The fuel of `gc_free_cycles` on what `gc_scan` hands over exceeds the
number of listed cells. -/
theorem gc_free_cycles_fuel_eq {ext : Addr → Nat} {L : List Addr} {rt₀ : JSRuntime}
    (hX : FcCtx G ext L rt₀) (hz : rt₀.gc_zero_ref_count_list = []) :
    gc_free_cycles_fuel rt₀ = (L.length + 1) + 1 := by
  have := hX.perm.length_eq; simp [gc_free_cycles_fuel, hz] at this ⊢; omega

/-- Nothing is marked when the first loop starts, if no listed object was. -/
theorem FcMarks.start {ext : Addr → Nat} {rt rt₀ : JSRuntime}
    (hX : FcCtx G ext rt.gc_obj_list rt₀) (hS : ScanPost G rt.gc_obj_list ext rt rt₀)
    (hlive : ∀ c ∈ rt.gc_obj_list, G.kind c = .JS_OBJECT → JS_IsLiveObject rt (.object c) = true) :
    FcMarks G rt₀ (rt₀.set_phase .REMOVE_CYCLES) := fun c hc hco => by
  have hcL : c ∈ rt.gc_obj_list := hX.perm.subset hc
  have := hlive c hcL hco
  simp only [JS_IsLiveObject, Bool.not_eq_true'] at this
  simp [hS.free_mark, this, hX.live c hcL]

/-- Of two distinct cells of a list without repetitions, exactly one comes
before the other. -/
theorem mem_prefix_iff_not_mem_prefix {A₁ B₁ A₂ B₂ : List Addr} {x y : Addr}
    (hnd : (A₁ ++ x :: B₁).Nodup) (hxy : x ≠ y) (h : A₁ ++ x :: B₁ = A₂ ++ y :: B₂) :
    y ∈ A₁ ↔ x ∉ A₂ := by
  have hx₁ : x ∉ A₁ := fun hx => (List.nodup_append.mp hnd).2.2 hx (List.mem_cons_self x B₁)
  have hy₂ : y ∉ A₂ := fun hy =>
    (List.nodup_append.mp (h ▸ hnd)).2.2 hy (List.mem_cons_self y B₂)
  -- both sides compare the positions of `x` and `y`
  have hidx : ∀ {A B : List Addr} {a b : Addr}, a ∉ A → b ∈ A ++ a :: B → b ≠ a →
      (b ∈ A ↔ (A ++ a :: B).indexOf b < (A ++ a :: B).indexOf a) := by
    intro A B a b ha hb hba
    rw [List.indexOf_append_of_not_mem ha, List.indexOf_cons_self]
    by_cases hbA : b ∈ A
    · simp [hbA, List.indexOf_append_of_mem hbA, List.indexOf_lt_length.mpr hbA]
    · simp [hbA, List.indexOf_append_of_not_mem hbA, List.indexOf_cons_ne _ (Ne.symm hba)]
  have hxl : x ∈ A₁ ++ x :: B₁ := by simp
  have hyl : y ∈ A₁ ++ x :: B₁ := by rw [h]; simp
  have hne := (List.indexOf_inj hxl hyl).not.mpr hxy
  rw [hidx hx₁ hyl (Ne.symm hxy), hidx (b := x) hy₂ (h ▸ hxl) hxy, ← h]
  omega

/-- **Zombies in a collection.** From a heap at rest in which every listed
cell that is not an object or bytecode is referenced, every free path releases
what `mark_children` enumerates, and no listed object is a zombie: after
`gc_decref` and `gc_scan`, which leave the condemned cells on `tmp_obj_list`
and the survivors on `gc_obj_list`, the first loop of `gc_free_cycles` calls
the class finalizer of every condemned object, whichever prefix of its
releases comes before the call. At every such call of `o`'s finalizer a
condemned object is not live exactly when it is `o` or comes before `o` on
`tmp_obj_list`, and every surviving object is live; so of two distinct
condemned objects, exactly one finalizer sees the other as not live. -/
theorem gc_free_cycles_zombies (hrel : G.ReleasesChildren) {ext : Addr → Nat} {rt : JSRuntime}
    (h : AtRest G ext rt)
    (hnv : ∀ c ∈ rt.gc_obj_list, (G.kind c).isValue = false → rt.ref_count c ≠ 0)
    (hlive : ∀ c ∈ rt.gc_obj_list, G.kind c = .JS_OBJECT → JS_IsLiveObject rt (.object c) = true) :
    ∃ rt₁ rt₂, gc_decref G rt = .ok rt₁ ∧ gc_scan G rt₁ = .ok rt₂ ∧
      (∀ c, c ∈ rt₂.tmp_obj_list ↔ c ∈ rt.gc_obj_list ∧ ¬ G.Reach rt.gc_obj_list ext c) ∧
      (∀ c, c ∈ rt₂.gc_obj_list ↔ G.Reach rt.gc_obj_list ext c) ∧
      (∀ o ∈ rt₂.tmp_obj_list, G.kind o = .JS_OBJECT → ∀ k, ∃ s,
        class_finalizer_call G rt₂ o k s) ∧
      (∀ o k s, class_finalizer_call G rt₂ o k s → ∃ A B, rt₂.tmp_obj_list = A ++ o :: B ∧
        (∀ q ∈ rt₂.tmp_obj_list, G.kind q = .JS_OBJECT →
          (JS_IsLiveObject s (.object q) = false ↔ q = o ∨ q ∈ A)) ∧
        ∀ q ∈ rt₂.gc_obj_list, G.kind q = .JS_OBJECT → JS_IsLiveObject s (.object q) = true) ∧
      ∀ o₁ o₂ k₁ k₂ s₁ s₂, o₁ ≠ o₂ → class_finalizer_call G rt₂ o₁ k₁ s₁ →
        class_finalizer_call G rt₂ o₂ k₂ s₂ →
        (JS_IsLiveObject s₁ (.object o₂) = false ↔ JS_IsLiveObject s₂ (.object o₁) = true) := by
  obtain ⟨rt₁, rt₂, h₁, h₂, hX, hS, -, hz₂, hnv₂⟩ := h.decref_scan hrel hnv
  have hfuel := gc_free_cycles_fuel_eq hX hz₂
  have hm : rt.gc_obj_list.length < rt.gc_obj_list.length + 1 := Nat.lt_succ_self _
  have hI₀ := FcInv.start hX hz₂ hS.ref_count hnv₂
  have hM₀ := FcMarks.start hX hS hlive
  -- the first loop of `gc_free_cycles` returns
  obtain ⟨-, -, r, hr, -⟩ := gc_free_cycles_loop_spec hX hm (gc_free_cycles_fuel rt₂) [] _ _
    (by have := hX.perm.length_eq; simp [hfuel] at this ⊢; omega) hI₀
  rw [← hfuel] at hr
  -- what holds at each call
  have hcall : ∀ o k s, class_finalizer_call G rt₂ o k s → ∃ A B,
      rt₂.tmp_obj_list = A ++ o :: B ∧
      (∀ q ∈ rt₂.tmp_obj_list, G.kind q = .JS_OBJECT →
        (JS_IsLiveObject s (.object q) = false ↔ q = o ∨ q ∈ A)) ∧
      ∀ q ∈ rt₂.gc_obj_list, G.kind q = .JS_OBJECT → JS_IsLiveObject s (.object q) = true := by
    rintro o k s' ⟨s, T, ⟨-, -, hs, -⟩, htmp, -, hs'⟩
    rw [hfuel] at hs hs'
    obtain ⟨P, R, hI, hM⟩ := hI₀.reach hX hm hM₀ hs
    exact hI.class_finalizer hX hM htmp hs'
  refine ⟨rt₁, rt₂, h₁, h₂, hX.mem_tmp_obj_list, hS.mem_gc_obj_list, fun o ho hoo k => ?_, hcall,
    fun o₁ o₂ k₁ k₂ s₁ s₂ hne hc₁ hc₂ => ?_⟩
  · obtain ⟨s, T, hs, htmp⟩ := FcInv.reaches_head hX hm (by simp [hoo, JSGCObjectTypeEnum.isValue])
      _ [] _ _ (Nat.lt_succ_self _) hI₀ ho
    rw [← hfuel] at hs
    exact class_finalizer_call_of_head G (gc_free_cycles_state_of_reach G hr hs) htmp hoo k
  · obtain ⟨A₁, B₁, hl₁, hq₁, -⟩ := hcall o₁ k₁ s₁ hc₁
    obtain ⟨A₂, B₂, hl₂, hq₂, -⟩ := hcall o₂ k₂ s₂ hc₂
    obtain ⟨-, -, -, -, ho₁, -⟩ := hc₁
    obtain ⟨-, -, -, -, ho₂, -⟩ := hc₂
    have hnd : (A₁ ++ o₁ :: B₁).Nodup := hl₁ ▸ (List.nodup_append.mp hX.nodup).2.1
    rw [hq₁ o₂ (hl₂ ▸ by simp) ho₂, ← Bool.not_eq_false, hq₂ o₁ (hl₁ ▸ by simp) ho₁]
    simpa [Ne.symm hne, hne] using mem_prefix_iff_not_mem_prefix hnd hne (hl₁.symm.trans hl₂)

/-- The cycle `0 → 1 → 2 → 0` of `JS_RunGC_cycle_order`, at rest and without
zombies: every object of it gets its finalizer call. -/
theorem gc_free_cycles_zombies_cycle :
    cycleGraph.ReleasesChildren ∧ AtRest cycleGraph (fun _ => 0) cycleHeap ∧
      (∀ c ∈ cycleHeap.gc_obj_list, (cycleGraph.kind c).isValue = false →
        cycleHeap.ref_count c ≠ 0) ∧
      (∀ c ∈ cycleHeap.gc_obj_list, cycleGraph.kind c = .JS_OBJECT →
        JS_IsLiveObject cycleHeap (.object c) = true) ∧
      ∃ rt₁ rt₂, gc_decref cycleGraph cycleHeap = .ok rt₁ ∧ gc_scan cycleGraph rt₁ = .ok rt₂ ∧
        ∀ o ∈ rt₂.tmp_obj_list, ∀ k, ∃ s, class_finalizer_call cycleGraph rt₂ o k s :=
  have hrel : cycleGraph.ReleasesChildren := fun _ => .refl _
  have hat : AtRest cycleGraph (fun _ => 0) cycleHeap :=
    ⟨⟨by decide, by decide, by decide, by decide⟩, rfl, rfl, rfl, by simp [cycleHeap]⟩
  have hnv : ∀ c ∈ cycleHeap.gc_obj_list, (cycleGraph.kind c).isValue = false →
      cycleHeap.ref_count c ≠ 0 := fun _ _ h => by simp [cycleGraph, JSGCObjectTypeEnum.isValue] at h
  have hlive : ∀ c ∈ cycleHeap.gc_obj_list, cycleGraph.kind c = .JS_OBJECT →
      JS_IsLiveObject cycleHeap (.object c) = true := fun _ _ _ => rfl
  ⟨hrel, hat, hnv, hlive, (gc_free_cycles_zombies hrel hat hnv hlive).imp
    fun _ ⟨rt₂, h₁, h₂, _, _, hcall, _⟩ => ⟨rt₂, h₁, h₂, fun o ho => hcall o ho rfl⟩⟩

/-! ## What the end of `gc_free_cycles` keeps -/

variable (G)

/-- The second loop of `gc_free_cycles` touches no `free_mark` and finalizes
nothing: it only returns memory. -/
theorem foldlM_gc_free_cycles_free_marks : ∀ (l : List Addr) (rt rt' : JSRuntime),
    l.foldlM (gc_free_cycles_free G) rt = .ok rt' → rt'.free_mark = rt.free_mark ∧
      ∀ c, GcEvent.finalize c ∈ rt'.log ↔ GcEvent.finalize c ∈ rt.log
  | [], _, _, h => by cases h; exact ⟨rfl, fun _ => Iff.rfl⟩
  | p :: l, rt, rt', h => by
    simp only [List.foldlM_cons, gc_free_cycles_free] at h
    split at h
    · rw [except_pure_eq_ok, except_ok_bind] at h
      obtain ⟨hfm, hfin⟩ := foldlM_gc_free_cycles_free_marks l _ rt' h
      exact ⟨hfm, fun c => (hfin c).trans (by simp)⟩
    · cases h

/-- `gc_free_cycles` leaves the `free_mark`s and the finalized cells where a
run of turns of its first loop leaves them. -/
theorem gc_free_cycles_marks {rt rt' : JSRuntime} (h : gc_free_cycles G rt = .ok rt') :
    ∃ r, Relation.ReflTransGen (gc_free_cycles_turn G (gc_free_cycles_fuel rt))
      (rt.set_phase .REMOVE_CYCLES) r ∧ rt'.free_mark = r.free_mark ∧
      ∀ c, GcEvent.finalize c ∈ rt'.log ↔ GcEvent.finalize c ∈ r.log := by
  rw [gc_free_cycles, ← gc_free_cycles_fuel] at h
  obtain ⟨r, h₁, h⟩ := except_bind_eq_ok h
  obtain ⟨r₂, h₂, h⟩ := except_bind_eq_ok h
  cases h
  obtain ⟨hfm, hfin⟩ := foldlM_gc_free_cycles_free_marks G _ _ _ h₂
  exact ⟨r, (gc_free_cycles_loop_reach G _ _ _ h₁).1, hfm, hfin⟩

end SlowJsGc

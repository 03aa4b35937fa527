import Mathlib.Logic.Relation
import SlowJsGc.Collector.Drain

/-!
# The order of the drain

`free_zero_refcount` frees the head of `gc_zero_ref_count_list` until the list
is empty, and `__JS_FreeValueRT` puts an object or bytecode whose count
reaches zero at the head (`list_add`), so the list is a stack. While the head
`x` is freed, every cell it brings to zero lands above the cells that were
under it, and those are not touched until everything above them has gone.

`free_zero_refcount_lifo` says so for every turn of every drain that runs to
its end: from the turn that frees `x`, the loop reaches a state whose list is
exactly the cells that were under `x`; by then `x` and every cell whose count
reached zero on the way have been finalized, and none of the cells under `x`
has been.

Nothing here uses the accounting of `RelInv`. `free_gc_ref_released` derives
the `Released` effect of any release that succeeds while a collection or a
drain runs from the code alone, so the theorem covers every drain, not only
those over a heap at rest. The states a drain passes through are `Draining`: phase `DECREF`, no
cell linked twice, count zero on the whole list.
-/

set_option autoImplicit false

namespace SlowJsGc

open JSRuntime

variable {G : GcGraph}

/-! ## Releases that succeed -/

/-- A run of releases keeps the three lists free of repetitions: they shrink,
and the cells queued in front were on none of what is left. -/
theorem Released.nodup {rt rt' : JSRuntime} (h : Released G rt rt')
    (hnd : (rt.gc_obj_list ++ rt.tmp_obj_list ++ rt.gc_zero_ref_count_list).Nodup) :
    (rt'.gc_obj_list ++ rt'.tmp_obj_list ++ rt'.gc_zero_ref_count_list).Nodup := by
  obtain ⟨Z, hZ, hZnd, hZmem⟩ := h.zero
  rw [h.gc_obj_list, h.tmp_obj_list, hZ, ← List.append_assoc]
  have hf := hnd.filter (kept G rt rt')
  simp only [List.filter_append] at hf
  refine (List.perm_append_comm.append_right _).nodup_iff.mp ?_
  rw [List.append_assoc, List.nodup_append]
  refine ⟨hZnd, by simpa [List.append_assoc] using hf, fun d hd hd' => ?_⟩
  have hk : kept G rt rt' d = false := by simp [kept, (hZmem d).mp hd]
  simp only [List.mem_append, List.mem_filter, hk] at hd'
  simp at hd'

section released

variable (G)

/-- The fold over a freed cell's references, from a spec of each release that
succeeds. -/
theorem foldlM_released_of_ok {f : JSRuntime → Addr → Except GcError JSRuntime}
    (hf : ∀ rt c rt', rt.gc_phase ≠ .NONE →
      (rt.gc_obj_list ++ rt.tmp_obj_list ++ rt.gc_zero_ref_count_list).Nodup →
      f rt c = .ok rt' → Released G rt rt') :
    ∀ (l : List Addr) (rt rt' : JSRuntime), rt.gc_phase ≠ .NONE →
      (rt.gc_obj_list ++ rt.tmp_obj_list ++ rt.gc_zero_ref_count_list).Nodup →
      l.foldlM f rt = .ok rt' → Released G rt rt'
  | [], rt, _, _, _, h => by cases h; exact .refl rt
  | c :: l, rt, rt', hph, hnd, h => by
    rw [List.foldlM_cons] at h
    cases h₁ : f rt c with
    | error e => rw [h₁] at h; cases h
    | ok rt₁ =>
      rw [h₁, except_ok_bind] at h
      have hR₁ := hf rt c rt₁ hph hnd h₁
      exact hR₁.trans
        (foldlM_released_of_ok hf l rt₁ rt' (hR₁.gc_phase ▸ hph) (hR₁.nodup hnd) h)

/-- **A release that succeeds in a phase other than `NONE`** is a `Released`
step: whatever the heap, by the code alone. -/
theorem free_gc_ref_released : ∀ (n : Nat) (rt : JSRuntime) (c : Addr) (rt' : JSRuntime),
    rt.gc_phase ≠ .NONE →
    (rt.gc_obj_list ++ rt.tmp_obj_list ++ rt.gc_zero_ref_count_list).Nodup →
    free_gc_ref G n rt c = .ok rt' → Released G rt rt'
  | 0, _, _, _, _, _, h => by simp [free_gc_ref] at h
  | n + 1, rt, c, rt', hph, hnd, h => by
    by_cases hc0 : rt.ref_count c = 0
    · simp [free_gc_ref, hc0] at h
    by_cases hpos : rt.ref_count c - 1 ≠ 0
    · simp only [free_gc_ref, hc0, hpos, if_false, set_ref_count_ref_count, Function.update_same,
        ne_eq, not_false_eq_true, if_true, except_pure_eq_ok, Except.ok.injEq] at h
      exact h ▸ released_dec hc0 (.inl hpos)
    rw [not_not] at hpos
    by_cases hv : (G.kind c).isValue
    · cases hp : rt.gc_phase with
      | NONE => exact absurd hp hph
      | DECREF =>
        simp only [free_gc_ref, hc0, hpos, hv, hp, if_false, if_true, set_ref_count_ref_count,
          Function.update_same, ne_eq, not_true_eq_false, list_add_zero_gc_phase, list_del_gc_phase,
          set_ref_count_gc_phase, reduceCtorEq, not_false_eq_true, except_pure_eq_ok,
          Except.ok.injEq] at h
        exact h ▸ released_push hnd (by omega) hv hp
      | REMOVE_CYCLES =>
        simp [free_gc_ref, hc0, hpos, hv, hp] at h
        rw [← h, ← hpos]
        exact released_dec hc0 (.inr ⟨hv, by simp [hp]⟩)
    · rw [Bool.not_eq_true] at hv
      simp only [free_gc_ref, hc0, hpos, hv, if_false, set_ref_count_ref_count, Function.update_same,
        ne_eq, not_true_eq_false, Bool.false_eq_true] at h
      cases h₃ : (G.released c).foldlM (free_gc_ref G n) ((rt.set_ref_count c 0).finalize c) with
      | error e => rw [h₃] at h; cases h
      | ok rt₃ =>
        rw [h₃, except_ok_bind, except_pure_eq_ok, Except.ok.injEq] at h
        exact h ▸ released_free_nv hnd hc0 hv (foldlM_released_of_ok G (free_gc_ref_released n)
          _ _ _ (by simpa using hph) (by simpa using hnd) h₃)

end released

/-! ## One turn -/

/-- What holds at every turn of a drain: the phase is `DECREF`, no cell is
linked twice, and every cell on `gc_zero_ref_count_list` has count zero. -/
structure Draining (rt : JSRuntime) : Prop where
  gc_phase : rt.gc_phase = .DECREF
  nodup : (rt.gc_obj_list ++ rt.tmp_obj_list ++ rt.gc_zero_ref_count_list).Nodup
  zero : ∀ z ∈ rt.gc_zero_ref_count_list, rt.ref_count z = 0

/-- One turn of the loop of `free_zero_refcount`, with the fuel it carries:
the head of the list has count zero and `free_gc_object` frees it. -/
def drain_turn (G : GcGraph) (a b : Nat × JSRuntime) : Prop :=
  ∃ p Z, a.2.gc_zero_ref_count_list = p :: Z ∧ a.2.ref_count p = 0 ∧ a.1 = b.1 + 1 ∧
    free_gc_object G b.1 a.2 p = .ok b.2

/-- The loop goes on from where a run of turns leaves it. -/
theorem drain_turns_loop {a b : Nat × JSRuntime} (h : Relation.ReflTransGen (drain_turn G) a b) :
    free_zero_refcount_loop G a.1 a.2 = free_zero_refcount_loop G b.1 b.2 := by
  induction h with
  | refl => rfl
  | tail _ hbc ih =>
    obtain ⟨p, Z, hz, hp0, hn, hfree⟩ := hbc
    rw [ih, hn, free_zero_refcount_loop, hz]
    simp [hp0, hfree]

/-- **One turn.** Freeing the head `p` of the list `p :: Z` finalizes `p`,
puts the cells it brings to zero on top of `Z`, finalizes no cell of `Z`, and
finalizes every other cell it brings to zero: a drain state again. -/
theorem Draining.turn {n : Nat} {rt rt' : JSRuntime} {p : Addr} {Z : List Addr}
    (hD : Draining rt) (hz : rt.gc_zero_ref_count_list = p :: Z)
    (h : free_gc_object G n rt p = .ok rt') :
    Draining rt' ∧ ∃ Z₂, rt'.gc_zero_ref_count_list = Z₂ ++ Z ∧
      ∃ E, rt'.log = rt.log ++ E ∧ GcEvent.finalize p ∈ E ∧ (∀ z ∈ Z, GcEvent.finalize z ∉ E) ∧
        ∀ c, rt.ref_count c ≠ 0 → rt'.ref_count c = 0 → GcEvent.finalize c ∈ E ∨ c ∈ Z₂ := by
  have hp0 := hD.zero p (by simp [hz])
  have hpZ : p ∉ Z := (List.nodup_cons.mp (hz ▸ (List.nodup_append.mp hD.nodup).2.1)).1
  obtain ⟨n, rfl⟩ : ∃ m, n = m + 1 := by
    cases n with
    | zero => simp [free_gc_object] at h
    | succ m => exact ⟨m, rfl⟩
  by_cases hv : (G.kind p).isValue
  swap
  · simp [free_gc_object, hv] at h
  set rt₁ := (if G.kind p = .JS_OBJECT then rt.set_free_mark p else rt).finalize p
  obtain ⟨hrc₁, -, hlog₁, hph₁, hgc₁, htmp₁, hz₁⟩ := free_gc_object_start G rt p rt₁ rfl
  simp only [free_gc_object, hv, if_true] at h
  cases h₂ : (G.released p).foldlM (free_gc_ref G n) rt₁ with
  | error e => rw [h₂] at h; cases h
  | ok rt₂ =>
  rw [h₂, except_ok_bind] at h
  have hR₂ := foldlM_released_of_ok G (free_gc_ref_released G n) _ _ _
    (by simp [hph₁, hD.gc_phase])
    (by rw [hgc₁, htmp₁, hz₁]; exact hD.nodup) h₂
  have hph₂ : rt₂.gc_phase = .DECREF := hR₂.gc_phase.trans (hph₁.trans hD.gc_phase)
  rw [if_neg (by simp [hph₂])] at h
  cases h
  obtain ⟨Z₂, hZ₂, -, hZ₂mem⟩ := hR₂.zero
  obtain ⟨E₂, hE₂, hE₂f, -⟩ := hR₂.log
  -- The cells of the list had count zero, so the releases left them where they were.
  have hkeep : (p :: Z).filter (kept G rt₁ rt₂) = p :: Z := List.filter_eq_self.mpr fun d hd => by
    have h0 : rt₁.ref_count d = 0 := by rw [hrc₁]; exact hD.zero d (hz ▸ hd)
    simp [kept, freed_nv, zeroed_value, h0]
  have hpZ₂ : p ∉ Z₂ := fun h => ((hZ₂mem p).mp h).2.2.1 (by rw [hrc₁]; exact hp0)
  have hlist : ((rt₂.list_del p).js_free_rt p).gc_zero_ref_count_list = Z₂ ++ Z := by
    simp only [js_free_rt_gc_zero_ref_count_list, list_del_gc_zero_ref_count_list, hZ₂, hz₁, hz,
      hkeep]
    rw [List.erase_append_right _ hpZ₂, List.erase_cons_head]
  have hle : ∀ d, rt₂.ref_count d ≤ rt.ref_count d := fun d => hrc₁ ▸ hR₂.ref_count_le d
  refine ⟨⟨by simpa using hph₂, by simpa using nodup_list_del (hR₂.nodup (by
      rw [hgc₁, htmp₁, hz₁]; exact hD.nodup)) p, fun d hd => ?_⟩, Z₂, hlist,
    .finalize p :: (E₂ ++ [.js_free_rt p (rt₂.ref_count p)]), by simp [hE₂, hlog₁], by simp,
    fun z hz' hf => ?_, fun c hc h0 => ?_⟩
  · rw [hlist] at hd
    simp only [js_free_rt_ref_count, list_del_ref_count]
    rcases List.mem_append.mp hd with hd | hd
    · exact ((hZ₂mem d).mp hd).2.2.2
    · exact Nat.le_zero.mp (hD.zero d (by simp [hz, hd]) ▸ hle d)
  · -- a cell of `Z` had count zero, so no release freed it
    have hzp : z ≠ p := fun h => hpZ (h ▸ hz')
    have hz0 : rt₁.ref_count z = 0 := by rw [hrc₁]; exact hD.zero z (by simp [hz, hz'])
    have hf' : GcEvent.finalize z ∈ E₂ := by simpa [hzp] using hf
    have := hE₂f z
    rw [if_neg (by simp [freed_nv, hz0])] at this
    exact List.count_eq_zero.mp this hf'
  · -- a cell brought to zero was freed at once, or queued
    simp only [js_free_rt_ref_count, list_del_ref_count] at h0
    by_cases hcv : (G.kind c).isValue
    · exact .inr ((hZ₂mem c).mpr ⟨hph₁.trans hD.gc_phase, hcv, by rw [hrc₁]; exact hc, h0⟩)
    · refine .inl (List.mem_cons_of_mem _ (List.mem_append_left _ (List.count_pos_iff.mp ?_)))
      rw [hE₂f c, if_pos ⟨by simpa using hcv, by rw [hrc₁]; exact hc, h0⟩]
      exact Nat.one_pos

/-- The turns of a drain keep it a drain. -/
theorem Draining.of_turns {a b : Nat × JSRuntime} (h : Relation.ReflTransGen (drain_turn G) a b)
    (hD : Draining a.2) : Draining b.2 := by
  induction h with
  | refl => exact hD
  | tail _ hbc ih =>
    obtain ⟨p, Z, hz, -, -, hfree⟩ := hbc
    exact (ih.turn hz hfree).1

/-! ## The stack discipline -/

/-- **A drain empties what lies above `Z` first.** From a drain state whose
list is a non-empty `A` on top of `Z`, a loop that runs to its end reaches a
state whose list is `Z`, having finalized every cell of `A` and every cell
brought to zero on the way, and no cell of `Z`. -/
theorem Draining.drain_above {Z : List Addr} {r : JSRuntime} :
    ∀ (n : Nat) (rt : JSRuntime) (A : List Addr), Draining rt →
      rt.gc_zero_ref_count_list = A ++ Z → A ≠ [] → free_zero_refcount_loop G n rt = .ok r →
      ∃ m rt', Relation.ReflTransGen (drain_turn G) (n, rt) (m, rt') ∧
        rt'.gc_zero_ref_count_list = Z ∧ ∃ E, rt'.log = rt.log ++ E ∧
          (∀ a ∈ A, GcEvent.finalize a ∈ E) ∧ (∀ z ∈ Z, GcEvent.finalize z ∉ E) ∧
          ∀ c, rt.ref_count c ≠ 0 → rt'.ref_count c = 0 → GcEvent.finalize c ∈ E
  | 0, _, _, _, _, _, hrun => by simp [free_zero_refcount_loop] at hrun
  | _, _, [], _, _, hA, _ => absurd rfl hA
  | n + 1, rt, p :: A, hD, hz, _, hrun => by
    have hp0 := hD.zero p (by simp [hz])
    rw [free_zero_refcount_loop, hz, List.cons_append] at hrun
    simp only [hp0, ne_eq, not_true_eq_false, if_false] at hrun
    cases h₁ : free_gc_object G n rt p with
    | error e => rw [h₁] at hrun; cases hrun
    | ok rt₁ =>
    rw [h₁, except_ok_bind] at hrun
    have hz' : rt.gc_zero_ref_count_list = p :: (A ++ Z) := by rw [hz, List.cons_append]
    have ht : drain_turn G (n + 1, rt) (n, rt₁) := ⟨p, A ++ Z, hz', hp0, rfl, h₁⟩
    obtain ⟨hD₁, Z₂, hz₁, E₁, hE₁, hpE₁, hZE₁, hzero₁⟩ := hD.turn hz' h₁
    by_cases hA' : Z₂ ++ A = []
    · -- nothing left above `Z`: one turn was enough
      obtain ⟨rfl, rfl⟩ := List.append_eq_nil.mp hA'
      refine ⟨n, rt₁, .single ht, by simpa using hz₁, E₁, hE₁, by simpa using hpE₁,
        fun z hz' => hZE₁ z (List.mem_append_right _ hz'), fun c hc h0 => ?_⟩
      simpa using hzero₁ c hc h0
    · obtain ⟨m, rt', hrun', hz', E', hE', hAE', hZE', hzero'⟩ :=
        Draining.drain_above n rt₁ (Z₂ ++ A) hD₁ (by rw [hz₁, List.append_assoc]) hA' hrun
      refine ⟨m, rt', .head ht hrun', hz', E₁ ++ E', by rw [hE', hE₁, List.append_assoc],
        fun a ha => ?_, fun z hz'' hf => ?_, fun c hc h0 => ?_⟩
      · rcases List.mem_cons.mp ha with rfl | ha
        · exact List.mem_append_left _ hpE₁
        · exact List.mem_append_right _ (hAE' a (List.mem_append_right _ ha))
      · rcases List.mem_append.mp hf with hf | hf
        · exact hZE₁ z (List.mem_append_right _ hz'') hf
        · exact hZE' z hz'' hf
      · by_cases hc₁ : rt₁.ref_count c = 0
        · rcases hzero₁ c hc hc₁ with hf | hc₂
          · exact List.mem_append_left _ hf
          · exact List.mem_append_right _ (hAE' c (List.mem_append_left _ hc₂))
        · exact List.mem_append_right _ (hzero' c hc₁ h0)

/-- **The drain is last-in first-out.** In a drain that runs to its end, take
any turn it makes, freeing the head `x` of the list `x :: Z`. The loop goes on
to a state whose list is exactly `Z`; between the two, `x` and every cell
whose count reached zero (during `x`'s finalization, or during that of a
cell brought to zero then) have been finalized, and no cell of `Z` has been:
each is finalized, if ever, after all of them. -/
theorem free_zero_refcount_lifo {n k : Nat} {rt s r : JSRuntime} {x : Addr} {Z : List Addr}
    (hD : Draining rt) (hrun : free_zero_refcount_loop G n rt = .ok r)
    (hs : Relation.ReflTransGen (drain_turn G) (n, rt) (k, s))
    (hz : s.gc_zero_ref_count_list = x :: Z) :
    ∃ m s', Relation.ReflTransGen (drain_turn G) (k, s) (m, s') ∧
      s'.gc_zero_ref_count_list = Z ∧ ∃ E, s'.log = s.log ++ E ∧ GcEvent.finalize x ∈ E ∧
        (∀ c, s.ref_count c ≠ 0 → s'.ref_count c = 0 → GcEvent.finalize c ∈ E) ∧
        ∀ z ∈ Z, GcEvent.finalize z ∉ E := by
  obtain ⟨m, s', hrun', hz', E, hE, hxE, hZE, hzero⟩ :=
    Draining.drain_above k s [x] (hD.of_turns hs) hz (List.cons_ne_nil _ _) ((drain_turns_loop hs).symm.trans hrun)
  exact ⟨m, s', hrun', hz', E, hE, hxE x (List.mem_singleton_self x), hzero, hZE⟩

/-- Two objects `0` and `1` on the list, and `2`, held by `0` alone. -/
def stackChildren : Addr → List Addr
  | 0 => [2]
  | _ => []

/-- Objects only, each releasing what it marks. -/
def stackGraph : GcGraph where
  kind _ := .JS_OBJECT
  children := stackChildren
  released := stackChildren

/-- A drain with `0` above `1` on the list; `2` is listed, with count one. -/
def stackHeap : JSRuntime where
  ref_count c := if c = 2 then 1 else 0
  mark _ := 0
  free_mark _ := false
  gc_obj_list := [2]
  tmp_obj_list := []
  gc_zero_ref_count_list := [0, 1]
  gc_phase := .DECREF
  log := []

/-- Freeing `0` brings `2` to zero, and `2` is freed before `1`. -/
theorem free_zero_refcount_lifo_stack :
    Draining stackHeap ∧ (∃ r, free_zero_refcount_loop stackGraph 7 stackHeap = .ok r) ∧
      ∃ m s', Relation.ReflTransGen (drain_turn stackGraph) (7, stackHeap) (m, s') ∧
        s'.gc_zero_ref_count_list = [1] ∧ ∃ E, s'.log = stackHeap.log ++ E ∧
          GcEvent.finalize 0 ∈ E ∧
          (∀ c, stackHeap.ref_count c ≠ 0 → s'.ref_count c = 0 → GcEvent.finalize c ∈ E) ∧
          ∀ z ∈ [1], GcEvent.finalize z ∉ E :=
  have hD : Draining stackHeap := ⟨rfl, by decide, by decide⟩
  ⟨hD, ⟨_, rfl⟩, free_zero_refcount_lifo hD (by exact rfl) .refl rfl⟩

end SlowJsGc

import Mathlib.Data.List.Count
import SlowJsGc.Collector.Scan
import SlowJsGc.Collector.Release

/-!
# `gc_free_cycles`: freeing the condemned cells

The last pass of the collector frees what `gc_scan` left on `tmp_obj_list`.
In `REMOVE_CYCLES` a release that brings an object or bytecode to zero does
nothing, so the pass frees those cells itself: it takes the head of
`tmp_obj_list` until the list is empty, and calls `free_gc_object` on an object
or bytecode and parks any other cell on `gc_zero_ref_count_list`, counting on
its own release to free it when the cells holding it go. An object whose count
is not yet zero when it is freed is also parked there, finalized; the second
loop returns the memory of everything parked, asserting that each is an
object or bytecode.

The invariant of the first loop, `FcInv`, says where every condemned cell is:
a prefix `P` of the condemned list has been taken off `tmp_obj_list`; the
objects of `P` are finalized; a cell of `P` of another kind is on
`gc_zero_ref_count_list` exactly while its own release has not run; and the
log holds one `finalize` per finalized cell and one `js_free_rt`, with count
zero, per finalized cell not parked. The accounting is `RelInv` with an empty
frame and `Q` the condemned cells, so no reachable cell is ever freed.

When the loop ends every condemned object is finalized; that every condemned
cell of another kind is too takes `GcGraph.WellKinded`: a context is held only
by objects and bytecode, and a var-ref or shape only by those and by contexts,
so each is freed by the release of its last holder.
-/

set_option autoImplicit false

namespace SlowJsGc

open JSRuntime

variable (G : GcGraph)

/-- The first loop of `gc_free_cycles`: free the head of `tmp_obj_list` if it
is an object or bytecode, and move it to the tail of `gc_zero_ref_count_list`
otherwise, until the list is empty. `m` is the fuel of the free paths. -/
def gc_free_cycles_loop (m : Nat) : Nat → JSRuntime → Except GcError JSRuntime
  | 0, _ => throw .out_of_fuel
  | n + 1, rt =>
    match rt.tmp_obj_list with
    | [] => pure rt
    | p :: _ =>
      if (G.kind p).isValue then do
        gc_free_cycles_loop m n (← free_gc_object G m rt p)
      else
        gc_free_cycles_loop m n ((rt.list_del p).list_add_tail p .gc_zero_ref_count_list)

/-- The body of the second loop of `gc_free_cycles`. -/
def gc_free_cycles_free (rt : JSRuntime) (p : Addr) : Except GcError JSRuntime :=
  if (G.kind p).isValue then pure (rt.js_free_rt p)
  else throw (.assert_failed
    "p->gc_obj_type == JS_GC_OBJ_TYPE_JS_OBJECT || p->gc_obj_type == JS_GC_OBJ_TYPE_FUNCTION_BYTECODE")

/-- `gc_free_cycles`. The fuel is one more than the number of listed cells. -/
def gc_free_cycles (rt : JSRuntime) : Except GcError JSRuntime := do
  let fuel := rt.gc_obj_list.length + rt.tmp_obj_list.length +
    rt.gc_zero_ref_count_list.length + 2
  let rt ← gc_free_cycles_loop G fuel fuel (rt.set_phase .REMOVE_CYCLES)
  let rt := rt.set_phase .NONE
  let rt ← rt.gc_zero_ref_count_list.foldlM (gc_free_cycles_free G) rt
  pure { rt with gc_zero_ref_count_list := [] }

/-- The cell of a `finalize` event, if it is an object or bytecode: the order
in which the collector finalizes those cells is the log read through this. -/
def finalized_value : GcEvent → Option Addr
  | .finalize p => if (G.kind p).isValue then some p else none
  | .js_free_rt _ _ => none

/-- The second loop returns the memory of every parked object, in list order,
with the count each has. -/
theorem foldlM_gc_free_cycles_free (l : List Addr) (hl : ∀ p ∈ l, (G.kind p).isValue = true) :
    ∀ rt : JSRuntime, l.foldlM (gc_free_cycles_free G) rt =
      .ok { rt with log := rt.log ++ l.map fun p => .js_free_rt p (rt.ref_count p) } := by
  induction l with
  | nil => intro rt; simp
  | cons p l ih =>
    intro rt
    simp only [List.foldlM_cons, gc_free_cycles_free, hl p (List.mem_cons_self p l),
      ↓reduceIte, except_pure_eq_ok, except_ok_bind]
    rw [ih (fun q hq => hl q (List.mem_cons_of_mem p hq))]
    simpa using ⟨rfl, rfl, rfl⟩

/-! ## The first loop -/

section loop

variable {G} {ext : Addr → Nat} {L : List Addr}

/-- What `gc_scan` hands to `gc_free_cycles` (`rt₀`): the listed cells `L`
split into the reachable cells, on `gc_obj_list`, and the condemned ones, on
`tmp_obj_list`, none of them finalized yet. -/
structure FcCtx (G : GcGraph) (ext : Addr → Nat) (L : List Addr) (rt₀ : JSRuntime) :
    Prop where
  rel : RelCtx G ext L (fun c => ¬ G.Reach L ext c)
  perm : (rt₀.gc_obj_list ++ rt₀.tmp_obj_list).Perm L
  mem_gc_obj_list : ∀ c, c ∈ rt₀.gc_obj_list ↔ G.Reach L ext c
  live : ∀ c ∈ L, GcEvent.finalize c ∉ rt₀.log

variable {rt₀ : JSRuntime}

theorem FcCtx.nodup (hX : FcCtx G ext L rt₀) :
    (rt₀.gc_obj_list ++ rt₀.tmp_obj_list).Nodup :=
  hX.perm.nodup_iff.mpr hX.rel.nodup

/-- The condemned list holds exactly the unreachable listed cells. -/
theorem FcCtx.mem_tmp_obj_list (hX : FcCtx G ext L rt₀) (c : Addr) :
    c ∈ rt₀.tmp_obj_list ↔ c ∈ L ∧ ¬ G.Reach L ext c := by
  rw [← hX.mem_gc_obj_list]
  constructor
  · intro hc
    exact ⟨hX.perm.subset (List.mem_append_right _ hc),
      fun hg => List.disjoint_of_nodup_append hX.nodup hg hc⟩
  · rintro ⟨hc, hg⟩
    rcases List.mem_append.mp (hX.perm.symm.subset hc) with h | h
    · exact absurd h hg
    · exact h

/-- The first loop after the prefix `P` of the condemned list has been taken
off `tmp_obj_list`; `R` is the rest. -/
structure FcInv (G : GcGraph) (ext : Addr → Nat) (L : List Addr) (rt₀ : JSRuntime)
    (P R : List Addr) (rt : JSRuntime) : Prop where
  rel : RelInv G ext L (fun c => ¬ G.Reach L ext c) rt []
  gc_phase : rt.gc_phase = .REMOVE_CYCLES
  mark : rt.mark = rt₀.mark
  gc_obj_list : rt.gc_obj_list = rt₀.gc_obj_list
  split : P ++ R = rt₀.tmp_obj_list
  tmp_obj_list : rt.tmp_obj_list = R.filter fun c => GcEvent.finalize c ∉ rt.log
  zero_mem : ∀ c ∈ rt.gc_zero_ref_count_list, c ∈ P
  zero_nv : ∀ c ∈ P, (G.kind c).isValue = false →
    (c ∈ rt.gc_zero_ref_count_list ↔ GcEvent.finalize c ∉ rt.log)
  value_fin : ∀ c ∈ rt₀.tmp_obj_list, (G.kind c).isValue = true →
    (GcEvent.finalize c ∈ rt.log ↔ c ∈ P)
  log : ∃ E, rt.log = rt₀.log ++ E ∧
    (∀ c, E.count (.finalize c) = if c ∈ L ∧ GcEvent.finalize c ∈ rt.log then 1 else 0) ∧
    (∀ c k, E.count (.js_free_rt c k) = if k = 0 ∧ c ∈ L ∧ GcEvent.finalize c ∈ rt.log ∧
      c ∉ rt.gc_zero_ref_count_list then 1 else 0) ∧
    E.filterMap (finalized_value G) = P.filter fun c => (G.kind c).isValue

/-- The head of `tmp_obj_list` is the first unfinalized cell of `R`; the cells
of `R` before it have been freed by their own release, so none of them is an
object, and none is parked. -/
theorem FcInv.head (hX : FcCtx G ext L rt₀) {P R T : List Addr} {rt : JSRuntime} {p : Addr}
    (hI : FcInv G ext L rt₀ P R rt) (htmp : rt.tmp_obj_list = p :: T) :
    ∃ R₁ R₂, R = R₁ ++ p :: R₂ ∧ P ++ R₁ ++ p :: R₂ = rt₀.tmp_obj_list ∧
      (∀ x ∈ R₁, GcEvent.finalize x ∈ rt.log ∧ (G.kind x).isValue = false ∧ x ∉ P ∧
        x ∉ rt.gc_zero_ref_count_list) ∧
      GcEvent.finalize p ∉ rt.log ∧ p ∉ P ∧ p ∉ R₁ ∧ p ∉ R₂ ∧
      T = R₂.filter fun c => GcEvent.finalize c ∉ rt.log := by
  rw [hI.tmp_obj_list] at htmp
  obtain ⟨R₁, R₂, hR, h₁, hp, hT⟩ := List.filter_eq_cons_iff.mp htmp
  have hD : P ++ R₁ ++ p :: R₂ = rt₀.tmp_obj_list := by rw [← hI.split, hR, List.append_assoc]
  have hnd : (P ++ R₁ ++ p :: R₂).Nodup := hD ▸ (List.nodup_append.mp hX.nodup).2.1
  have hPR₁ : ∀ x ∈ R₁, x ∉ P := fun x hx hxP =>
    List.disjoint_of_nodup_append (hnd.sublist (List.sublist_append_left _ _)) hxP hx
  refine ⟨R₁, R₂, hR, hD, fun x hx => ?_, by simpa using hp, fun h => ?_, fun h => ?_,
    fun h => ?_, hT.symm⟩
  · have hfx : GcEvent.finalize x ∈ rt.log := by simpa using h₁ x hx
    refine ⟨hfx, ?_, hPR₁ x hx, fun hz => hPR₁ x hx (hI.zero_mem x hz)⟩
    by_contra hxv
    exact hPR₁ x hx ((hI.value_fin x (hD ▸ by simp [hx]) (by simpa using hxv)).mp hfx)
  · exact List.disjoint_of_nodup_append hnd (List.mem_append_left _ h) (List.mem_cons_self p R₂)
  · exact List.disjoint_of_nodup_append hnd (List.mem_append_right _ h) (List.mem_cons_self p R₂)
  · exact (List.nodup_cons.mp (List.nodup_append.mp hnd).2.1).1 h

/-- **A cell that is not an object or bytecode at the head.** It moves to the
tail of `gc_zero_ref_count_list`, and the prefix grows past it. -/
theorem FcInv.step_nv (hX : FcCtx G ext L rt₀) {P R T : List Addr} {rt : JSRuntime} {p : Addr}
    (hI : FcInv G ext L rt₀ P R rt) (htmp : rt.tmp_obj_list = p :: T)
    (hv : (G.kind p).isValue = false) :
    ∃ R₁ R₂, R = R₁ ++ p :: R₂ ∧ FcInv G ext L rt₀ (P ++ (R₁ ++ [p])) R₂
      ((rt.list_del p).list_add_tail p .gc_zero_ref_count_list) := by
  obtain ⟨R₁, R₂, hR, hD, hR₁, hnf, hpP, hpR₁, hpR₂, hT⟩ := hI.head hX htmp
  have hpD : p ∈ rt₀.tmp_obj_list := hD ▸ by simp
  have hpg : p ∉ rt₀.gc_obj_list := fun h => List.disjoint_of_nodup_append hX.nodup h hpD
  have hpz : p ∉ rt.gc_zero_ref_count_list := fun h => hpP (hI.zero_mem p h)
  obtain ⟨E, hE, hEf, hEj, hEv⟩ := hI.log
  refine ⟨R₁, R₂, hR, ⟨hI.rel.congr rfl (fun _ => Iff.rfl)
    (nodup_list_del_add_tail_zero hI.rel.nodup p), hI.gc_phase, hI.mark, ?_,
    by rw [← hD]; simp, ?_, fun c hc => ?_, fun c hc hcv => ?_, fun c hc hcv => ?_,
    ⟨E, hE, hEf, fun c k => ?_, ?_⟩⟩⟩
  · simp [hI.gc_obj_list, List.erase_of_not_mem hpg]
  · simp [htmp, hT]
  · simp only [list_add_tail_gc_zero_ref_count_list, if_true, list_del_gc_zero_ref_count_list,
      List.erase_of_not_mem hpz, List.mem_append, List.mem_singleton] at hc
    rcases hc with hc | rfl
    · simp [hI.zero_mem c hc]
    · simp
  · simp only [list_add_tail_gc_zero_ref_count_list, if_true, list_del_gc_zero_ref_count_list,
      List.erase_of_not_mem hpz, List.mem_append, List.mem_singleton, list_add_tail_log,
      list_del_log]
    rcases List.mem_append.mp hc with hc | hc
    · have hcp : c ≠ p := fun h => hpP (h ▸ hc)
      simpa [hcp] using hI.zero_nv c hc hcv
    · rcases List.mem_append.mp hc with hc | hc
      · have hcp : c ≠ p := fun h => hpR₁ (h ▸ hc)
        simp [hcp, (hR₁ c hc).1, (hR₁ c hc).2.2.2]
      · rw [List.mem_singleton.mp hc]; simp [hnf]
  · rw [list_add_tail_log, list_del_log, hI.value_fin c hc hcv]
    have hcR₁ : c ∉ R₁ := fun h => by simp [(hR₁ c h).2.1] at hcv
    have hcp : c ≠ p := fun h => by simp [h, hv] at hcv
    simp [hcR₁, hcp]
  · by_cases hcp : c = p
    · subst hcp; simp [hEj, hnf]
    · simp [hEj, hcp, List.erase_of_not_mem hpz]
  · have hR₁v : R₁.filter (fun c => (G.kind c).isValue) = [] :=
      List.filter_eq_nil_iff.mpr fun x hx => by simp [(hR₁ x hx).2.1]
    simp [hEv, hR₁v, hv]

/-- **An object or bytecode at the head.** `free_gc_object` succeeds on it (it
is condemned, and the fuel exceeds the number of listed cells), and the prefix
grows past it. -/
theorem FcInv.step_value (hX : FcCtx G ext L rt₀) {P R T : List Addr} {rt : JSRuntime}
    {p : Addr} {n : Nat} (hI : FcInv G ext L rt₀ P R rt) (htmp : rt.tmp_obj_list = p :: T)
    (hv : (G.kind p).isValue = true) (hn : L.length < n) :
    ∃ R₁ R₂ rt', R = R₁ ++ p :: R₂ ∧ free_gc_object G (n + 1) rt p = .ok rt' ∧
      FcInv G ext L rt₀ (P ++ (R₁ ++ [p])) R₂ rt' := by
  obtain ⟨R₁, R₂, hR, hD, hR₁, hnf, hpP, hpR₁, hpR₂, hT⟩ := hI.head hX htmp
  have hpD : p ∈ rt₀.tmp_obj_list := hD ▸ by simp
  have hpg : p ∉ rt₀.gc_obj_list := fun h => List.disjoint_of_nodup_append hX.nodup h hpD
  obtain ⟨hpL, hpQ⟩ := (hX.mem_tmp_obj_list p).mp hpD
  obtain ⟨rt₂, hR₂, hI₂, hF₂, heq⟩ := free_gc_object_spec hX.rel
    (by rw [hI.gc_phase]; decide) hI.rel hpL hv hnf hpQ
    (lt_of_le_of_lt (List.length_filter_le _ _) hn)
  set rt₁ := (if G.kind p = .JS_OBJECT then rt.set_free_mark p else rt).finalize p
  obtain ⟨hrc₁, hmk₁, hlog₁, hph₁, hgc₁, htmp₁, hz₁⟩ := free_gc_object_start G rt p rt₁ rfl
  have hph₂ : rt₂.gc_phase = .REMOVE_CYCLES := hR₂.gc_phase.trans (hph₁.trans hI.gc_phase)
  have hkeep : ∀ d, kept G rt₁ rt₂ d = !decide (freed_nv G rt₁ rt₂ d) :=
    congrFun (hR₂.remove_cycles (hph₁.trans hI.gc_phase)).1
  have hz₂ := (hR₂.remove_cycles (hph₁.trans hI.gc_phase)).2
  -- the cells the releases freed: listed, not objects, not yet finalized, not reachable
  have hF : ∀ d, freed_nv G rt₁ rt₂ d → d ∈ L ∧ (G.kind d).isValue = false ∧
      GcEvent.finalize d ∉ rt.log ∧ d ∉ rt₀.gc_obj_list := by
    rintro d ⟨hdv, hd0, hd2⟩
    have hdL : d ∈ L := by_contra fun h => hd0 (by rw [hrc₁, ← hF₂ d h]; exact hd2)
    refine ⟨hdL, hdv, fun h => hd0 (by rw [hrc₁]; exact (hI.rel.nv d hdL hdv).mp h),
      fun hg => ?_⟩
    exact hI₂.fin d hdL ((hI₂.nv d hdL hdv).mpr hd2) ((hX.mem_gc_obj_list d).mp hg)
  have hpF : ¬ freed_nv G rt₁ rt₂ p := fun h => by simp [(hF p h).2.1] at hv
  set rt' := if rt₂.gc_phase = .REMOVE_CYCLES ∧ rt₂.ref_count p ≠ 0 then
      (rt₂.list_del p).list_add_tail p .gc_zero_ref_count_list else (rt₂.list_del p).js_free_rt p
  -- the last step: unlinked, then parked or returned
  have hres : rt'.ref_count = rt₂.ref_count ∧ rt'.mark = rt₂.mark ∧
      rt'.gc_phase = rt₂.gc_phase ∧ rt'.gc_obj_list = rt₂.gc_obj_list.erase p ∧
      rt'.tmp_obj_list = rt₂.tmp_obj_list.erase p ∧
      rt'.gc_zero_ref_count_list = rt₂.gc_zero_ref_count_list.erase p ++
        (if rt₂.ref_count p = 0 then [] else [p]) ∧
      rt'.log = rt₂.log ++ (if rt₂.ref_count p = 0 then [.js_free_rt p 0] else []) ∧
      (rt'.gc_obj_list ++ rt'.tmp_obj_list ++ rt'.gc_zero_ref_count_list).Nodup := by
    by_cases h0 : rt₂.ref_count p = 0
    · have : rt' = (rt₂.list_del p).js_free_rt p := if_neg (by simp [h0])
      rw [this]
      exact ⟨rfl, rfl, rfl, rfl, rfl, by simp [h0], by simp [h0], nodup_list_del hI₂.nodup p⟩
    · have : rt' = (rt₂.list_del p).list_add_tail p .gc_zero_ref_count_list := if_pos ⟨hph₂, h0⟩
      rw [this]
      exact ⟨rfl, rfl, rfl, rfl, rfl, by simp [h0], by simp [h0],
        nodup_list_del_add_tail_zero hI₂.nodup p⟩
  obtain ⟨hrc', hmk', hph', hgc', htmp', hz', hlog', hnd'⟩ := hres
  have hfin' : ∀ d, GcEvent.finalize d ∈ rt'.log ↔
      GcEvent.finalize d ∈ rt.log ∨ d = p ∨ freed_nv G rt₁ rt₂ d := fun d => by
    rw [hlog', List.mem_append, hR₂.mem_finalize, hlog₁]
    split <;> simp [or_assoc]
  have hzc : ∀ c, c ≠ p → (c ∈ rt'.gc_zero_ref_count_list ↔
      c ∈ rt.gc_zero_ref_count_list ∧ ¬ freed_nv G rt₁ rt₂ c) := fun c hcp => by
    rw [hz', hz₂, hz₁]
    split <;> simp [List.mem_erase_of_ne hcp, hkeep, hcp]
  have hzp : p ∈ rt'.gc_zero_ref_count_list ↔ rt₂.ref_count p ≠ 0 := by
    have hpz : p ∉ rt.gc_zero_ref_count_list.filter (kept G rt₁ rt₂) :=
      fun h => hpP (hI.zero_mem p (List.mem_filter.mp h).1)
    rw [hz', hz₂, hz₁, List.erase_of_not_mem hpz]
    split <;> simp [*]
  obtain ⟨E, hE, hEf, hEj, hEv⟩ := hI.log
  obtain ⟨E₂, hE₂, hE₂f, hE₂j⟩ := hR₂.log
  refine ⟨R₁, R₂, rt', hR, heq, ⟨hI₂.congr hrc' (fun d => by rw [hlog']; split <;> simp) hnd',
    hph'.trans hph₂, hmk'.trans (hR₂.mark.trans (hmk₁.trans hI.mark)), ?_,
    by rw [← hD]; simp, ?_, fun c hc => ?_, fun c hc hcv => ?_, fun c hc hcv => ?_,
    ⟨E ++ (.finalize p :: (E₂ ++ if rt₂.ref_count p = 0 then [.js_free_rt p 0] else [])),
      by rw [hlog', hE₂, hlog₁, hE]; simp, fun c => ?_, fun c k => ?_, ?_⟩⟩⟩
  · -- no reachable cell is unlinked
    have hS : rt₀.gc_obj_list.filter (kept G rt₁ rt₂) = rt₀.gc_obj_list :=
      List.filter_eq_self.mpr fun d hd => by simpa [hkeep] using fun h => (hF d h).2.2.2 hd
    rw [hgc', hR₂.gc_obj_list, hgc₁, hI.gc_obj_list, hS, List.erase_of_not_mem hpg]
  · rw [htmp', hR₂.tmp_obj_list, htmp₁, htmp, List.filter_cons_of_pos (by simp [hkeep, hpF]),
      List.erase_cons_head, hT, List.filter_filter]
    refine List.filter_congr fun d hd => ?_
    have hdp : d ≠ p := fun h => hpR₂ (h ▸ hd)
    simp only [hkeep, hfin' d, hdp, false_or, not_or, decide_not, Bool.decide_and]
    exact Bool.and_comm _ _
  · rw [hz', hz₂, hz₁] at hc
    rcases List.mem_append.mp hc with hc | hc
    · exact List.mem_append_left _ (hI.zero_mem c (List.mem_filter.mp (List.mem_of_mem_erase hc)).1)
    · split at hc
      · simp at hc
      · simp [List.mem_singleton.mp hc]
  · have hcp : c ≠ p := fun h => by simp [h, hv] at hcv
    rw [hzc c hcp, hfin' c]
    rcases List.mem_append.mp hc with hc | hc
    · rw [hI.zero_nv c hc hcv]; simp [hcp]
    · rcases List.mem_append.mp hc with hc | hc
      · simp [(hR₁ c hc).1, (hR₁ c hc).2.2.2]
      · exact absurd (List.mem_singleton.mp hc) hcp
  · have hcF : ¬ freed_nv G rt₁ rt₂ c := fun h => by simp [(hF c h).2.1] at hcv
    have hcR₁ : c ∉ R₁ := fun h => by simp [(hR₁ c h).2.1] at hcv
    rw [hfin' c, hI.value_fin c hc hcv]
    simp [hcF, hcR₁]
  · have ht : (if rt₂.ref_count p = 0 then [GcEvent.js_free_rt p 0] else []).count
        (.finalize c) = 0 := by split <;> simp
    rw [List.count_append, List.count_cons, List.count_append, ht, hEf, hE₂f]
    simp only [hfin' c]
    by_cases hcp : c = p
    · subst hcp; simp [hpL, hnf, hpF]
    · by_cases hcF : freed_nv G rt₁ rt₂ c
      · simp [hcF, hcp, Ne.symm hcp, (hF c hcF).1, (hF c hcF).2.2.1]
      · simp [hcF, hcp, Ne.symm hcp]
  · have ht : (if rt₂.ref_count p = 0 then [GcEvent.js_free_rt p 0] else []).count
        (.js_free_rt c k) = if rt₂.ref_count p = 0 ∧ c = p ∧ k = 0 then 1 else 0 := by
      rcases eq_or_ne c p with rfl | hcp
      · rcases eq_or_ne k 0 with rfl | hk
        · split <;> simp [*]
        · split <;> simp [hk, Ne.symm hk]
      · split <;> simp [hcp, Ne.symm hcp]
    rw [List.count_append, List.count_cons, List.count_append, ht, hEj, hE₂j]
    simp only [hfin' c]
    by_cases hcp : c = p
    · subst hcp; simp [hpL, hnf, hpF, hzp, and_comm]
    · by_cases hcF : freed_nv G rt₁ rt₂ c
      · simp [hcF, hcp, (hF c hcF).1, (hF c hcF).2.2.1, hzc c hcp]
      · simp [hcF, hcp, hzc c hcp]
  · have hE₂v : E₂.filterMap (finalized_value G) = [] := List.filterMap_eq_nil_iff.mpr
      fun e he => by
        cases e with
        | finalize d =>
          have h := List.count_pos_iff.mpr he
          rw [hE₂f] at h
          split at h
          · simp [finalized_value, (hF d ‹_›).2.1]
          · omega
        | js_free_rt _ _ => rfl
    have ht : (if rt₂.ref_count p = 0 then [GcEvent.js_free_rt p 0] else []).filterMap
        (finalized_value G) = [] := by split <;> rfl
    have hR₁v : R₁.filter (fun c => (G.kind c).isValue) = [] :=
      List.filter_eq_nil_iff.mpr fun x hx => by simp [(hR₁ x hx).2.1]
    simp [hEv, hE₂v, ht, hR₁v, hv, finalized_value]

/-- **The first loop.** With loop fuel beyond the cells still to take and
free-path fuel beyond the listed cells, `gc_free_cycles_loop` succeeds, keeps
the invariant, and ends with `tmp_obj_list` empty. -/
theorem gc_free_cycles_loop_spec (hX : FcCtx G ext L rt₀) {m : Nat} (hm : L.length < m) :
    ∀ n P R rt, R.length < n → FcInv G ext L rt₀ P R rt →
      ∃ P' R' rt', gc_free_cycles_loop G (m + 1) n rt = .ok rt' ∧
        FcInv G ext L rt₀ P' R' rt' ∧ rt'.tmp_obj_list = [] := by
  intro n
  induction n with
  | zero => intro _ _ _ h; exact absurd h (Nat.not_lt_zero _)
  | succ n ih =>
    intro P R rt hn hI
    cases htmp : rt.tmp_obj_list with
    | nil => exact ⟨P, R, rt, by simp [gc_free_cycles_loop, htmp], hI, htmp⟩
    | cons p T =>
      by_cases hv : (G.kind p).isValue
      · obtain ⟨R₁, R₂, rt', hR, hfree, hI'⟩ := hI.step_value hX htmp hv hm
        obtain ⟨P', R', rt'', h, hI'', hnil⟩ :=
          ih _ R₂ rt' (by simp [hR] at hn; omega) hI'
        exact ⟨P', R', rt'', by simp [gc_free_cycles_loop, htmp, hv, hfree, h], hI'', hnil⟩
      · rw [Bool.not_eq_true] at hv
        obtain ⟨R₁, R₂, hR, hI'⟩ := hI.step_nv hX htmp hv
        obtain ⟨P', R', rt'', h, hI'', hnil⟩ :=
          ih _ R₂ _ (by simp [hR] at hn; omega) hI'
        exact ⟨P', R', rt'', by simp [gc_free_cycles_loop, htmp, hv, h], hI'', hnil⟩

/-- **Every condemned cell is finalized when the first loop ends.** The
objects were freed at the head of the list. A context or async function is
held only by objects and bytecode, so its count is then zero and its release
has run; a var-ref or shape is held only by those and by contexts, so the same
holds one level down. -/
theorem FcInv.condemned_finalized (hX : FcCtx G ext L rt₀) (hwk : G.WellKinded)
    {P R : List Addr} {rt : JSRuntime} (hI : FcInv G ext L rt₀ P R rt)
    (htmp : rt.tmp_obj_list = []) :
    ∀ c ∈ rt₀.tmp_obj_list, GcEvent.finalize c ∈ rt.log := by
  have hval : ∀ c ∈ rt₀.tmp_obj_list, (G.kind c).isValue = true →
      GcEvent.finalize c ∈ rt.log := by
    intro c hc hcv
    rw [← hI.split] at hc
    rcases List.mem_append.mp hc with h | h
    · exact (hI.value_fin c (hI.split ▸ hc) hcv).mpr h
    · rw [hI.tmp_obj_list, List.filter_eq_nil_iff] at htmp
      simpa using htmp c h
  -- a condemned cell whose holders are all finalized has been freed
  have hfree : ∀ c ∈ rt₀.tmp_obj_list, (∀ q ∈ L, c ∈ G.children q → GcEvent.finalize q ∈ rt.log) →
      GcEvent.finalize c ∈ rt.log := by
    intro c hc hq
    cases hcv : (G.kind c).isValue
    · obtain ⟨hcL, hcR⟩ := (hX.mem_tmp_obj_list c).mp hc
      have hext : ext c = 0 := by
        by_contra h; exact hcR (.root hcL (Nat.pos_of_ne_zero h))
      have hdeg : G.indeg (unfinalized L rt) c = 0 :=
        (G.indeg_eq_zero_iff _ c).mpr fun q hq' hcq => by
          simp only [unfinalized, List.mem_filter, decide_eq_true_eq] at hq'
          exact hq'.2 (hq q hq'.1 hcq)
      refine (hI.rel.nv c hcL hcv).mpr ?_
      simpa [hext, hdeg] using hI.rel.acc c hcL
    · exact hval c hc hcv
  have hpar : ∀ c ∈ rt₀.tmp_obj_list, ∀ q ∈ L, c ∈ G.children q → q ∈ rt₀.tmp_obj_list :=
    fun c hc q hqL hcq => (hX.mem_tmp_obj_list q).mpr ⟨hqL, fun hq =>
      ((hX.mem_tmp_obj_list c).mp hc).2 (.child hq hcq)⟩
  -- a holder that is not an object or bytecode is a context, holding a var-ref or shape
  have hholder : ∀ c q, c ∈ G.children q → (G.kind c).isValue = false →
      (G.kind q).isValue = false → G.kind q = .JS_CONTEXT ∧
        (G.kind c = .VAR_REF ∨ G.kind c = .SHAPE) := fun c q hcq hcv hqv => by
    rcases hwk q c hcq hqv with h | h
    · simp [hcv] at h
    · exact h
  have hctx : ∀ c ∈ rt₀.tmp_obj_list, G.kind c ≠ .VAR_REF → G.kind c ≠ .SHAPE →
      GcEvent.finalize c ∈ rt.log := by
    intro c hc hvr hsh
    cases hcv : (G.kind c).isValue
    · refine hfree c hc fun q hqL hcq => ?_
      cases hqv : (G.kind q).isValue
      · exact ((hholder c q hcq hcv hqv).2.elim hvr hsh).elim
      · exact hval q (hpar c hc q hqL hcq) hqv
    · exact hval c hc hcv
  intro c hc
  cases hcv : (G.kind c).isValue
  · refine hfree c hc fun q hqL hcq => ?_
    have hq := hpar c hc q hqL hcq
    cases hqv : (G.kind q).isValue
    · have hq' := (hholder c q hcq hcv hqv).1
      exact hctx q hq (by rw [hq']; decide) (by rw [hq']; decide)
    · exact hval q hq hqv
  · exact hval c hc hcv

/-- The second loop's events, for cells parked once each. -/
theorem count_js_free_rt_map {Z : List Addr} (hZ : Z.Nodup) (c : Addr) (k : Nat) :
    (Z.map fun p => GcEvent.js_free_rt p 0).count (.js_free_rt c k) =
      if c ∈ Z ∧ k = 0 then 1 else 0 := by
  rcases eq_or_ne k 0 with rfl | hk
  · have := List.count_map_of_injective Z (fun p => GcEvent.js_free_rt p 0)
      (fun a b h => by simpa using h) c
    rw [this, List.count_eq_of_nodup hZ]
    simp
  · simp [hk, List.count_eq_zero, Ne.symm hk]

/-- The first loop starts from what `gc_scan` hands over, in the phase
`REMOVE_CYCLES`, with nothing taken yet. -/
theorem FcInv.start (hX : FcCtx G ext L rt₀) (hz : rt₀.gc_zero_ref_count_list = [])
    (hrc : ∀ c ∈ L, rt₀.ref_count c = G.indeg L c + ext c)
    (hnv : ∀ c ∈ L, (G.kind c).isValue = false → rt₀.ref_count c ≠ 0) :
    FcInv G ext L rt₀ [] rt₀.tmp_obj_list (rt₀.set_phase .REMOVE_CYCLES) := by
  have hD : ∀ c ∈ rt₀.tmp_obj_list, c ∈ L := fun c hc => ((hX.mem_tmp_obj_list c).mp hc).1
  have hunf₀ : unfinalized L (rt₀.set_phase .REMOVE_CYCLES) = L :=
    List.filter_eq_self.mpr fun c hc => by simpa using hX.live c hc
  refine ⟨⟨fun c hc => ?_, fun c hc hcv => by simp [hX.live c hc, hnv c hc hcv],
    fun c hc h => absurd h (hX.live c hc), by simpa [hz] using hX.nodup, by simp⟩,
    rfl, rfl, rfl, rfl, ?_, by simp [hz], by simp, fun c hc _ => by simp [hX.live c (hD c hc)],
    ⟨[], by simp, fun c => ?_, fun c k => ?_, by simp⟩⟩
  · rw [hunf₀]; simp [hrc c hc, Nat.add_comm]
  · exact (List.filter_eq_self.mpr fun c hc => by simpa using hX.live c (hD c hc)).symm
  · by_cases hc : c ∈ L <;> simp [hc, hX.live]
  · by_cases hc : c ∈ L <;> simp [hc, hX.live]

/-- **`gc_free_cycles`.** From what `gc_scan` hands it, with every listed cell
that is not an object or bytecode still referenced, the pass succeeds: every
condemned cell is finalized once and has its memory returned once, with count
zero, and the objects are finalized in the order of the condemned list; the
reachable cells stay on `gc_obj_list`, each counting its edges from reachable
cells and its external references; and the runtime is back in phase `NONE`
with the other lists empty. -/
theorem gc_free_cycles_spec (hX : FcCtx G ext L rt₀) (hwk : G.WellKinded)
    (hz : rt₀.gc_zero_ref_count_list = [])
    (hrc : ∀ c ∈ L, rt₀.ref_count c = G.indeg L c + ext c)
    (hnv : ∀ c ∈ L, (G.kind c).isValue = false → rt₀.ref_count c ≠ 0) :
    ∃ rt', gc_free_cycles G rt₀ = .ok rt' ∧
      rt'.gc_obj_list = rt₀.gc_obj_list ∧ rt'.tmp_obj_list = [] ∧
      rt'.gc_zero_ref_count_list = [] ∧ rt'.gc_phase = .NONE ∧ rt'.mark = rt₀.mark ∧
      (∀ c ∈ L, rt'.ref_count c = G.indeg rt₀.gc_obj_list c + ext c) ∧
      ∃ E, rt'.log = rt₀.log ++ E ∧
        (∀ c, E.count (.finalize c) = if c ∈ rt₀.tmp_obj_list then 1 else 0) ∧
        (∀ c k, E.count (.js_free_rt c k) = if c ∈ rt₀.tmp_obj_list ∧ k = 0 then 1 else 0) ∧
        E.filterMap (finalized_value G) = rt₀.tmp_obj_list.filter fun c => (G.kind c).isValue := by
  have hD : ∀ c ∈ rt₀.tmp_obj_list, c ∈ L := fun c hc => ((hX.mem_tmp_obj_list c).mp hc).1
  have hI₀ := FcInv.start hX hz hrc hnv
  have hlen : rt₀.gc_obj_list.length + rt₀.tmp_obj_list.length +
      rt₀.gc_zero_ref_count_list.length + 2 = L.length + 1 + 1 := by
    have := hX.perm.length_eq; simp [hz] at this ⊢; omega
  obtain ⟨P, R, rt₁, h₁, hI, htmp⟩ := gc_free_cycles_loop_spec hX (Nat.lt_succ_self L.length)
    (L.length + 1 + 1) [] rt₀.tmp_obj_list _
    (by have := hX.perm.length_eq; simp at this; omega) hI₀
  have hfin := hI.condemned_finalized hX hwk htmp
  -- the unfinalized listed cells are exactly the reachable ones
  have hsurv : ∀ c, c ∈ unfinalized L rt₁ ↔ c ∈ rt₀.gc_obj_list := fun c => by
    simp only [unfinalized, List.mem_filter, decide_eq_true_eq, hX.mem_gc_obj_list]
    constructor
    · rintro ⟨hc, hnf⟩
      by_contra hR
      exact hnf (hfin c ((hX.mem_tmp_obj_list c).mpr ⟨hc, hR⟩))
    · intro hR
      exact ⟨GcGraph.Reach.mem hX.rel.closed hR, fun h => hI.rel.fin c
        (GcGraph.Reach.mem hX.rel.closed hR) h hR⟩
  have hperm : (unfinalized L rt₁).Perm rt₀.gc_obj_list :=
    (List.perm_ext_iff_of_nodup (hX.rel.nodup.filter _)
      (List.nodup_append.mp hX.nodup).1).mpr hsurv
  -- a condemned cell is held by no survivor, so its count is zero
  have hzero : ∀ c ∈ rt₀.tmp_obj_list, rt₁.ref_count c = 0 := by
    intro c hc
    obtain ⟨hcL, hcR⟩ := (hX.mem_tmp_obj_list c).mp hc
    have hext : ext c = 0 := by
      by_contra h; exact hcR (.root hcL (Nat.pos_of_ne_zero h))
    have hdeg : G.indeg (unfinalized L rt₁) c = 0 :=
      (G.indeg_eq_zero_iff _ c).mpr fun q hq hcq =>
        hcR (.child ((hX.mem_gc_obj_list q).mp ((hsurv q).mp hq)) hcq)
    simpa [hext, hdeg] using hI.rel.acc c hcL
  have hZ : ∀ c ∈ rt₁.gc_zero_ref_count_list,
      c ∈ rt₀.tmp_obj_list ∧ (G.kind c).isValue = true := by
    intro c hc
    have hcP := hI.zero_mem c hc
    have hcD : c ∈ rt₀.tmp_obj_list := hI.split ▸ List.mem_append_left R hcP
    refine ⟨hcD, ?_⟩
    by_contra hcv
    exact ((hI.zero_nv c hcP (by simpa using hcv)).mp hc) (hfin c hcD)
  have hZnd : rt₁.gc_zero_ref_count_list.Nodup :=
    (List.nodup_append.mp hI.rel.nodup).2.1
  obtain ⟨E, hE, hEf, hEj, hEv⟩ := hI.log
  have hmap : (rt₁.gc_zero_ref_count_list.map fun p =>
      GcEvent.js_free_rt p ((rt₁.set_phase .NONE).ref_count p)) =
      rt₁.gc_zero_ref_count_list.map fun p => GcEvent.js_free_rt p 0 :=
    List.map_congr_left fun c hc => by simp [hzero c (hZ c hc).1]
  refine ⟨{ rt₁.set_phase .NONE with
      log := rt₁.log ++ rt₁.gc_zero_ref_count_list.map (fun p => GcEvent.js_free_rt p 0)
      gc_zero_ref_count_list := [] }, ?_,
    hI.gc_obj_list, htmp, rfl, rfl, hI.mark, fun c hc => ?_,
    E ++ rt₁.gc_zero_ref_count_list.map (fun p => GcEvent.js_free_rt p 0),
    by simp only [hE, List.append_assoc], fun c => ?_, fun c k => ?_, ?_⟩
  · simp only [gc_free_cycles, hlen, h₁, except_ok_bind]
    rw [foldlM_gc_free_cycles_free G (rt₁.set_phase .NONE).gc_zero_ref_count_list
      (fun c hc => (hZ c hc).2), except_ok_bind]
    simp only [set_phase_gc_zero_ref_count_list, hmap]
    rfl
  · have := hI.rel.acc c hc
    simp only [List.count_nil, add_zero, G.indeg_perm hperm] at this
    simpa [Nat.add_comm] using this
  · have hc' : (rt₁.gc_zero_ref_count_list.map fun p => GcEvent.js_free_rt p 0).count
        (.finalize c) = 0 := List.count_eq_zero.mpr (by simp)
    rw [List.count_append, hEf, hc']
    by_cases hcL : c ∈ L
    · by_cases hcD : c ∈ rt₀.tmp_obj_list
      · simp [hcL, hcD, hfin c hcD]
      · have hnf : GcEvent.finalize c ∉ rt₁.log :=
          fun h => hcD ((hX.mem_tmp_obj_list c).mpr ⟨hcL, hI.rel.fin c hcL h⟩)
        simp [hcD, hnf]
    · have hcD : c ∉ rt₀.tmp_obj_list := fun h => hcL (hD c h)
      simp [hcL, hcD]
  · rw [List.count_append, hEj, count_js_free_rt_map hZnd]
    by_cases hcD : c ∈ rt₀.tmp_obj_list
    · by_cases hcZ : c ∈ rt₁.gc_zero_ref_count_list <;> simp [hcD, hD c hcD, hfin c hcD, hcZ]
    · have hcZ : c ∉ rt₁.gc_zero_ref_count_list := fun h => hcD (hZ c h).1
      by_cases hcL : c ∈ L
      · have hnf : GcEvent.finalize c ∉ rt₁.log :=
          fun h => hcD ((hX.mem_tmp_obj_list c).mpr ⟨hcL, hI.rel.fin c hcL h⟩)
        simp [hcD, hcZ, hnf]
      · simp [hcD, hcZ, hcL]
  · have hRv : R.filter (fun c => (G.kind c).isValue) = [] :=
      List.filter_eq_nil_iff.mpr fun c hc hcv => by
        have hcD : c ∈ rt₀.tmp_obj_list := hI.split ▸ List.mem_append_right P hc
        have hcP := (hI.value_fin c hcD (by simpa using hcv)).mp (hfin c hcD)
        exact List.disjoint_of_nodup_append (hI.split ▸ (List.nodup_append.mp hX.nodup).2.1)
          hcP hc
    rw [← hI.split, List.filter_append, hRv, List.append_nil, List.filterMap_append, hEv]
    simp [finalized_value]

end loop

end SlowJsGc

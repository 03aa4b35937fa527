import SlowJsGc.Collector.RunGC

/-!
# Dropping a last reference outside a collection: the drain

`JS_FreeValueRT` on an object or bytecode whose count reaches zero, in phase
`NONE`, pushes the cell on `gc_zero_ref_count_list` and runs
`free_zero_refcount`: phase `DECREF`, and the head of the list freed until the
list is empty. Each free path releases the cell's references; an object or
bytecode they bring to zero is pushed on the list in turn, and any other cell
is freed at once by its own release.

Which cells go is said by `GcGraph.Dead`: the least set holding the released
cell and every listed cell without external references whose holders all
belong to it. The drain frees exactly those, each finalized once and its
memory returned once with count zero, and leaves the heap at rest over the
others. A cycle is never freed here: its cells hold one another, so none of
them enters the least set.

The drain needs two things of the heap the at-rest invariant does not say:
every free path releases exactly what `mark_children` enumerates, which the
release of a key of a `WeakMap` breaks, and every listed cell is referenced,
since a cell with count zero is in `GcGraph.Dead` (none of its holders is
outside) but nothing ever frees it. `JS_FreeValueRT_weak_ref` has both.
-/

set_option autoImplicit false

namespace SlowJsGc

open JSRuntime

variable (G : GcGraph)

/-- `JS_FreeValueRT(rt, x)` for an object or bytecode `x`, with
`__JS_FreeValueRT` and `free_zero_refcount` behind it. The fuel is twice the
number of listed cells, plus three. -/
def JS_FreeValueRT (rt : JSRuntime) (x : Addr) : Except GcError JSRuntime :=
  free_gc_ref G (2 * (rt.gc_obj_list.length + rt.tmp_obj_list.length +
    rt.gc_zero_ref_count_list.length) + 3) rt x

/-- The cells that dropping the last reference to `x` frees, among the listed
cells `L`: `x`, and every listed cell without external references all of whose
holders in `L` are in the set. The least such set. -/
inductive GcGraph.Dead (L : List Addr) (ext : Addr → Nat) (x : Addr) : Addr → Prop
  | seed : GcGraph.Dead L ext x x
  | orphan {c : Addr} : c ∈ L → ext c = 0 →
      (∀ p ∈ L, c ∈ G.children p → GcGraph.Dead L ext x p) → GcGraph.Dead L ext x c

section drain

variable {G} {ext : Addr → Nat} {L : List Addr} {x : Addr} {rt₀ : JSRuntime}

/-- `GcGraph.Dead` is closed under losing every reference, counting the
released reference to `x` as gone. -/
theorem dead_closed : ∀ c ∈ L, Function.update ext x 0 c = 0 →
    (∀ p ∈ L, c ∈ G.children p → G.Dead L ext x p) → G.Dead L ext x c := by
  intro c hc h0 hpar
  by_cases hcx : c = x
  · exact hcx ▸ .seed
  · rw [Function.update_noteq hcx] at h0
    exact .orphan hc h0 hpar

/-- The drain after the release of the last reference to `x`, from a heap at
rest `rt₀` whose listed cells are `L`: counts are accounted with that
reference gone; `gc_obj_list` holds the listed cells with a positive count;
`gc_zero_ref_count_list` holds objects and bytecode with count zero not yet
freed, and every listed cell with count zero is either there or freed; a freed
cell has count zero; and the log holds one `finalize` and one `js_free_rt`,
with count zero, per freed cell. -/
structure DrInv (G : GcGraph) (ext : Addr → Nat) (L : List Addr) (x : Addr)
    (rt₀ rt : JSRuntime) : Prop where
  rel : RelInv G (Function.update ext x 0) L (G.Dead L ext x) rt []
  gc_phase : rt.gc_phase = .DECREF
  mark : rt.mark = rt₀.mark
  tmp_obj_list : rt.tmp_obj_list = []
  gc_obj_list : rt.gc_obj_list = L.filter fun c => rt.ref_count c ≠ 0
  zero_mem : ∀ c ∈ rt.gc_zero_ref_count_list, c ∈ L ∧ (G.kind c).isValue = true ∧
    rt.ref_count c = 0 ∧ GcEvent.finalize c ∉ rt.log
  pending : ∀ c ∈ L, rt.ref_count c = 0 →
    GcEvent.finalize c ∈ rt.log ∨ c ∈ rt.gc_zero_ref_count_list
  fin_zero : ∀ c ∈ L, GcEvent.finalize c ∈ rt.log → rt.ref_count c = 0
  seed : rt.ref_count x = 0
  log : ∃ E, rt.log = rt₀.log ++ E ∧
    (∀ c, E.count (.finalize c) = if c ∈ L ∧ GcEvent.finalize c ∈ rt.log then 1 else 0) ∧
    (∀ c k, E.count (.js_free_rt c k) =
      if c ∈ L ∧ GcEvent.finalize c ∈ rt.log ∧ k = 0 then 1 else 0)

/-- **One turn of `free_zero_refcount`.** The head of the list has count zero
(the assertion holds), so it is dead; `free_gc_object` succeeds on it, frees
it at once (the phase is `DECREF`), and the invariant holds again with one
more cell finalized. -/
theorem DrInv.step (hC : RelCtx G (Function.update ext x 0) L (G.Dead L ext x))
    {rt : JSRuntime} {p : Addr} {Z : List Addr} {m : Nat}
    (hI : DrInv G ext L x rt₀ rt) (hz : rt.gc_zero_ref_count_list = p :: Z)
    (hm : (unfinalized L rt).length ≤ m) :
    ∃ rt', free_gc_object G (m + 1) rt p = .ok rt' ∧ DrInv G ext L x rt₀ rt' ∧
      (unfinalized L rt').length < (unfinalized L rt).length := by
  obtain ⟨hpL, hpv, hp0, hnf⟩ := hI.zero_mem p (by simp [hz])
  have hpQ : G.Dead L ext x p :=
    hI.rel.dead_of_zero hC hpL (by have := hI.rel.acc p hpL; simp at this; omega)
  obtain ⟨rt₂, hR₂, hI₂, hF₂, heq⟩ := free_gc_object_spec hC (by rw [hI.gc_phase]; decide)
    hI.rel hpL hpv hnf hpQ (lt_of_lt_of_le (hI.rel.nv_live_lt hpL hpv hnf) hm)
  set rt₁ := (if G.kind p = .JS_OBJECT then rt.set_free_mark p else rt).finalize p
  obtain ⟨hrc₁, hmk₁, hlog₁, hph₁, hgc₁, htmp₁, hz₁⟩ := free_gc_object_start G rt p rt₁ rfl
  have hph₁' : rt₁.gc_phase = .DECREF := hph₁.trans hI.gc_phase
  have hph₂ : rt₂.gc_phase = .DECREF := hR₂.gc_phase.trans hph₁'
  have hle : ∀ d, rt₂.ref_count d ≤ rt.ref_count d := fun d => hrc₁ ▸ hR₂.ref_count_le d
  have hp₂ : rt₂.ref_count p = 0 := Nat.le_zero.mp (hp0 ▸ hle p)
  have heq' : free_gc_object G (m + 1) rt p = .ok ((rt₂.list_del p).js_free_rt p) := by
    rw [heq, if_neg (by simp [hph₂])]
  set rt' := (rt₂.list_del p).js_free_rt p
  -- what the releases did: objects that reached zero were queued, other cells freed
  have hkept : ∀ d, rt.ref_count d = 0 → kept G rt₁ rt₂ d = true := fun d h0 => by
    simp [kept, freed_nv, zeroed_value, hrc₁, h0]
  have hFZ : ∀ d, d ∈ L → rt.ref_count d ≠ 0 → rt₂.ref_count d = 0 →
      (G.kind d).isValue = false ∧ freed_nv G rt₁ rt₂ d ∨
        (G.kind d).isValue = true ∧ zeroed_value G rt₁ rt₂ d := fun d _ h0 h2 => by
    cases hdv : (G.kind d).isValue
    · exact .inl ⟨rfl, hdv, by rw [hrc₁]; exact h0, h2⟩
    · exact .inr ⟨rfl, hph₁', hdv, by rw [hrc₁]; exact h0, h2⟩
  have hchanged : ∀ d, rt₂.ref_count d ≠ rt.ref_count d → d ∈ L := fun d h =>
    by_contra fun hd => h (hF₂ d hd)
  have hunfin : ∀ d ∈ L, rt.ref_count d ≠ 0 → GcEvent.finalize d ∉ rt.log :=
    fun d hd h hf => h (hI.fin_zero d hd hf)
  have hfin' : ∀ d, GcEvent.finalize d ∈ rt'.log ↔
      GcEvent.finalize d ∈ rt.log ∨ d = p ∨ freed_nv G rt₁ rt₂ d := fun d => by
    simp only [rt', js_free_rt_log, list_del_log, List.mem_append, hR₂.mem_finalize, hlog₁]
    simp [or_assoc]
  have hfreed : ∀ d, freed_nv G rt₁ rt₂ d → d ∈ L ∧ GcEvent.finalize d ∉ rt.log := by
    rintro d ⟨-, hd0, hd2⟩
    have hdL := hchanged d (by rw [hd2, ← hrc₁]; exact Ne.symm hd0)
    exact ⟨hdL, hunfin d hdL (by rw [← hrc₁]; exact hd0)⟩
  obtain ⟨Z₂, hZ₂, -, hZ₂mem⟩ := hR₂.zero
  have hZ₂' : ∀ d ∈ Z₂, d ∈ L ∧ (G.kind d).isValue = true ∧ rt₂.ref_count d = 0 ∧
      GcEvent.finalize d ∉ rt.log ∧ d ≠ p := by
    intro d hd
    obtain ⟨-, hdv, hd0, hd2⟩ := (hZ₂mem d).mp hd
    have hdL := hchanged d (by rw [hd2, ← hrc₁]; exact Ne.symm hd0)
    exact ⟨hdL, hdv, hd2, hunfin d hdL (by rw [← hrc₁]; exact hd0),
      fun h => hd0 (by rw [h, hrc₁]; exact hp0)⟩
  have hz' : rt'.gc_zero_ref_count_list = Z₂ ++ Z := by
    have hkz : (p :: Z).filter (kept G rt₁ rt₂) = p :: Z := List.filter_eq_self.mpr
      fun d hd => hkept d (hI.zero_mem d (hz ▸ hd)).2.2.1
    simp only [rt', js_free_rt_gc_zero_ref_count_list, list_del_gc_zero_ref_count_list, hZ₂, hz₁,
      hz, hkz]
    rw [List.erase_append_right _ (fun h => (hZ₂' p h).2.2.2.2 rfl), List.erase_cons_head]
  have hpZ : p ∉ Z := (List.nodup_cons.mp (hz ▸ (List.nodup_append.mp hI.rel.nodup).2.1)).1
  obtain ⟨E, hE, hEf, hEj⟩ := hI.log
  obtain ⟨E₂, hE₂, hE₂f, hE₂j⟩ := hR₂.log
  refine ⟨rt', heq', ⟨hI₂.congr rfl (fun d => by simp [rt']) (nodup_list_del hI₂.nodup p),
    hph₂, hR₂.mark.trans (hmk₁.trans hI.mark), ?_, ?_, fun c hc => ?_, fun c hc h0 => ?_,
    fun c hc hf => ?_, Nat.le_zero.mp (hI.seed ▸ hle x),
    ⟨E ++ (.finalize p :: (E₂ ++ [.js_free_rt p 0])), ?_, fun c => ?_, fun c k => ?_⟩⟩,
    unfinalized_length_lt (fun c h => (hfin' c).mpr (.inl h)) hpL hnf ((hfin' p).mpr (.inr (.inl rfl)))⟩
  · simp [rt', hR₂.tmp_obj_list, htmp₁, hI.tmp_obj_list]
  · -- a listed cell stays on `gc_obj_list` exactly while its count is positive
    simp only [rt', js_free_rt_gc_obj_list, list_del_gc_obj_list, hR₂.gc_obj_list, hgc₁,
      hI.gc_obj_list, List.filter_filter]
    rw [List.erase_of_not_mem (by simp [hp0])]
    refine List.filter_congr fun d hd => ?_
    by_cases h0 : rt.ref_count d = 0
    · simp [h0, Nat.le_zero.mp (h0 ▸ hle d)]
    · by_cases h2 : rt₂.ref_count d = 0
      · rcases hFZ d hd h0 h2 with ⟨-, hf⟩ | ⟨-, hz⟩ <;> simp [kept, h0, h2, *]
      · have hnf' : ¬ freed_nv G rt₁ rt₂ d := fun h => h2 h.2.2
        have hnz : ¬ zeroed_value G rt₁ rt₂ d := fun h => h2 h.2.2.2
        simp [kept, h0, h2, hnf', hnz]
  · rw [hz'] at hc
    rcases List.mem_append.mp hc with hc | hc
    · obtain ⟨hcL, hcv, hc0, hcnf, hcp⟩ := hZ₂' c hc
      refine ⟨hcL, hcv, hc0, fun h => ?_⟩
      rcases (hfin' c).mp h with h | h | h
      · exact hcnf h
      · exact hcp h
      · simp [h.1] at hcv
    · obtain ⟨hcL, hcv, hc0, hcnf⟩ := hI.zero_mem c (hz ▸ List.mem_cons_of_mem p hc)
      have hcp : c ≠ p := fun h => hpZ (h ▸ hc)
      refine ⟨hcL, hcv, Nat.le_zero.mp (hc0 ▸ hle c), fun h => ?_⟩
      rcases (hfin' c).mp h with h | h | h
      · exact hcnf h
      · exact hcp h
      · simp [h.1] at hcv
  · rw [hz', List.mem_append, hfin']
    by_cases hc0 : rt.ref_count c = 0
    · rcases hI.pending c hc hc0 with h | h
      · exact .inl (.inl h)
      · rw [hz] at h
        rcases List.mem_cons.mp h with h | h
        · exact .inl (.inr (.inl h))
        · exact .inr (.inr h)
    · rcases hFZ c hc hc0 h0 with ⟨-, hf⟩ | ⟨-, hzv⟩
      · exact .inl (.inr (.inr hf))
      · exact .inr (.inl ((hZ₂mem c).mpr hzv))
  · rcases (hfin' c).mp hf with h | rfl | h
    · exact Nat.le_zero.mp (hI.fin_zero c hc h ▸ hle c)
    · exact hp₂
    · exact h.2.2
  · simp only [rt', js_free_rt_log, list_del_log, list_del_ref_count, hp₂, hE₂, hlog₁, hE,
      List.append_assoc, List.singleton_append, List.cons_append, List.nil_append]
  · have ht : [GcEvent.js_free_rt p 0].count (.finalize c) = 0 := by simp
    rw [List.count_append, List.count_cons, List.count_append, ht, hEf, hE₂f]
    simp only [hfin' c]
    by_cases hcp : c = p
    · subst hcp
      have : ¬ freed_nv G rt₁ rt₂ c := fun h => by simp [h.1] at hpv
      simp [hpL, hnf, this]
    · by_cases hcF : freed_nv G rt₁ rt₂ c
      · simp [hcF, hcp, Ne.symm hcp, (hfreed c hcF).1, (hfreed c hcF).2]
      · simp [hcF, hcp, Ne.symm hcp]
  · rw [List.count_append, List.count_cons, List.count_append, hEj, hE₂j]
    simp only [hfin' c]
    by_cases hcp : c = p
    · subst hcp
      have : ¬ freed_nv G rt₁ rt₂ c := fun h => by simp [h.1] at hpv
      rcases eq_or_ne k 0 with rfl | hk
      · simp [hpL, hnf, this]
      · simp [hnf, this, hk, Ne.symm hk]
    · by_cases hcF : freed_nv G rt₁ rt₂ c
      · simp [hcF, hcp, Ne.symm hcp, (hfreed c hcF).1, (hfreed c hcF).2]
      · simp [hcF, hcp, Ne.symm hcp]

/-- **The loop of `free_zero_refcount`.** With fuel for two turns per cell
not yet finalized, the loop frees the list's head until the list is empty and
returns with the phase reset. -/
theorem free_zero_refcount_loop_spec
    (hC : RelCtx G (Function.update ext x 0) L (G.Dead L ext x)) :
    ∀ n rt, DrInv G ext L x rt₀ rt → 2 * (unfinalized L rt).length + 1 ≤ n →
      ∃ rt', free_zero_refcount_loop G n rt = .ok (rt'.set_phase .NONE) ∧
        DrInv G ext L x rt₀ rt' ∧ rt'.gc_zero_ref_count_list = []
  | 0, _, _, hn => absurd hn (by omega)
  | n + 1, rt, hI, hn => by
    rw [free_zero_refcount_loop]
    cases hz : rt.gc_zero_ref_count_list with
    | nil => exact ⟨rt, rfl, hI, hz⟩
    | cons p Z =>
      obtain ⟨hpL, -, hp0, hnf⟩ := hI.zero_mem p (by simp [hz])
      have hpos : 0 < (unfinalized L rt).length :=
        List.length_pos_of_mem (show p ∈ unfinalized L rt by simp [unfinalized, hpL, hnf])
      match n, hn with
      | 0, hn => omega
      | m + 1, hn =>
        obtain ⟨rt', h', hI', hlt⟩ := hI.step hC hz (m := m) (by omega)
        obtain ⟨rt'', h'', hI'', hz''⟩ :=
          free_zero_refcount_loop_spec hC (m + 1) rt' hI' (by omega)
        exact ⟨rt'', by simp [hp0, h', h''], hI'', hz''⟩

section done

variable {rt : JSRuntime}

/-- Once the list is empty, a listed cell has been freed exactly when its
count is zero. -/
theorem DrInv.finalized_iff (hI : DrInv G ext L x rt₀ rt) (hz : rt.gc_zero_ref_count_list = [])
    {c : Addr} (hc : c ∈ L) : GcEvent.finalize c ∈ rt.log ↔ rt.ref_count c = 0 :=
  ⟨hI.fin_zero c hc, fun h0 => (hI.pending c hc h0).resolve_right (by simp [hz])⟩

/-- Once the list is empty, the cells not freed are those still on
`gc_obj_list`. -/
theorem DrInv.unfinalized_eq (hI : DrInv G ext L x rt₀ rt)
    (hz : rt.gc_zero_ref_count_list = []) : unfinalized L rt = rt.gc_obj_list := by
  rw [hI.gc_obj_list, unfinalized]
  exact List.filter_congr fun c hc => by simp [hI.finalized_iff hz hc]

/-- **Every dead cell is freed.** By induction on `GcGraph.Dead`: a dead cell
other than `x` has no external reference, and every holder is dead, hence
freed, so its count is zero. -/
theorem DrInv.dead_finalized (hI : DrInv G ext L x rt₀ rt) (hz : rt.gc_zero_ref_count_list = [])
    {c : Addr} (hd : G.Dead L ext x c) : c ∈ L → GcEvent.finalize c ∈ rt.log := by
  induction hd with
  | seed => exact fun hx => (hI.finalized_iff hz hx).mpr hI.seed
  | @orphan c hc hext _ ih =>
    intro _
    have hin : G.indeg (unfinalized L rt) c = 0 := (G.indeg_eq_zero_iff _ c).mpr fun p hp hcp => by
      rw [unfinalized, List.mem_filter, decide_eq_true_eq] at hp
      exact hp.2 (ih p hp.1 hcp hp.1)
    have hext' : Function.update ext x 0 c = 0 := by
      by_cases hcx : c = x
      · rw [hcx, Function.update_same]
      · rw [Function.update_noteq hcx, hext]
    have hacc := hI.rel.acc c hc
    rw [hext', hin, List.count_nil] at hacc
    exact (hI.finalized_iff hz hc).mpr hacc

/-- Once the list is empty, the cells left on `gc_obj_list` are the listed
cells that are not dead. -/
theorem DrInv.mem_gc_obj_list (hI : DrInv G ext L x rt₀ rt)
    (hz : rt.gc_zero_ref_count_list = []) (c : Addr) :
    c ∈ rt.gc_obj_list ↔ c ∈ L ∧ ¬ G.Dead L ext x c := by
  rw [hI.gc_obj_list, List.mem_filter, decide_eq_true_eq]
  refine and_congr_right fun hc => ⟨fun h0 hd => h0 ?_, fun hd h0 => hd ?_⟩
  · exact (hI.finalized_iff hz hc).mp (hI.dead_finalized hz hd hc)
  · exact hI.rel.fin c hc ((hI.finalized_iff hz hc).mpr h0)

/-- **The drain leaves the heap at rest.** The survivors are still on
`gc_obj_list`, unmarked, and each count is the external count plus the edges
from the survivors. -/
theorem DrInv.atRest (h₀ : AtRest G ext rt₀) (hI : DrInv G ext rt₀.gc_obj_list x rt₀ rt)
    (hz : rt.gc_zero_ref_count_list = []) : AtRest G ext (rt.set_phase .NONE) := by
  have hmem : ∀ c, c ∈ rt.gc_obj_list ↔ c ∈ rt₀.gc_obj_list ∧ rt.ref_count c ≠ 0 := fun c => by
    rw [hI.gc_obj_list, List.mem_filter, decide_eq_true_eq]
  -- a survivor's count is its external count plus the edges from the survivors
  have hacc : ∀ c ∈ rt.gc_obj_list, rt.ref_count c = G.indeg rt.gc_obj_list c + ext c := by
    intro c hc
    have hcx : c ≠ x := fun h => (hmem c).mp hc |>.2 (h ▸ hI.seed)
    have := hI.rel.acc c ((hmem c).mp hc).1
    rw [hI.unfinalized_eq hz, Function.update_noteq hcx, List.count_nil] at this
    omega
  refine ⟨⟨?_, fun q hq c hcq => (hmem c).mpr ⟨h₀.pre.closed q ((hmem q).mp hq).1 c hcq, ?_⟩,
    fun c hc => ?_, hacc⟩, hI.tmp_obj_list, hz, rfl,
    fun c hc hf => ((hmem c).mp hc).2 (hI.fin_zero c ((hmem c).mp hc).1 hf)⟩
  · rw [set_phase_gc_obj_list, hI.gc_obj_list]
    exact h₀.pre.nodup.filter _
  · have hcL := h₀.pre.closed q ((hmem q).mp hq).1 c hcq
    have hin : G.indeg rt.gc_obj_list c ≠ 0 := fun h0 =>
      (G.indeg_eq_zero_iff _ c).mp h0 q hq hcq
    have := hI.rel.acc c hcL
    rw [hI.unfinalized_eq hz] at this
    omega
  · rw [set_phase_mark, hI.mark]
    exact h₀.pre.mark c ((hmem c).mp hc).1

end done

/-- The start of the drain: `JS_FreeValueRT` on the last reference to `x`
zeroes its count, moves it to `gc_zero_ref_count_list`, sets the phase to
`DECREF` and enters the loop. -/
theorem JS_FreeValueRT_start {rt : JSRuntime} (hph : rt.gc_phase = .NONE)
    (hxv : (G.kind x).isValue = true) (hx1 : rt.ref_count x = 1) :
    JS_FreeValueRT G rt x = free_zero_refcount_loop G
      (2 * (rt.gc_obj_list.length + rt.tmp_obj_list.length + rt.gc_zero_ref_count_list.length) + 2)
      ((((rt.set_ref_count x 0).list_del x).list_add_zero x).set_phase .DECREF) := by
  simp [JS_FreeValueRT, free_gc_ref, hx1, hxv, hph]

/-- The state the loop starts from satisfies the drain invariant, over a heap
at rest whose cells are all referenced and in which the released reference was
the last one to `x`, held from outside. -/
theorem DrInv.start {rt : JSRuntime} (h : AtRest G ext rt) (hx : x ∈ rt.gc_obj_list)
    (hxv : (G.kind x).isValue = true) (hx1 : rt.ref_count x = 1) (hext : 0 < ext x)
    (hpos : ∀ c ∈ rt.gc_obj_list, rt.ref_count c ≠ 0) :
    DrInv G ext rt.gc_obj_list x rt
      ((((rt.set_ref_count x 0).list_del x).list_add_zero x).set_phase .DECREF) := by
  have hnd := h.pre.nodup
  have hin : G.indeg rt.gc_obj_list x = 0 := by have := h.pre.ref_count x hx; omega
  have hunf : unfinalized rt.gc_obj_list
      ((((rt.set_ref_count x 0).list_del x).list_add_zero x).set_phase .DECREF) = rt.gc_obj_list :=
    List.filter_eq_self.mpr fun c hc => by simpa using h.live c hc
  have hzero : ∀ c ∈ rt.gc_obj_list, Function.update rt.ref_count x 0 c = 0 → c = x :=
    fun c hc h0 => by_contra fun hcx => hpos c hc (by simpa [hcx] using h0)
  refine ⟨⟨fun c hc => ?_, fun c hc hcv => ?_, fun c hc hf => absurd hf (by simpa using h.live c hc),
    ?_, by simp⟩, rfl, rfl, by simp [h.tmp_obj_list], ?_, fun c hc => ?_,
    fun c hc h0 => .inr (by simp [hzero c hc (by simpa using h0)]),
    fun c hc hf => absurd hf (by simpa using h.live c hc), by simp,
    ⟨[], by simp, fun c => ?_, fun c k => ?_⟩⟩
  · rw [hunf, List.count_nil, add_zero]
    by_cases hcx : c = x
    · rw [hcx]; simp [hin]
    · simp [hcx, h.pre.ref_count c hc, add_comm]
  · have hcx : c ≠ x := fun h => by simp [h, hxv] at hcv
    exact iff_of_false (by simpa using h.live c hc) (by simpa [hcx] using hpos c hc)
  · simpa [h.tmp_obj_list, h.gc_zero_ref_count_list, List.nodup_append, hnd.erase x]
      using hnd.not_mem_erase
  · simp only [set_phase_gc_obj_list, list_add_zero_gc_obj_list, list_del_gc_obj_list,
      set_ref_count_gc_obj_list, hnd.erase_eq_filter, set_phase_ref_count,
      list_add_zero_ref_count, list_del_ref_count, set_ref_count_ref_count]
    refine List.filter_congr fun c hc => ?_
    by_cases hcx : c = x
    · rw [hcx]; simp
    · simp [hcx, hpos c hc]
  · simp [h.gc_zero_ref_count_list] at hc
    rw [hc]
    exact ⟨hx, hxv, by simp, by simpa using h.live x hx⟩
  · rw [if_neg fun hc => h.live c hc.1 hc.2]; rfl
  · rw [if_neg fun hc => h.live c hc.1 hc.2.1]; rfl

/-- **`JS_FreeValueRT` on the last reference to an object or bytecode.** Over
a heap at rest in which every listed cell is referenced and every free path
releases what `mark_children` enumerates, dropping the last reference to `x`,
one held from outside, runs the drain to its end: the cells that go are
exactly those of `GcGraph.Dead`, each finalized once and its memory returned
once with count zero; every survivor's count drops by the edges from the cells
that went; and the heap is at rest again. -/
theorem JS_FreeValueRT_drain (hrel : G.ReleasesChildren) {rt : JSRuntime} (h : AtRest G ext rt)
    (hx : x ∈ rt.gc_obj_list) (hxv : (G.kind x).isValue = true) (hx1 : rt.ref_count x = 1)
    (hext : 0 < ext x) (hpos : ∀ c ∈ rt.gc_obj_list, rt.ref_count c ≠ 0) :
    ∃ rt', JS_FreeValueRT G rt x = .ok rt' ∧
      (∀ c, c ∈ rt'.gc_obj_list ↔ c ∈ rt.gc_obj_list ∧ ¬ G.Dead rt.gc_obj_list ext x c) ∧
      (∃ E, rt'.log = rt.log ++ E ∧
        (∀ c, E.count (.finalize c) = if c ∈ rt.gc_obj_list ∧ c ∉ rt'.gc_obj_list then 1 else 0) ∧
        (∀ c k, E.count (.js_free_rt c k) =
          if c ∈ rt.gc_obj_list ∧ c ∉ rt'.gc_obj_list ∧ k = 0 then 1 else 0)) ∧
      (∀ c ∈ rt'.gc_obj_list, rt'.ref_count c +
        G.indeg (rt.gc_obj_list.filter fun d => d ∉ rt'.gc_obj_list) c = rt.ref_count c) ∧
      AtRest G ext rt' := by
  have hC : RelCtx G (Function.update ext x 0) rt.gc_obj_list (G.Dead rt.gc_obj_list ext x) :=
    ⟨h.pre.nodup, h.pre.closed, hrel, dead_closed⟩
  have hI₀ := DrInv.start h hx hxv hx1 hext hpos
  obtain ⟨rt₁, h₁, hI, hz⟩ := free_zero_refcount_loop_spec hC
    (2 * (rt.gc_obj_list.length + rt.tmp_obj_list.length + rt.gc_zero_ref_count_list.length) + 2) _ hI₀
    (by have := List.length_filter_le (fun p => decide (GcEvent.finalize p ∉ rt.log)) rt.gc_obj_list
        simp only [unfinalized, set_phase_log, list_add_zero_log, list_del_log,
          set_ref_count_log] at this ⊢
        omega)
  have hfin : ∀ c ∈ rt.gc_obj_list, GcEvent.finalize c ∈ rt₁.log ↔ c ∉ rt₁.gc_obj_list :=
    fun c hc => by rw [hI.finalized_iff hz hc, hI.gc_obj_list]; simp [hc]
  have hrest := hI.atRest h hz
  obtain ⟨E, hE, hEf, hEj⟩ := hI.log
  refine ⟨rt₁.set_phase .NONE, (JS_FreeValueRT_start h.gc_phase hxv hx1).trans h₁,
    hI.mem_gc_obj_list hz, ⟨E, hE, fun c => ?_, fun c k => ?_⟩, fun c hc => ?_, hrest⟩
  · rw [hEf]; exact if_congr (and_congr_right fun hc => hfin c hc) rfl rfl
  · rw [hEj]; exact if_congr (and_congr_right fun hc => by rw [hfin c hc]; rfl) rfl rfl
  · -- the listed cells split into the survivors and the cells that went
    have hsplit : rt.gc_obj_list.filter (fun d => d ∉ rt₁.gc_obj_list) =
        rt.gc_obj_list.filter fun d => !decide (rt₁.ref_count d ≠ 0) :=
      List.filter_congr fun d hd => by simp [hI.gc_obj_list, hd]
    have := G.indeg_filter_add rt.gc_obj_list (fun d => decide (rt₁.ref_count d ≠ 0)) c
    rw [← hI.gc_obj_list] at this
    simp only [set_phase_gc_obj_list, set_phase_ref_count, hsplit] at hc ⊢
    have h₁c := hrest.pre.ref_count c hc
    have h₀c := h.pre.ref_count c (((hI.mem_gc_obj_list hz c).mp hc).1)
    simp only [set_phase_gc_obj_list, set_phase_ref_count] at h₁c
    omega

end drain

/-- The sample heap: dropping the outside reference to the object `0` frees
it and the object `1` it holds. -/
theorem JS_FreeValueRT_drain_sample :
    sampleGraph.ReleasesChildren ∧ AtRest sampleGraph sampleExt sampleHeap ∧
      0 ∈ sampleHeap.gc_obj_list ∧ (sampleGraph.kind 0).isValue = true ∧
      sampleHeap.ref_count 0 = 1 ∧ 0 < sampleExt 0 ∧
      (∀ c ∈ sampleHeap.gc_obj_list, sampleHeap.ref_count c ≠ 0) ∧
      ∃ rt', JS_FreeValueRT sampleGraph sampleHeap 0 = .ok rt' :=
  ⟨sampleGraph_releasesChildren, sampleHeap_atRest, by decide, rfl, rfl, by decide, by decide,
    (JS_FreeValueRT_drain sampleGraph_releasesChildren sampleHeap_atRest (x := 0) (by decide) rfl rfl
      (by decide) (by decide)).imp fun _ h => h.1⟩

/-- Edges of the weak-reference heap: the map `1` holds the value `2`. -/
def weakRefChildren : Addr → List Addr
  | 1 => [2]
  | _ => []

/-- Four objects: `0` is a key of the map `1`, whose entry holds `2`; `3` is
listed with nothing pointing at it. `mark_children` of the map marks the
value, but it is the key's free path, through `reset_weak_ref`, that releases
it. -/
def weakRefGraph : GcGraph where
  kind _ := .JS_OBJECT
  children := weakRefChildren
  released
    | 0 => [2]
    | 1 => [2]
    | _ => []

/-- The key `0` and the map `1` are held from outside. -/
def weakRefExt : Addr → Nat
  | 0 => 1
  | 1 => 1
  | _ => 0

/-- The weak-reference heap at rest: `3` has count zero. -/
def weakRefHeap : JSRuntime where
  ref_count c := if c < 3 then 1 else 0
  mark _ := 0
  free_mark _ := false
  gc_obj_list := [0, 1, 2, 3]
  tmp_obj_list := []
  gc_zero_ref_count_list := []
  gc_phase := .NONE
  log := []

/-- **The cells the drain frees are not the least dead set.** Dropping the
outside reference to the key `0` frees `0` and the map's value `2`, which the
map still holds by a `mark_children` edge, so `2` is not in
`GcGraph.Dead`; and it leaves `3`, which is in `GcGraph.Dead` (no
reference at all) but has count zero already and is on no list the drain
reads. -/
theorem JS_FreeValueRT_weak_ref :
    AtRest weakRefGraph weakRefExt weakRefHeap ∧
      ¬ weakRefGraph.Dead weakRefHeap.gc_obj_list weakRefExt 0 2 ∧
      weakRefGraph.Dead weakRefHeap.gc_obj_list weakRefExt 0 3 ∧
      ∃ rt', JS_FreeValueRT weakRefGraph weakRefHeap 0 = .ok rt' ∧
        2 ∉ rt'.gc_obj_list ∧ 3 ∈ rt'.gc_obj_list :=
  ⟨⟨⟨by decide, by decide, by decide, by decide⟩, rfl, rfl, rfl, by simp [weakRefHeap]⟩,
    fun h => by
      cases h with
      | orphan _ _ hpar =>
        cases hpar 1 (by decide) (by decide) with
        | orphan _ h1 _ => exact absurd h1 (by decide),
    .orphan (by decide) rfl fun p _ h => by
      simp only [weakRefGraph] at h
      unfold weakRefChildren at h
      split at h <;> simp at h,
    ⟨_, rfl, by decide, by decide⟩⟩

end SlowJsGc

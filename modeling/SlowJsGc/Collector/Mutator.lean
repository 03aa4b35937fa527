import SlowJsGc.Collector.Zombies

/-!
# The heap under a running program

Between collections a program reaches the collector of `gc.c` through two
calls: it drops a strong reference it holds with `JS_FreeValueRT` (and
`__JS_FreeValueRT` behind it), and it runs a collection with `JS_RunGC`,
directly or through `js_trigger_gc`. The references the program holds are
ghost state, `ext`: `ext c` strong references to `c` from outside the heap. A
step of the system (`mutator_step`) is one of the two calls, on a reference
the program holds to a live object or bytecode; the graph of the heap is
fixed, so the program does not store new references here.

`Quiescent` is what holds between two calls: the heap is at rest, every listed
cell is referenced, and the `free_mark` of an object is set exactly when it
has been finalized (so `JS_IsLiveObject` is false exactly for finalized
objects). From a quiescent state each call succeeds and leaves a quiescent
state (`Quiescent.free_value_shared`, `Quiescent.free_value_last`,
`Quiescent.run_gc`). Over every run (`mutator_run`): no cell the program can
still reach is freed, every cell that leaves `gc_obj_list` is finalized once
and has its memory returned once, with count zero, and nothing else is, and
an object is live for `JS_IsLiveObject` exactly while it is listed; and every
state of a run can go on, both calls succeeding there
(`mutator_run_progress`). The graph of a heap of cells meets the two
hypotheses of these results when its references have the kinds the marker
allows and its objects are paired with their free paths
(`JSHeap.gc_graph_run`).
-/

set_option autoImplicit false

namespace SlowJsGc

open JSRuntime

variable {G : GcGraph}

/-! ## The system -/

/-- The marks record the finalized objects: an object's `free_mark` is set
exactly when its free path has started. -/
def MarksFinalized (G : GcGraph) (rt : JSRuntime) : Prop :=
  ∀ c, G.kind c = .JS_OBJECT → (rt.free_mark c = true ↔ GcEvent.finalize c ∈ rt.log)

/-- The state between two calls of the program. -/
structure Quiescent (G : GcGraph) (ext : Addr → Nat) (rt : JSRuntime) : Prop where
  at_rest : AtRest G ext rt
  referenced : ∀ c ∈ rt.gc_obj_list, rt.ref_count c ≠ 0
  marks : MarksFinalized G rt

/-- One call of the program, with the references it holds. -/
inductive mutator_step (G : GcGraph) :
    (Addr → Nat) × JSRuntime → (Addr → Nat) × JSRuntime → Prop
  /-- `JS_FreeValueRT` on a reference the program holds to a listed object or
  bytecode. -/
  | free_value {ext : Addr → Nat} {rt rt' : JSRuntime} {x : Addr} :
      x ∈ rt.gc_obj_list → 0 < ext x → (G.kind x).isValue = true →
      JS_FreeValueRT G rt x = .ok rt' → mutator_step G (ext, rt) (Function.update ext x (ext x - 1), rt')
  /-- `JS_RunGC`. -/
  | run_gc {ext : Addr → Nat} {rt rt' : JSRuntime} :
      JS_RunGC G rt = .ok rt' → mutator_step G (ext, rt) (ext, rt')

/-- The log from `rt` to `rt'` holds one `finalize` and one `js_free_rt`, with
count zero, for every cell that left `gc_obj_list`, and no other. -/
def FreedOnce (rt rt' : JSRuntime) : Prop :=
  ∃ E, rt'.log = rt.log ++ E ∧
    (∀ c, E.count (.finalize c) = if c ∈ rt.gc_obj_list ∧ c ∉ rt'.gc_obj_list then 1 else 0) ∧
    (∀ c k, E.count (.js_free_rt c k) =
      if c ∈ rt.gc_obj_list ∧ c ∉ rt'.gc_obj_list ∧ k = 0 then 1 else 0)

/-- A stretch that keeps the list and the log frees nothing. -/
theorem FreedOnce.of_same {rt rt' : JSRuntime} (hl : rt'.gc_obj_list = rt.gc_obj_list)
    (hlog : rt'.log = rt.log) : FreedOnce rt rt' :=
  ⟨[], by rw [hlog, List.append_nil], fun c => by simp [hl],
    fun c k => by rw [hl, if_neg fun h => h.2.1 h.1]; rfl⟩

/-- Over two stretches in which a list only shrinks, a cell leaves it in the
first or in the second, never in both. -/
theorem leaves_add {a b c d : Prop} [Decidable a] [Decidable b] [Decidable c] [Decidable d]
    (hba : b → a) (hcb : c → b) :
    ((if a ∧ ¬ b ∧ d then 1 else 0) + (if b ∧ ¬ c ∧ d then 1 else 0) : Nat) =
      if a ∧ ¬ c ∧ d then 1 else 0 := by
  by_cases hb : b <;> by_cases hc : c <;> simp_all

/-- Two stretches of a run whose lists only shrink make one. -/
theorem FreedOnce.trans {rt₁ rt₂ rt₃ : JSRuntime} (h₁₂ : FreedOnce rt₁ rt₂) (h₂₃ : FreedOnce rt₂ rt₃)
    (hs₂ : ∀ c ∈ rt₂.gc_obj_list, c ∈ rt₁.gc_obj_list)
    (hs₃ : ∀ c ∈ rt₃.gc_obj_list, c ∈ rt₂.gc_obj_list) : FreedOnce rt₁ rt₃ := by
  obtain ⟨E₁, hE₁, hf₁, hj₁⟩ := h₁₂
  obtain ⟨E₂, hE₂, hf₂, hj₂⟩ := h₂₃
  refine ⟨E₁ ++ E₂, by rw [hE₂, hE₁, List.append_assoc], fun c => ?_, fun c k => ?_⟩
  · rw [List.count_append, hf₁, hf₂]
    simpa using leaves_add (d := True) (hs₂ c) (hs₃ c)
  · rw [List.count_append, hj₁, hj₂]
    exact leaves_add (hs₂ c) (hs₃ c)

/-- The at-rest invariant reads the external counts of listed cells only. -/
theorem AtRest.congr_ext {ext ext' : Addr → Nat} {rt : JSRuntime} (h : AtRest G ext rt)
    (he : ∀ c ∈ rt.gc_obj_list, ext' c = ext c) : AtRest G ext' rt :=
  ⟨⟨h.pre.nodup, h.pre.closed, h.pre.mark, fun c hc => by rw [he c hc]; exact h.pre.ref_count c hc⟩,
    h.tmp_obj_list, h.gc_zero_ref_count_list, h.gc_phase, h.live⟩

/-- **No listed object is a zombie** between two calls, and an object is not
live exactly when it has been finalized. -/
theorem Quiescent.is_live {ext : Addr → Nat} {rt : JSRuntime} (hQ : Quiescent G ext rt) {c : Addr}
    (hco : G.kind c = .JS_OBJECT) :
    (JS_IsLiveObject rt (.object c) = true ↔ GcEvent.finalize c ∉ rt.log) ∧
      (c ∈ rt.gc_obj_list → JS_IsLiveObject rt (.object c) = true) := by
  have hlive : JS_IsLiveObject rt (.object c) = true ↔ GcEvent.finalize c ∉ rt.log := by
    rw [JS_IsLiveObject, Bool.not_eq_true', ← Bool.not_eq_true, hQ.marks c hco]
  exact ⟨hlive, fun hc => hlive.mpr (hQ.at_rest.live c hc)⟩

/-! ## The marks follow every free path -/

/-- A step that sets the mark of `p` if it is an object, and finalizes no
object or bytecode but `p`, keeps the marks recording the finalized objects. -/
theorem MarksFinalized.of_step {rt rt' : JSRuntime} {p : Addr} (h : MarksFinalized G rt)
    (hfm : rt'.free_mark = (if G.kind p = .JS_OBJECT then rt.set_free_mark p else rt).free_mark)
    (hfin : ∀ c, (G.kind c).isValue →
      (GcEvent.finalize c ∈ rt'.log ↔ GcEvent.finalize c ∈ rt.log ∨ c = p)) :
    MarksFinalized G rt' := by
  intro c hco
  rw [hfm, hfin c (by simp [hco, JSGCObjectTypeEnum.isValue]), ← h c hco]
  by_cases hcp : c = p
  · subst hcp; simp [hco]
  · split <;> simp [Function.update_noteq hcp, hcp]

/-- A turn of the first loop of `gc_free_cycles`. -/
theorem MarksFinalized.turn {m : Nat} {s s' : JSRuntime} (h : MarksFinalized G s)
    (hph : s.gc_phase ≠ .NONE)
    (hnd : (s.gc_obj_list ++ s.tmp_obj_list ++ s.gc_zero_ref_count_list).Nodup)
    (ht : gc_free_cycles_turn G (m + 1) s s') : MarksFinalized G s' := by
  have ⟨p, T, htmp, _⟩ := ht
  obtain ⟨hfm, hfin⟩ := gc_free_cycles_turn_zombie hph hnd ht htmp
  exact h.of_step hfm hfin

/-- Every state of a run of turns from the start of the first loop. -/
theorem MarksFinalized.turns {ext : Addr → Nat} {L : List Addr} {rt₀ : JSRuntime} {m : Nat}
    {P R : List Addr} {s s' : JSRuntime} (h : MarksFinalized G s) (hX : FcCtx G ext L rt₀)
    (hm : L.length < m) (hI : FcInv G ext L rt₀ P R s) (hM : FcMarks G rt₀ s)
    (hs : Relation.ReflTransGen (gc_free_cycles_turn G (m + 1)) s s') : MarksFinalized G s' := by
  induction hs with
  | refl => exact h
  | tail hs' ht ih =>
    obtain ⟨_, _, hI', _⟩ := hI.reach hX hm hM hs'
    exact ih.turn (by rw [hI'.gc_phase]; decide) hI'.rel.nodup ht

/-- The loop of `free_zero_refcount`, from a drain state. -/
theorem MarksFinalized.free_zero_refcount : ∀ (n : Nat) (rt r : JSRuntime),
    MarksFinalized G rt → Draining rt → free_zero_refcount_loop G n rt = .ok r → MarksFinalized G r
  | 0, _, _, _, _, h => by simp [free_zero_refcount_loop] at h
  | n + 1, rt, r, hM, hD, h => by
    rw [free_zero_refcount_loop] at h
    split at h
    · cases h; exact fun c hco => by simpa using hM c hco
    · rename_i p Z hz
      split at h
      · cases h
      obtain ⟨s, h₁, h⟩ := except_bind_eq_ok h
      cases n with
      | zero => simp [free_gc_object] at h₁
      | succ m =>
        obtain ⟨hfm, hfin⟩ := free_gc_object_zombie G (by rw [hD.gc_phase]; decide) hD.nodup h₁
        exact MarksFinalized.free_zero_refcount (m + 1) s r (hM.of_step hfm hfin)
          (hD.turn hz h₁).1 h

/-! ## Each call keeps the heap quiescent -/

/-- **`JS_RunGC` from a quiescent heap** succeeds and leaves a quiescent heap
whose listed cells are exactly those reachable from the program's references;
the others are finalized and freed once. -/
theorem Quiescent.run_gc (hwk : G.WellKinded) (hrel : G.ReleasesChildren) {ext : Addr → Nat}
    {rt : JSRuntime} (hQ : Quiescent G ext rt) :
    ∃ rt', JS_RunGC G rt = .ok rt' ∧ Quiescent G ext rt' ∧
      (∀ c, c ∈ rt'.gc_obj_list ↔ G.Reach rt.gc_obj_list ext c) ∧ FreedOnce rt rt' := by
  have h := hQ.at_rest
  have hcl := h.pre.closed
  obtain ⟨rt₁, rt₂, h₁, h₂, hX, hS, -, hz₂, hnv₂⟩ :=
    h.decref_scan hrel fun c hc _ => hQ.referenced c hc
  obtain ⟨rt', h', hgc, htmp, hz, hph, hmk, hrc', E, hE, hEf, hEj, -⟩ :=
    gc_free_cycles_spec hX hwk hz₂ hS.ref_count hnv₂
  have hmem : ∀ c, c ∈ rt'.gc_obj_list ↔ G.Reach rt.gc_obj_list ext c := fun c => by
    rw [hgc, hS.mem_gc_obj_list]
  have hrc : ∀ c ∈ rt'.gc_obj_list, rt'.ref_count c = G.indeg rt'.gc_obj_list c + ext c :=
    fun c hc => by rw [hrc' c (GcGraph.Reach.mem hcl ((hmem c).mp hc)), hgc]
  -- the marks: `gc_decref` and `gc_scan` touch neither marks nor log
  obtain ⟨r, hr, hfm, hfin⟩ := gc_free_cycles_marks G h'
  rw [gc_free_cycles_fuel_eq hX hz₂] at hr
  have hM₂ : MarksFinalized G (rt₂.set_phase .REMOVE_CYCLES) := fun c hco => by
    simpa [hS.free_mark, hS.log] using hQ.marks c hco
  have hMr := hM₂.turns hX (Nat.lt_succ_self _) (FcInv.start hX hz₂ hS.ref_count hnv₂)
    (FcMarks.start hX hS fun c hc hco => (hQ.is_live hco).2 hc) hr
  refine ⟨rt', by simp [JS_RunGC, h₁, h₂, h'], ⟨⟨⟨?_, fun q hq c hc => ?_, fun c hc => ?_, hrc⟩,
    htmp, hz, hph, fun c hc => ?_⟩, fun c hc => ?_, fun c hco => ?_⟩, hmem,
    E, by rw [hE, hS.log], fun c => ?_, fun c k => ?_⟩
  · exact hgc ▸ (List.nodup_append.mp hX.nodup).1
  · exact (hmem c).mpr (.child ((hmem q).mp hq) hc)
  · rw [hmk]; exact hS.mark c (hgc ▸ hc)
  · have hcD : c ∉ rt₂.tmp_obj_list := fun h' => ((hX.mem_tmp_obj_list c).mp h').2 ((hmem c).mp hc)
    have hE0 : E.count (.finalize c) = 0 := by rw [hEf]; simp [hcD]
    rw [hE, hS.log, List.mem_append, not_or]
    exact ⟨h.live c (GcGraph.Reach.mem hcl ((hmem c).mp hc)), List.count_eq_zero.mp hE0⟩
  · -- a survivor is held by the program or by another survivor
    rw [hrc c hc]
    cases (hmem c).mp hc with
    | root _ hpos => omega
    | child hp hcp =>
      have := (G.indeg_eq_zero_iff _ c).not.mpr fun h0 => h0 _ ((hmem _).mpr hp) hcp
      omega
  · rw [hfm, hfin]; exact hMr c hco
  · rw [hEf]; exact if_congr (by rw [hX.mem_tmp_obj_list, hmem]) rfl rfl
  · rw [hEj]; exact if_congr (by rw [hX.mem_tmp_obj_list, hmem, and_assoc]) rfl rfl

/-- `JS_FreeValueRT` on a reference that is not the last: the count drops by
one and nothing else happens. -/
theorem JS_FreeValueRT_shared {rt : JSRuntime} {x : Addr} (h2 : 1 < rt.ref_count x) :
    JS_FreeValueRT G rt x = .ok (rt.set_ref_count x (rt.ref_count x - 1)) := by
  have h0 : rt.ref_count x ≠ 0 := by omega
  have h1 : rt.ref_count x - 1 ≠ 0 := by omega
  simp [JS_FreeValueRT, free_gc_ref, h0, h1]

/-- Dropping a reference that is not the last keeps the heap quiescent, with
one reference fewer held by the program. -/
theorem Quiescent.free_value_shared {ext : Addr → Nat} {rt : JSRuntime} {x : Addr}
    (hQ : Quiescent G ext rt) (hx : x ∈ rt.gc_obj_list) (hext : 0 < ext x)
    (h2 : 1 < rt.ref_count x) :
    Quiescent G (Function.update ext x (ext x - 1)) (rt.set_ref_count x (rt.ref_count x - 1)) := by
  have h := hQ.at_rest
  have hx₀ := h.pre.ref_count x hx
  refine ⟨⟨⟨h.pre.nodup, h.pre.closed, h.pre.mark, fun c hc => ?_⟩, h.tmp_obj_list,
    h.gc_zero_ref_count_list, h.gc_phase, h.live⟩, fun c hc => ?_, hQ.marks⟩
  · by_cases hcx : c = x
    · subst hcx; simp; omega
    · simp [hcx, h.pre.ref_count c hc]
  · by_cases hcx : c = x
    · subst hcx; simp; omega
    · simpa [hcx] using hQ.referenced c hc

/-- The marks after a drain: `JS_FreeValueRT` on a last reference runs
`free_zero_refcount` from a drain state with the marks unchanged. -/
theorem MarksFinalized.JS_FreeValueRT {ext : Addr → Nat} {rt rt' : JSRuntime} {x : Addr}
    (hM : MarksFinalized G rt) (h : AtRest G ext rt) (hxv : (G.kind x).isValue = true)
    (h1 : rt.ref_count x = 1) (hrun : JS_FreeValueRT G rt x = .ok rt') : MarksFinalized G rt' := by
  rw [JS_FreeValueRT_start h.gc_phase hxv h1] at hrun
  refine MarksFinalized.free_zero_refcount _ _ _ (fun c hco => by simpa using hM c hco)
    ⟨by simp, ?_, fun z hz => ?_⟩ hrun
  · have hnd := h.pre.nodup
    simpa [h.tmp_obj_list, h.gc_zero_ref_count_list, List.nodup_append, hnd.erase x]
      using hnd.not_mem_erase
  · simp [h.gc_zero_ref_count_list] at hz
    simp [hz]

/-- **`JS_FreeValueRT` on a last reference from a quiescent heap** runs the
drain, which succeeds and leaves a quiescent heap: the cells left are the
listed ones outside `GcGraph.Dead`, the others finalized and freed once. -/
theorem Quiescent.free_value_last (hrel : G.ReleasesChildren) {ext : Addr → Nat}
    {rt : JSRuntime} {x : Addr} (hQ : Quiescent G ext rt) (hx : x ∈ rt.gc_obj_list)
    (hext : 0 < ext x) (hxv : (G.kind x).isValue = true) (h1 : rt.ref_count x = 1) :
    ∃ rt', JS_FreeValueRT G rt x = .ok rt' ∧ Quiescent G (Function.update ext x (ext x - 1)) rt' ∧
      (∀ c, c ∈ rt'.gc_obj_list ↔ c ∈ rt.gc_obj_list ∧ ¬ G.Dead rt.gc_obj_list ext x c) ∧
      FreedOnce rt rt' := by
  have h := hQ.at_rest
  have hC : RelCtx G (Function.update ext x 0) rt.gc_obj_list (G.Dead rt.gc_obj_list ext x) :=
    ⟨h.pre.nodup, h.pre.closed, hrel, dead_closed⟩
  obtain ⟨rt₁, h₁, hI, hz⟩ := free_zero_refcount_loop_spec hC
    (2 * (rt.gc_obj_list.length + rt.tmp_obj_list.length + rt.gc_zero_ref_count_list.length) + 2) _
    (DrInv.start h hx hxv h1 hext hQ.referenced)
    (by have := List.length_filter_le (fun p => decide (GcEvent.finalize p ∉ rt.log)) rt.gc_obj_list
        simp only [unfinalized, set_phase_log, list_add_zero_log, list_del_log,
          set_ref_count_log] at this ⊢
        omega)
  have hrun : JS_FreeValueRT G rt x = .ok (rt₁.set_phase .NONE) :=
    (JS_FreeValueRT_start h.gc_phase hxv h1).trans h₁
  have hmem := hI.mem_gc_obj_list hz
  have hfin : ∀ c ∈ rt.gc_obj_list, GcEvent.finalize c ∈ rt₁.log ↔ c ∉ rt₁.gc_obj_list :=
    fun c hc => by rw [hI.finalized_iff hz hc, hI.gc_obj_list]; simp [hc]
  obtain ⟨E, hE, hEf, hEj⟩ := hI.log
  refine ⟨_, hrun, ⟨(hI.atRest h hz).congr_ext fun c hc => ?_, fun c hc => ?_,
    hQ.marks.JS_FreeValueRT h hxv h1 hrun⟩, hmem, E, hE, fun c => ?_, fun c k => ?_⟩
  · have hcx : c ≠ x := fun hcx => ((hmem c).mp hc).2 (hcx ▸ .seed)
    exact Function.update_noteq hcx _ _
  · simp only [set_phase_gc_obj_list, set_phase_ref_count, hI.gc_obj_list, List.mem_filter,
      decide_eq_true_eq] at hc ⊢
    exact hc.2
  · rw [hEf]; exact if_congr (and_congr_right fun hc => hfin c hc) rfl rfl
  · rw [hEj]; exact if_congr (and_congr_right fun hc => by rw [hfin c hc]; rfl) rfl rfl

/-! ## What the program can still reach is never freed -/

namespace GcGraph

variable {L L' : List Addr} {ext ext' : Addr → Nat}

/-- Fewer references held from outside reach fewer cells. -/
theorem Reach.mono_ext (hle : ∀ c, ext' c ≤ ext c) {c : Addr} (h : G.Reach L ext' c) :
    G.Reach L ext c := by
  induction h with
  | root hc hpos => exact .root hc (lt_of_lt_of_le hpos (hle _))
  | child _ hcp ih => exact .child ih hcp

/-- A derivation of reachability stays among cells that every reachable cell
belongs to. -/
theorem Reach.restrict (hL : ∀ d, G.Reach L ext d → d ∈ L') {c : Addr} (h : G.Reach L ext c) :
    G.Reach L' ext c := by
  induction h with
  | root hc hpos => exact .root (hL _ (.root hc hpos)) hpos
  | child _ hcp ih => exact .child ih hcp

/-- After the last reference to `x` is dropped, nothing still reachable is in
`GcGraph.Dead`: a reachable cell is held from outside, or by a reachable
listed cell, and neither holds of a dead cell. -/
theorem Reach.not_dead (hcl : ∀ q ∈ L, ∀ c ∈ G.children q, c ∈ L) {x : Addr}
    (hin : G.indeg L x = 0) (hx1 : ext x ≤ 1) {c : Addr}
    (h : G.Reach L (Function.update ext x (ext x - 1)) c) : ¬ G.Dead L ext x c := by
  induction h with
  | @root c _ hpos =>
    intro hd
    cases hd with
    | seed => simp at hpos; omega
    | orphan _ hext _ =>
      by_cases hcx : c = x
      · subst hcx; simp at hpos; omega
      · rw [Function.update_noteq hcx, hext] at hpos; exact absurd hpos (lt_irrefl 0)
  | @child p c hp hcp ih =>
    intro hd
    cases hd with
    | seed => exact (G.indeg_eq_zero_iff L _).mp hin p (Reach.mem hcl hp) hcp
    | orphan _ _ hpar => exact ih (hpar p (Reach.mem hcl hp) hcp)

end GcGraph

/-- **One call**, from a quiescent heap: the heap is quiescent after it, the
program holds no more references than before, no cell joins `gc_obj_list`, a
listed cell still reachable from the program's references is still listed,
and the cells that left are finalized and freed once. -/
theorem Quiescent.step (hwk : G.WellKinded) (hrel : G.ReleasesChildren)
    {s s' : (Addr → Nat) × JSRuntime} (hQ : Quiescent G s.1 s.2) (h : mutator_step G s s') :
    Quiescent G s'.1 s'.2 ∧ (∀ c, s'.1 c ≤ s.1 c) ∧
      (∀ c ∈ s'.2.gc_obj_list, c ∈ s.2.gc_obj_list) ∧
      (∀ c, G.Reach s.2.gc_obj_list s'.1 c → c ∈ s'.2.gc_obj_list) ∧ FreedOnce s.2 s'.2 := by
  cases h with
  | @free_value ext rt rt' x hx hext hxv hrun =>
    dsimp only at hQ ⊢
    have hcl := hQ.at_rest.pre.closed
    have hle : ∀ c, Function.update ext x (ext x - 1) c ≤ ext c := fun c => by
      by_cases hcx : c = x
      · subst hcx; simp
      · simp [hcx]
    by_cases h1 : rt.ref_count x = 1
    · obtain ⟨rt'', hrun', hQ', hmem, hF⟩ := hQ.free_value_last hrel hx hext hxv h1
      obtain rfl := Except.ok.inj (hrun.symm.trans hrun')
      have hx₀ := hQ.at_rest.pre.ref_count x hx
      refine ⟨hQ', hle, fun c hc => ((hmem c).mp hc).1, fun c hR => (hmem c).mpr
        ⟨GcGraph.Reach.mem hcl hR, GcGraph.Reach.not_dead hcl (by omega) (by omega) hR⟩, hF⟩
    · have h2 : 1 < rt.ref_count x := by have := hQ.referenced x hx; omega
      rw [JS_FreeValueRT_shared h2] at hrun
      obtain rfl := Except.ok.inj hrun
      exact ⟨hQ.free_value_shared hx hext h2, hle, fun c hc => hc,
        fun c hR => GcGraph.Reach.mem hcl hR, .of_same rfl rfl⟩
  | @run_gc ext rt rt' hrun =>
    dsimp only at hQ ⊢
    have hcl := hQ.at_rest.pre.closed
    obtain ⟨rt'', hrun', hQ', hmem, hF⟩ := hQ.run_gc hwk hrel
    obtain rfl := Except.ok.inj (hrun.symm.trans hrun')
    exact ⟨hQ', fun _ => le_rfl, fun c hc => GcGraph.Reach.mem hcl ((hmem c).mp hc),
      fun c hR => (hmem c).mpr hR, hF⟩

/-- Every state of a run from a quiescent heap is quiescent. -/
theorem Quiescent.of_run (hwk : G.WellKinded) (hrel : G.ReleasesChildren)
    {s s' : (Addr → Nat) × JSRuntime} (hs : Relation.ReflTransGen (mutator_step G) s s')
    (hQ : Quiescent G s.1 s.2) : Quiescent G s'.1 s'.2 := by
  induction hs with
  | refl => exact hQ
  | tail _ ht ih => exact (ih.step hwk hrel ht).1

/-! ## Whole runs -/

/-- **Safety over every run.** From a quiescent heap, along any sequence of
`JS_FreeValueRT` calls on references the program holds and `JS_RunGC` calls:
the heap stays quiescent (at rest, every listed cell referenced, an object's
`free_mark` set exactly when it was finalized); no cell joins `gc_obj_list`;
a cell reachable from the references the program still holds, along edges of
the cells listed at the start, is still listed, so it was never freed; the
log holds one `finalize` and one `js_free_rt` with count zero for each cell
that left `gc_obj_list`, and no other; and an object listed at the start is
live for `JS_IsLiveObject` exactly while it is still listed. -/
theorem mutator_run (hwk : G.WellKinded) (hrel : G.ReleasesChildren)
    {s s' : (Addr → Nat) × JSRuntime} (hs : Relation.ReflTransGen (mutator_step G) s s')
    (hQ : Quiescent G s.1 s.2) :
    Quiescent G s'.1 s'.2 ∧ (∀ c ∈ s'.2.gc_obj_list, c ∈ s.2.gc_obj_list) ∧
      (∀ c, G.Reach s.2.gc_obj_list s'.1 c → c ∈ s'.2.gc_obj_list) ∧ FreedOnce s.2 s'.2 ∧
      ∀ c ∈ s.2.gc_obj_list, G.kind c = .JS_OBJECT →
        (JS_IsLiveObject s'.2 (.object c) = true ↔ c ∈ s'.2.gc_obj_list) := by
  have hrun : Quiescent G s'.1 s'.2 ∧ (∀ c ∈ s'.2.gc_obj_list, c ∈ s.2.gc_obj_list) ∧
      (∀ c, G.Reach s.2.gc_obj_list s'.1 c → c ∈ s'.2.gc_obj_list) ∧ FreedOnce s.2 s'.2 := by
    induction hs with
    | refl => exact ⟨hQ, fun _ hc => hc, fun c hR => GcGraph.Reach.mem hQ.at_rest.pre.closed hR,
        .of_same rfl rfl⟩
    | @tail b c _ hbc ih =>
      obtain ⟨hQb, hsub, hsafe, hF⟩ := ih
      obtain ⟨hQc, hle, hsub', hreach, hF'⟩ := hQb.step hwk hrel hbc
      refine ⟨hQc, fun d hd => hsub d (hsub' d hd), fun d hR => hreach d ?_,
        hF.trans hF' hsub hsub'⟩
      -- reachable now along the first edges: reachable among `b`'s cells, fewer roots
      exact hR.restrict fun e he => hsafe e (he.mono_ext hle)
  obtain ⟨hQ', hsub, hsafe, hF⟩ := hrun
  refine ⟨hQ', hsub, hsafe, hF, fun c hc hco => ?_⟩
  obtain ⟨E, hE, hEf, -⟩ := hF
  have hfin : GcEvent.finalize c ∈ E ↔ c ∉ s'.2.gc_obj_list := by
    rw [← List.count_pos_iff, hEf]; split_ifs with h <;> simp [hc] at h ⊢ <;> assumption
  rw [(hQ'.is_live hco).1, hE, List.mem_append, hfin]
  simp [hQ.at_rest.live c hc]

/-- **No reachable state is stuck.** In every state of a run from a quiescent
heap, `JS_RunGC` succeeds, and so does `JS_FreeValueRT` on every reference the
program holds to a listed object or bytecode: no assertion fails and no loop
runs out of its bound. -/
theorem mutator_run_progress (hwk : G.WellKinded) (hrel : G.ReleasesChildren)
    {s s' : (Addr → Nat) × JSRuntime} (hs : Relation.ReflTransGen (mutator_step G) s s')
    (hQ : Quiescent G s.1 s.2) :
    (∃ rt', JS_RunGC G s'.2 = .ok rt') ∧
      ∀ x ∈ s'.2.gc_obj_list, 0 < s'.1 x → (G.kind x).isValue = true →
        ∃ rt', JS_FreeValueRT G s'.2 x = .ok rt' := by
  have hQ' := hQ.of_run hwk hrel hs
  refine ⟨(hQ'.run_gc hwk hrel).imp fun _ h => h.1, fun x hx hext hxv => ?_⟩
  by_cases h1 : s'.2.ref_count x = 1
  · exact (hQ'.free_value_last hrel hx hext hxv h1).imp fun _ h => h.1
  · exact ⟨_, JS_FreeValueRT_shared (by have := hQ'.referenced x hx; omega)⟩

/-! ## Over the cells of a heap -/

/-- **The collector over a heap of cells.** For the graph `JSHeap.gc_graph`
that `mark_children` and the free paths give a heap whose references have the
kinds the marker allows and whose objects are paired with their free paths,
every run from a quiescent state stays quiescent, and in each of its states
`JS_RunGC` succeeds and keeps exactly the cells reachable from the program's
references. -/
theorem JSHeap.gc_graph_run (h : JSHeap) (ht : h.TypedRefs) (hp : h.Paired)
    {s s' : (Addr → Nat) × JSRuntime} (hs : Relation.ReflTransGen (mutator_step h.gc_graph) s s')
    (hQ : Quiescent h.gc_graph s.1 s.2) :
    Quiescent h.gc_graph s'.1 s'.2 ∧ ∃ rt', JS_RunGC h.gc_graph s'.2 = .ok rt' ∧
      ∀ c, c ∈ rt'.gc_obj_list ↔ h.gc_graph.Reach s'.2.gc_obj_list s'.1 c := by
  have hwk := h.gc_graph_wellKinded ht
  have hrel := h.gc_graph_releasesChildren hp
  have hQ' := hQ.of_run hwk hrel hs
  obtain ⟨rt', hrun, -, hmem, -⟩ := hQ'.run_gc hwk hrel
  exact ⟨hQ', rt', hrun, hmem⟩

/-! ## A run of the sample heap -/

theorem sampleHeap_quiescent : Quiescent sampleGraph sampleExt sampleHeap :=
  ⟨sampleHeap_atRest, by decide, fun c _ => by simp [sampleHeap]⟩

/-- The program drops its reference to the object `0` and then runs a
collection. -/
theorem sampleHeap_run :
    ∃ s', Relation.ReflTransGen (mutator_step sampleGraph) (sampleExt, sampleHeap) s' := by
  obtain ⟨rt₁, h₁, hQ₁, -⟩ := sampleHeap_quiescent.free_value_last sampleGraph_releasesChildren
    (x := 0) (by decide) (by decide) rfl rfl
  obtain ⟨rt₂, h₂, -⟩ := hQ₁.run_gc sampleGraph_wellKinded sampleGraph_releasesChildren
  exact ⟨_, .tail (.single (.free_value (by decide) (by decide) rfl h₁)) (.run_gc h₂)⟩

theorem mutator_run_sample :
    sampleGraph.WellKinded ∧ sampleGraph.ReleasesChildren ∧
      Quiescent sampleGraph sampleExt sampleHeap ∧
      ∃ s', Relation.ReflTransGen (mutator_step sampleGraph) (sampleExt, sampleHeap) s' ∧
        Quiescent sampleGraph s'.1 s'.2 ∧ (∀ c ∈ s'.2.gc_obj_list, c ∈ sampleHeap.gc_obj_list) ∧
        (∀ c, sampleGraph.Reach sampleHeap.gc_obj_list s'.1 c → c ∈ s'.2.gc_obj_list) ∧
        FreedOnce sampleHeap s'.2 ∧
        ∀ c ∈ sampleHeap.gc_obj_list, sampleGraph.kind c = .JS_OBJECT →
          (JS_IsLiveObject s'.2 (.object c) = true ↔ c ∈ s'.2.gc_obj_list) := by
  obtain ⟨s', hs⟩ := sampleHeap_run
  exact ⟨sampleGraph_wellKinded, sampleGraph_releasesChildren, sampleHeap_quiescent, s', hs,
    mutator_run sampleGraph_wellKinded sampleGraph_releasesChildren hs sampleHeap_quiescent⟩

theorem mutator_run_progress_sample :
    sampleGraph.WellKinded ∧ sampleGraph.ReleasesChildren ∧
      Quiescent sampleGraph sampleExt sampleHeap ∧
      ∃ s', Relation.ReflTransGen (mutator_step sampleGraph) (sampleExt, sampleHeap) s' ∧
        (∃ rt', JS_RunGC sampleGraph s'.2 = .ok rt') ∧
        ∀ x ∈ s'.2.gc_obj_list, 0 < s'.1 x → (sampleGraph.kind x).isValue = true →
          ∃ rt', JS_FreeValueRT sampleGraph s'.2 x = .ok rt' := by
  obtain ⟨s', hs⟩ := sampleHeap_run
  exact ⟨sampleGraph_wellKinded, sampleGraph_releasesChildren, sampleHeap_quiescent, s', hs,
    mutator_run_progress sampleGraph_wellKinded sampleGraph_releasesChildren hs sampleHeap_quiescent⟩

end SlowJsGc

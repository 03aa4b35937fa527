import SlowJsGc.Collector.FreeCycles

/-!
# `JS_RunGC`: what one collection does

`JS_RunGC` is `gc_decref`, `gc_scan` and `gc_free_cycles` in a row. From a
heap at rest (`AtRest`: every cell on `gc_obj_list`, unmarked, counting its
edges from listed cells plus its external references, the other lists empty,
phase `NONE`) the collection frees exactly the cells that no externally held
cell reaches, each finalized once and its memory returned once with count
zero, and leaves the heap at rest again, over the survivors.

Two things the run needs of the heap are not in the at-rest invariant. The
graph must be `GcGraph.WellKinded`, which `mark_children` guarantees (see
`SlowJsGc.Cell`), and every listed cell that is not an object or bytecode must
be referenced: such a cell with count zero is condemned, parked on
`gc_zero_ref_count_list` by the first loop of `gc_free_cycles`, and then trips
the type assertion of the second (`JS_RunGC_stray_var_ref`). The order in
which objects are finalized is that of `tmp_obj_list` after `gc_decref`, which
is not the order of `gc_obj_list` (`JS_RunGC_cycle_order`).
-/

set_option autoImplicit false

namespace SlowJsGc

open JSRuntime

variable (G : GcGraph)

/-- `JS_RunGC`. -/
def JS_RunGC (rt : JSRuntime) : Except GcError JSRuntime := do
  let rt ← gc_decref G rt
  let rt ← gc_scan G rt
  gc_free_cycles G rt

/-- The heap at rest, as `JS_RunGC` finds it between collections. `live` says
that the log, which is the model's record of deallocation, has not finalized
a listed cell. -/
structure AtRest (ext : Addr → Nat) (rt : JSRuntime) : Prop where
  pre : GcPre G ext rt
  tmp_obj_list : rt.tmp_obj_list = []
  gc_zero_ref_count_list : rt.gc_zero_ref_count_list = []
  gc_phase : rt.gc_phase = .NONE
  live : ∀ c ∈ rt.gc_obj_list, GcEvent.finalize c ∉ rt.log

variable {G}

/-- The unreachable cells form a set closed under losing every reference: the
`Q` of the accounting for a collection. -/
theorem unreachable_dead {ext : Addr → Nat} {L : List Addr}
    (hcl : ∀ q ∈ L, ∀ c ∈ G.children q, c ∈ L) :
    ∀ c ∈ L, ext c = 0 → (∀ p ∈ L, c ∈ G.children p → ¬ G.Reach L ext p) →
      ¬ G.Reach L ext c := by
  intro c _ hext hpar hR
  cases hR with
  | root _ hpos => omega
  | child hp hcp => exact hpar _ (GcGraph.Reach.mem hcl hp) hcp hp

/-- **The first two passes.** From a heap at rest `gc_decref` and `gc_scan`
succeed and hand `gc_free_cycles` the listed cells split into the reachable and
the condemned ones, with `gc_zero_ref_count_list` empty and every count
restored, so a listed cell that is not an object or bytecode keeps a nonzero
count. -/
theorem AtRest.decref_scan (hrel : G.ReleasesChildren) {ext : Addr → Nat} {rt : JSRuntime}
    (h : AtRest G ext rt)
    (hnv : ∀ c ∈ rt.gc_obj_list, (G.kind c).isValue = false → rt.ref_count c ≠ 0) :
    ∃ rt₁ rt₂, gc_decref G rt = .ok rt₁ ∧ gc_scan G rt₁ = .ok rt₂ ∧
      FcCtx G ext rt.gc_obj_list rt₂ ∧ ScanPost G rt.gc_obj_list ext rt rt₂ ∧
      rt₂.tmp_obj_list.Sublist rt₁.tmp_obj_list ∧ rt₂.gc_zero_ref_count_list = [] ∧
      ∀ c ∈ rt.gc_obj_list, (G.kind c).isValue = false → rt₂.ref_count c ≠ 0 := by
  obtain ⟨rt₁, h₁, hD⟩ := gc_decref_spec G h.pre
  obtain ⟨rt₂, h₂, hS, hsub⟩ := gc_scan_spec G h.pre.nodup h.pre.closed hD
  refine ⟨rt₁, rt₂, h₁, h₂, ⟨⟨h.pre.nodup, h.pre.closed, hrel, unreachable_dead h.pre.closed⟩,
    hS.perm, hS.mem_gc_obj_list, fun c hc => by rw [hS.log]; exact h.live c hc⟩, hS, hsub,
    List.eq_nil_of_sublist_nil (h.gc_zero_ref_count_list ▸ hS.zero), fun c hc hcv => ?_⟩
  rw [hS.ref_count c hc, ← h.pre.ref_count c hc]
  exact hnv c hc hcv

/-- The three passes, composed: what `gc_scan` leaves is what
`gc_free_cycles_spec` starts from. -/
theorem JS_RunGC_passes (hwk : G.WellKinded) (hrel : G.ReleasesChildren) {ext : Addr → Nat}
    {rt : JSRuntime} (h : AtRest G ext rt)
    (hnv : ∀ c ∈ rt.gc_obj_list, (G.kind c).isValue = false → rt.ref_count c ≠ 0) :
    ∃ rt₁ rt₂ rt', gc_decref G rt = .ok rt₁ ∧ gc_scan G rt₁ = .ok rt₂ ∧
      gc_free_cycles G rt₂ = .ok rt' ∧ FcCtx G ext rt.gc_obj_list rt₂ ∧
      ScanPost G rt.gc_obj_list ext rt rt₂ ∧ rt₂.tmp_obj_list.Sublist rt₁.tmp_obj_list ∧
      rt'.gc_obj_list = rt₂.gc_obj_list ∧ rt'.tmp_obj_list = [] ∧
      rt'.gc_zero_ref_count_list = [] ∧ rt'.gc_phase = .NONE ∧ rt'.mark = rt₂.mark ∧
      (∀ c ∈ rt.gc_obj_list, rt'.ref_count c = G.indeg rt₂.gc_obj_list c + ext c) ∧
      ∃ E, rt'.log = rt.log ++ E ∧
        (∀ c, E.count (.finalize c) = if c ∈ rt₂.tmp_obj_list then 1 else 0) ∧
        (∀ c k, E.count (.js_free_rt c k) = if c ∈ rt₂.tmp_obj_list ∧ k = 0 then 1 else 0) ∧
        E.filterMap (finalized_value G) = rt₂.tmp_obj_list.filter fun c => (G.kind c).isValue := by
  obtain ⟨rt₁, rt₂, h₁, h₂, hX, hS, hsub, hz₂, hnv₂⟩ := h.decref_scan hrel hnv
  obtain ⟨rt', h', hgc, htmp, hz, hph, hmk, hrc', E, hE, hEf, hEj, hEv⟩ :=
    gc_free_cycles_spec hX hwk hz₂ hS.ref_count hnv₂
  exact ⟨rt₁, rt₂, rt', h₁, h₂, h', hX, hS, hsub, hgc, htmp, hz, hph, hmk, hrc', E,
    by rw [hE, hS.log], hEf, hEj, hEv⟩

/-- **One collection.** From a heap at rest whose graph is well kinded, whose
free paths release exactly what `mark_children` enumerates, and whose listed
cells other than objects and bytecode are all referenced, `JS_RunGC` succeeds
(no assertion fails, every loop ends). The cells left on `gc_obj_list` are
exactly those reachable from an externally held cell; every other listed cell
is finalized once and has its memory returned once, with count zero, and
nothing else is finalized or freed; and the heap is at rest again over the
survivors, each of which is still reachable there, so a second collection
condemns nothing. -/
theorem JS_RunGC_collects (hwk : G.WellKinded) (hrel : G.ReleasesChildren)
    {ext : Addr → Nat} {rt : JSRuntime} (h : AtRest G ext rt)
    (hnv : ∀ c ∈ rt.gc_obj_list, (G.kind c).isValue = false → rt.ref_count c ≠ 0) :
    ∃ rt', JS_RunGC G rt = .ok rt' ∧
      (∀ c, c ∈ rt'.gc_obj_list ↔ G.Reach rt.gc_obj_list ext c) ∧
      (∃ E, rt'.log = rt.log ++ E ∧
        (∀ c, E.count (.finalize c) =
          if c ∈ rt.gc_obj_list ∧ c ∉ rt'.gc_obj_list then 1 else 0) ∧
        (∀ c k, E.count (.js_free_rt c k) =
          if c ∈ rt.gc_obj_list ∧ c ∉ rt'.gc_obj_list ∧ k = 0 then 1 else 0)) ∧
      AtRest G ext rt' ∧ ∀ c ∈ rt'.gc_obj_list, G.Reach rt'.gc_obj_list ext c := by
  obtain ⟨rt₁, rt₂, rt', h₁, h₂, h', hX, hS, -, hgc, htmp, hz, hph, hmk, hrc', E, hE, hEf,
    hEj, -⟩ := JS_RunGC_passes hwk hrel h hnv
  have hmem : ∀ c, c ∈ rt'.gc_obj_list ↔ G.Reach rt.gc_obj_list ext c := fun c => by
    rw [hgc, hS.mem_gc_obj_list]
  have hcl := h.pre.closed
  refine ⟨rt', by simp [JS_RunGC, h₁, h₂, h'], hmem, ⟨E, hE, fun c => ?_, fun c k => ?_⟩,
    ⟨⟨?_, fun q hq c hc => ?_, fun c hc => ?_, fun c hc => ?_⟩, htmp, hz, hph, fun c hc => ?_⟩,
    fun c hc => ?_⟩
  · rw [hEf]; exact if_congr (by rw [hX.mem_tmp_obj_list, hmem]) rfl rfl
  · rw [hEj]; exact if_congr (by rw [hX.mem_tmp_obj_list, hmem, and_assoc]) rfl rfl
  · exact hgc ▸ (List.nodup_append.mp hX.nodup).1
  · exact (hmem c).mpr (.child ((hmem q).mp hq) hc)
  · rw [hmk]; exact hS.mark c (hgc ▸ hc)
  · rw [hrc' c (GcGraph.Reach.mem hcl ((hmem c).mp hc)), hgc]
  · have hcL := GcGraph.Reach.mem hcl ((hmem c).mp hc)
    have hcD : c ∉ rt₂.tmp_obj_list := fun h' => ((hX.mem_tmp_obj_list c).mp h').2 ((hmem c).mp hc)
    have hE0 : E.count (.finalize c) = 0 := by rw [hEf]; simp [hcD]
    rw [hE, List.mem_append, not_or]
    exact ⟨h.live c hcL, List.count_eq_zero.mp hE0⟩
  · -- a derivation of reachability from `rt.gc_obj_list` stays among the survivors
    have : ∀ c, G.Reach rt.gc_obj_list ext c → G.Reach rt'.gc_obj_list ext c := by
      intro c hR
      induction hR with
      | root hc hpos => exact .root ((hmem _).mpr (.root hc hpos)) hpos
      | child _ hcp ih => exact .child ih hcp
    exact this c ((hmem c).mp hc)

/-- The sample graph holds only objects, every one released as marked; the
sample heap is at rest, and none of its cells is left to its own release. -/
theorem sampleGraph_wellKinded : sampleGraph.WellKinded := fun _ _ _ h => by
  simp [sampleGraph, JSGCObjectTypeEnum.isValue] at h

theorem sampleGraph_releasesChildren : sampleGraph.ReleasesChildren := fun _ => .refl _

theorem sampleHeap_atRest : AtRest sampleGraph sampleExt sampleHeap :=
  ⟨sampleHeap_pre, rfl, rfl, rfl, by simp [sampleHeap]⟩

theorem sampleHeap_objects :
    ∀ c ∈ sampleHeap.gc_obj_list, (sampleGraph.kind c).isValue = false → sampleHeap.ref_count c ≠ 0 :=
  fun _ _ h => by simp [sampleGraph, JSGCObjectTypeEnum.isValue] at h

/-- The sample heap, at rest: its graph holds only objects, so it is well
kinded, its free paths release what `mark_children` enumerates, and one
collection runs on it. -/
theorem JS_RunGC_collects_sample :
    sampleGraph.WellKinded ∧ sampleGraph.ReleasesChildren ∧ AtRest sampleGraph sampleExt sampleHeap ∧
      ∃ rt', JS_RunGC sampleGraph sampleHeap = .ok rt' :=
  ⟨sampleGraph_wellKinded, sampleGraph_releasesChildren, sampleHeap_atRest,
    (JS_RunGC_collects sampleGraph_wellKinded sampleGraph_releasesChildren sampleHeap_atRest
      sampleHeap_objects).imp fun _ h' => h'.1⟩

/-- A heap of one detached var-ref that nothing references. -/
def strayVarRefGraph : GcGraph where
  kind _ := .VAR_REF
  children _ := []
  released _ := []

/-- The var-ref of `strayVarRefGraph`, listed with count zero. -/
def strayVarRefHeap : JSRuntime where
  ref_count _ := 0
  mark _ := 0
  free_mark _ := false
  gc_obj_list := [0]
  tmp_obj_list := []
  gc_zero_ref_count_list := []
  gc_phase := .NONE
  log := []

/-- **A listed var-ref with count zero stops the collector.** The heap is at
rest (no edges, no external references, count zero) and well kinded, and its
free path releases what `mark_children` enumerates, yet `JS_RunGC` fails: the
var-ref is condemned, parked on `gc_zero_ref_count_list` by the first loop of
`gc_free_cycles`, and the second loop's assertion that every parked cell is an
object or bytecode fails. -/
theorem JS_RunGC_stray_var_ref :
    strayVarRefGraph.WellKinded ∧ strayVarRefGraph.ReleasesChildren ∧
      AtRest strayVarRefGraph (fun _ => 0) strayVarRefHeap ∧
      JS_RunGC strayVarRefGraph strayVarRefHeap = .error (.assert_failed
        "p->gc_obj_type == JS_GC_OBJ_TYPE_JS_OBJECT || p->gc_obj_type == JS_GC_OBJ_TYPE_FUNCTION_BYTECODE") :=
  ⟨fun _ _ h => by simp [strayVarRefGraph] at h, fun _ => .refl _,
    ⟨⟨by decide, by decide, by decide, by decide⟩, rfl, rfl, rfl, by simp [strayVarRefHeap]⟩, rfl⟩

/-- **Objects are finalized in the order of the condemned list.** In a
collection from a heap at rest, the objects and bytecode are finalized in the
order of `tmp_obj_list` when `gc_free_cycles` starts, and that list is
`tmp_obj_list` after `gc_decref` with the reachable cells taken out (a
sublist holding exactly the unreachable listed cells). -/
theorem JS_RunGC_finalize_order (hwk : G.WellKinded) (hrel : G.ReleasesChildren)
    {ext : Addr → Nat} {rt : JSRuntime} (h : AtRest G ext rt)
    (hnv : ∀ c ∈ rt.gc_obj_list, (G.kind c).isValue = false → rt.ref_count c ≠ 0) :
    ∃ rt₁ rt₂ rt', gc_decref G rt = .ok rt₁ ∧ gc_scan G rt₁ = .ok rt₂ ∧
      gc_free_cycles G rt₂ = .ok rt' ∧
      (∃ E, rt'.log = rt.log ++ E ∧
        E.filterMap (finalized_value G) = rt₂.tmp_obj_list.filter fun c => (G.kind c).isValue) ∧
      rt₂.tmp_obj_list.Sublist rt₁.tmp_obj_list ∧
      ∀ c, c ∈ rt₂.tmp_obj_list ↔ c ∈ rt.gc_obj_list ∧ ¬ G.Reach rt.gc_obj_list ext c := by
  obtain ⟨rt₁, rt₂, rt', h₁, h₂, h', hX, -, hsub, -, -, -, -, -, -, E, hE, -, -, hEv⟩ :=
    JS_RunGC_passes hwk hrel h hnv
  exact ⟨rt₁, rt₂, rt', h₁, h₂, h', ⟨E, hE, hEv⟩, hsub, hX.mem_tmp_obj_list⟩

/-- The sample heap, at rest, and the order of its collection. -/
theorem JS_RunGC_finalize_order_sample :
    sampleGraph.WellKinded ∧ sampleGraph.ReleasesChildren ∧ AtRest sampleGraph sampleExt sampleHeap ∧
      ∃ rt₁ rt₂ rt', gc_decref sampleGraph sampleHeap = .ok rt₁ ∧
        gc_scan sampleGraph rt₁ = .ok rt₂ ∧ gc_free_cycles sampleGraph rt₂ = .ok rt' :=
  ⟨sampleGraph_wellKinded, sampleGraph_releasesChildren, sampleHeap_atRest,
    (JS_RunGC_finalize_order sampleGraph_wellKinded sampleGraph_releasesChildren sampleHeap_atRest
      sampleHeap_objects).imp fun _ ⟨rt₂, rt', h₁, h₂, h', _⟩ => ⟨rt₂, rt', h₁, h₂, h'⟩⟩

/-- The cycle `0 → 1 → 2 → 0` of objects. -/
def cycleChildren : Addr → List Addr
  | 0 => [1]
  | 1 => [2]
  | 2 => [0]
  | _ => []

/-- Three objects in a cycle that nothing outside holds. -/
def cycleGraph : GcGraph where
  kind _ := .JS_OBJECT
  children := cycleChildren
  released := cycleChildren

/-- The cycle at rest, listed in the order `0, 1, 2`. -/
def cycleHeap : JSRuntime where
  ref_count c := if c < 3 then 1 else 0
  mark _ := 0
  free_mark _ := false
  gc_obj_list := [0, 1, 2]
  tmp_obj_list := []
  gc_zero_ref_count_list := []
  gc_phase := .NONE
  log := []

/-- **The finalization order is not that of `gc_obj_list`.** Collecting the
cycle `0 → 1 → 2 → 0`, listed as `0, 1, 2`, finalizes `1`, then `0`, then
`2`: `gc_decref` moves `1` to `tmp_obj_list` when it visits it with count
zero, and `0` only when visiting `2` brings its count to zero. -/
theorem JS_RunGC_cycle_order :
    AtRest cycleGraph (fun _ => 0) cycleHeap ∧ ∃ rt', JS_RunGC cycleGraph cycleHeap = .ok rt' ∧
      rt'.log.filterMap (finalized_value cycleGraph) = [1, 0, 2] :=
  ⟨⟨⟨by decide, by decide, by decide, by decide⟩, rfl, rfl, rfl, by simp [cycleHeap]⟩, _, rfl, rfl⟩

end SlowJsGc

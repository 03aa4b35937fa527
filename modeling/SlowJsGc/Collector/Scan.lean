import SlowJsGc.Collector.Decref

/-!
# `gc_scan`: taking back what is still reachable

The second pass of `JS_RunGC`. After `gc_decref` every count is the external
count alone, `gc_obj_list` holds the externally held cells and `tmp_obj_list`
the others. `gc_scan` walks `gc_obj_list` with `list_for_each`, and gives every
visited cell's children their edge back (`gc_scan_incref_child`); a child whose
count rises from zero is pulled off `tmp_obj_list` and appended to
`gc_obj_list`, so the walk reaches it later. What remains on `tmp_obj_list`
when the walk ends is exactly what is unreachable from the externally held
cells, and a second walk over it (`gc_scan_incref_child2`) restores the edges
the condemned cells hold, so that every count is again what it was before
`gc_decref`.

Here the walk runs over a list that grows behind the cursor. `list_for_each`
reads `el->next` after the body, and the body only appends, so the cursor
moves one place along a list whose visited prefix never changes. `ScanInv`
names that prefix `P`; its clauses are that the prefix is processed, that the
counts are the external counts plus the edges out of `P`, and that the cells
with a count are exactly those on `gc_obj_list`.
-/

set_option autoImplicit false

namespace SlowJsGc

open JSRuntime

variable (G : GcGraph)

/-- `gc_scan_incref_child`. -/
def gc_scan_incref_child (rt : JSRuntime) (p : Addr) : Except GcError JSRuntime :=
  let rt := rt.set_ref_count p (rt.ref_count p + 1)
  if rt.ref_count p = 1 then
    pure (((rt.list_del p).list_add_tail p .gc_obj_list).set_mark p 0)
  else pure rt

/-- `gc_scan_incref_child2`. -/
def gc_scan_incref_child2 (rt : JSRuntime) (p : Addr) : Except GcError JSRuntime :=
  pure (rt.set_ref_count p (rt.ref_count p + 1))

/-- The body of `gc_scan`'s first loop, on the cell `p`. -/
def gc_scan_body (rt : JSRuntime) (p : Addr) : Except GcError JSRuntime := do
  if rt.ref_count p = 0 then throw (.assert_failed "p->ref_count > 0")
  mark_children G p gc_scan_incref_child (rt.set_mark p 0)

/-- `list_for_each(el, &rt->gc_obj_list)`: `el->next` is read after the body,
so the walk reaches the cells the body appends. -/
def gc_scan_loop : Nat → Option Addr → JSRuntime → Except GcError JSRuntime
  | _, none, rt => pure rt
  | 0, some _, _ => throw .out_of_fuel
  | n + 1, some el, rt => do
    let rt ← gc_scan_body G rt el
    gc_scan_loop n (next_in rt.gc_obj_list el) rt

/-- `gc_scan`. The second loop does not change the lists, so it is a fold over
`tmp_obj_list`. -/
def gc_scan (rt : JSRuntime) : Except GcError JSRuntime := do
  let rt ← gc_scan_loop G (rt.gc_obj_list.length + rt.tmp_obj_list.length)
    rt.gc_obj_list.head? rt
  rt.tmp_obj_list.foldlM (fun rt p => mark_children G p gc_scan_incref_child2 rt) rt

/-! ## Reachability facts -/

namespace GcGraph

variable {G} {L : List Addr} {ext : Addr → Nat}

/-- Reachable cells of a closed list are listed. -/
theorem Reach.mem (hcl : ∀ q ∈ L, ∀ c ∈ G.children q, c ∈ L) {c : Addr}
    (h : G.Reach L ext c) : c ∈ L := by
  induction h with
  | root hc _ => exact hc
  | child _ hc ih => exact hcl _ ih _ hc

end GcGraph

/-! ## The invariant of the first walk -/

/-- `gc_scan`'s first walk with the prefix `P` of `gc_obj_list` processed and
`pending c` of the edges out of `P` into `c` still to be given back. -/
structure ScanInv (L : List Addr) (ext : Addr → Nat) (rt₀ : JSRuntime) (P : List Addr)
    (pending : Addr → Nat) (rt : JSRuntime) : Prop where
  perm : (rt.gc_obj_list ++ rt.tmp_obj_list).Perm L
  processed : P <+: rt.gc_obj_list
  ref_count : ∀ c ∈ L, rt.ref_count c + pending c = ext c + G.indeg P c
  mem_tmp : ∀ c, c ∈ rt.tmp_obj_list ↔ c ∈ L ∧ rt.ref_count c = 0
  mark : ∀ c ∈ P, rt.mark c = 0
  reach : ∀ c ∈ rt.gc_obj_list, G.Reach L ext c
  zero : rt.gc_zero_ref_count_list.Sublist rt₀.gc_zero_ref_count_list
  gc_phase : rt.gc_phase = rt₀.gc_phase
  log : rt.log = rt₀.log
  free_mark : rt.free_mark = rt₀.free_mark
  tmp_sublist : rt.tmp_obj_list.Sublist rt₀.tmp_obj_list

section
variable {G} {L : List Addr} {ext : Addr → Nat} {rt₀ : JSRuntime} {P : List Addr}

theorem ScanInv.nodup (hL : L.Nodup) {pending : Addr → Nat} {rt : JSRuntime}
    (h : ScanInv G L ext rt₀ P pending rt) : (rt.gc_obj_list ++ rt.tmp_obj_list).Nodup :=
  h.perm.nodup_iff.mpr hL

theorem ScanInv.mem_gc_obj_list (hL : L.Nodup) {pending : Addr → Nat} {rt : JSRuntime}
    (h : ScanInv G L ext rt₀ P pending rt) (c : Addr) :
    c ∈ rt.gc_obj_list ↔ c ∈ L ∧ rt.ref_count c ≠ 0 := by
  constructor
  · intro hc
    have hcL : c ∈ L := h.perm.subset (List.mem_append_left _ hc)
    refine ⟨hcL, fun h0 => ?_⟩
    exact List.disjoint_of_nodup_append (h.nodup hL) hc ((h.mem_tmp c).mpr ⟨hcL, h0⟩)
  · rintro ⟨hcL, hc0⟩
    rcases List.mem_append.mp (h.perm.symm.subset hcL) with h' | h'
    · exact h'
    · exact absurd ((h.mem_tmp c).mp h').2 hc0

/-- **One edge given back.** `gc_scan_incref_child` on a child `c` of the cell
being processed: the count rises by one, and if it was zero the cell leaves
`tmp_obj_list` for the tail of `gc_obj_list`, as reachable through `p`. -/
theorem gc_scan_incref_child_step (hL : L.Nodup) {p c : Addr} {cs : List Addr}
    (hp : G.Reach L ext p) (hpc : c ∈ G.children p) (hc : c ∈ L) {rt : JSRuntime}
    (hI : ScanInv G L ext rt₀ (P ++ [p]) (fun x => (c :: cs).count x) rt) :
    ∃ rt', gc_scan_incref_child rt c = .ok rt' ∧
      ScanInv G L ext rt₀ (P ++ [p]) (fun x => cs.count x) rt' := by
  have hrc' : ∀ x ∈ L, Function.update rt.ref_count c (rt.ref_count c + 1) x + cs.count x =
      ext x + G.indeg (P ++ [p]) x := by
    intro x hx
    rw [← hI.ref_count x hx]
    by_cases hxc : x = c
    · subst hxc; simp; omega
    · simp [Function.update_noteq hxc, List.count_cons_of_ne hxc]
  by_cases hz : rt.ref_count c = 0
  · have hct : c ∈ rt.tmp_obj_list := (hI.mem_tmp c).mpr ⟨hc, hz⟩
    have hcg : c ∉ rt.gc_obj_list := fun h => List.disjoint_of_nodup_append (hI.nodup hL) h hct
    refine ⟨(((rt.set_ref_count c 1).list_del c).list_add_tail c .gc_obj_list).set_mark c 0,
      by simp [gc_scan_incref_child, hz], ?_⟩
    have hcP : c ∉ P ++ [p] := fun h => hcg (hI.processed.subset h)
    refine ⟨?_, ?_, ?_, ?_, ?_, ?_, by simpa using (List.erase_sublist _ _).trans hI.zero,
      by simpa using hI.gc_phase, by simpa using hI.log, by simpa using hI.free_mark,
      by simpa using (List.erase_sublist _ _).trans hI.tmp_sublist⟩
    · have hshape : (rt.gc_obj_list ++ [c] ++ rt.tmp_obj_list.erase c).Perm L := by
        simpa using ((List.perm_cons_erase hct).symm.append_left rt.gc_obj_list).trans hI.perm
      simpa [List.erase_of_not_mem hcg] using hshape
    · simpa [List.erase_of_not_mem hcg] using hI.processed.trans ( List.prefix_append _ _)
    · simpa [hz] using hrc'
    · intro x
      by_cases hxc : x = c
      · subst hxc; simp [(List.nodup_append.mp (hI.nodup hL)).2.1.mem_erase_iff]
      · simp [Function.update_noteq hxc, hxc, List.mem_erase_of_ne hxc, hI.mem_tmp]
    · intro x hx
      have hxc : x ≠ c := fun e => hcP (e ▸ hx)
      simpa [Function.update_noteq hxc] using hI.mark x hx
    · intro x hx
      simp only [set_mark_gc_obj_list, list_add_tail_gc_obj_list, list_del_gc_obj_list,
        set_ref_count_gc_obj_list, if_true, List.erase_of_not_mem hcg, List.mem_append,
        List.mem_singleton] at hx
      rcases hx with hx | rfl
      · exact hI.reach x hx
      · exact .child hp hpc
  · refine ⟨rt.set_ref_count c (rt.ref_count c + 1), by simp [gc_scan_incref_child, hz], ?_⟩
    refine ⟨by simpa using hI.perm, by simpa using hI.processed, by simpa using hrc', ?_,
      by simpa using hI.mark, by simpa using hI.reach, hI.zero, hI.gc_phase, hI.log,
      hI.free_mark, hI.tmp_sublist⟩
    intro x
    by_cases hxc : x = c
    · subst hxc; simp [hI.mem_tmp, hz]
    · simp [Function.update_noteq hxc, hI.mem_tmp]

/-- **One cell processed.** `gc_scan_body` on the cell after the processed
prefix succeeds (the cell is on `gc_obj_list`, so its count is positive) and
extends the prefix by that cell, having given its children their edges back. -/
theorem gc_scan_body_step (hL : L.Nodup) (hcl : ∀ q ∈ L, ∀ c ∈ G.children q, c ∈ L)
    {p : Addr} {Q : List Addr} {rt : JSRuntime} (hgc : rt.gc_obj_list = P ++ p :: Q)
    (hI : ScanInv G L ext rt₀ P (fun _ => 0) rt) :
    ∃ rt', gc_scan_body G rt p = .ok rt' ∧ ScanInv G L ext rt₀ (P ++ [p]) (fun _ => 0) rt' := by
  have hpg : p ∈ rt.gc_obj_list := by simp [hgc]
  have hpos := ((hI.mem_gc_obj_list hL p).mp hpg).2
  have hpL := ((hI.mem_gc_obj_list hL p).mp hpg).1
  have hpP : p ∉ P := by
    have := (hI.nodup hL).sublist (List.sublist_append_left _ _)
    rw [hgc] at this
    exact fun h => List.disjoint_of_nodup_append this h (List.mem_cons_self p Q)
  have hI₀ : ScanInv G L ext rt₀ (P ++ [p]) (fun x => (G.children p).count x)
      (rt.set_mark p 0) := by
    refine ⟨by simpa using hI.perm, by simp [hgc],
      fun c hc => ?_, by simpa using hI.mem_tmp, fun c hc => ?_, by simpa using hI.reach,
      hI.zero, hI.gc_phase, hI.log, hI.free_mark, hI.tmp_sublist⟩
    · have := hI.ref_count c hc; simp at this ⊢; omega
    · rcases List.mem_append.mp hc with h | h
      · have hcp : c ≠ p := fun e => hpP (e ▸ h)
        simpa [Function.update_noteq hcp] using hI.mark c h
      · simp [List.mem_singleton.mp h]
  obtain ⟨rt', hfold, hI'⟩ := foldlM_inv (f := gc_scan_incref_child)
    (fun cs rt => (∀ c ∈ cs, c ∈ G.children p) ∧
      ScanInv G L ext rt₀ (P ++ [p]) (fun x => cs.count x) rt)
    (fun c cs rt ⟨hcs, hI⟩ => by
      have hc := hcs c (List.mem_cons_self c cs)
      obtain ⟨rt', h, hI'⟩ := gc_scan_incref_child_step hL (hI.reach p
        (hI.processed.subset (by simp))) hc (hcl p hpL c hc) hI
      exact ⟨rt', h, fun x hx => hcs x (List.mem_cons_of_mem c hx), hI'⟩)
    (G.children p) (rt.set_mark p 0) ⟨fun _ h => h, hI₀⟩
  exact ⟨rt', by simp [gc_scan_body, hpos, mark_children, hfold], by simpa using hI'.2⟩

/-- **The walk.** With fuel for the cells not yet processed, `gc_scan_loop`
processes the whole of `gc_obj_list`, including every cell it appends. -/
theorem gc_scan_loop_spec (hL : L.Nodup) (hcl : ∀ q ∈ L, ∀ c ∈ G.children q, c ∈ L) :
    ∀ (n : Nat) (P : List Addr) (rt : JSRuntime), L.length ≤ n + P.length →
      ScanInv G L ext rt₀ P (fun _ => 0) rt →
      ∃ rt', gc_scan_loop G n (rt.gc_obj_list.drop P.length).head? rt = .ok rt' ∧
        ScanInv G L ext rt₀ rt'.gc_obj_list (fun _ => 0) rt' := by
  intro n
  induction n with
  | zero =>
    intro P rt hn hI
    have hlen : rt.gc_obj_list.length ≤ P.length := by
      have := hI.perm.length_eq; simp at this; omega
    have hP : P = rt.gc_obj_list := hI.processed.eq_of_length_le hlen
    exact ⟨rt, by simp [gc_scan_loop, List.drop_eq_nil_of_le hlen], hP ▸ hI⟩
  | succ m ih =>
    intro P rt hn hI
    obtain ⟨R, hR⟩ := hI.processed
    cases R with
    | nil => exact ⟨rt, by simp [← hR, gc_scan_loop], by simp [← hR, hI]⟩
    | cons p Q =>
      obtain ⟨rt₁, h₁, hI₁⟩ := gc_scan_body_step hL hcl hR.symm hI
      obtain ⟨Q', hQ'⟩ := hI₁.processed
      have hnd₁ : rt₁.gc_obj_list.Nodup := (hI₁.nodup hL).sublist (List.sublist_append_left _ _)
      have hnext : next_in rt₁.gc_obj_list p = (rt₁.gc_obj_list.drop (P ++ [p]).length).head? := by
        rw [← hQ'] at hnd₁ ⊢
        simpa using next_in_eq (show (P ++ p :: Q').Nodup by simpa using hnd₁)
      obtain ⟨rt₂, h₂, hI₂⟩ := ih (P ++ [p]) rt₁ (by simp; omega) hI₁
      have hhead : (List.drop P.length (P ++ p :: Q)).head? = some p := by simp
      refine ⟨rt₂, ?_, hI₂⟩
      rw [← hR, hhead]
      simp only [gc_scan_loop, h₁, except_ok_bind, hnext, h₂]

end

/-- What `gc_scan` leaves: `gc_obj_list` is the reachable set, every cell on it
unmarked, the two lists partition the listed cells, and every count is back
to in-degree plus external count. -/
structure ScanPost (G : GcGraph) (L : List Addr) (ext : Addr → Nat) (rt₀ rt : JSRuntime) :
    Prop where
  perm : (rt.gc_obj_list ++ rt.tmp_obj_list).Perm L
  mem_gc_obj_list : ∀ c, c ∈ rt.gc_obj_list ↔ G.Reach L ext c
  mark : ∀ c ∈ rt.gc_obj_list, rt.mark c = 0
  ref_count : ∀ c ∈ L, rt.ref_count c = G.indeg L c + ext c
  zero : rt.gc_zero_ref_count_list.Sublist rt₀.gc_zero_ref_count_list
  gc_phase : rt.gc_phase = rt₀.gc_phase
  log : rt.log = rt₀.log
  free_mark : rt.free_mark = rt₀.free_mark

/-- The second walk adds, to every count, the edges out of the walked cells. -/
theorem foldlM_gc_scan_incref_child2 (l : List Addr) (rt : JSRuntime) :
    l.foldlM gc_scan_incref_child2 rt =
      .ok { rt with ref_count := fun c => rt.ref_count c + l.count c } := by
  induction l generalizing rt with
  | nil => rfl
  | cons x l ih =>
    simp only [List.foldlM_cons, gc_scan_incref_child2, except_pure_eq_ok, except_ok_bind, ih]
    congr 2
    funext c
    by_cases hc : c = x
    · subst hc; simp; omega
    · simp [Function.update_noteq hc, List.count_cons_of_ne hc]

theorem mark_children_incref_child2 (p : Addr) (rt : JSRuntime) :
    mark_children G p gc_scan_incref_child2 rt =
      .ok { rt with ref_count := fun c => rt.ref_count c + (G.children p).count c } :=
  foldlM_gc_scan_incref_child2 _ rt

theorem foldlM_mark_children_incref_child2 (T : List Addr) (rt : JSRuntime) :
    T.foldlM (fun rt p => mark_children G p gc_scan_incref_child2 rt) rt =
      .ok { rt with ref_count := fun c => rt.ref_count c + G.indeg T c } := by
  induction T generalizing rt with
  | nil => rfl
  | cons q T ih =>
    rw [List.foldlM_cons, mark_children_incref_child2, except_ok_bind, ih]
    congr 2
    funext c
    simp; omega

/-- **`gc_scan`.** From what `gc_decref` leaves, the pass succeeds:
`gc_obj_list` ends as exactly the cells reachable from an externally held
cell, all unmarked, `tmp_obj_list` holds the rest, and every count is restored
to its value before `gc_decref`. -/
theorem gc_scan_spec {ext : Addr → Nat} {rt₀ rt : JSRuntime} (hL : rt₀.gc_obj_list.Nodup)
    (hcl : ∀ q ∈ rt₀.gc_obj_list, ∀ c ∈ G.children q, c ∈ rt₀.gc_obj_list)
    (hD : DecrefInv ext rt₀ rt₀.gc_obj_list [] (fun _ => 0) rt) :
    ∃ rt', gc_scan G rt = .ok rt' ∧ ScanPost G rt₀.gc_obj_list ext rt₀ rt' ∧
      rt'.tmp_obj_list.Sublist rt.tmp_obj_list := by
  set L := rt₀.gc_obj_list
  have hgc : rt.gc_obj_list = L.filter (fun c => rt.ref_count c ≠ 0) := by
    simpa using hD.gc_obj_list
  have htmp : rt.tmp_obj_list.Perm (L.filter (fun c => !decide (rt.ref_count c ≠ 0))) :=
    (List.perm_ext_iff_of_nodup hD.tmp_nodup (hL.filter _)).mpr fun c => by
      simp [hD.mem_tmp]
  have hI₀ : ScanInv G L ext rt [] (fun _ => 0) rt := by
    refine ⟨?_, List.nil_prefix, fun c hc => by simpa using hD.ref_count c (by simpa using hc),
      by simpa using hD.mem_tmp, by simp, fun c hc => ?_, .refl _, rfl, rfl, rfl, .refl _⟩
    · rw [hgc]
      exact (htmp.append_left _).trans (List.filter_append_perm _ L)
    · rw [hgc, List.mem_filter] at hc
      have := hD.ref_count c (by simpa using hc.1)
      exact .root hc.1 (by simp at hc this; omega)
  obtain ⟨rt₁, h₁, hI⟩ := gc_scan_loop_spec hL hcl
    (rt.gc_obj_list.length + rt.tmp_obj_list.length) [] rt
    (by have := hI₀.perm.length_eq; simp at this; omega) hI₀
  have h₁' : gc_scan_loop G (rt.gc_obj_list.length + rt.tmp_obj_list.length)
      rt.gc_obj_list.head? rt = .ok rt₁ := by simpa using h₁
  refine ⟨{ rt₁ with ref_count := fun c => rt₁.ref_count c + G.indeg rt₁.tmp_obj_list c },
    by rw [gc_scan, h₁', except_ok_bind, foldlM_mark_children_incref_child2], ?_⟩
  refine ⟨⟨hI.perm, fun c => ⟨hI.reach c, fun hc => ?_⟩, hI.mark, fun c hc => ?_,
    hI.zero.trans hD.zero, hI.gc_phase.trans hD.gc_phase, hI.log.trans hD.log,
    hI.free_mark.trans hD.free_mark⟩, hI.tmp_sublist⟩
  · have hpos : ∀ c, G.Reach L ext c → rt₁.ref_count c ≠ 0 := by
      intro c hc
      have := hI.ref_count c (GcGraph.Reach.mem hcl hc)
      induction hc with
      | root _ hpos => simp at this; omega
      | @child p c hp hpc ih =>
        have hpg := (hI.mem_gc_obj_list hL p).mpr
          ⟨GcGraph.Reach.mem hcl hp, ih (hI.ref_count p (GcGraph.Reach.mem hcl hp))⟩
        have := (G.indeg_eq_zero_iff rt₁.gc_obj_list c).not.mpr
          (by push_neg; exact ⟨p, hpg, hpc⟩)
        simp at *; omega
    exact (hI.mem_gc_obj_list hL c).mpr ⟨GcGraph.Reach.mem hcl hc, hpos c hc⟩
  · have := hI.ref_count c hc
    simp only [add_zero] at this
    have hperm := G.indeg_perm hI.perm c
    simp only [GcGraph.indeg_append] at hperm
    simp only; omega

/-- **Trial deletion.** From the precondition of `JS_RunGC`, `gc_decref` and
then `gc_scan` both succeed, no assertion failing. After `gc_decref` every
listed cell is marked and counts only its external references, and
`tmp_obj_list` holds exactly the cells with none; after `gc_scan`,
`gc_obj_list` holds exactly the cells reachable from an externally held cell,
unmarked, `tmp_obj_list` the other listed cells, and every count is what it was
before the two passes. -/
theorem gc_decref_gc_scan_correct {ext : Addr → Nat} {rt : JSRuntime} (h : GcPre G ext rt) :
    ∃ rt₁ rt₂, gc_decref G rt = .ok rt₁ ∧ gc_scan G rt₁ = .ok rt₂ ∧
      (∀ c ∈ rt.gc_obj_list, rt₁.mark c = 1 ∧ rt₁.ref_count c = ext c) ∧
      (∀ c, c ∈ rt₁.tmp_obj_list ↔ c ∈ rt.gc_obj_list ∧ ext c = 0) ∧
      (∀ c, c ∈ rt₁.gc_obj_list ↔ c ∈ rt.gc_obj_list ∧ ext c ≠ 0) ∧
      (∀ c, c ∈ rt₂.gc_obj_list ↔ G.Reach rt.gc_obj_list ext c) ∧
      (∀ c ∈ rt₂.gc_obj_list, rt₂.mark c = 0) ∧
      (∀ c, c ∈ rt₂.tmp_obj_list ↔ c ∈ rt.gc_obj_list ∧ ¬ G.Reach rt.gc_obj_list ext c) ∧
      (∀ c ∈ rt.gc_obj_list, rt₂.ref_count c = rt.ref_count c) := by
  obtain ⟨rt₁, h₁, hD⟩ := gc_decref_spec G h
  obtain ⟨rt₂, h₂, hS, -⟩ := gc_scan_spec G h.nodup h.closed hD
  have hrc₁ : ∀ c ∈ rt.gc_obj_list, rt₁.ref_count c = ext c := fun c hc => by
    simpa using hD.ref_count c (by simpa using hc)
  have hnd : (rt₂.gc_obj_list ++ rt₂.tmp_obj_list).Nodup := hS.perm.nodup_iff.mpr h.nodup
  refine ⟨rt₁, rt₂, h₁, h₂, fun c hc => ⟨hD.mark_visited c hc, hrc₁ c hc⟩, fun c => ?_,
    fun c => ?_, hS.mem_gc_obj_list, hS.mark, fun c => ?_, fun c hc => ?_⟩
  · rw [hD.mem_tmp c]
    exact ⟨fun ⟨hc, h0⟩ => ⟨hc, hrc₁ c hc ▸ h0⟩, fun ⟨hc, h0⟩ => ⟨hc, (hrc₁ c hc).trans h0⟩⟩
  · rw [hD.gc_obj_list, List.append_nil, List.mem_filter]
    exact ⟨fun ⟨hc, h0⟩ => ⟨hc, by simpa [hrc₁ c hc] using h0⟩,
      fun ⟨hc, h0⟩ => ⟨hc, by simpa [hrc₁ c hc] using h0⟩⟩
  · rw [← hS.mem_gc_obj_list]
    constructor
    · intro hc
      exact ⟨hS.perm.subset (List.mem_append_right _ hc),
        fun hg => List.disjoint_of_nodup_append hnd hg hc⟩
    · rintro ⟨hc, hg⟩
      rcases List.mem_append.mp (hS.perm.symm.subset hc) with h' | h'
      · exact absurd h' hg
      · exact h'
  · rw [hS.ref_count c hc, h.ref_count c hc]

/-- The sample heap meets the precondition, and trial deletion runs on it. -/
theorem gc_decref_gc_scan_correct_sample :
    GcPre sampleGraph sampleExt sampleHeap ∧ ∃ rt₁ rt₂,
      gc_decref sampleGraph sampleHeap = .ok rt₁ ∧ gc_scan sampleGraph rt₁ = .ok rt₂ :=
  ⟨sampleHeap_pre, let ⟨rt₁, rt₂, h₁, h₂, _⟩ := gc_decref_gc_scan_correct sampleGraph sampleHeap_pre
    ⟨rt₁, rt₂, h₁, h₂⟩⟩

end SlowJsGc

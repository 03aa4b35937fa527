import SlowJsGc.Runtime

/-!
# `gc_decref`: the trial deletion

The first pass of `JS_RunGC`. It walks `gc_obj_list` with
`list_for_each_safe`, subtracts from every child the edge it is being visited
through (`gc_decref_child`), sets the visited cell's `mark` to 1, and moves
every cell whose count has reached zero *after* its own visit to the tail of
`tmp_obj_list`. A child whose count reaches zero before its visit stays where
it is, to be moved by its own visit.

The walk removes cells from the list it is walking. `list_for_each_safe`
reads `el1 = el->next` before the body, and the body only ever moves `el`
itself or cells whose `mark` is already 1, so the cells still ahead of the
cursor are exactly the suffix of the list it started from. `DecrefInv` says
this, and `gc_decref_spec` is the end of it: every cell visited once, in list
order, its count lowered by exactly its in-degree from listed cells (so it is
its external count), and `tmp_obj_list` holding exactly the cells whose
external count is zero.
-/

set_option autoImplicit false

namespace SlowJsGc

open JSRuntime

variable (G : GcGraph)

/-- `gc_decref_child`. -/
def gc_decref_child (rt : JSRuntime) (p : Addr) : Except GcError JSRuntime :=
  if rt.ref_count p = 0 then throw (.assert_failed "p->ref_count > 0") else
  let rt := rt.set_ref_count p (rt.ref_count p - 1)
  if rt.ref_count p = 0 ∧ rt.mark p = 1 then
    pure ((rt.list_del p).list_add_tail p .tmp_obj_list)
  else pure rt

/-- The body of `gc_decref`'s loop, on the cell `p`. -/
def gc_decref_body (rt : JSRuntime) (p : Addr) : Except GcError JSRuntime := do
  if rt.mark p ≠ 0 then throw (.assert_failed "p->mark == 0")
  let rt ← mark_children G p gc_decref_child rt
  let rt := rt.set_mark p 1
  if rt.ref_count p = 0 then
    pure ((rt.list_del p).list_add_tail p .tmp_obj_list)
  else pure rt

/-- `list_for_each_safe(el, el1, &rt->gc_obj_list)`: `el1` is read before the
body runs. The fuel bounds the number of iterations. -/
def gc_decref_loop : Nat → Option Addr → JSRuntime → Except GcError JSRuntime
  | _, none, rt => pure rt
  | 0, some _, _ => throw .out_of_fuel
  | n + 1, some el, rt => do
    let el1 := next_in rt.gc_obj_list el
    let rt ← gc_decref_body G rt el
    gc_decref_loop n el1 rt

/-- `gc_decref`. -/
def gc_decref (rt : JSRuntime) : Except GcError JSRuntime :=
  let rt := { rt with tmp_obj_list := [] }
  gc_decref_loop G rt.gc_obj_list.length rt.gc_obj_list.head? rt

/-! ## The invariant of the walk -/

/-- `gc_decref` part-way through: the cells `V` have been visited, the cells
`rest` (the current one first) have not, and `pending c` of the edges into `c`
are still to be subtracted. -/
structure DecrefInv (ext : Addr → Nat) (rt₀ : JSRuntime) (V rest : List Addr)
    (pending : Addr → Nat) (rt : JSRuntime) : Prop where
  ref_count : ∀ c ∈ V ++ rest, rt.ref_count c = ext c + pending c
  mark_visited : ∀ c ∈ V, rt.mark c = 1
  mark_rest : ∀ c ∈ rest, rt.mark c = 0
  gc_obj_list : rt.gc_obj_list = V.filter (fun c => rt.ref_count c ≠ 0) ++ rest
  mem_tmp : ∀ c, c ∈ rt.tmp_obj_list ↔ c ∈ V ∧ rt.ref_count c = 0
  tmp_nodup : rt.tmp_obj_list.Nodup
  zero : rt.gc_zero_ref_count_list.Sublist rt₀.gc_zero_ref_count_list
  gc_phase : rt.gc_phase = rt₀.gc_phase
  log : rt.log = rt₀.log
  free_mark : rt.free_mark = rt₀.free_mark

/-- Lowering the count of `c` alone changes which cells of `V` keep a nonzero
count at most at `c`. -/
private theorem filter_update_ne {V : List Addr} {f : Addr → Nat} {c : Addr} {n : Nat}
    (h : c ∈ V → (f c ≠ 0 ↔ n ≠ 0)) :
    V.filter (fun x => Function.update f c n x ≠ 0) = V.filter (fun x => f x ≠ 0) := by
  refine List.filter_congr fun x hx => ?_
  by_cases hxc : x = c
  · subst hxc; simp [h hx]
  · simp [Function.update_noteq hxc]

private theorem filter_update_erase {V : List Addr} (hV : V.Nodup) {f : Addr → Nat} {c : Addr} :
    (V.filter (fun x => f x ≠ 0)).erase c =
      V.filter (fun x => Function.update f c 0 x ≠ 0) := by
  rw [(hV.filter _).erase_eq_filter, List.filter_filter]
  refine List.filter_congr fun x _ => ?_
  by_cases hxc : x = c
  · subst hxc; simp
  · simp [Function.update_noteq hxc, hxc]

section
variable {G} {ext : Addr → Nat} {rt₀ : JSRuntime} {V rest : List Addr}

/-- **One edge subtracted.** From a state where `c` still has the edge being
visited pending, `gc_decref_child` succeeds and leaves the same invariant with
that edge gone. The assertion holds because the pending edge is still in the
count; the move to `tmp_obj_list` happens exactly when the count reaches zero
on a cell already visited. -/
theorem gc_decref_child_step (hnd : (V ++ rest).Nodup) {c : Addr} {cs : List Addr}
    {W : Addr → Nat} (hc : c ∈ V ++ rest) {rt : JSRuntime}
    (hI : DecrefInv ext rt₀ V rest (fun x => (c :: cs).count x + W x) rt) :
    ∃ rt', gc_decref_child rt c = .ok rt' ∧
      DecrefInv ext rt₀ V rest (fun x => cs.count x + W x) rt' := by
  have hrc := hI.ref_count c hc
  simp only [List.count_cons_self] at hrc
  have hpos : rt.ref_count c ≠ 0 := by omega
  have hVnd : V.Nodup := (List.nodup_append.mp hnd).1
  have hnotmp : c ∉ rt.tmp_obj_list := fun h => hpos ((hI.mem_tmp c).mp h).2
  have hrc' : ∀ x ∈ V ++ rest,
      Function.update rt.ref_count c (rt.ref_count c - 1) x = ext x + (cs.count x + W x) := by
    intro x hx
    by_cases hxc : x = c
    · subst hxc; rw [Function.update_same]; omega
    · rw [Function.update_noteq hxc, hI.ref_count x hx, List.count_cons_of_ne hxc]
  by_cases hmove : rt.ref_count c - 1 = 0 ∧ rt.mark c = 1
  · obtain ⟨h0, h1⟩ := hmove
    have hcV : c ∈ V := by
      rcases List.mem_append.mp hc with h | h
      · exact h
      · exact absurd (hI.mark_rest c h) (by omega)
    refine ⟨((rt.set_ref_count c 0).list_del c).list_add_tail c .tmp_obj_list,
      by simp [gc_decref_child, hpos, h0, h1], ?_⟩
    rw [h0] at hrc'
    refine ⟨by simpa using hrc', by simpa using hI.mark_visited,
      by simpa using hI.mark_rest, ?_, ?_, ?_, ?_, by simpa using hI.gc_phase,
      by simpa using hI.log, by simpa using hI.free_mark⟩
    · simp only [list_add_tail_gc_obj_list, list_del_gc_obj_list, set_ref_count_gc_obj_list,
        list_add_tail_ref_count, list_del_ref_count, set_ref_count_ref_count, hI.gc_obj_list]
      rw [if_neg (by decide), List.erase_append_left _ (List.mem_filter.mpr ⟨hcV, by simpa using hpos⟩),
        filter_update_erase hVnd]
    · intro x
      simp only [list_add_tail_tmp_obj_list, list_del_tmp_obj_list, set_ref_count_tmp_obj_list,
        list_add_tail_ref_count, list_del_ref_count, set_ref_count_ref_count, if_true,
        List.erase_of_not_mem hnotmp, List.mem_append, List.mem_singleton, hI.mem_tmp]
      by_cases hxc : x = c
      · subst hxc; simp [hcV]
      · simp [Function.update_noteq hxc, hxc]
    · simpa [List.erase_of_not_mem hnotmp] using hI.tmp_nodup.append (List.nodup_singleton c)
        (List.disjoint_singleton.mpr hnotmp)
    · simpa using (List.erase_sublist _ _).trans hI.zero
  · have hsame : c ∈ V → (rt.ref_count c ≠ 0 ↔ rt.ref_count c - 1 ≠ 0) := fun hcV => by
      have := hI.mark_visited c hcV; omega
    refine ⟨rt.set_ref_count c (rt.ref_count c - 1), by simp [gc_decref_child, hpos, hmove], ?_⟩
    refine ⟨by simpa using hrc', hI.mark_visited, hI.mark_rest, ?_, ?_, hI.tmp_nodup, hI.zero,
      hI.gc_phase, hI.log, hI.free_mark⟩
    · simp only [set_ref_count_gc_obj_list, set_ref_count_ref_count, hI.gc_obj_list,
        filter_update_ne hsame]
    · intro x
      simp only [set_ref_count_tmp_obj_list, set_ref_count_ref_count, hI.mem_tmp]
      by_cases hxc : x = c
      · subst hxc
        by_cases hcV : x ∈ V
        · simp [hcV, hpos, (hsame hcV).mp hpos]
        · simp [hcV]
      · simp [Function.update_noteq hxc]

/-- **One cell visited.** `gc_decref_body` on the first unvisited cell `p`
succeeds (its `mark` is still 0) and moves it from `rest` to the visited
cells, with its outgoing edges subtracted. -/
theorem gc_decref_body_step {p : Addr} {R : List Addr} (hnd : (V ++ p :: R).Nodup)
    (hcl : ∀ c ∈ G.children p, c ∈ V ++ p :: R) {rt : JSRuntime}
    (hI : DecrefInv ext rt₀ V (p :: R) (G.indeg (p :: R)) rt) :
    ∃ rt', gc_decref_body G rt p = .ok rt' ∧ DecrefInv ext rt₀ (V ++ [p]) R (G.indeg R) rt' := by
  obtain ⟨rt₁, hfold, hI₁⟩ := foldlM_inv (f := gc_decref_child)
    (fun cs rt => (∀ c ∈ cs, c ∈ V ++ p :: R) ∧
      DecrefInv ext rt₀ V (p :: R) (fun x => cs.count x + G.indeg R x) rt)
    (fun c cs rt ⟨hcs, hI⟩ => by
      obtain ⟨rt', h, hI'⟩ := gc_decref_child_step hnd (hcs c (List.mem_cons_self c cs)) hI
      exact ⟨rt', h, fun x hx => hcs x (List.mem_cons_of_mem c hx), hI'⟩)
    (G.children p) rt ⟨hcl, by simpa using hI⟩
  have hI₁ := hI₁.2
  have hpV : p ∉ V := fun h => List.disjoint_of_nodup_append hnd h (List.mem_cons_self p R)
  have hpR : p ∉ R := (List.nodup_cons.mp (List.nodup_append.mp hnd).2.1).1
  have hVnd : V.Nodup := (List.nodup_append.mp hnd).1
  have hmark0 : rt.mark p = 0 := hI.mark_rest p (List.mem_cons_self p R)
  have hnotmp : p ∉ rt₁.tmp_obj_list := fun h => hpV ((hI₁.mem_tmp p).mp h).1
  have hcommon : ∀ rt' : JSRuntime, rt'.ref_count = rt₁.ref_count →
      rt'.mark = Function.update rt₁.mark p 1 →
      (∀ c ∈ V ++ [p] ++ R, rt'.ref_count c = ext c + G.indeg R c) ∧
      (∀ c ∈ V ++ [p], rt'.mark c = 1) ∧ (∀ c ∈ R, rt'.mark c = 0) := by
    intro rt' hrc hmk
    refine ⟨fun c hc => ?_, fun c hc => ?_, fun c hc => ?_⟩
    · rw [hrc, hI₁.ref_count c (by simpa using hc)]; simp
    · rw [hmk]
      rcases List.mem_append.mp hc with h | h
      · rw [Function.update_noteq (fun e : c = p => hpV (e ▸ h)), hI₁.mark_visited c h]
      · rw [List.mem_singleton.mp h, Function.update_same]
    · rw [hmk, Function.update_noteq (fun e : c = p => hpR (e ▸ hc)),
        hI₁.mark_rest c (List.mem_cons_of_mem p hc)]
  by_cases hz : rt₁.ref_count p = 0
  · refine ⟨((rt₁.set_mark p 1).list_del p).list_add_tail p .tmp_obj_list,
      by simp [gc_decref_body, mark_children, hmark0, hfold, hz], ?_⟩
    obtain ⟨h1, h2, h3⟩ := hcommon (((rt₁.set_mark p 1).list_del p).list_add_tail p .tmp_obj_list)
      (by funext x; simp) (by funext x; simp)
    refine ⟨h1, h2, h3, ?_, ?_, ?_, ?_, by simpa using hI₁.gc_phase, by simpa using hI₁.log,
      by simpa using hI₁.free_mark⟩
    · simp only [list_add_tail_gc_obj_list, list_del_gc_obj_list, set_mark_gc_obj_list,
        list_add_tail_ref_count, list_del_ref_count, set_mark_ref_count, hI₁.gc_obj_list,
        List.filter_append, List.filter_singleton, hz]
      rw [if_neg (by decide), List.erase_append_right _ (fun h => hpV (List.mem_of_mem_filter h))]
      simp
    · intro x
      simp only [list_add_tail_tmp_obj_list, list_del_tmp_obj_list, set_mark_tmp_obj_list,
        list_add_tail_ref_count, list_del_ref_count, set_mark_ref_count, if_true,
        List.erase_of_not_mem hnotmp, List.mem_append, List.mem_singleton, hI₁.mem_tmp]
      by_cases hxp : x = p
      · subst hxp; simp [hz]
      · simp [hxp]
    · simpa [List.erase_of_not_mem hnotmp] using hI₁.tmp_nodup.append (List.nodup_singleton p)
        (List.disjoint_singleton.mpr hnotmp)
    · simpa using (List.erase_sublist _ _).trans hI₁.zero
  · refine ⟨rt₁.set_mark p 1, by simp [gc_decref_body, mark_children, hmark0, hfold, hz], ?_⟩
    obtain ⟨h1, h2, h3⟩ := hcommon (rt₁.set_mark p 1) (by funext x; simp)
      (by funext x; simp)
    refine ⟨h1, h2, h3, ?_, ?_, hI₁.tmp_nodup, hI₁.zero, hI₁.gc_phase, hI₁.log, hI₁.free_mark⟩
    · simp [hI₁.gc_obj_list, hz]
    · intro x
      simp only [set_mark_tmp_obj_list, set_mark_ref_count, hI₁.mem_tmp, List.mem_append,
        List.mem_singleton]
      by_cases hxp : x = p
      · subst hxp; simp [hz, hpV]
      · simp [hxp]

/-- **The walk.** With fuel for the cells ahead, `gc_decref_loop` visits them
all, in order, and ends with every cell visited and no edge pending. -/
theorem gc_decref_loop_spec (hcl : ∀ q ∈ V ++ rest, ∀ c ∈ G.children q, c ∈ V ++ rest) :
    ∀ (n : Nat) (rt : JSRuntime), rest.length ≤ n → (V ++ rest).Nodup →
      DecrefInv ext rt₀ V rest (G.indeg rest) rt →
      ∃ rt', gc_decref_loop G n rest.head? rt = .ok rt' ∧
        DecrefInv ext rt₀ (V ++ rest) [] (fun _ => 0) rt' := by
  induction rest generalizing V with
  | nil => intro n rt _ _ hI; exact ⟨rt, by cases n <;> rfl, by simpa using hI⟩
  | cons p R ih =>
    intro n rt hn hnd hI
    obtain ⟨m, rfl⟩ : ∃ m, n = m + 1 := ⟨n - 1, by simp at hn; omega⟩
    have hnext : next_in rt.gc_obj_list p = R.head? := by
      rw [hI.gc_obj_list]
      exact next_in_eq (((List.filter_sublist V).append (List.Sublist.refl _)).nodup hnd)
    obtain ⟨rt₁, h1, hI₁⟩ := gc_decref_body_step hnd (hcl p (by simp)) hI
    obtain ⟨rt₂, h2, hI₂⟩ := ih (V := V ++ [p]) (by simpa using hcl) m rt₁
      (by simpa using hn) (by simpa using hnd) hI₁
    exact ⟨rt₂, by simp [gc_decref_loop, hnext, h1, h2], by simpa using hI₂⟩

end

/-- The precondition of `JS_RunGC` on the listed cells: a list without
repetitions, closed under `mark_children`, every cell unmarked, and every count
the in-degree from listed cells plus an external count. -/
structure GcPre (G : GcGraph) (ext : Addr → Nat) (rt : JSRuntime) : Prop where
  nodup : rt.gc_obj_list.Nodup
  closed : ∀ q ∈ rt.gc_obj_list, ∀ c ∈ G.children q, c ∈ rt.gc_obj_list
  mark : ∀ c ∈ rt.gc_obj_list, rt.mark c = 0
  ref_count : ∀ c ∈ rt.gc_obj_list, rt.ref_count c = G.indeg rt.gc_obj_list c + ext c

/-- Edges of the sample heap: the object `0` points at `1`, and the objects
`2` and `3` at each other. -/
def sampleChildren : Addr → List Addr
  | 0 => [1]
  | 2 => [3]
  | 3 => [2]
  | _ => []

/-- A sample heap of four objects, `0` held from outside: `0` and `1` are
reachable, the cycle `2 ⇄ 3` is garbage. -/
def sampleGraph : GcGraph where
  kind _ := .JS_OBJECT
  children := sampleChildren
  released := sampleChildren

/-- The one external reference of the sample heap. -/
def sampleExt : Addr → Nat
  | 0 => 1
  | _ => 0

/-- The sample heap at rest. -/
def sampleHeap : JSRuntime where
  ref_count c := if c < 4 then 1 else 0
  mark _ := 0
  free_mark _ := false
  gc_obj_list := [0, 1, 2, 3]
  tmp_obj_list := []
  gc_zero_ref_count_list := []
  gc_phase := .NONE
  log := []

theorem sampleHeap_pre : GcPre sampleGraph sampleExt sampleHeap :=
  ⟨by decide, by decide, by decide, by decide⟩

/-- **`gc_decref`.** From the precondition, the pass succeeds and leaves every
listed cell visited (`mark` 1) with its count equal to its external count,
`gc_obj_list` the cells with a positive external count in their old order, and
`tmp_obj_list` exactly the others. -/
theorem gc_decref_spec {ext : Addr → Nat} {rt : JSRuntime} (h : GcPre G ext rt) :
    ∃ rt', gc_decref G rt = .ok rt' ∧
      DecrefInv ext rt rt.gc_obj_list [] (fun _ => 0) rt' := by
  have hI₀ : DecrefInv ext rt [] rt.gc_obj_list (G.indeg rt.gc_obj_list)
      { rt with tmp_obj_list := [] } :=
    ⟨fun c hc => by simpa [Nat.add_comm] using h.ref_count c (by simpa using hc),
      by simp, h.mark, by simp, by simp, List.nodup_nil, List.Sublist.refl _, rfl, rfl, rfl⟩
  obtain ⟨rt', h', hI⟩ := gc_decref_loop_spec (V := []) (by simpa using h.closed) _ _ le_rfl
    (by simpa using h.nodup) hI₀
  exact ⟨rt', h', by simpa using hI⟩

end SlowJsGc

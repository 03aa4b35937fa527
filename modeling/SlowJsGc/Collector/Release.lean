import SlowJsGc.Runtime

/-!
# Releasing references: `JS_FreeValueRT`, the free paths and the drain

What happens when a strong reference to a GC cell is dropped. For an object
or function bytecode, `JS_FreeValueRT` lowers the count and at zero calls
`__JS_FreeValueRT`, which depends on `gc_phase`: outside a collection it moves
the cell to the head of `gc_zero_ref_count_list` and, if no drain is running
yet, runs `free_zero_refcount`, which frees the list's head until the list is
empty; inside `gc_free_cycles` it does nothing, because the cycle collector
frees those cells itself. Every other kind (`free_var_ref`, and the shape,
context and async-function releases, which have the same shape) is freed by
its own release the moment its count reaches zero: its references are
released, it is unlinked and its memory returned.

The three functions call one another, so they are one `mutual` block, and all
of them take fuel. `free_zero_refcount_loop` is the loop of
`free_zero_refcount`; the release that starts a drain sets `gc_phase` to
`DECREF` before entering it, as `free_zero_refcount` does.

The accounting that everything below rests on is `RelInv`: every count is the
external count, plus the edges from the cells not yet finalized, plus the
references the calls in progress still have to release (the *frame*).
Finalizing a cell moves its references from the first sum to the frame, and a
release removes one from the frame. `Released` describes what a sequence of
releases does to the rest of the state, and composes.
-/

set_option autoImplicit false

namespace SlowJsGc

open JSRuntime

variable (G : GcGraph)

mutual

/-- Releasing one strong reference to the cell `c`: `JS_FreeValueRT` and
`__JS_FreeValueRT` for an object or function bytecode, `free_var_ref` (and the
releases of shapes, contexts and async functions) for the other kinds. -/
def free_gc_ref : Nat → JSRuntime → Addr → Except GcError JSRuntime
  | 0, _, _ => throw .out_of_fuel
  | n + 1, rt, c =>
    if rt.ref_count c = 0 then throw (.assert_failed "ref_count > 0") else
    let rt := rt.set_ref_count c (rt.ref_count c - 1)
    if rt.ref_count c ≠ 0 then pure rt
    else if (G.kind c).isValue then
      if rt.gc_phase ≠ .REMOVE_CYCLES then
        let rt := (rt.list_del c).list_add_zero c
        if rt.gc_phase = .NONE then free_zero_refcount_loop n (rt.set_phase .DECREF)
        else pure rt
      else pure rt
    else do
      let rt ← (G.released c).foldlM (free_gc_ref n) (rt.finalize c)
      pure ((rt.list_del c).js_free_rt c)

/-- `free_gc_object`: `free_object` or `free_function_bytecode`, and `abort()`
for any other kind. -/
def free_gc_object : Nat → JSRuntime → Addr → Except GcError JSRuntime
  | 0, _, _ => throw .out_of_fuel
  | n + 1, rt, p =>
    if (G.kind p).isValue then do
      let rt := if G.kind p = .JS_OBJECT then rt.set_free_mark p else rt
      let rt ← (G.released p).foldlM (free_gc_ref n) (rt.finalize p)
      let rt := rt.list_del p
      if rt.gc_phase = .REMOVE_CYCLES ∧ rt.ref_count p ≠ 0 then
        pure (rt.list_add_tail p .gc_zero_ref_count_list)
      else pure (rt.js_free_rt p)
    else throw .abort

/-- The loop of `free_zero_refcount`: free the head of
`gc_zero_ref_count_list` until the list is empty, then set `gc_phase` back to
`NONE`. -/
def free_zero_refcount_loop : Nat → JSRuntime → Except GcError JSRuntime
  | 0, _ => throw .out_of_fuel
  | n + 1, rt =>
    match rt.gc_zero_ref_count_list with
    | [] => pure (rt.set_phase .NONE)
    | p :: _ =>
      if rt.ref_count p ≠ 0 then throw (.assert_failed "p->ref_count == 0") else do
      free_zero_refcount_loop n (← free_gc_object n rt p)

end

/-! ## What a run of releases does -/

/-- A non-value cell whose count went from positive to zero: it was freed. -/
def freed_nv (rt rt' : JSRuntime) (d : Addr) : Prop :=
  (G.kind d).isValue = false ∧ rt.ref_count d ≠ 0 ∧ rt'.ref_count d = 0

/-- An object or bytecode whose count went from positive to zero in the
`DECREF` phase: it was queued on `gc_zero_ref_count_list`. -/
def zeroed_value (rt rt' : JSRuntime) (d : Addr) : Prop :=
  rt.gc_phase = .DECREF ∧ (G.kind d).isValue = true ∧ rt.ref_count d ≠ 0 ∧ rt'.ref_count d = 0

instance (rt rt' : JSRuntime) (d : Addr) : Decidable (freed_nv G rt rt' d) :=
  inferInstanceAs (Decidable (_ ∧ _ ∧ _))

instance (rt rt' : JSRuntime) (d : Addr) : Decidable (zeroed_value G rt rt' d) :=
  inferInstanceAs (Decidable (_ ∧ _ ∧ _ ∧ _))

/-- The cells a run of releases left where they were. -/
def kept (rt rt' : JSRuntime) (d : Addr) : Bool :=
  !decide (freed_nv G rt rt' d) && !decide (zeroed_value G rt rt' d)

/-- The effect of a run of releases on everything but the accounting: counts
only go down, the freed non-value cells leave every list and have exactly one
`finalize` and one `js_free_rt` event with count 0, the queued objects move to
the front of `gc_zero_ref_count_list`, and nothing else changes. -/
structure Released (rt rt' : JSRuntime) : Prop where
  ref_count_le : ∀ c, rt'.ref_count c ≤ rt.ref_count c
  mark : rt'.mark = rt.mark
  free_mark : rt'.free_mark = rt.free_mark
  gc_phase : rt'.gc_phase = rt.gc_phase
  gc_obj_list : rt'.gc_obj_list = rt.gc_obj_list.filter (kept G rt rt')
  tmp_obj_list : rt'.tmp_obj_list = rt.tmp_obj_list.filter (kept G rt rt')
  zero : ∃ Z, rt'.gc_zero_ref_count_list = Z ++ rt.gc_zero_ref_count_list.filter (kept G rt rt') ∧
    Z.Nodup ∧ ∀ d, d ∈ Z ↔ zeroed_value G rt rt' d
  log : ∃ E, rt'.log = rt.log ++ E ∧
    (∀ d, E.count (.finalize d) = if freed_nv G rt rt' d then 1 else 0) ∧
    (∀ d k, E.count (.js_free_rt d k) = if freed_nv G rt rt' d ∧ k = 0 then 1 else 0)

namespace Released

variable {G}

theorem refl (rt : JSRuntime) : Released G rt rt := by
  have hk : kept G rt rt = fun _ => true := by
    funext d; simp [kept, freed_nv, zeroed_value]
  refine ⟨fun _ => le_rfl, rfl, rfl, rfl, by simp [hk], by simp [hk], ⟨[], by simp [hk], by simp,
    fun d => by simp [zeroed_value]⟩, ⟨[], by simp, fun d => by simp [freed_nv],
    fun d k => by simp [freed_nv]⟩⟩

variable {rt₁ rt₂ rt₃ : JSRuntime}

theorem freed_nv_trans (h₁₂ : Released G rt₁ rt₂) (h₂₃ : Released G rt₂ rt₃) (d : Addr) :
    freed_nv G rt₁ rt₃ d ↔ freed_nv G rt₁ rt₂ d ∨ freed_nv G rt₂ rt₃ d := by
  have := h₁₂.ref_count_le d; have := h₂₃.ref_count_le d
  simp only [freed_nv]; constructor
  · rintro ⟨hk, h1, h3⟩
    by_cases h2 : rt₂.ref_count d = 0
    · exact .inl ⟨hk, h1, h2⟩
    · exact .inr ⟨hk, h2, h3⟩
  · rintro (⟨hk, h1, h2⟩ | ⟨hk, h2, h3⟩) <;> refine ⟨hk, ?_, ?_⟩ <;> omega

theorem zeroed_value_trans (h₁₂ : Released G rt₁ rt₂) (h₂₃ : Released G rt₂ rt₃) (d : Addr) :
    zeroed_value G rt₁ rt₃ d ↔ zeroed_value G rt₁ rt₂ d ∨ zeroed_value G rt₂ rt₃ d := by
  have := h₁₂.ref_count_le d; have := h₂₃.ref_count_le d
  simp only [zeroed_value, h₁₂.gc_phase]; constructor
  · rintro ⟨hp, hk, h1, h3⟩
    by_cases h2 : rt₂.ref_count d = 0
    · exact .inl ⟨hp, hk, h1, h2⟩
    · exact .inr ⟨hp, hk, h2, h3⟩
  · rintro (⟨hp, hk, h1, h2⟩ | ⟨hp, hk, h2, h3⟩) <;> refine ⟨hp, hk, ?_, ?_⟩ <;> omega

theorem kept_trans (h₁₂ : Released G rt₁ rt₂) (h₂₃ : Released G rt₂ rt₃) (d : Addr) :
    kept G rt₁ rt₃ d = (kept G rt₁ rt₂ d && kept G rt₂ rt₃ d) := by
  simp only [kept, freed_nv_trans h₁₂ h₂₃, zeroed_value_trans h₁₂ h₂₃]
  by_cases a : freed_nv G rt₁ rt₂ d <;> by_cases b : freed_nv G rt₂ rt₃ d <;>
    by_cases c : zeroed_value G rt₁ rt₂ d <;> by_cases e : zeroed_value G rt₂ rt₃ d <;> simp [*]

/-- A cell freed or queued by the first run has count zero, so the second run
cannot free or queue it again. -/
theorem not_twice (rt₃ : JSRuntime) {d : Addr} (hd : rt₂.ref_count d = 0) :
    ¬ freed_nv G rt₂ rt₃ d ∧ ¬ zeroed_value G rt₂ rt₃ d := by
  simp [freed_nv, zeroed_value, hd]

theorem trans (h₁₂ : Released G rt₁ rt₂) (h₂₃ : Released G rt₂ rt₃) : Released G rt₁ rt₃ := by
  have hk := kept_trans h₁₂ h₂₃
  have hfilter : ∀ l : List Addr, (l.filter (kept G rt₁ rt₂)).filter (kept G rt₂ rt₃) =
      l.filter (kept G rt₁ rt₃) := fun l => by
    rw [List.filter_filter]; exact List.filter_congr fun d _ => by rw [hk, Bool.and_comm]
  obtain ⟨Z₁, hZ₁, hZ₁nd, hZ₁mem⟩ := h₁₂.zero
  obtain ⟨Z₂, hZ₂, hZ₂nd, hZ₂mem⟩ := h₂₃.zero
  obtain ⟨E₁, hE₁, hE₁f, hE₁j⟩ := h₁₂.log
  obtain ⟨E₂, hE₂, hE₂f, hE₂j⟩ := h₂₃.log
  have hZ₁rc : ∀ d ∈ Z₁, rt₂.ref_count d = 0 := fun d hd => ((hZ₁mem d).mp hd).2.2.2
  have hZ₁keep : Z₁.filter (kept G rt₂ rt₃) = Z₁ := List.filter_eq_self.mpr fun d hd => by
    have := not_twice (G := G) rt₃ (hZ₁rc d hd); simp [kept, this.1, this.2]
  refine ⟨fun c => (h₂₃.ref_count_le c).trans (h₁₂.ref_count_le c), h₂₃.mark.trans h₁₂.mark,
    h₂₃.free_mark.trans h₁₂.free_mark, h₂₃.gc_phase.trans h₁₂.gc_phase,
    by rw [h₂₃.gc_obj_list, h₁₂.gc_obj_list, hfilter],
    by rw [h₂₃.tmp_obj_list, h₁₂.tmp_obj_list, hfilter], ⟨Z₂ ++ Z₁, ?_, ?_, fun d => ?_⟩,
    ⟨E₁ ++ E₂, by rw [hE₂, hE₁, List.append_assoc], fun d => ?_, fun d k => ?_⟩⟩
  · rw [hZ₂, hZ₁, List.filter_append, hZ₁keep, hfilter, List.append_assoc]
  · refine List.Nodup.append hZ₂nd hZ₁nd fun d h2 h1 => ?_
    have := not_twice (G := G) rt₃ (hZ₁rc d h1)
    exact this.2 ((hZ₂mem d).mp h2)
  · rw [List.mem_append, hZ₂mem, hZ₁mem, zeroed_value_trans h₁₂ h₂₃, or_comm]
  · rw [List.count_append, hE₁f, hE₂f]
    by_cases a : freed_nv G rt₁ rt₂ d
    · have := not_twice (G := G) rt₃ a.2.2
      simp [a, this.1, (freed_nv_trans h₁₂ h₂₃ d).mpr (.inl a)]
    · by_cases b : freed_nv G rt₂ rt₃ d
      · simp [a, b, (freed_nv_trans h₁₂ h₂₃ d).mpr (.inr b)]
      · have : ¬ freed_nv G rt₁ rt₃ d := fun h => ((freed_nv_trans h₁₂ h₂₃ d).mp h).elim a b
        simp [a, b, this]
  · rw [List.count_append, hE₁j, hE₂j]
    by_cases a : freed_nv G rt₁ rt₂ d
    · have := not_twice (G := G) rt₃ a.2.2
      simp [a, this.1, (freed_nv_trans h₁₂ h₂₃ d).mpr (.inl a)]
    · by_cases b : freed_nv G rt₂ rt₃ d
      · simp [a, b, (freed_nv_trans h₁₂ h₂₃ d).mpr (.inr b)]
      · have : ¬ freed_nv G rt₁ rt₃ d := fun h => ((freed_nv_trans h₁₂ h₂₃ d).mp h).elim a b
        simp [a, b, this]

/-- The `finalize` events of a run of releases are those of the cells it
freed. -/
theorem mem_finalize (h : Released G rt₁ rt₂) (d : Addr) :
    GcEvent.finalize d ∈ rt₂.log ↔ GcEvent.finalize d ∈ rt₁.log ∨ freed_nv G rt₁ rt₂ d := by
  obtain ⟨E, hE, hEf, -⟩ := h.log
  rw [hE, List.mem_append, ← List.count_pos_iff (l := E), hEf d]
  by_cases hd : freed_nv G rt₁ rt₂ d <;> simp [hd]

/-- Inside `gc_free_cycles` a run of releases queues nothing: it only frees
cells that are not objects or bytecode. -/
theorem remove_cycles (h : Released G rt₁ rt₂) (hph : rt₁.gc_phase = .REMOVE_CYCLES) :
    kept G rt₁ rt₂ = (fun d => !decide (freed_nv G rt₁ rt₂ d)) ∧
      rt₂.gc_zero_ref_count_list = rt₁.gc_zero_ref_count_list.filter (kept G rt₁ rt₂) := by
  have hz : ∀ d, ¬ zeroed_value G rt₁ rt₂ d := fun d => by simp [zeroed_value, hph]
  obtain ⟨Z, hZ, -, hZmem⟩ := h.zero
  have hZ0 : Z = [] := List.eq_nil_iff_forall_not_mem.mpr fun d hd => hz d ((hZmem d).mp hd)
  exact ⟨funext fun d => by simp [kept, hz d], by rw [hZ, hZ0, List.nil_append]⟩

end Released

/-! ## Single steps -/

private theorem filter_erase_of_nodup {l : List Addr} (hl : l.Nodup) (k : Addr → Bool) (c : Addr) :
    (l.filter k).erase c = l.filter (fun d => k d && d != c) := by
  rw [(hl.filter k).erase_eq_filter, List.filter_filter]
  exact List.filter_congr fun d _ => by rw [Bool.and_comm]

section steps

variable {G} {rt : JSRuntime} {c : Addr}

/-- Lowering a count without freeing or queueing anything. -/
theorem released_dec (hc : rt.ref_count c ≠ 0)
    (hkeep : rt.ref_count c - 1 ≠ 0 ∨
      ((G.kind c).isValue = true ∧ rt.gc_phase ≠ .DECREF)) :
    Released G rt (rt.set_ref_count c (rt.ref_count c - 1)) := by
  have hk : kept G rt (rt.set_ref_count c (rt.ref_count c - 1)) = fun _ => true := by
    funext d
    by_cases hd : d = c
    · subst hd
      rcases hkeep with h | ⟨hv, hp⟩
      · simp [kept, freed_nv, zeroed_value, h]
      · simp [kept, freed_nv, zeroed_value, hv, hp]
    · simp [kept, freed_nv, zeroed_value, Function.update_noteq hd]
  refine ⟨fun d => ?_, rfl, rfl, rfl, by simp [hk], by simp [hk],
    ⟨[], by simp [hk], by simp, fun d => ?_⟩, ⟨[], by simp, fun d => ?_, fun d k => ?_⟩⟩
  · by_cases hd : d = c
    · subst hd; simp
    · simp [Function.update_noteq hd]
  all_goals
    have := congrFun hk d
    simp only [kept, Bool.and_eq_true, Bool.not_eq_true', decide_eq_false_iff_not] at this
    simp [this.1, this.2]

/-- `__JS_FreeValueRT` in the `DECREF` phase: the object goes to the head of
`gc_zero_ref_count_list`. -/
theorem released_push (hnd : (rt.gc_obj_list ++ rt.tmp_obj_list ++ rt.gc_zero_ref_count_list).Nodup)
    (hc : rt.ref_count c = 1) (hv : (G.kind c).isValue = true) (hp : rt.gc_phase = .DECREF) :
    Released G rt (((rt.set_ref_count c 0).list_del c).list_add_zero c) := by
  have hz : ∀ d, zeroed_value G rt (((rt.set_ref_count c 0).list_del c).list_add_zero c) d ↔
      d = c := fun d => by
    by_cases hd : d = c
    · subst hd; simp [zeroed_value, hv, hp, hc]
    · simp [zeroed_value, Function.update_noteq hd, hd]
  have hk : kept G rt (((rt.set_ref_count c 0).list_del c).list_add_zero c) =
      fun d => d != c := by
    funext d
    by_cases hd : d = c
    · subst hd; simp [kept, (hz d).mpr rfl]
    · have : ¬ freed_nv G rt (((rt.set_ref_count c 0).list_del c).list_add_zero c) d := by
        simp [freed_nv, Function.update_noteq hd]
      simp [kept, this, (hz d).not.mpr hd, hd]
  have hnd₁ := List.nodup_append.mp hnd
  have hnd₂ := List.nodup_append.mp hnd₁.1
  refine ⟨fun d => ?_, rfl, rfl, rfl, ?_, ?_, ⟨[c], ?_, by simp, fun d => by simp [hz]⟩,
    ⟨[], by simp, fun d => ?_, fun d k => ?_⟩⟩
  · by_cases hd : d = c
    · subst hd; simp
    · simp [Function.update_noteq hd]
  · simp [hk, hnd₂.1.erase_eq_filter]
  · simp [hk, hnd₂.2.1.erase_eq_filter]
  · simp [hk, hnd₁.2.1.erase_eq_filter]
  all_goals
    have : ¬ freed_nv G rt (((rt.set_ref_count c 0).list_del c).list_add_zero c) d := by
      by_cases hd : d = c
      · subst hd; simp [freed_nv, hv]
      · simp [freed_nv, Function.update_noteq hd]
    simp [this]

/-- A non-value cell freed by its own release: count to zero, `finalize`,
its references released (`h₂₃`), unlinked, memory returned. -/
theorem released_free_nv
    (hnd : (rt.gc_obj_list ++ rt.tmp_obj_list ++ rt.gc_zero_ref_count_list).Nodup)
    (hc : rt.ref_count c ≠ 0) (hnv : (G.kind c).isValue = false) {rt₃ : JSRuntime}
    (h₂₃ : Released G ((rt.set_ref_count c 0).finalize c) rt₃) :
    Released G rt ((rt₃.list_del c).js_free_rt c) := by
  set rt₂ := (rt.set_ref_count c 0).finalize c
  set rt' := (rt₃.list_del c).js_free_rt c
  have hrc₃ : rt₃.ref_count c = 0 := by
    have := h₂₃.ref_count_le c; simp [rt₂] at this; exact this
  have hf : ∀ d, freed_nv G rt rt' d ↔ d = c ∨ freed_nv G rt₂ rt₃ d := fun d => by
    by_cases hd : d = c
    · subst hd; simp [freed_nv, rt', rt₂, hnv, hc, hrc₃]
    · simp [freed_nv, rt', rt₂, Function.update_noteq hd, hd]
  have hf₂ : ¬ freed_nv G rt₂ rt₃ c := by simp [freed_nv, rt₂]
  have hz : ∀ d, zeroed_value G rt rt' d ↔ zeroed_value G rt₂ rt₃ d := fun d => by
    by_cases hd : d = c
    · subst hd; simp [zeroed_value, hnv]
    · simp [zeroed_value, rt', rt₂, Function.update_noteq hd]
  have hk : ∀ d, kept G rt rt' d = (kept G rt₂ rt₃ d && d != c) := fun d => by
    by_cases hd : d = c
    · subst hd; simp [kept, (hf d).mpr (.inl rfl)]
    · simp [kept, hf d, hz d, hd]
  have hnd₁ := List.nodup_append.mp hnd
  have hnd₂ := List.nodup_append.mp hnd₁.1
  obtain ⟨Z, hZ, hZnd, hZmem⟩ := h₂₃.zero
  obtain ⟨E, hE, hEf, hEj⟩ := h₂₃.log
  have hcZ : c ∉ Z := fun h => by simp [(hZmem c).mp h |>.2.1] at hnv
  refine ⟨fun d => ?_, by simpa [rt'] using h₂₃.mark, by simpa [rt'] using h₂₃.free_mark,
    by simpa [rt'] using h₂₃.gc_phase, ?_, ?_, ⟨Z, ?_, hZnd, fun d => by rw [hZmem, hz]⟩,
    ⟨.finalize c :: (E ++ [.js_free_rt c 0]), ?_, fun d => ?_, fun d k => ?_⟩⟩
  · have h₁ := h₂₃.ref_count_le d
    by_cases hd : d = c
    · subst hd; simp [rt', hrc₃]
    · simp [rt₂, rt', Function.update_noteq hd] at h₁ ⊢; exact h₁
  · simp only [rt', js_free_rt_gc_obj_list, list_del_gc_obj_list, h₂₃.gc_obj_list, rt₂,
      finalize_gc_obj_list, set_ref_count_gc_obj_list]
    rw [filter_erase_of_nodup hnd₂.1]
    exact List.filter_congr fun d _ => by rw [hk]
  · simp only [rt', js_free_rt_tmp_obj_list, list_del_tmp_obj_list, h₂₃.tmp_obj_list, rt₂,
      finalize_tmp_obj_list, set_ref_count_tmp_obj_list]
    rw [filter_erase_of_nodup hnd₂.2.1]
    exact List.filter_congr fun d _ => by rw [hk]
  · simp only [rt', js_free_rt_gc_zero_ref_count_list, list_del_gc_zero_ref_count_list, hZ, rt₂,
      finalize_gc_zero_ref_count_list, set_ref_count_gc_zero_ref_count_list]
    rw [List.erase_append_right _ hcZ, filter_erase_of_nodup hnd₁.2.1]
    exact congrArg _ (List.filter_congr fun d _ => by rw [hk])
  · simp [rt', rt₂, hE, hrc₃]
  · by_cases hd : d = c
    · subst hd; simp [hEf, hf₂, (hf d).mpr (.inl rfl)]
    · simp [hEf, hf d, hd]
  · by_cases hd : d = c
    · subst hd; by_cases hk : k = 0 <;> simp [hEj, hf₂, (hf d).mpr (.inl rfl), hk]
    · simp [hEj, hf d, hd]

end steps

/-! ## The accounting -/

/-- What the release specs assume of the cells `L` and of a set `Q` of cells
that may be freed: no cell listed twice, every child of a cell of `L` in `L`,
every free path releasing exactly its `mark_children` edges, and `Q` closed
under losing every reference: a cell of `L` without external references whose
parents in `L` are all in `Q` is in `Q`. -/
structure RelCtx (ext : Addr → Nat) (L : List Addr) (Q : Addr → Prop) : Prop where
  nodup : L.Nodup
  closed : ∀ q ∈ L, ∀ c ∈ G.children q, c ∈ L
  releases : G.ReleasesChildren
  dead : ∀ c ∈ L, ext c = 0 → (∀ p ∈ L, c ∈ G.children p → Q p) → Q c

/-- The cells of `L` whose free path has not started. -/
def unfinalized (L : List Addr) (rt : JSRuntime) : List Addr :=
  L.filter fun p => GcEvent.finalize p ∉ rt.log

/-- The accounting of a run of releases over the cells `L`: every count is the
external count, plus the edges from the cells of `L` not yet finalized, plus
the references the calls in progress still have to release (`fr`); a cell
that is not an object or bytecode has been finalized exactly when its count is
zero; only cells of `Q` have been finalized; and no cell is linked twice. -/
structure RelInv (ext : Addr → Nat) (L : List Addr) (Q : Addr → Prop) (rt : JSRuntime)
    (fr : List Addr) : Prop where
  acc : ∀ c ∈ L, rt.ref_count c = ext c + G.indeg (unfinalized L rt) c + fr.count c
  nv : ∀ c ∈ L, (G.kind c).isValue = false →
    (GcEvent.finalize c ∈ rt.log ↔ rt.ref_count c = 0)
  fin : ∀ c ∈ L, GcEvent.finalize c ∈ rt.log → Q c
  nodup : (rt.gc_obj_list ++ rt.tmp_obj_list ++ rt.gc_zero_ref_count_list).Nodup
  frame : ∀ c ∈ fr, c ∈ L

/-- The cells of `L` that can still be freed by their own release: the bound
on how deep releases can nest. -/
def nv_live (L : List Addr) (rt : JSRuntime) : Nat :=
  (L.filter fun c => (G.kind c).isValue = false ∧ rt.ref_count c ≠ 0).length

section spec

variable {G} {ext : Addr → Nat} {L : List Addr} {Q : Addr → Prop}

theorem unfinalized_congr {rt rt' : JSRuntime}
    (h : ∀ c, GcEvent.finalize c ∈ rt'.log ↔ GcEvent.finalize c ∈ rt.log) :
    unfinalized L rt' = unfinalized L rt :=
  List.filter_congr fun c _ => by simp only [h]

/-- Finalizing `c` moves its references from the sum over unfinalized cells
to the frame: the accounting identity of a free path. -/
theorem indeg_unfinalized_finalize (hC : RelCtx G ext L Q) {rt : JSRuntime} {c : Addr}
    (hc : c ∈ L) (hnf : GcEvent.finalize c ∉ rt.log) (fr : List Addr) (x : Addr) :
    G.indeg (unfinalized L rt) x + fr.count x =
      G.indeg (unfinalized L (rt.finalize c)) x + (G.released c ++ fr).count x := by
  have hmem : c ∈ unfinalized L rt := by simp [unfinalized, hc, hnf]
  have herase : (unfinalized L rt).erase c = unfinalized L (rt.finalize c) := by
    rw [unfinalized, (hC.nodup.filter _).erase_eq_filter, List.filter_filter, unfinalized]
    congr 1
    funext p
    by_cases hp : p = c
    · subst hp; simp [hnf]
    · simp [hp]
  rw [G.indeg_perm (List.perm_cons_erase hmem) x, GcGraph.indeg_cons, herase, List.count_append,
    (hC.releases c).count_eq]
  omega

/-- The part of the state the accounting reads: counts, which cells are
finalized, and the lists. -/
theorem RelInv.congr {rt rt' : JSRuntime} {fr : List Addr} (hI : RelInv G ext L Q rt fr)
    (hrc : rt'.ref_count = rt.ref_count)
    (hlog : ∀ c, GcEvent.finalize c ∈ rt'.log ↔ GcEvent.finalize c ∈ rt.log)
    (hnd : (rt'.gc_obj_list ++ rt'.tmp_obj_list ++ rt'.gc_zero_ref_count_list).Nodup) :
    RelInv G ext L Q rt' fr where
  acc c hc := by rw [hrc, unfinalized_congr hlog, hI.acc c hc]
  nv c hc hv := by rw [hrc, hlog, hI.nv c hc hv]
  fin c hc h := hI.fin c hc ((hlog c).mp h)
  nodup := hnd
  frame := hI.frame

/-- A cell of `L` whose count is down to the references still in the frame has
lost every reference from the cells not yet finalized, so it is in `Q`. -/
theorem RelInv.dead_of_zero (hC : RelCtx G ext L Q) {rt : JSRuntime} {fr : List Addr}
    (hI : RelInv G ext L Q rt fr) {c : Addr} (hc : c ∈ L)
    (h0 : ext c + G.indeg (unfinalized L rt) c = 0) : Q c := by
  refine hC.dead c hc (by omega) fun p hp hcp => hI.fin p hp ?_
  by_contra hnf
  exact (G.indeg_eq_zero_iff (unfinalized L rt) c).mp (by omega) p
    (by simp [unfinalized, hp, hnf]) hcp

theorem nv_live_congr {rt rt' : JSRuntime} (h : rt'.ref_count = rt.ref_count) :
    nv_live G L rt' = nv_live G L rt := by
  simp [nv_live, h]

theorem Released.nv_live_le {rt rt' : JSRuntime} (h : Released G rt rt') :
    nv_live G L rt' ≤ nv_live G L rt := by
  refine List.Sublist.length_le (List.monotone_filter_right L fun c hc => ?_)
  have := h.ref_count_le c
  simp only [decide_eq_true_eq] at hc ⊢
  exact ⟨hc.1, by omega⟩

/-- Finalizing a cell of `L` shrinks the list of unfinalized cells. -/
theorem unfinalized_length_lt {rt rt' : JSRuntime}
    (hmono : ∀ c, GcEvent.finalize c ∈ rt.log → GcEvent.finalize c ∈ rt'.log) {p : Addr}
    (hp : p ∈ L) (hnf : GcEvent.finalize p ∉ rt.log) (hf : GcEvent.finalize p ∈ rt'.log) :
    (unfinalized L rt').length < (unfinalized L rt).length := by
  have h : unfinalized L rt' =
      (unfinalized L rt).filter fun c => GcEvent.finalize c ∉ rt'.log := by
    rw [unfinalized, unfinalized, List.filter_filter]
    refine List.filter_congr fun c _ => ?_
    by_cases hc : GcEvent.finalize c ∈ rt'.log
    · simp [hc]
    · have : GcEvent.finalize c ∉ rt.log := fun h => hc (hmono c h)
      simp [hc, this]
  rw [h, List.length_filter_lt_length_iff_exists]
  exact ⟨p, by simp [unfinalized, hp, hnf], by simp [hf]⟩

/-- While an object or bytecode of `L` is unfinalized, fewer cells can still be
freed by their own release than are unfinalized. -/
theorem RelInv.nv_live_lt {rt : JSRuntime} {fr : List Addr} (hI : RelInv G ext L Q rt fr)
    {p : Addr} (hp : p ∈ L) (hv : (G.kind p).isValue = true)
    (hnf : GcEvent.finalize p ∉ rt.log) : nv_live G L rt < (unfinalized L rt).length := by
  have h : (L.filter fun c => (G.kind c).isValue = false ∧ rt.ref_count c ≠ 0) =
      (unfinalized L rt).filter fun c => (G.kind c).isValue = false ∧ rt.ref_count c ≠ 0 := by
    rw [unfinalized, List.filter_filter]
    refine List.filter_congr fun c hc => ?_
    by_cases hcv : (G.kind c).isValue = false
    · by_cases h0 : rt.ref_count c = 0
      · simp [hcv, h0]
      · simp [hcv, h0, (hI.nv c hc hcv).not.mpr h0]
    · simp [hcv]
  rw [nv_live, h, List.length_filter_lt_length_iff_exists]
  exact ⟨p, by simp [unfinalized, hp, hnf], by simp [hv]⟩

/-- The fold over a freed cell's references, from the spec of each release:
the releases compose, and the frame shrinks by the folded list. -/
theorem foldlM_released {n : Nat} {f : JSRuntime → Addr → Except GcError JSRuntime}
    (hf : ∀ rt c fr, rt.gc_phase ≠ .NONE → RelInv G ext L Q rt (c :: fr) →
      nv_live G L rt < n → ∃ rt', f rt c = .ok rt' ∧ Released G rt rt' ∧
        RelInv G ext L Q rt' fr ∧ ∀ d ∉ L, rt'.ref_count d = rt.ref_count d) :
    ∀ (l : List Addr) rt fr, rt.gc_phase ≠ .NONE → RelInv G ext L Q rt (l ++ fr) →
      nv_live G L rt < n → ∃ rt', l.foldlM f rt = .ok rt' ∧ Released G rt rt' ∧
        RelInv G ext L Q rt' fr ∧ ∀ d ∉ L, rt'.ref_count d = rt.ref_count d
  | [], rt, _, _, hI, _ => ⟨rt, rfl, .refl rt, hI, fun _ _ => rfl⟩
  | d :: l, rt, fr, hph, hI, hn => by
    obtain ⟨rt₁, h₁, hR₁, hI₁, hF₁⟩ := hf rt d (l ++ fr) hph hI hn
    obtain ⟨rt₂, h₂, hR₂, hI₂, hF₂⟩ := foldlM_released hf l rt₁ fr (hR₁.gc_phase ▸ hph) hI₁
      (lt_of_le_of_lt hR₁.nv_live_le hn)
    exact ⟨rt₂, by simp [h₁, h₂], hR₁.trans hR₂, hI₂, fun x hx => (hF₂ x hx).trans (hF₁ x hx)⟩

/-- **Releasing one reference.** In a phase other than `NONE`, with the
reference being released on top of the frame and fuel beyond the number of
cells that can still be freed by their own release, `free_gc_ref` succeeds,
its effect is a `Released` step, and the accounting holds with that reference
gone. A cell it frees is in `Q`, because its count reached zero, and no count
outside `L` changes. -/
theorem free_gc_ref_spec (hC : RelCtx G ext L Q) :
    ∀ n rt c fr, rt.gc_phase ≠ .NONE → RelInv G ext L Q rt (c :: fr) → nv_live G L rt < n →
      ∃ rt', free_gc_ref G n rt c = .ok rt' ∧ Released G rt rt' ∧ RelInv G ext L Q rt' fr ∧
        ∀ d ∉ L, rt'.ref_count d = rt.ref_count d := by
  intro n
  induction n with
  | zero => intro _ _ _ _ _ h; exact absurd h (Nat.not_lt_zero _)
  | succ n ih =>
    intro rt c fr hph hI hn
    have hcL : c ∈ L := hI.frame c (List.mem_cons_self c fr)
    have hacc := hI.acc c hcL
    simp only [List.count_cons_self] at hacc
    have hc0 : rt.ref_count c ≠ 0 := by omega
    have hF : ∀ k, ∀ d ∉ L, (rt.set_ref_count c k).ref_count d = rt.ref_count d :=
      fun k d hd => Function.update_noteq (fun h : d = c => hd (h ▸ hcL)) _ _
    -- a release that frees nothing: only the count of `c` changes
    have hkeep : (rt.ref_count c - 1 ≠ 0 ∨ (G.kind c).isValue = true) →
        ∀ rt' : JSRuntime, rt'.ref_count = Function.update rt.ref_count c (rt.ref_count c - 1) →
          rt'.log = rt.log →
          (rt'.gc_obj_list ++ rt'.tmp_obj_list ++ rt'.gc_zero_ref_count_list).Nodup →
          RelInv G ext L Q rt' fr := by
      intro hk rt' hrc hlog hnd
      refine ⟨fun x hx => ?_, fun x hx hv => ?_, fun x hx => by rw [hlog]; exact hI.fin x hx, hnd,
        fun x hx => hI.frame x (by simp [hx])⟩
      · rw [hrc, (unfinalized_congr fun _ => by rw [hlog] :
          unfinalized L rt' = unfinalized L rt)]
        by_cases hxc : x = c
        · subst hxc; rw [Function.update_same]; omega
        · rw [Function.update_noteq hxc, hI.acc x hx, List.count_cons_of_ne hxc]
      · rw [hrc, hlog]
        by_cases hxc : x = c
        · subst hxc
          rw [Function.update_same]
          rcases hk with hk | hk
          · exact ⟨fun h => absurd ((hI.nv x hx hv).mp h) hc0, fun h => absurd h hk⟩
          · simp [hk] at hv
        · rw [Function.update_noteq hxc]; exact hI.nv x hx hv
    by_cases hpos : rt.ref_count c - 1 ≠ 0
    · exact ⟨_, by simp [free_gc_ref, hc0, hpos], released_dec hc0 (.inl hpos),
        hkeep (.inl hpos) _ rfl rfl (by simpa using hI.nodup), hF _⟩
    rw [not_not] at hpos
    by_cases hv : (G.kind c).isValue
    · by_cases hrm : rt.gc_phase = .REMOVE_CYCLES
      · exact ⟨rt.set_ref_count c (rt.ref_count c - 1), by simp [free_gc_ref, hc0, hpos, hv, hrm],
          released_dec hc0 (.inr ⟨hv, by simp [hrm]⟩),
          hkeep (.inr hv) _ rfl rfl (by simpa using hI.nodup), hF _⟩
      · have hdec : rt.gc_phase = .DECREF := by
          cases h : rt.gc_phase
          · exact absurd h hph
          · rfl
          · exact absurd h hrm
        refine ⟨((rt.set_ref_count c 0).list_del c).list_add_zero c,
          by simp [free_gc_ref, hc0, hpos, hv, hrm, hph],
          released_push hI.nodup (by omega) hv hdec, hkeep (.inr hv) _ (by rw [hpos]; rfl) rfl
          (List.nodup_middle.mpr (nodup_list_del_add_zero hI.nodup c)),
          hF 0⟩
    · -- a var-ref, shape, context or async function freed by its own release
      rw [Bool.not_eq_true] at hv
      have hnf : GcEvent.finalize c ∉ rt.log := fun h => hc0 ((hI.nv c hcL hv).mp h)
      set rt₂ := (rt.set_ref_count c 0).finalize c
      have hI₂ : RelInv G ext L Q rt₂ (G.released c ++ fr) := by
        refine ⟨fun x hx => ?_, fun x hx hxv => ?_, fun x hx hfx => ?_, by simpa [rt₂] using hI.nodup,
          fun x hx => ?_⟩
        · have h := hI.acc x hx
          have hid := indeg_unfinalized_finalize hC hcL hnf fr x
          have hu : unfinalized L rt₂ = unfinalized L (rt.finalize c) := rfl
          rw [hu]
          by_cases hxc : x = c
          · subst hxc; simp only [rt₂, finalize_ref_count, set_ref_count_ref_count,
              Function.update_same, List.count_cons_self] at h ⊢; omega
          · simp only [rt₂, finalize_ref_count, set_ref_count_ref_count,
              Function.update_noteq hxc, List.count_cons_of_ne hxc] at h ⊢; omega
        · by_cases hxc : x = c
          · subst hxc; simp [rt₂]
          · simpa [rt₂, Function.update_noteq hxc, hxc] using hI.nv x hx hxv
        · by_cases hxc : x = c
          · subst hxc
            exact hI.dead_of_zero hC hx (by omega)
          · exact hI.fin x hx (by simpa [rt₂, hxc] using hfx)
        · rcases List.mem_append.mp hx with h | h
          · exact hC.closed c hcL x ((hC.releases c).subset h)
          · exact hI.frame x (List.mem_cons_of_mem c h)
      have hn₂ : nv_live G L rt₂ < n := by
        have hsub : (L.filter fun x => (G.kind x).isValue = false ∧ rt₂.ref_count x ≠ 0) =
            (L.filter fun x => (G.kind x).isValue = false ∧ rt.ref_count x ≠ 0).erase c := by
          rw [(hC.nodup.filter _).erase_eq_filter, List.filter_filter]
          refine List.filter_congr fun x _ => ?_
          by_cases hxc : x = c
          · subst hxc; simp [rt₂]
          · simp [rt₂, Function.update_noteq hxc, hxc]
        have hmem : c ∈ L.filter fun x => (G.kind x).isValue = false ∧ rt.ref_count x ≠ 0 := by
          simp [hcL, hv, hc0]
        have hlen := List.length_erase_of_mem hmem
        have := List.length_pos_of_mem hmem
        simp only [nv_live] at hn ⊢
        rw [hsub, hlen]
        omega
      obtain ⟨rt₃, h₃, hR₃, hI₃, hF₃⟩ :=
        foldlM_released ih (G.released c) rt₂ fr (by simpa [rt₂] using hph) hI₂ hn₂
      refine ⟨(rt₃.list_del c).js_free_rt c, ?_, released_free_nv hI.nodup hc0 hv hR₃,
        hI₃.congr rfl (by simp) (nodup_list_del hI₃.nodup c),
        fun d hd => (hF₃ d hd).trans (hF 0 d hd)⟩
      simp [free_gc_ref, hc0, hpos, hv, rt₂] at h₃ ⊢; simp [h₃]

/-- `free_object` first sets `free_mark`, and then the free path starts:
nothing the collector reads changes but the log. -/
theorem free_gc_object_start (G : GcGraph) (rt : JSRuntime) (p : Addr) (rt₁ : JSRuntime)
    (h : rt₁ = (if G.kind p = .JS_OBJECT then rt.set_free_mark p else rt).finalize p) :
    rt₁.ref_count = rt.ref_count ∧ rt₁.mark = rt.mark ∧ rt₁.log = rt.log ++ [.finalize p] ∧
      rt₁.gc_phase = rt.gc_phase ∧ rt₁.gc_obj_list = rt.gc_obj_list ∧
      rt₁.tmp_obj_list = rt.tmp_obj_list ∧
      rt₁.gc_zero_ref_count_list = rt.gc_zero_ref_count_list := by
  subst h
  split <;> exact ⟨rfl, rfl, rfl, rfl, rfl, rfl, rfl⟩

/-- **Freeing an object or bytecode.** In a phase other than `NONE`, with an
empty frame, `free_gc_object` on an unfinalized object or bytecode `p` of `Q`
succeeds: it finalizes `p`, releases its references (a `Released` run from the
finalized state), unlinks `p`, and then returns its memory or, in
`REMOVE_CYCLES` with references left, parks it on `gc_zero_ref_count_list`. -/
theorem free_gc_object_spec (hC : RelCtx G ext L Q) {n : Nat} {rt : JSRuntime} {p : Addr}
    (hph : rt.gc_phase ≠ .NONE) (hI : RelInv G ext L Q rt []) (hp : p ∈ L)
    (hv : (G.kind p).isValue = true) (hnf : GcEvent.finalize p ∉ rt.log) (hq : Q p)
    (hn : nv_live G L rt < n) :
    ∃ rt₂, Released G ((if G.kind p = .JS_OBJECT then rt.set_free_mark p else rt).finalize p) rt₂ ∧
      RelInv G ext L Q rt₂ [] ∧ (∀ d ∉ L, rt₂.ref_count d = rt.ref_count d) ∧
      free_gc_object G (n + 1) rt p = .ok
        (if rt₂.gc_phase = .REMOVE_CYCLES ∧ rt₂.ref_count p ≠ 0 then
          (rt₂.list_del p).list_add_tail p .gc_zero_ref_count_list
        else (rt₂.list_del p).js_free_rt p) := by
  set rt₁ := (if G.kind p = .JS_OBJECT then rt.set_free_mark p else rt).finalize p
  have h₁ := free_gc_object_start G rt p rt₁ rfl
  have hI₁ : RelInv G ext L Q rt₁ (G.released p ++ []) := by
    refine ⟨fun x hx => ?_, fun x hx hxv => ?_, fun x hx hfx => ?_,
      by simpa [h₁] using hI.nodup, fun x hx => ?_⟩
    · have hu : unfinalized L rt₁ = unfinalized L (rt.finalize p) :=
        unfinalized_congr fun _ => by simp [h₁]
      have := indeg_unfinalized_finalize hC hp hnf [] x
      rw [h₁.1, hu, hI.acc x hx]
      simp only [List.count_nil] at this ⊢
      omega
    · have hxp : x ≠ p := by rintro rfl; simp [hv] at hxv
      simpa [h₁, hxp] using hI.nv x hx hxv
    · by_cases hxp : x = p
      · exact hxp ▸ hq
      · exact hI.fin x hx (by simpa [h₁, hxp] using hfx)
    · exact hC.closed p hp x ((hC.releases p).subset (by simpa using hx))
  obtain ⟨rt₂, h₂, hR₂, hI₂, hF₂⟩ := foldlM_released (free_gc_ref_spec hC n) (G.released p) rt₁ []
    (by rw [h₁.2.2.2.1]; exact hph) hI₁ (by rw [nv_live_congr h₁.1]; exact hn)
  refine ⟨rt₂, hR₂, hI₂, fun d hd => (hF₂ d hd).trans (congrFun h₁.1 d), ?_⟩
  simp only [free_gc_object, hv, ↓reduceIte]
  rw [h₂, except_ok_bind]
  exact (apply_ite Except.ok _ _ _).symm

end spec

end SlowJsGc

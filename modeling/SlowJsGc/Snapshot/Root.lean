import SlowJsGc.Snapshot.Objects

/-!
# The context's node

`__js_gcdump_objects` makes the node of the dumping context first, as node
`0`, with the placeholder name `-2`, and the writer prints every node's name
as an index into the strings. Nothing names node `0`: the context is a
`JS_CONTEXT` cell, which the switch of `js_gcdump_process_obj` sends to its
default branch, which the string and integer branches do not fill in (they
misread it), and every other write of a name goes to the node of another key.
Pushing an edge onto node `0`, as the context's own turn does, changes its
edges only.

`RootNamed` is a run of the walk that keeps the name of node `0`; one lemma
per function of the walk shows that it is one, for every heap whose dumping
context is a context cell (`__js_gcdump_objects_root_unnamed`).
-/

set_option autoImplicit false

namespace SlowJsGc

/-- A run of the walk from `dc` to `dc'` that keeps the name of node `0`. -/
structure RootNamed (jc : Addr) (dc dc' : JSGCDumpContext) : Prop where
  step : DumpStep jc dc dc'
  name : (dc'.nodeOr 0).name = (dc.nodeOr 0).name

/-! ## Runs compose -/

section compose

variable {jc : Addr} {dc dc' dc'' : JSGCDumpContext}

theorem RootNamed.refl (hI : DumpInv jc dc) : RootNamed jc dc dc := ⟨.refl hI, rfl⟩

theorem RootNamed.trans (h₁ : RootNamed jc dc dc') (h₂ : RootNamed jc dc' dc'') :
    RootNamed jc dc dc'' :=
  ⟨h₁.step.trans h₂.step, h₂.name.trans h₁.name⟩

theorem RootNamed.bind (h₁ : RootNamed jc dc dc')
    (h₂ : DumpInv jc dc' → Extends dc dc' → RootNamed jc dc' dc'') : RootNamed jc dc dc'' :=
  h₁.trans (h₂ h₁.step.inv h₁.step.ext)

theorem RootNamed.ite {c : Prop} [Decidable c] {d₁ d₂ : JSGCDumpContext}
    (h₁ : c → RootNamed jc dc d₁) (h₂ : ¬c → RootNamed jc dc d₂) :
    RootNamed jc dc (if c then d₁ else d₂) := by
  split_ifs with hc
  · exact h₁ hc
  · exact h₂ hc

theorem RootNamed.foldl {α : Type} {f : JSGCDumpContext → α → JSGCDumpContext} {l : List α}
    (hI : DumpInv jc dc) (hf : ∀ dc', DumpStep jc dc dc' → ∀ x ∈ l, RootNamed jc dc' (f dc' x)) :
    RootNamed jc dc (l.foldl f dc) :=
  List.foldlRecOn (motive := RootNamed jc dc) l f dc (.refl hI) fun _ hs x hx =>
    hs.trans (hf _ hs.step x hx)

theorem RootNamed.set_fault (hI : DumpInv jc dc) : RootNamed jc dc (set_fault dc) :=
  ⟨hI.set_fault_step, rfl⟩

/-- Only the context has node `0`. -/
theorem DumpInv.eq_root (hI : DumpInv jc dc) {k : DumpKey} (hk : dc.obj2node k = some 0) :
    k = .cell jc :=
  hI.obj2node_inj _ _ _ hk hI.root

end compose

/-! ## The walk keeps the name -/

section walk

variable (env : DumpEnv) (h : JSHeap) {jc : Addr} {dc : JSGCDumpContext}

theorem push_edge_nodeOr_name (j : Nat) (e : JSGCDumpEdge) (i : Nat) :
    ((push_edge dc j e).nodeOr i).name = (dc.nodeOr i).name := by
  by_cases hj : j = i
  · subst hj
    by_cases hl : j < dc.nodes.length
    · rw [push_edge_nodeOr_self _ hl]
    · simp [JSGCDumpContext.nodeOr, hl]
  · rw [push_edge_nodeOr _ hj]

theorem js_gcdump_parent_edge_nodeOr_name (node_i : Nat) (dctx : JS_GCDumpFuncContext) (i : Nat) :
    ((js_gcdump_parent_edge env dc node_i dctx).nodeOr i).name = (dc.nodeOr i).name := by
  unfold js_gcdump_parent_edge
  split_ifs
  · rw [push_edge_nodeOr_name, js_gcdump_edge_label_nodeOr]
  · rfl

variable {ctx : JSContext} (hjc : h.cell jc = .context ctx)
include hjc

/-- Handed the context, `js_gcdump_process_obj` fills nothing in: its string
and integer branches misread it, and its switch has no case for it. -/
theorem js_gcdump_fill_node_of_context (node_i : Nat) (dctx : JS_GCDumpFuncContext) (i : Nat) :
    (js_gcdump_fill_node env h jc dc node_i (.cell jc) dctx).nodeOr i = dc.nodeOr i := by
  unfold js_gcdump_fill_node
  split
  · split
    · obtain rfl := DumpKey.cell.inj ‹DumpKey.cell jc = DumpKey.cell _›
      simp [hjc]
    · simp
  · split <;> simp_all
  · simp [js_gcdump_header, hjc]

theorem js_gcdump_process_obj_root (hI : DumpInv jc dc) (cell : DumpKey)
    {dctx : JS_GCDumpFuncContext} (hp : dctx.parent.toNat < dc.nodes.length) :
    RootNamed jc dc (js_gcdump_process_obj env h jc dc cell dctx) := by
  have h₁ := (hI.node_from_gp_step cell).1
  have hl := hI.node_from_gp_lt cell
  have h₂ := js_gcdump_fill_node_step env h h₁.inv hl cell dctx
  refine ⟨js_gcdump_process_obj_step env h hI cell hp, ?_⟩
  have hfill : (js_gcdump_fill_node env h jc (js_gcdump_node_from_gp dc cell).2
      (js_gcdump_node_from_gp dc cell).1 cell dctx).nodeOr 0 =
        (js_gcdump_node_from_gp dc cell).2.nodeOr 0 := by
    by_cases hc : cell = .cell jc
    · subst hc
      exact js_gcdump_fill_node_of_context env h hjc _ dctx 0
    · -- Another key's node is not node `0`.
      refine js_gcdump_fill_node_nodeOr env h h₁.inv hl (fun he => hc (h₁.inv.eq_root ?_)) cell dctx
        fun k hk => ⟨jc, h₂.inv.eq_root hk⟩
      rw [← he]
      exact js_gcdump_node_from_gp_obj2node_self dc cell
  unfold js_gcdump_process_obj
  rw [js_gcdump_parent_edge_nodeOr_name, hfill, js_gcdump_node_from_gp_nodeOr]

theorem JS_GCDumpValue_root (hI : DumpInv jc dc) (v : JSValue) {dctx : JS_GCDumpFuncContext}
    (hp : dctx.parent.toNat < dc.nodes.length) :
    RootNamed jc dc (JS_GCDumpValue env h jc dc v dctx) := by
  unfold JS_GCDumpValue
  split <;> first | exact js_gcdump_process_obj_root env h hjc hI _ hp | exact .refl hI

theorem gcdump_prop_root (hI : DumpInv jc dc) {dctx : JS_GCDumpFuncContext}
    (hp : dctx.parent.toNat < dc.nodes.length) (prs : JSShapeProperty) (pr : JSProperty) :
    RootNamed jc dc (gcdump_prop env h jc dc dctx prs pr) := by
  unfold gcdump_prop
  split_ifs
  · exact .refl hI
  split
  · exact JS_GCDumpValue_root env h hjc hI _ hp
  · dsimp only
    split <;> split <;> first
      | exact .refl hI
      | exact js_gcdump_process_obj_root env h hjc hI _ hp
      | exact .bind (js_gcdump_process_obj_root env h hjc hI _ (by exact hp)) fun hI₁ hx₁ =>
          js_gcdump_process_obj_root env h hjc hI₁ _ (by exact hp.trans_le hx₁.length_le)
  · exact .ite (fun _ => js_gcdump_process_obj_root env h hjc hI _ hp) fun _ => .refl hI
  · exact js_gcdump_process_obj_root env h hjc hI _ hp
  · exact .refl hI

theorem JS_GCDumpNamedList_root (hI : DumpInv jc dc) {dctx : JS_GCDumpFuncContext}
    (hp : dctx.parent.toNat < dc.nodes.length) (fields : List (String × JSValue)) :
    RootNamed jc dc (JS_GCDumpNamedList env h jc dc dctx fields) :=
  RootNamed.foldl hI fun _ hs _ _ => JS_GCDumpValue_root env h hjc hs.inv _ (by exact hs.lt hp)

/-- The synthetic node of an array is another key's node. -/
theorem JS_GCDumpSynthetic_root (hI : DumpInv jc dc) {dctx : JS_GCDumpFuncContext}
    (hp : dctx.parent.toNat < dc.nodes.length) (key : DumpKey) (hk : key ≠ .cell jc) (name : String)
    (vs : List JSValue) :
    RootNamed jc dc (JS_GCDumpSynthetic env h jc dc dctx key name vs) := by
  obtain ⟨h₁, hK⟩ := hI.node_from_gp_step key
  have hr := hI.node_from_gp_lt key
  have hr0 : (js_gcdump_node_from_gp dc key).1 ≠ 0 := fun he => hk (h₁.inv.eq_root (he ▸ hK))
  unfold JS_GCDumpSynthetic
  refine (RootNamed.mk h₁ (by rw [js_gcdump_node_from_gp_nodeOr])).trans (.bind ⟨.bind (.bind
    (h₁.inv.add_cstr_step _).1 fun hI₂ _ => hI₂.set_node_step (by intro; exact ⟨rfl, rfl⟩))
      fun hI₃ hx₃ => (DumpStep.refl hI₃).push_named (h₁.lt hp |>.trans_le hx₃.length_le)
        (hr.trans_le hx₃.length_le) _ _, ?_⟩ fun hI₄ hx₄ =>
    RootNamed.foldl hI₄ fun _ hs _ _ => JS_GCDumpValue_root env h hjc hs.inv _ ?_)
  · simp [push_edge_nodeOr_name, set_node_nodeOr _ hr0]
  · simpa using hs.lt (hr.trans_le hx₄.length_le)

theorem JS_Context_gcdump_root (hI : DumpInv jc dc) {dctx : JS_GCDumpFuncContext}
    (hp : dctx.parent.toNat < dc.nodes.length) (a : Addr) (c : JSContext) :
    RootNamed jc dc (JS_Context_gcdump env h jc dc a c dctx) := by
  unfold JS_Context_gcdump
  refine .bind (.bind (.bind (.bind (JS_GCDumpNamedList_root env h hjc hI hp (context_named_head c))
    fun hI₁ hx₁ => JS_GCDumpSynthetic_root env h hjc hI₁ (hp.trans_le hx₁.length_le)
      (.native_error_proto a) (by simp) "native_error_proto" c.native_error_proto)
    fun hI₂ hx₂ => JS_GCDumpSynthetic_root env h hjc hI₂ (hp.trans_le hx₂.length_le)
      (.class_proto a) (by simp) "class_proto" c.class_proto)
    fun hI₃ hx₃ => JS_GCDumpNamedList_root env h hjc hI₃ (hp.trans_le hx₃.length_le)
      (context_named_tail c)) fun hI₄ hx₄ => ?_
  split
  · exact js_gcdump_process_obj_root env h hjc hI₄ _ (hp.trans_le hx₄.length_le)
  · exact .refl hI₄

theorem gcdump_children_root (hI : DumpInv jc dc) {dctx : JS_GCDumpFuncContext}
    (hp : dctx.parent.toNat < dc.nodes.length) (gp : Addr) :
    RootNamed jc dc (gcdump_children env h jc dc gp dctx) := by
  have hv : ∀ {dc : JSGCDumpContext}, DumpInv jc dc → dctx.parent.toNat < dc.nodes.length →
      ∀ l : List JSValue, RootNamed jc dc (l.foldl (fun dc v => JS_GCDumpValue env h jc dc v dctx) dc) :=
    fun hI hp _ => RootNamed.foldl hI fun _ hs _ _ => JS_GCDumpValue_root env h hjc hs.inv _ (hs.lt hp)
  unfold gcdump_children
  split
  · exact RootNamed.foldl hI fun _ hs _ _ => gcdump_prop_root env h hjc hs.inv (hs.lt hp) _ _
  · next b _ =>
    refine .bind (hv hI hp b.cpool) fun hI₁ hx₁ => ?_
    split
    · exact js_gcdump_process_obj_root env h hjc hI₁ _ (hp.trans_le hx₁.length_le)
    · exact .refl hI₁
  · exact .ite (fun _ => JS_GCDumpValue_root env h hjc hI _ hp) fun _ => .set_fault hI
  · refine .bind (.bind (.ite (fun _ => hv hI hp _) fun _ => .refl hI) fun hI₁ hx₁ =>
      JS_GCDumpValue_root env h hjc hI₁ _ (hp.trans_le hx₁.length_le)) fun hI₂ hx₂ =>
      JS_GCDumpValue_root env h hjc hI₂ _ (hp.trans_le hx₂.length_le)
  · split
    · exact js_gcdump_process_obj_root env h hjc hI _ hp
    · exact .refl hI
  · exact JS_Context_gcdump_root env h hjc hI hp _ _
  · exact .set_fault hI

theorem js_gcdump_visit_root (hI : DumpInv jc dc) (gp : Addr) :
    RootNamed jc dc (js_gcdump_visit env h jc dc gp) := by
  obtain ⟨h₁, -⟩ := hI.node_from_gp_step (.cell gp)
  have hr := hI.node_from_gp_lt (.cell gp)
  have h0 : (0 : Nat) < (js_gcdump_node_from_gp dc (.cell gp)).2.nodes.length :=
    h₁.inv.obj2node_lt _ _ h₁.inv.root
  unfold js_gcdump_visit
  exact (RootNamed.mk h₁ (by rw [js_gcdump_node_from_gp_nodeOr])).trans
    (.bind (js_gcdump_process_obj_root env h hjc h₁.inv _ (by exact h0)) fun hI₂ hx₂ =>
      gcdump_children_root env h hjc hI₂ (by simpa using hr.trans_le hx₂.length_le) gp)

end walk

/-! ## The snapshot -/

/-- **The context's node keeps its placeholder name.** For every heap whose
dumping context is a context cell and every `gc_obj_list`, the snapshot has a
node `0`, the context's, and it is written with the name `-2`, which is not
an index into the strings. -/
theorem __js_gcdump_objects_root_unnamed (env : DumpEnv) (h : JSHeap) {jc : Addr} {ctx : JSContext}
    (hjc : h.cell jc = .context ctx) (gc_obj_list : List Addr) :
    0 < (__js_gcdump_objects env h jc gc_obj_list).nodes.length ∧
      ((__js_gcdump_objects env h jc gc_obj_list).node 0).name = -2 := by
  have hR := RootNamed.foldl (l := gc_obj_list) (DumpInv.start jc) fun _ hs gp _ =>
    js_gcdump_visit_root env h hjc hs.inv gp
  have h0 := hR.step.inv.obj2node_lt _ _ hR.step.inv.root
  unfold __js_gcdump_objects
  refine ⟨h0, ?_⟩
  rw [← nodeOr_of_lt h0, hR.name, js_gcdump_node_from_gp_nodeOr]
  rfl

theorem __js_gcdump_objects_root_unnamed_context :
    contextHeap.cell 1 = .context emptyContext ∧
      0 < (__js_gcdump_objects plainEnv contextHeap 1 [1]).nodes.length ∧
      ((__js_gcdump_objects plainEnv contextHeap 1 [1]).node 0).name = -2 :=
  ⟨rfl, __js_gcdump_objects_root_unnamed plainEnv contextHeap
    (show contextHeap.cell 1 = .context emptyContext from rfl) [1]⟩

end SlowJsGc

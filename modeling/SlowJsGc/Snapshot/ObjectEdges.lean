import SlowJsGc.Snapshot.Objects
import SlowJsGc.Snapshot.Faults

/-!
# Object nodes over a whole dump

`Objects` says what one step writes into an object's node. This file follows
the node of one object `a`, at index `i`, through the whole loop of
`__js_gcdump_objects`, in three stretches:

* before `a`'s own turn, every step either leaves the node alone or is the
  object's first visit, which fills it in with the edges of
  `object_first_edges` (`Keeps`);
* `a`'s turn first makes sure the node is filled in, then `gcdump_children`
  walks the object's slots with the node as the parent and pushes one edge per
  walked reference (`Grows`);
* after it, every step leaves the node alone.

Two facts keep the stretches apart. A step that is handed another key, or
that has another parent, writes no edge into node `i`, since the key table is
injective; and once the first visit has set the node's size, which is never
zero, the `!node->self_size` block never runs on it again. Both are read off a
later table, in which `i` is `a`'s node and no other key's (`Reserves`): the
hypothesis travels backwards along a run, since tables only grow.

The walk treats a cell it is handed as a string when the slot being walked
holds a string, so an object's node stays an object's only if no property slot
holds a string value whose pointer is the object (`JSHeap.StringsApart`).
-/

set_option autoImplicit false

namespace SlowJsGc

/-! ## Reserved indices -/

/-- In the key table of `dc`, index `i` is the node of the cell `a` and of no
other key. -/
def JSGCDumpContext.Reserves (dc : JSGCDumpContext) (a : Addr) (i : Nat) : Prop :=
  ∀ k j, dc.obj2node k = some j → (k = .cell a ↔ j = i)

/-- The fresh node `js_gcdump_node_from_gp` makes at index `i`. -/
def fresh_node (i : Nat) : JSGCDumpNode := ⟨i, -2, JSGCDumpNode_TYPE_HIDDEN, 0, []⟩

section reserves

variable {jc a : Addr} {i : Nat} {dc dc' : JSGCDumpContext}

theorem JSGCDumpContext.Reserves.of_extends (hx : Extends dc dc') (hr : dc'.Reserves a i) :
    dc.Reserves a i :=
  fun k j hk => hr k j (hx.obj2node k j hk)

theorem DumpInv.reserves (hI : DumpInv jc dc) (ha : dc.obj2node (.cell a) = some i) :
    dc.Reserves a i := fun k j hk =>
  ⟨by rintro rfl; rw [ha] at hk; exact (Option.some.inj hk).symm,
    by rintro rfl; exact hI.obj2node_inj _ _ _ hk ha⟩

/-- Until `a` has a node, index `i` is past the end: no other key has it. -/
theorem JSGCDumpContext.Reserves.nodeOr_fresh (hI : DumpInv jc dc) (hr : dc.Reserves a i)
    (hn : dc.obj2node (.cell a) ≠ some i) : dc.nodeOr i = fresh_node i := by
  refine if_neg fun hlt => ?_
  obtain ⟨k, hk⟩ := hI.keyed i hlt
  exact hn ((hr k i hk).2 rfl ▸ hk)

end reserves

/-! ## Stretches of the walk -/

/-- The node `i` of the object `a` has been through its first visit: it is
`a`'s node, its size is set, and its edges are `E`, read against any later
state. -/
def ObjNode (a : Addr) (i : Nat) (E : JSGCDumpContext → List JSGCDumpEdge)
    (dc : JSGCDumpContext) : Prop :=
  dc.obj2node (.cell a) = some i ∧ (dc.nodeOr i).self_size ≠ 0 ∧
    ∀ X, Extends dc X → (dc.nodeOr i).edges = E X

/-- Node `i` of `a` before its first visit, or after it with edges `E`. -/
def ObjPhase (a : Addr) (i : Nat) (E : JSGCDumpContext → List JSGCDumpEdge)
    (dc : JSGCDumpContext) : Prop :=
  (dc.nodeOr i).self_size = 0 ∧ (dc.nodeOr i).edges = [] ∨ ObjNode a i E dc

/-- A stretch of the walk that pushes no slot edge onto node `i` of the object
`a`: when a later table reserves `i` for `a`, the stretch leaves the node as
it was, or it is the object's first visit and fills the node in with the
edges `E`. -/
structure Keeps (jc a : Addr) (i : Nat) (E : JSGCDumpContext → List JSGCDumpEdge)
    (dc dc' : JSGCDumpContext) : Prop where
  step : DumpStep jc dc dc'
  keeps : dc'.Reserves a i → dc'.nodeOr i = dc.nodeOr i ∨
    (dc.nodeOr i).self_size = 0 ∧ ObjNode a i (fun X => (dc.nodeOr i).edges ++ E X) dc'

/-- A stretch of the walk that pushes the edges `G` onto the filled-in node
`i` of the object `a`, when a later table reserves `i` for `a`. -/
structure Grows (jc a : Addr) (i : Nat) (G : JSGCDumpContext → List JSGCDumpEdge)
    (dc dc' : JSGCDumpContext) : Prop where
  step : DumpStep jc dc dc'
  grows : dc'.Reserves a i → ∀ E, ObjNode a i E dc → ObjNode a i (fun X => E X ++ G X) dc'

section stretch

variable {jc a : Addr} {i : Nat} {E G G' : JSGCDumpContext → List JSGCDumpEdge}
  {dc dc' dc'' : JSGCDumpContext}

theorem ObjNode.of_nodeOr (ho : ObjNode a i E dc) (hx : Extends dc dc')
    (hn : dc'.nodeOr i = dc.nodeOr i) : ObjNode a i E dc' :=
  ⟨hx.obj2node _ _ ho.1, hn ▸ ho.2.1, fun X hX => hn ▸ ho.2.2 X (hx.trans hX)⟩

theorem Keeps.refl (hI : DumpInv jc dc) : Keeps jc a i E dc dc := ⟨.refl hI, fun _ => .inl rfl⟩

/-- A stretch that leaves node `i` alone keeps it. -/
theorem Keeps.of_nodeOr (hs : DumpStep jc dc dc')
    (hn : Extends dc dc' → dc'.Reserves a i → dc'.nodeOr i = dc.nodeOr i) : Keeps jc a i E dc dc' :=
  ⟨hs, fun hr => .inl (hn hs.ext hr)⟩

theorem Keeps.set_fault (hI : DumpInv jc dc) : Keeps jc a i E dc (set_fault dc) :=
  .of_nodeOr hI.set_fault_step fun _ _ => rfl

/-- Stretches that keep node `i` compose: the first visit happens in at most
one of them, since it leaves a size that is not zero. -/
theorem Keeps.trans (h₁ : Keeps jc a i E dc dc') (h₂ : Keeps jc a i E dc' dc'') :
    Keeps jc a i E dc dc'' where
  step := h₁.step.trans h₂.step
  keeps hr := by
    rcases h₂.keeps hr with e₂ | ⟨z₂, o₂⟩ <;>
      rcases h₁.keeps (hr.of_extends h₂.step.ext) with e₁ | ⟨z₁, o₁⟩
    · exact .inl (e₂.trans e₁)
    · exact .inr ⟨z₁, o₁.of_nodeOr h₂.step.ext e₂⟩
    · rw [e₁] at z₂ o₂
      exact .inr ⟨z₂, o₂⟩
    · exact absurd z₂ o₁.2.1

theorem Keeps.bind (h₁ : Keeps jc a i E dc dc')
    (h₂ : DumpInv jc dc' → Extends dc dc' → Keeps jc a i E dc' dc'') : Keeps jc a i E dc dc'' :=
  h₁.trans (h₂ h₁.step.inv h₁.step.ext)

theorem Keeps.ite {c : Prop} [Decidable c] {d₁ d₂ : JSGCDumpContext} (h₁ : c → Keeps jc a i E dc d₁)
    (h₂ : ¬c → Keeps jc a i E dc d₂) : Keeps jc a i E dc (if c then d₁ else d₂) := by
  split_ifs with hc
  · exact h₁ hc
  · exact h₂ hc

theorem Keeps.foldl {α : Type} {f : JSGCDumpContext → α → JSGCDumpContext} {l : List α}
    (hI : DumpInv jc dc) (hf : ∀ dc', DumpStep jc dc dc' → ∀ x ∈ l, Keeps jc a i E dc' (f dc' x)) :
    Keeps jc a i E dc (l.foldl f dc) :=
  List.foldlRecOn (motive := fun s => Keeps jc a i E dc s) l f dc (.refl hI)
    fun _ hs x hx => hs.trans (hf _ hs.step x hx)

/-- A filled-in node stays as it is over a stretch that keeps it. -/
theorem Keeps.objNode {E' : JSGCDumpContext → List JSGCDumpEdge} (hk : Keeps jc a i E dc dc')
    (hr : dc'.Reserves a i) (ho : ObjNode a i E' dc) : ObjNode a i E' dc' := by
  rcases hk.keeps hr with e | ⟨z, -⟩
  · exact ho.of_nodeOr hk.step.ext e
  · exact absurd z ho.2.1

/-- Every node index starts untouched. -/
theorem ObjPhase.start (jc : Addr) :
    ObjPhase a i E (js_gcdump_node_from_gp js_gcdump_new_ctx (.cell jc)).2 :=
  .inl (by rw [js_gcdump_node_from_gp_nodeOr]; simp [JSGCDumpContext.nodeOr, js_gcdump_new_ctx])

theorem Keeps.phase (hk : Keeps jc a i E dc dc') (hr : dc'.Reserves a i) (hp : ObjPhase a i E dc) :
    ObjPhase a i E dc' := by
  rcases hp with ⟨z, hnil⟩ | ho
  · rcases hk.keeps hr with e | ⟨-, o⟩
    · exact .inl (e ▸ ⟨z, hnil⟩)
    · rw [hnil] at o
      exact .inr o
  · exact .inr (hk.objNode hr ho)

theorem Grows.refl (hI : DumpInv jc dc) : Grows jc a i (fun _ => []) dc dc :=
  ⟨.refl hI, fun _ E ho => by simpa using ho⟩

theorem Grows.trans (h₁ : Grows jc a i G dc dc') (h₂ : Grows jc a i G' dc' dc'') :
    Grows jc a i (fun X => G X ++ G' X) dc dc'' where
  step := h₁.step.trans h₂.step
  grows hr E ho := by
    simpa only [List.append_assoc] using
      h₂.grows hr _ (h₁.grows (hr.of_extends h₂.step.ext) E ho)

/-- A loop whose turn on `x` grows node `i` by `g X x` grows it by the
concatenation, in order. -/
theorem Grows.foldl {α : Type} {f : JSGCDumpContext → α → JSGCDumpContext}
    {g : JSGCDumpContext → α → List JSGCDumpEdge} :
    ∀ (l : List α) {dc : JSGCDumpContext}, DumpInv jc dc →
      (∀ dc', DumpStep jc dc dc' → ∀ x ∈ l, Grows jc a i (fun X => g X x) dc' (f dc' x)) →
      Grows jc a i (fun X => l.flatMap (g X)) dc (l.foldl f dc)
  | [], _, hI, _ => by simpa using Grows.refl hI
  | x :: l, _, hI, hf => by
    have h₁ := hf _ (.refl hI) x (List.mem_cons_self x l)
    simpa using h₁.trans (Grows.foldl l h₁.step.inv fun dc' hs y hy =>
      hf dc' (h₁.step.trans hs) y (List.mem_cons_of_mem x hy))

end stretch

/-! ## One step of the walk on node `i` -/

/-- The tag of the slot being walked, if any, is neither a string's nor an
integer's, so `js_gcdump_process_obj` reads a cell it is handed as a GC
header. -/
def JS_GCDumpFuncContext.ReadsHeader (env : DumpEnv) (dctx : JS_GCDumpFuncContext) : Prop :=
  dctx.slot_tag env = .other

theorem JS_GCDumpFuncContext.readsHeader_of_prs {env : DumpEnv} {dctx : JS_GCDumpFuncContext}
    (hd : dctx.prs = none) : dctx.ReadsHeader env := by
  simp [JS_GCDumpFuncContext.ReadsHeader, JS_GCDumpFuncContext.slot_tag, hd]

theorem js_gcdump_obj_size_pos (p : JSObject) : js_gcdump_obj_size p ≠ 0 := by
  simp [js_gcdump_obj_size, sizeof_JSObject]

section step

variable (env : DumpEnv) (h : JSHeap) {jc a : Addr} {i : Nat} {dc : JSGCDumpContext}
  {q : JSObject}

theorem js_gcdump_fill_node_of_reads_header {dctx : JS_GCDumpFuncContext}
    (hd : dctx.ReadsHeader env) (node_i : Nat) (b : Addr) :
    js_gcdump_fill_node env h jc dc node_i (.cell b) dctx = js_gcdump_header env h jc dc node_i b := by
  unfold js_gcdump_fill_node
  rw [show dctx.slot_tag env = .other from hd]

theorem js_gcdump_header_of_object (hq : h.cell a = .object q) (node_i : Nat) :
    js_gcdump_header env h jc dc node_i a = if (dc.node node_i).self_size = 0
      then js_gcdump_object_first env h jc dc node_i a q else dc := by
  unfold js_gcdump_header
  rw [hq]

/-- The key `js_gcdump_process_obj` is handed has, after it, the node it was
given or made. -/
theorem js_gcdump_process_obj_obj2node (hI : DumpInv jc dc) (cell : DumpKey)
    {dctx : JS_GCDumpFuncContext} (hp : dctx.parent.toNat < dc.nodes.length) :
    (js_gcdump_process_obj env h jc dc cell dctx).obj2node cell =
      some (js_gcdump_node_from_gp dc cell).1 := by
  have h₁ := (hI.node_from_gp_step cell).1
  have hi := hI.node_from_gp_lt cell
  have h₂ := js_gcdump_fill_node_step env h h₁.inv hi cell dctx
  exact ((h₂.trans (js_gcdump_parent_edge_step env h₂.inv (h₂.lt hi) (h₂.lt (h₁.lt hp)))).ext.obj2node
    _ _ (by simp))

/-- **`js_gcdump_process_obj` on the object itself**, from a parent other than
its node: while the node's size is zero, it fills the node in with its size and
the first-visit edges; after that it leaves the node alone. -/
theorem js_gcdump_process_obj_self (hq : h.cell a = .object q) (hI : DumpInv jc dc)
    {dctx : JS_GCDumpFuncContext} (hp : dctx.parent.toNat < dc.nodes.length)
    (hpi : dctx.parent ≠ i) (hd : dctx.ReadsHeader env)
    (hr : (js_gcdump_process_obj env h jc dc (.cell a) dctx).Reserves a i) :
    (dc.nodeOr i).self_size = 0 ∧ ObjNode a i (fun X => (dc.nodeOr i).edges ++
        object_first_edges env h jc a q X) (js_gcdump_process_obj env h jc dc (.cell a) dctx) ∨
      (dc.nodeOr i).self_size ≠ 0 ∧
        (js_gcdump_process_obj env h jc dc (.cell a) dctx).nodeOr i = dc.nodeOr i := by
  have h₁ := (hI.node_from_gp_step (.cell a)).1
  have hl := hI.node_from_gp_lt (.cell a)
  have ha := js_gcdump_process_obj_obj2node env h hI (.cell a) hp
  have hri : (js_gcdump_node_from_gp dc (.cell a)).1 = i := (hr _ _ ha).1 rfl
  have hn : (js_gcdump_node_from_gp dc (.cell a)).2.node i = dc.nodeOr i := by
    rw [← nodeOr_of_lt (hri ▸ hl), js_gcdump_node_from_gp_nodeOr]
  have hK : (js_gcdump_node_from_gp dc (.cell a)).2.obj2node (.cell a) = some i :=
    hri ▸ js_gcdump_node_from_gp_obj2node_self dc (.cell a)
  rw [hri] at hl ha
  simp only [js_gcdump_process_obj, js_gcdump_fill_node_of_reads_header env h hd, hri,
    js_gcdump_header_of_object env h hq, hn] at ha ⊢
  split_ifs at ha ⊢ with hz
  · -- The first visit: the node gets its size and the first-visit edges.
    have hO := js_gcdump_object_first_step env h h₁.inv hl a q
    have hE := js_gcdump_parent_edge_step env hO.inv (hO.lt hl) (hO.lt (h₁.lt hp))
    refine .inl ⟨hz, ha, ?_, fun X hX => ?_⟩
    · rw [js_gcdump_parent_edge_nodeOr env hpi, nodeOr_of_lt (hO.lt hl),
        (js_gcdump_object_first_node env h h₁.inv hl hK q hE.ext).2]
      exact js_gcdump_obj_size_pos q
    · rw [js_gcdump_parent_edge_nodeOr env hpi, nodeOr_of_lt (hO.lt hl),
        (js_gcdump_object_first_node env h h₁.inv hl hK q (hE.ext.trans hX)).1, hn]
  · exact .inr ⟨hz, by rw [js_gcdump_parent_edge_nodeOr env hpi, js_gcdump_node_from_gp_nodeOr]⟩

/-- The parent of `dctx`, if there is one, is already the node of a key other
than `a`, so no later table that reserves `i` for `a` has the parent at `i`. -/
def JS_GCDumpFuncContext.ParentApart (dctx : JS_GCDumpFuncContext) (dc : JSGCDumpContext)
    (a : Addr) : Prop :=
  dctx.parent < 0 ∨ ∃ k, k ≠ .cell a ∧ dc.obj2node k = some dctx.parent.toNat

theorem JS_GCDumpFuncContext.ParentApart.mono {dctx : JS_GCDumpFuncContext}
    {dc' : JSGCDumpContext} (hpa : dctx.ParentApart dc a) (hx : Extends dc dc') :
    dctx.ParentApart dc' a :=
  hpa.imp_right fun ⟨k, hk, hk'⟩ => ⟨k, hk, hx.obj2node _ _ hk'⟩

theorem JS_GCDumpFuncContext.ParentApart.ne {dctx : JS_GCDumpFuncContext}
    {dc' : JSGCDumpContext} (hpa : dctx.ParentApart dc a) (hx : Extends dc dc')
    (hr : dc'.Reserves a i) : dctx.parent ≠ i := by
  rcases hpa with hneg | ⟨k, hk, hk'⟩
  · omega
  · have hne : dctx.parent.toNat ≠ i := fun he => hk ((hr k _ (hx.obj2node _ _ hk')).2 he)
    omega

/-- **`js_gcdump_process_obj` keeps an object's node** when the node is not its
parent: it fills the node in the first time it is handed the object, and
leaves it alone otherwise. -/
theorem js_gcdump_process_obj_keeps (hq : h.cell a = .object q) (hI : DumpInv jc dc)
    (cell : DumpKey) {dctx : JS_GCDumpFuncContext} (hp : dctx.parent.toNat < dc.nodes.length)
    (hpa : dctx.ParentApart dc a) (hs : cell = .cell a → dctx.ReadsHeader env) :
    Keeps jc a i (object_first_edges env h jc a q) dc
      (js_gcdump_process_obj env h jc dc cell dctx) := by
  have hP := js_gcdump_process_obj_step env h hI cell hp
  refine ⟨hP, fun hr => ?_⟩
  have hpi := hpa.ne hP.ext hr
  by_cases hca : cell = .cell a
  · subst hca
    exact (js_gcdump_process_obj_self env h hq hI hp hpi (hs rfl) hr).symm.imp And.right id
  · refine .inl ?_
    by_cases hai : (js_gcdump_process_obj env h jc dc cell dctx).obj2node (.cell a) = some i
    · exact js_gcdump_process_obj_nodeOr env h hI cell hp hai hca hpi
    · rw [hr.nodeOr_fresh hP.inv hai, (hr.of_extends hP.ext).nodeOr_fresh hI
        fun hd => hai (hP.ext.obj2node _ _ hd)]

/-- Handed the object, `js_gcdump_process_obj` leaves its node filled in. -/
theorem js_gcdump_process_obj_fills (hq : h.cell a = .object q) (hI : DumpInv jc dc)
    {dctx : JS_GCDumpFuncContext} (hp : dctx.parent.toNat < dc.nodes.length)
    (hpi : dctx.parent ≠ i) (hd : dctx.ReadsHeader env)
    (hr : (js_gcdump_process_obj env h jc dc (.cell a) dctx).Reserves a i)
    (hph : ObjPhase a i (object_first_edges env h jc a q) dc) :
    ObjNode a i (object_first_edges env h jc a q) (js_gcdump_process_obj env h jc dc (.cell a) dctx) := by
  rcases js_gcdump_process_obj_self env h hq hI hp hpi hd hr with ⟨z, o⟩ | ⟨z, e⟩ <;>
    rcases hph with ⟨z', hnil⟩ | ho
  · simpa [hnil] using o
  · exact absurd z ho.2.1
  · exact absurd z' z
  · exact ho.of_nodeOr (js_gcdump_process_obj_step env h hI _ hp).ext e

/-- **`JS_GCDumpValue` keeps an object's node** from a parent other than the
node. -/
theorem JS_GCDumpValue_keeps (hq : h.cell a = .object q) (hI : DumpInv jc dc) (v : JSValue)
    {dctx : JS_GCDumpFuncContext} (hp : dctx.parent.toNat < dc.nodes.length)
    (hpa : dctx.ParentApart dc a) (hs : v.get_ptr = .cell a → dctx.ReadsHeader env) :
    Keeps jc a i (object_first_edges env h jc a q) dc (JS_GCDumpValue env h jc dc v dctx) := by
  unfold JS_GCDumpValue
  split
  all_goals first
    | exact .refl hI
    | exact js_gcdump_process_obj_keeps env h hq hI _ hp hpa hs
    | exact js_gcdump_process_obj_keeps env h hq hI _ hp hpa (by intro hc; cases hc)

/-- **`gcdump_prop` keeps an object's node** from a parent other than the node,
unless the slot holds a string value that points at the object. -/
theorem gcdump_prop_keeps (hq : h.cell a = .object q) (hI : DumpInv jc dc)
    {dctx : JS_GCDumpFuncContext} (hp : dctx.parent.toNat < dc.nodes.length)
    (hpa : dctx.ParentApart dc a) (prs : JSShapeProperty) (pr : JSProperty)
    (hs : pr ≠ .value (.string a)) :
    Keeps jc a i (object_first_edges env h jc a q) dc (gcdump_prop env h jc dc dctx prs pr) := by
  unfold gcdump_prop
  split_ifs
  · exact .refl hI
  split
  · next v hf =>
    refine JS_GCDumpValue_keeps env h hq hI v (by exact hp) (by exact hpa) fun hv => ?_
    cases v <;> simp only [JSValue.get_ptr, DumpKey.cell.injEq, reduceCtorEq] at hv
    case string => exact absurd (hv ▸ rfl) hs
    all_goals simp [JS_GCDumpFuncContext.ReadsHeader, JS_GCDumpFuncContext.slot_tag, hf, JSValue.tag]
  · have hd : ∀ pr', JS_GCDumpFuncContext.ReadsHeader env { dctx with prs := some prs, pr := some pr' } :=
      fun _ => by simp_all [JS_GCDumpFuncContext.ReadsHeader, JS_GCDumpFuncContext.slot_tag]
    dsimp only
    split <;> split <;> first
      | exact .refl hI
      | exact js_gcdump_process_obj_keeps env h hq hI _ (by exact hp) (by exact hpa) fun _ => hd _
      | exact .bind (js_gcdump_process_obj_keeps env h hq hI _ (by exact hp) (by exact hpa) fun _ => hd _)
          fun hI₁ hx₁ => js_gcdump_process_obj_keeps env h hq hI₁ _ (by exact hp.trans_le hx₁.length_le)
            (by exact hpa.mono hx₁) fun _ => hd _
  · -- A detached var-ref is not the object.
    exact .ite (fun hr => js_gcdump_process_obj_keeps env h hq hI _ (by exact hp) (by exact hpa)
      fun hc => by cases hc; simp [JSHeap.is_detached, hq] at hr) fun _ => .refl hI
  · exact js_gcdump_process_obj_keeps env h hq hI _ (by exact hp) (by exact hpa) fun _ => by
      simp_all [JS_GCDumpFuncContext.ReadsHeader, JS_GCDumpFuncContext.slot_tag]
  · exact .refl hI

theorem JS_GCDumpNamedList_keeps (hq : h.cell a = .object q) (hI : DumpInv jc dc)
    {dctx : JS_GCDumpFuncContext} (hp : dctx.parent.toNat < dc.nodes.length)
    (hpa : dctx.ParentApart dc a) (hd : dctx.prs = none) (fields : List (String × JSValue)) :
    Keeps jc a i (object_first_edges env h jc a q) dc (JS_GCDumpNamedList env h jc dc dctx fields) :=
  Keeps.foldl hI fun _ hs _ _ => JS_GCDumpValue_keeps env h hq hs.inv _ (by exact hs.lt hp)
    (by exact hpa.mono hs.ext) fun _ => JS_GCDumpFuncContext.readsHeader_of_prs hd

theorem JS_GCDumpSynthetic_keeps (hq : h.cell a = .object q) (hI : DumpInv jc dc)
    {dctx : JS_GCDumpFuncContext} (hp : dctx.parent.toNat < dc.nodes.length)
    (hpa : dctx.ParentApart dc a) (hp0 : 0 ≤ dctx.parent) (hd : dctx.prs = none) (key : DumpKey) (hk : ∀ b, key ≠ .cell b)
    (name : String) (vs : List JSValue) :
    Keeps jc a i (object_first_edges env h jc a q) dc
      (JS_GCDumpSynthetic env h jc dc dctx key name vs) := by
  obtain ⟨h₁, -⟩ := hI.node_from_gp_step key
  have hr := hI.node_from_gp_lt key
  unfold JS_GCDumpSynthetic
  refine .bind (Keeps.of_nodeOr (h₁.trans (.bind (.bind (h₁.inv.add_cstr_step _).1 fun hI₂ _ =>
    hI₂.set_node_step (by intro; exact ⟨rfl, rfl⟩)) fun hI₃ hx₃ =>
      (DumpStep.refl hI₃).push_named (h₁.lt hp |>.trans_le hx₃.length_le)
        (hr.trans_le hx₃.length_le) _ _)) fun hx₄ hr₄ => ?_) fun hI₄ hx₄ =>
    Keeps.foldl hI₄ fun _ hs _ _ => JS_GCDumpValue_keeps env h hq hs.inv _ ?_ ?_ ?_
  · -- The array's node and the parent are other keys' nodes.
    have hri : (js_gcdump_node_from_gp dc key).1 ≠ i := fun he =>
      hk a ((hr₄ key _ (by simp)).2 he)
    have hpi := hpa.ne hx₄ hr₄
    simp [push_edge_nodeOr _ (show dctx.parent.toNat ≠ i by omega), set_node_nodeOr _ hri]
  · simpa using hs.lt (by simp [hr])
  · exact .inr ⟨key, hk a, hs.ext.obj2node _ _ (by simp)⟩
  · exact fun _ => JS_GCDumpFuncContext.readsHeader_of_prs hd

theorem JS_Context_gcdump_keeps (hq : h.cell a = .object q) (hI : DumpInv jc dc)
    {dctx : JS_GCDumpFuncContext} (hp : dctx.parent.toNat < dc.nodes.length)
    (hpa : dctx.ParentApart dc a) (hp0 : 0 ≤ dctx.parent) (hd : dctx.prs = none) (b : Addr)
    (ctx : JSContext) :
    Keeps jc a i (object_first_edges env h jc a q) dc (JS_Context_gcdump env h jc dc b ctx dctx) := by
  unfold JS_Context_gcdump
  refine .bind (.bind (.bind (.bind (JS_GCDumpNamedList_keeps env h hq hI hp hpa hd
    (context_named_head ctx)) fun hI₁ hx₁ => JS_GCDumpSynthetic_keeps env h hq hI₁
      (hp.trans_le hx₁.length_le) (hpa.mono hx₁) hp0 hd (.native_error_proto b) (fun _ => by simp)
      "native_error_proto" ctx.native_error_proto) fun hI₂ hx₂ => JS_GCDumpSynthetic_keeps env h hq
      hI₂ (hp.trans_le hx₂.length_le) (hpa.mono hx₂) hp0 hd (.class_proto b) (fun _ => by simp)
      "class_proto" ctx.class_proto) fun hI₃ hx₃ => JS_GCDumpNamedList_keeps env h hq hI₃
      (hp.trans_le hx₃.length_le) (hpa.mono hx₃) hd (context_named_tail ctx)) fun hI₄ hx₄ => ?_
  split
  · exact js_gcdump_process_obj_keeps env h hq hI₄ _ (by exact hp.trans_le hx₄.length_le)
      (by exact hpa.mono hx₄) fun _ => JS_GCDumpFuncContext.readsHeader_of_prs hd
  · exact .refl hI₄

/-- No property slot of an object holds a string value whose pointer is an
object's. -/
def JSHeap.StringsApart (h : JSHeap) : Prop :=
  ∀ b p s q, h.cell b = .object p → JSProperty.value (.string s) ∈ p.prop → h.cell s ≠ .object q

/-- **`gcdump_children` keeps an object's node** from a parent other than the
node. -/
theorem gcdump_children_keeps (hq : h.cell a = .object q) (hsa : h.StringsApart)
    (hI : DumpInv jc dc) {dctx : JS_GCDumpFuncContext} (hp : dctx.parent.toNat < dc.nodes.length)
    (hpa : dctx.ParentApart dc a) (hp0 : 0 ≤ dctx.parent) (hd : dctx.prs = none) (gp : Addr) :
    Keeps jc a i (object_first_edges env h jc a q) dc (gcdump_children env h jc dc gp dctx) := by
  have hv : ∀ {dc : JSGCDumpContext}, DumpInv jc dc → dctx.parent.toNat < dc.nodes.length →
      dctx.ParentApart dc a → ∀ l : List JSValue, Keeps jc a i (object_first_edges env h jc a q) dc
        (l.foldl (fun dc v => JS_GCDumpValue env h jc dc v dctx) dc) :=
    fun hI hp hpa _ => Keeps.foldl hI fun _ hs _ _ => JS_GCDumpValue_keeps env h hq hs.inv _
      (hs.lt hp) (hpa.mono hs.ext) fun _ => JS_GCDumpFuncContext.readsHeader_of_prs hd
  unfold gcdump_children
  split
  · next p hgp =>
    exact Keeps.foldl hI fun _ hs x hx => gcdump_prop_keeps env h hq hs.inv (hs.lt hp)
      (hpa.mono hs.ext) _ _ fun he => hsa gp p a q hgp (he ▸ (List.of_mem_zip hx).2) hq
  · next b _ =>
    refine .bind (hv hI hp hpa b.cpool) fun hI₁ hx₁ => ?_
    split
    · exact js_gcdump_process_obj_keeps env h hq hI₁ _ (hp.trans_le hx₁.length_le) (hpa.mono hx₁)
        fun _ => JS_GCDumpFuncContext.readsHeader_of_prs hd
    · exact .refl hI₁
  · exact .ite (fun _ => JS_GCDumpValue_keeps env h hq hI _ hp hpa fun _ =>
      JS_GCDumpFuncContext.readsHeader_of_prs hd) fun _ => .set_fault hI
  · refine .bind (.bind (.ite (fun _ => hv hI hp hpa _) fun _ => .refl hI) fun hI₁ hx₁ =>
      JS_GCDumpValue_keeps env h hq hI₁ _ (hp.trans_le hx₁.length_le) (hpa.mono hx₁) fun _ =>
        JS_GCDumpFuncContext.readsHeader_of_prs hd) fun hI₂ hx₂ =>
      JS_GCDumpValue_keeps env h hq hI₂ _ (hp.trans_le hx₂.length_le) (hpa.mono hx₂) fun _ =>
        JS_GCDumpFuncContext.readsHeader_of_prs hd
  · split
    · exact js_gcdump_process_obj_keeps env h hq hI _ hp hpa fun _ =>
        JS_GCDumpFuncContext.readsHeader_of_prs hd
    · exact .refl hI
  · exact JS_Context_gcdump_keeps env h hq hI hp hpa hp0 hd _ _
  · exact .set_fault hI

/-- **The turn of another cell keeps an object's node**: it may be the
object's first visit, and pushes no edge onto the node otherwise. -/
theorem js_gcdump_visit_keeps (hq : h.cell a = .object q) (hsa : h.StringsApart)
    (hI : DumpInv jc dc) {gp : Addr} (hga : gp ≠ a) :
    Keeps jc a i (object_first_edges env h jc a q) dc (js_gcdump_visit env h jc dc gp) := by
  obtain ⟨h₁, -⟩ := hI.node_from_gp_step (.cell gp)
  have hr := hI.node_from_gp_lt (.cell gp)
  have h0 : (0 : Nat) < (js_gcdump_node_from_gp dc (.cell gp)).2.nodes.length :=
    h₁.inv.obj2node_lt _ _ h₁.inv.root
  have hK := js_gcdump_node_from_gp_obj2node_self dc (.cell gp)
  unfold js_gcdump_visit
  exact (Keeps.of_nodeOr h₁ fun _ _ => js_gcdump_node_from_gp_nodeOr _ _).bind fun hI₁ _ =>
    (js_gcdump_process_obj_keeps env h hq hI₁ _ (by exact h0) (.inl (by decide))
      fun he => absurd (DumpKey.cell.inj he) hga).bind fun hI₂ hx₂ =>
    gcdump_children_keeps env h hq hsa hI₂ (by simpa using hr.trans_le hx₂.length_le)
      (.inr ⟨.cell gp, by simpa using hga, by simpa using hx₂.obj2node _ _ hK⟩) (Int.natCast_nonneg _) rfl gp

end step

/-! ## The object's own turn -/

/-- The keys `JS_GCDumpValue` hands `js_gcdump_process_obj` for a value. -/
def JS_GCDumpValue_keys : JSValue → List DumpKey
  | .object p | .function_bytecode p | .string p => [.cell p]
  | .int _ => [.stack]
  | _ => []

/-- The keys `gcdump_prop` hands `js_gcdump_process_obj` for one slot, in
order: none for a deleted slot, the value's for a plain value, the getter and
then the setter, a detached variable reference, an auto-init slot's realm. -/
def gcdump_prop_keys (h : JSHeap) (prs : JSShapeProperty) (pr : JSProperty) : List DumpKey :=
  if prs.atom = JS_ATOM_NULL then [] else
  match prs.flags, pr with
  | .normal, .value v => JS_GCDumpValue_keys v
  | .getset, .getset getter setter => getter.toList.map .cell ++ setter.toList.map .cell
  | .varref, .var_ref r => if h.is_detached r then [.cell r] else []
  | .autoinit, .init realm => [.cell realm]
  | _, _ => []

/-- The edge the walk of the slot `prs` pushes from the object's node to the
node of `k`, read against `X`: none to the dumping context's node `0`; an
`element` edge named by the atom's integer for a tagged-integer atom, else a
`property` edge named by the atom's string. -/
def slot_edges (env : DumpEnv) (prs : JSShapeProperty) (k : DumpKey) (X : JSGCDumpContext) :
    List JSGCDumpEdge :=
  if X.nid k = 0 then [] else
    [if __JS_AtomIsTaggedInt prs.atom
      then ⟨JSGCDumpEdge_TYPE_ELEM, atom_to_int prs.atom, X.nid k * NODE_FIELD_COUNT⟩
      else ⟨JSGCDumpEdge_TYPE_PROP, X.sid (env.atom_str prs.atom), X.nid k * NODE_FIELD_COUNT⟩]

/-- The edges the walk of the object `p`'s slots pushes onto its node, read
against `X`: per slot, per key the slot hands on, its `slot_edges`. -/
def object_slot_edges (env : DumpEnv) (h : JSHeap) (p : JSObject) (X : JSGCDumpContext) :
    List JSGCDumpEdge :=
  ((h.get_shape_prop p.shape).zip p.prop).flatMap fun x =>
    (gcdump_prop_keys h x.1 x.2).flatMap fun k => slot_edges env x.1 k X

section grows

variable (env : DumpEnv) (h : JSHeap) {jc a : Addr} {i : Nat} {dc : JSGCDumpContext}
  {q : JSObject}

theorem js_gcdump_edge_label_of_slot {dctx : JS_GCDumpFuncContext} (hplen : dctx.plen = 0)
    {prs : JSShapeProperty} (hprs : dctx.prs = some prs) :
    js_gcdump_edge_label env dc dctx = if __JS_AtomIsTaggedInt prs.atom
      then (JSGCDumpEdge_TYPE_ELEM, atom_to_int prs.atom, dc)
      else (JSGCDumpEdge_TYPE_PROP, (js_gcdump_add_cstr dc (env.atom_str prs.atom)).1,
        (js_gcdump_add_cstr dc (env.atom_str prs.atom)).2) := by
  simp [js_gcdump_edge_label, hplen, hprs, js_gcdump_add_atom]

/-- **The edge from the object to a slot's target**, read against any later
state: `slot_edges`. -/
theorem js_gcdump_parent_edge_of_slot (hI : DumpInv jc dc) {node_i : Nat}
    (hni : node_i < dc.nodes.length) {dctx : JS_GCDumpFuncContext} (hpi : dctx.parent = i)
    (hi : i < dc.nodes.length) (hplen : dctx.plen = 0) {prs : JSShapeProperty}
    (hprs : dctx.prs = some prs) {k : DumpKey} (hk : dc.obj2node k = some node_i)
    {X : JSGCDumpContext} (hX : Extends (js_gcdump_parent_edge env dc node_i dctx) X) :
    (js_gcdump_parent_edge env dc node_i dctx).nodeOr i =
      { dc.nodeOr i with edges := (dc.nodeOr i).edges ++ slot_edges env prs k X } := by
  have hE := js_gcdump_parent_edge_step env hI hni (show dctx.parent.toNat < dc.nodes.length by omega)
  have hnid : X.nid k = node_i := nid_of_obj2node ((hE.ext.trans hX).obj2node _ _ hk)
  have hpn : dctx.parent.toNat = i := by omega
  unfold js_gcdump_parent_edge at hX ⊢
  split_ifs at hX ⊢ with hc
  · have hn0 : node_i ≠ 0 := hc.2.1
    rw [js_gcdump_edge_label_of_slot env hplen hprs] at hX ⊢
    split_ifs at hX ⊢ with ht
    · simp [slot_edges, hnid, hn0, ht, hpn, push_edge_nodeOr_self _ hi]
    · rw [hpn] at hX ⊢
      have hi' : i < (js_gcdump_add_cstr dc (env.atom_str prs.atom)).2.nodes.length := by simpa using hi
      simp [slot_edges, hnid, hn0, ht, push_edge_nodeOr_self _ hi', sid_of_push_named hX]
  · have hn0 : node_i = 0 := by
      by_contra hn0
      exact hc ⟨by omega, hn0, .inr (by simp [hprs])⟩
    simp [slot_edges, hnid, hn0]

/-- **A step of the object's own turn**: with the object's node as the parent,
`js_gcdump_process_obj` pushes the slot's edge onto the node and changes
nothing else of it. -/
theorem js_gcdump_process_obj_grows (hq : h.cell a = .object q) (hI : DumpInv jc dc)
    (cell : DumpKey) {dctx : JS_GCDumpFuncContext} (hp : dctx.parent.toNat < dc.nodes.length)
    (hpi : dctx.parent = i) (hplen : dctx.plen = 0) {prs : JSShapeProperty}
    (hprs : dctx.prs = some prs) (hs : cell = .cell a → dctx.ReadsHeader env) :
    Grows jc a i (slot_edges env prs cell) dc (js_gcdump_process_obj env h jc dc cell dctx) := by
  have hP := js_gcdump_process_obj_step env h hI cell hp
  refine ⟨hP, fun hr E ho => ?_⟩
  have h₁ := (hI.node_from_gp_step cell).1
  have hl := hI.node_from_gp_lt cell
  have h₂ := js_gcdump_fill_node_step env h h₁.inv hl cell dctx
  have h₃ := js_gcdump_parent_edge_step env h₂.inv (h₂.lt hl) (h₂.lt (h₁.lt hp))
  have hi : i < dc.nodes.length := hI.obj2node_lt _ _ ho.1
  -- Filling the handed key's node in leaves node `i` alone: it is another
  -- key's node, or the object's, whose size is already set.
  have hfill : (js_gcdump_fill_node env h jc (js_gcdump_node_from_gp dc cell).2
      (js_gcdump_node_from_gp dc cell).1 cell dctx).nodeOr i = dc.nodeOr i := by
    by_cases hca : cell = .cell a
    · subst hca
      rw [js_gcdump_fill_node_of_reads_header env h (hs rfl), js_gcdump_header_of_object env h hq]
      simp [js_gcdump_node_from_gp_of_some dc ho.1, ← nodeOr_of_lt hi, ho.2.1]
    · have hri : (js_gcdump_node_from_gp dc cell).1 ≠ i := fun he =>
        hca ((hr cell _ (js_gcdump_process_obj_obj2node env h hI cell hp)).2 he)
      exact (js_gcdump_fill_node_nodeOr env h h₁.inv hl hri cell dctx fun k hk =>
        ⟨a, (hr k i (h₃.ext.obj2node _ _ hk)).2 rfl⟩).trans (js_gcdump_node_from_gp_nodeOr _ _)
  have hnode : ∀ X, Extends (js_gcdump_process_obj env h jc dc cell dctx) X →
      (js_gcdump_process_obj env h jc dc cell dctx).nodeOr i =
        { dc.nodeOr i with edges := (dc.nodeOr i).edges ++ slot_edges env prs cell X } := by
    intro X hX
    unfold js_gcdump_process_obj at hX ⊢
    rw [js_gcdump_parent_edge_of_slot env h₂.inv (h₂.lt hl) hpi (h₂.lt (h₁.lt hi)) hplen hprs
      (h₂.ext.obj2node _ _ (js_gcdump_node_from_gp_obj2node_self dc cell)) hX, hfill]
  refine ⟨hP.ext.obj2node _ _ ho.1, ?_, fun X hX => ?_⟩
  · rw [hnode _ (.refl _)]
    exact ho.2.1
  · rw [hnode X hX, ho.2.2 X (hP.ext.trans hX)]

theorem JS_GCDumpValue_grows (hq : h.cell a = .object q) (hI : DumpInv jc dc) (v : JSValue)
    {dctx : JS_GCDumpFuncContext} (hp : dctx.parent.toNat < dc.nodes.length)
    (hpi : dctx.parent = i) (hplen : dctx.plen = 0) {prs : JSShapeProperty}
    (hprs : dctx.prs = some prs) (hs : v.get_ptr = .cell a → dctx.ReadsHeader env) :
    Grows jc a i (fun X => (JS_GCDumpValue_keys v).flatMap fun k => slot_edges env prs k X) dc
      (JS_GCDumpValue env h jc dc v dctx) := by
  cases v <;> simp only [JS_GCDumpValue, JS_GCDumpValue_keys, List.flatMap_cons, List.flatMap_nil,
    List.append_nil]
  all_goals first
    | exact Grows.refl hI
    | exact js_gcdump_process_obj_grows env h hq hI _ hp hpi hplen hprs hs
    | exact js_gcdump_process_obj_grows env h hq hI _ hp hpi hplen hprs (by intro hc; cases hc)

/-- **A slot of the object's own turn** pushes one `slot_edges` per key it
hands on. -/
theorem gcdump_prop_grows (hq : h.cell a = .object q) (hI : DumpInv jc dc)
    {dctx : JS_GCDumpFuncContext} (hp : dctx.parent.toNat < dc.nodes.length)
    (hpi : dctx.parent = i) (hplen : dctx.plen = 0) (prs : JSShapeProperty) (pr : JSProperty)
    (hs : pr ≠ .value (.string a)) :
    Grows jc a i (fun X => (gcdump_prop_keys h prs pr).flatMap fun k => slot_edges env prs k X) dc
      (gcdump_prop env h jc dc dctx prs pr) := by
  by_cases hn : prs.atom = JS_ATOM_NULL
  · simp only [gcdump_prop, gcdump_prop_keys, hn, if_true]
    exact Grows.refl hI
  -- A slot that holds no value hands its cells on as headers, or is a
  -- detached var-ref, which is not the object.
  have hg : ∀ {d : JSGCDumpContext}, DumpInv jc d → dctx.parent.toNat < d.nodes.length →
      ∀ (b : Addr) (pr' : JSProperty), (b = a → prs.flags = .getset ∨ prs.flags = .autoinit) →
        Grows jc a i (slot_edges env prs (.cell b)) d (js_gcdump_process_obj env h jc d (.cell b)
          { dctx with prs := some prs, pr := some pr' }) :=
    fun hI hp _ _ hb => js_gcdump_process_obj_grows env h hq hI _ (by exact hp) (by exact hpi)
      (by exact hplen) (by exact rfl) fun hc => by
      simp [JS_GCDumpFuncContext.ReadsHeader, JS_GCDumpFuncContext.slot_tag, hb (DumpKey.cell.inj hc)]
  cases hf : prs.flags <;> cases pr <;> simp only [gcdump_prop, gcdump_prop_keys, hf, hn, if_false]
  all_goals first | exact Grows.refl hI | skip
  · next v =>
    refine JS_GCDumpValue_grows env h hq hI v (by exact hp) (by exact hpi) (by exact hplen)
      (by exact rfl) fun hv => ?_
    cases v <;> simp only [JSValue.get_ptr, DumpKey.cell.injEq, reduceCtorEq] at hv
    case string => exact absurd (hv ▸ rfl) hs
    all_goals simp [JS_GCDumpFuncContext.ReadsHeader, JS_GCDumpFuncContext.slot_tag, hf, JSValue.tag]
  · next getter setter =>
    rcases getter with _ | g <;> rcases setter with _ | s
    · simpa using Grows.refl hI
    · simpa using hg hI hp s (.getset none (some s)) fun _ => .inl hf
    · simpa using hg hI hp g (.getset (some g) none) fun _ => .inl hf
    · have h₁ := hg hI hp g (.getset (some g) (some s)) fun _ => .inl hf
      simpa using h₁.trans (hg h₁.step.inv (h₁.step.lt hp) s _ fun _ => .inl hf)
  · next r =>
    split_ifs with hr
    · simpa using hg hI hp r (.var_ref r) fun hb => by subst hb; simp [JSHeap.is_detached, hq] at hr
    · simpa using Grows.refl hI
  · next realm => simpa using hg hI hp realm (.init realm) fun _ => .inr hf

/-- **The walk of the object's own slots** pushes `object_slot_edges` onto its
node. -/
theorem gcdump_children_grows (hq : h.cell a = .object q) (hsa : h.StringsApart)
    (hI : DumpInv jc dc) {dctx : JS_GCDumpFuncContext} (hp : dctx.parent.toNat < dc.nodes.length)
    (hpi : dctx.parent = i) (hplen : dctx.plen = 0) :
    Grows jc a i (object_slot_edges env h q) dc (gcdump_children env h jc dc a dctx) := by
  simp only [gcdump_children, hq]
  exact Grows.foldl _ hI fun _ hs x hx => gcdump_prop_grows env h hq hs.inv (hs.lt hp) hpi hplen _ _
    fun he => hsa a q a q hq (he ▸ (List.of_mem_zip hx).2) hq

/-- After a cell's turn, the cell has the node its turn started with. -/
theorem js_gcdump_visit_obj2node (hI : DumpInv jc dc) (gp : Addr) :
    (js_gcdump_visit env h jc dc gp).obj2node (.cell gp) = some (js_gcdump_node_from_gp dc (.cell gp)).1 := by
  obtain ⟨h₁, -⟩ := hI.node_from_gp_step (.cell gp)
  have hl := hI.node_from_gp_lt (.cell gp)
  have hP : DumpStep jc _ (js_gcdump_process_obj env h jc _ (.cell gp) .root) :=
    js_gcdump_process_obj_step env h h₁.inv (.cell gp) (h₁.inv.obj2node_lt _ _ h₁.inv.root)
  have hC : DumpStep jc _ (gcdump_children env h jc _ gp
      { JS_GCDumpFuncContext.root with parent := (js_gcdump_node_from_gp dc (.cell gp)).1 }) :=
    gcdump_children_step env h hP.inv (by simpa using hl.trans_le hP.ext.length_le) gp
  exact hC.ext.obj2node _ _ (hP.ext.obj2node _ _ (by simp))

/-- **The object's own turn**: it fills the node in if no earlier turn did,
then pushes the edges of the object's slots. -/
theorem js_gcdump_visit_self (hq : h.cell a = .object q) (hsa : h.StringsApart)
    (hI : DumpInv jc dc) (hph : ObjPhase a i (object_first_edges env h jc a q) dc)
    (hr : (js_gcdump_visit env h jc dc a).Reserves a i) :
    ObjNode a i (fun X => object_first_edges env h jc a q X ++ object_slot_edges env h q X)
      (js_gcdump_visit env h jc dc a) := by
  obtain ⟨h₁, -⟩ := hI.node_from_gp_step (.cell a)
  have hl := hI.node_from_gp_lt (.cell a)
  have h0 : (0 : Nat) < (js_gcdump_node_from_gp dc (.cell a)).2.nodes.length :=
    h₁.inv.obj2node_lt _ _ h₁.inv.root
  have hP : DumpStep jc _ (js_gcdump_process_obj env h jc _ (.cell a) .root) :=
    js_gcdump_process_obj_step env h h₁.inv (.cell a) h0
  have hp : ({ JS_GCDumpFuncContext.root with parent := (js_gcdump_node_from_gp dc (.cell a)).1 } :
      JS_GCDumpFuncContext).parent.toNat < (js_gcdump_process_obj env h jc
        (js_gcdump_node_from_gp dc (.cell a)).2 (.cell a) .root).nodes.length := by
    simpa using hl.trans_le hP.ext.length_le
  have hC := gcdump_children_step env h hP.inv hp a
  have hri : (js_gcdump_node_from_gp dc (.cell a)).1 = i :=
    (hr _ _ (js_gcdump_visit_obj2node env h hI a)).1 rfl
  unfold js_gcdump_visit at hr ⊢
  have hph₁ := (Keeps.of_nodeOr h₁ fun _ _ => js_gcdump_node_from_gp_nodeOr _ _).phase
    (E := object_first_edges env h jc a q) ((hr.of_extends hC.ext).of_extends hP.ext) hph
  have ho := js_gcdump_process_obj_fills env h hq h₁.inv (by exact h0)
    (show (-1 : Int) ≠ i by omega)
    (JS_GCDumpFuncContext.readsHeader_of_prs rfl) (hr.of_extends hC.ext) hph₁
  exact (gcdump_children_grows env h hq hsa hP.inv hp (by simp [hri]) rfl).grows hr _ ho

/-- Every listed cell has a node in the snapshot. -/
theorem __js_gcdump_objects_listed (jc : Addr) {gc_obj_list : List Addr} {c : Addr}
    (hc : c ∈ gc_obj_list) : ∃ j, (__js_gcdump_objects env h jc gc_obj_list).obj2node (.cell c) = some j := by
  obtain ⟨L₁, L₂, rfl⟩ := List.append_of_mem hc
  have h₁ : DumpStep jc _ (L₁.foldl (js_gcdump_visit env h jc) _) :=
    DumpStep.foldl (DumpInv.start jc) fun _ hs gp _ => js_gcdump_visit_step env h hs.inv gp
  have h₂ := js_gcdump_visit_step env h h₁.inv c
  have h₃ : DumpStep jc _ (L₂.foldl (js_gcdump_visit env h jc) _) :=
    DumpStep.foldl h₂.inv fun _ hs gp _ => js_gcdump_visit_step env h hs.inv gp
  unfold __js_gcdump_objects
  rw [List.foldl_append, List.foldl_cons]
  exact ⟨_, h₃.ext.obj2node _ _ (js_gcdump_visit_obj2node env h h₁.inv c)⟩

/-- **Every listed object's node, whole.** Whatever the order of
`gc_obj_list` and however many references to the object the walk meets, the
node of a listed object ends with the first-visit edges (`__proto__`,
`shape`, then `typed_array`, `code` and the elements where they apply) once,
followed by one edge per key its slots hand on, read against the final tables. -/
theorem __js_gcdump_objects_object_edges {gc_obj_list : List Addr} (hnd : gc_obj_list.Nodup)
    (hsa : h.StringsApart) (ha : a ∈ gc_obj_list) (hq : h.cell a = .object q) :
    ((__js_gcdump_objects env h jc gc_obj_list).node
        ((__js_gcdump_objects env h jc gc_obj_list).nid (.cell a))).edges =
      object_first_edges env h jc a q (__js_gcdump_objects env h jc gc_obj_list) ++
        object_slot_edges env h q (__js_gcdump_objects env h jc gc_obj_list) := by
  obtain ⟨L₁, L₂, rfl⟩ := List.append_of_mem ha
  have hn₁ : a ∉ L₁ := fun h₁ => List.disjoint_of_nodup_append hnd h₁ (List.mem_cons_self a L₂)
  have hn₂ : a ∉ L₂ := (List.nodup_cons.1 (List.nodup_append.1 hnd).2.1).1
  have hS := DumpInv.start jc
  have h₁ : DumpStep jc _ (L₁.foldl (js_gcdump_visit env h jc) _) :=
    DumpStep.foldl hS fun _ hs gp _ => js_gcdump_visit_step env h hs.inv gp
  have h₂ := js_gcdump_visit_step env h h₁.inv a
  have h₃ : DumpStep jc _ (L₂.foldl (js_gcdump_visit env h jc) _) :=
    DumpStep.foldl h₂.inv fun _ hs gp _ => js_gcdump_visit_step env h hs.inv gp
  have hFa := h₃.ext.obj2node _ _ (js_gcdump_visit_obj2node env h h₁.inv a)
  have hR := h₃.inv.reserves hFa
  -- Before the object's turn: untouched, or through its first visit.
  have hph₁ := (Keeps.foldl hS fun _ hs gp hgp => js_gcdump_visit_keeps env h hq hsa hs.inv
    fun he => hn₁ (he ▸ hgp)).phase ((hR.of_extends h₃.ext).of_extends h₂.ext) (.start jc)
  -- Its turn, then the turns after it.
  have ho := (Keeps.foldl h₂.inv fun _ hs gp hgp => js_gcdump_visit_keeps env h hq hsa hs.inv
    fun he => hn₂ (he ▸ hgp)).objNode hR
    (js_gcdump_visit_self env h hq hsa h₁.inv hph₁ (hR.of_extends h₃.ext))
  unfold __js_gcdump_objects
  rw [List.foldl_append, List.foldl_cons, nid_of_obj2node hFa,
    ← nodeOr_of_lt (h₃.inv.obj2node_lt _ _ hFa)]
  exact ho.2.2 _ (.refl _)

end grows

/-! ## The snapshot -/

/-- A runtime with its context at `1` and an object at `2` whose only slot,
named by atom `5`, holds the object itself; its shape is at `3`. -/
def selfHeap : JSHeap where
  cell a := if a = 1 then .context emptyContext
    else if a = 2 then .object ⟨1, 3, [.value (.object 2)], [], .other⟩
    else if a = 3 then .shape ⟨false, none, [⟨5, .normal⟩]⟩ else .other
  class_array _ := ⟨none, none⟩

theorem selfHeap_stringsApart : selfHeap.StringsApart := by
  intro b p s q hb hs
  simp only [selfHeap] at hb
  split_ifs at hb
  cases hb
  simp at hs

/-- The three cells of `selfHeap` are read as what they are. -/
theorem selfHeap_cellDumpOk : ∀ gp ∈ [1, 2, 3], CellDumpOk plainEnv selfHeap gp := by
  simp only [List.mem_cons, List.mem_singleton, List.not_mem_nil, or_false]
  rintro gp (rfl | rfl | rfl) <;>
    simp [CellDumpOk, selfHeap, JSHeap.get_shape_prop, SlotOk, BareOk, HeaderOk, JS_ATOM_NULL,
      emptyContext, context_named_head, context_named_tail]

end SlowJsGc

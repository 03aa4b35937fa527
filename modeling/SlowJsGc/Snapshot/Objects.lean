import SlowJsGc.Snapshot.Invariant

/-!
# Object nodes: the first visit happens once

An object's node gets its mandatory edges (`__proto__`, `shape`, and where
they apply `typed_array`, `code` and the elements) in the block of
`js_gcdump_process_obj` guarded by `!node->self_size`, and one edge per
walked slot when `gcdump_children` walks the object with its node as the
parent. This file proves that, whatever order `gc_obj_list` has and however
many references to an object the walk meets, the node of every listed object
ends with exactly those edges: the first-visit block runs once, before any
slot edge, and nothing else writes the node.

The edges are read against the final node and string tables (`nid`, `sid`):
both tables only grow, so an edge's target and name are the same read then as
when it was pushed. The frame argument reads nodes through `nodeOr`, node `i`
or the node `js_gcdump_node_from_gp` would make at `i`: a step leaves
`nodeOr i` alone unless it writes node `i`, so frames compose with no case
for nodes made on the way.
-/

set_option autoImplicit false

namespace SlowJsGc

/-- The node of a key, once the walk has made it. -/
def JSGCDumpContext.nid (dc : JSGCDumpContext) (k : DumpKey) : Nat := (dc.obj2node k).getD 0

/-- The index of an interned string. -/
def JSGCDumpContext.sid (dc : JSGCDumpContext) (s : Bytes) : Int := (dc.str2id s).getD 0

/-- Node `i` as the state holds it, or as `js_gcdump_node_from_gp` makes it. -/
def JSGCDumpContext.nodeOr (dc : JSGCDumpContext) (i : Nat) : JSGCDumpNode :=
  if i < dc.nodes.length then dc.node i else ⟨i, -2, JSGCDumpNode_TYPE_HIDDEN, 0, []⟩

/-- The edge of type `t`, named `s`, to the node of `k`, read against `X`. -/
def JSGCDumpContext.named_edge (X : JSGCDumpContext) (t : Nat) (s : Bytes) (k : DumpKey) :
    JSGCDumpEdge :=
  ⟨t, X.sid s, X.nid k * NODE_FIELD_COUNT⟩

/-- The `element` edges of an array with elements `l`, read against `X`. -/
def JSGCDumpContext.element_edges (X : JSGCDumpContext) (l : List (Nat × JSValue)) :
    List JSGCDumpEdge :=
  l.map fun el => ⟨JSGCDumpEdge_TYPE_ELEM, int32_wrap el.1, X.nid el.2.get_ptr * NODE_FIELD_COUNT⟩

/-- The edges the first visit of the object `a`, with record `p`, pushes onto
its node, read against `X`: `__proto__`, `shape`, `typed_array` for a typed
array, `code` for a function, and one `element` edge per element of an array. -/
def object_first_edges (env : DumpEnv) (h : JSHeap) (jc : Addr) (a : Addr) (p : JSObject)
    (X : JSGCDumpContext) : List JSGCDumpEdge :=
  X.named_edge JSGCDumpEdge_TYPE_PROP (cstr "__proto__") (shape_proto_key h p) ::
    X.named_edge JSGCDumpEdge_TYPE_INTERNAL (cstr "shape") (.cell p.shape) ::
    ((if JS_CLASS_UINT8C_ARRAY ≤ p.class_id ∧ p.class_id ≤ JS_CLASS_DATAVIEW then
        [X.named_edge JSGCDumpEdge_TYPE_INTERNAL (cstr "typed_array") (typed_array_key a p)] else []) ++
      (if env.is_function a then
        [X.named_edge JSGCDumpEdge_TYPE_INTERNAL (cstr "code") (code_key a p)] else []) ++
      (if js_gcdump_object_type env h jc a = JSGCDumpNode_TYPE_ARRAY then
        X.element_edges (env.array_elements a).enum else []))

/-! ## Tables read later give the same answers -/

section tables

variable {dc dc' : JSGCDumpContext}

theorem Extends.nid (hx : Extends dc dc') {k : DumpKey} (hk : (dc.obj2node k).isSome) :
    dc'.nid k = dc.nid k := by
  obtain ⟨i, hi⟩ := Option.isSome_iff_exists.mp hk
  simp [JSGCDumpContext.nid, hi, hx.obj2node k i hi]

theorem Extends.sid (hx : Extends dc dc') {s : Bytes} (hs : (dc.str2id s).isSome) :
    dc'.sid s = dc.sid s := by
  obtain ⟨i, hi⟩ := Option.isSome_iff_exists.mp hs
  simp [JSGCDumpContext.sid, hi, hx.str2id s i hi]

theorem nid_of_obj2node {k : DumpKey} {i : Nat} (h : dc.obj2node k = some i) : dc.nid k = i := by
  simp [JSGCDumpContext.nid, h]

theorem sid_of_str2id {s : Bytes} {i : Nat} (h : dc.str2id s = some i) : dc.sid s = i := by
  simp [JSGCDumpContext.sid, h]

/-- The name of an edge pushed with a freshly interned string, read later. -/
theorem sid_of_push_named {X : JSGCDumpContext} {s : Bytes} {i t j : Nat}
    (hX : Extends (push_edge (js_gcdump_add_cstr dc s).2 i
      ⟨t, (js_gcdump_add_cstr dc s).1, j * NODE_FIELD_COUNT⟩) X) :
    X.sid s = (js_gcdump_add_cstr dc s).1 :=
  sid_of_str2id (hX.str2id _ _ (by simp))

end tables

/-! ## Frames -/

section frame

variable {dc : JSGCDumpContext}

theorem nodeOr_of_lt {i : Nat} (hi : i < dc.nodes.length) : dc.nodeOr i = dc.node i := if_pos hi

@[simp] theorem js_gcdump_node_from_gp_nodeOr (gp : DumpKey) (i : Nat) :
    (js_gcdump_node_from_gp dc gp).2.nodeOr i = dc.nodeOr i := by
  cases hg : dc.obj2node gp with
  | some j => rw [js_gcdump_node_from_gp_of_some dc hg]
  | none =>
    obtain ⟨-, hnodes, -⟩ := js_gcdump_node_from_gp_of_none dc hg
    simp only [JSGCDumpContext.nodeOr, JSGCDumpContext.node, hnodes, List.length_append,
      List.length_singleton, List.getD_eq_getElem?_getD]
    rcases lt_trichotomy i dc.nodes.length with hi | rfl | hi
    · simp [hi, List.getElem?_append_left hi, Nat.lt_succ_of_lt hi]
    · simp
    · simp [show ¬ i < dc.nodes.length + 1 by omega, show ¬ i < dc.nodes.length by omega]

@[simp] theorem js_gcdump_add_cstr_nodeOr (s : Bytes) (i : Nat) :
    (js_gcdump_add_cstr dc s).2.nodeOr i = dc.nodeOr i := by
  simp [JSGCDumpContext.nodeOr]

theorem set_node_nodeOr {i j : Nat} (f : JSGCDumpNode → JSGCDumpNode) (hij : j ≠ i) :
    (set_node dc j f).nodeOr i = dc.nodeOr i := by
  simp [JSGCDumpContext.nodeOr, set_node_node, hij]

theorem push_edge_nodeOr {i j : Nat} (e : JSGCDumpEdge) (hij : j ≠ i) :
    (push_edge dc j e).nodeOr i = dc.nodeOr i := by
  simp [JSGCDumpContext.nodeOr, push_edge_node, hij]

@[simp] theorem set_fault_nodeOr (i : Nat) : (set_fault dc).nodeOr i = dc.nodeOr i := rfl

theorem push_edge_nodeOr_self {i : Nat} (e : JSGCDumpEdge) (hi : i < dc.nodes.length) :
    (push_edge dc i e).nodeOr i = { dc.nodeOr i with edges := (dc.nodeOr i).edges ++ [e] } := by
  simp [JSGCDumpContext.nodeOr, push_edge_node, hi]

end frame

/-- Node `i`, if the state has it, is the node of a cell: the walk writes the
nodes of prototypes' property entries, of C functions and of the context's
arrays, none of which is a cell. -/
def CellKeyed (dc : JSGCDumpContext) (i : Nat) : Prop :=
  ∀ k, dc.obj2node k = some i → ∃ b, k = .cell b

theorem CellKeyed.of_extends {dc dc' : JSGCDumpContext} {i : Nat} (hx : Extends dc dc')
    (hc : CellKeyed dc' i) : CellKeyed dc i :=
  fun k hk => hc k (hx.obj2node k i hk)

section walk

variable (env : DumpEnv) (h : JSHeap) {jc : Addr} {dc : JSGCDumpContext}

theorem js_gcdump_edge_to_nodeOr {node_i i : Nat} (hi : node_i ≠ i) (t : Nat) (s : Bytes)
    (k : DumpKey) : (js_gcdump_edge_to dc node_i t s k).nodeOr i = dc.nodeOr i := by
  simp [js_gcdump_edge_to, push_edge_nodeOr _ hi]

theorem js_gcdump_proto_shape_nodeOr {node_i i : Nat} (hi : node_i ≠ i) (p : JSObject) :
    (js_gcdump_proto_shape h dc node_i p).nodeOr i = dc.nodeOr i := by
  simp [js_gcdump_proto_shape, js_gcdump_edge_to_nodeOr hi]

theorem js_gcdump_typed_array_nodeOr {node_i i : Nat} (hi : node_i ≠ i) (a : Addr) (p : JSObject) :
    (js_gcdump_typed_array dc node_i a p).nodeOr i = dc.nodeOr i := by
  unfold js_gcdump_typed_array
  split_ifs <;> simp [js_gcdump_edge_to_nodeOr hi]

theorem code_key_of_c_function {a : Addr} {p : JSObject} (hc : p.class_id = JS_CLASS_C_FUNCTION)
    (b : Addr) : code_key a p ≠ .cell b := by
  simp only [code_key, if_pos hc]
  split <;> simp

theorem js_gcdump_code_nodeOr {node_i i : Nat} (hi : node_i ≠ i) (a : Addr) (p : JSObject)
    (hk : CellKeyed (js_gcdump_code env dc node_i a p) i) :
    (js_gcdump_code env dc node_i a p).nodeOr i = dc.nodeOr i := by
  unfold js_gcdump_code at hk ⊢
  split_ifs at hk ⊢ with hf hcf
  · have hr : (js_gcdump_node_from_gp dc (code_key a p)).1 ≠ i := fun hr => by
      obtain ⟨b, hb⟩ := hk (code_key a p) (by simp [← hr])
      exact code_key_of_c_function hcf b hb
    simp [push_edge_nodeOr _ hi, set_node_nodeOr _ hr]
  · simp [push_edge_nodeOr _ hi]
  · rfl

theorem js_gcdump_name_once_nodeOr {node_i i : Nat} (hi : node_i ≠ i) (name : Bytes) :
    (js_gcdump_name_once dc node_i name).nodeOr i = dc.nodeOr i := by
  unfold js_gcdump_name_once
  split_ifs <;> simp [set_node_nodeOr _ hi]

theorem js_gcdump_object_name_nodeOr {node_i i : Nat} (hi : node_i ≠ i) (a : Addr) :
    (js_gcdump_object_name env h jc dc node_i a).nodeOr i = dc.nodeOr i :=
  js_gcdump_name_once_nodeOr hi _

theorem js_gcdump_elements_nodeOr {node_i i : Nat} (hi : node_i ≠ i) (a : Addr) :
    (js_gcdump_elements env dc node_i a).nodeOr i = dc.nodeOr i := by
  unfold js_gcdump_elements
  split_ifs
  · exact List.foldlRecOn (motive := fun dc' : JSGCDumpContext => dc'.nodeOr i = dc.nodeOr i)
      _ _ _ rfl fun _ h' _ _ => by simp [js_gcdump_element, push_edge_nodeOr _ hi, h']
  · rfl

/-- The states between the steps of an object's first visit. -/
theorem js_gcdump_object_first_stages (hI : DumpInv jc dc) {node_i : Nat}
    (hlt : node_i < dc.nodes.length) (a : Addr) (p : JSObject) :
    let dc₁ := set_node dc node_i fun n =>
      { n with type := js_gcdump_object_type env h jc a, self_size := js_gcdump_obj_size p }
    let dc₂ := js_gcdump_proto_shape h dc₁ node_i p
    let dc₃ := js_gcdump_typed_array dc₂ node_i a p
    let dc₄ := js_gcdump_code env dc₃ node_i a p
    let dc₅ := js_gcdump_object_name env h jc dc₄ node_i a
    DumpStep jc dc dc₁ ∧ DumpStep jc dc₁ dc₂ ∧ DumpStep jc dc₂ dc₃ ∧ DumpStep jc dc₃ dc₄ ∧
      DumpStep jc dc₄ dc₅ ∧ DumpStep jc dc₅ (js_gcdump_object_first env h jc dc node_i a p) := by
  intro dc₁ dc₂ dc₃ dc₄ dc₅
  have h₁ : DumpStep jc dc dc₁ := hI.set_node_step fun _ => ⟨rfl, rfl⟩
  have h₂ := js_gcdump_proto_shape_step h h₁.inv (h₁.lt hlt) p
  have h₃ := js_gcdump_typed_array_step h₂.inv (h₂.lt (h₁.lt hlt)) a p
  have h₄ := js_gcdump_code_step env h₃.inv (h₃.lt (h₂.lt (h₁.lt hlt))) a p
  have h₅ := js_gcdump_object_name_step env h h₄.inv node_i a
  exact ⟨h₁, h₂, h₃, h₄, h₅, js_gcdump_elements_step env h₅.inv (h₅.lt (h₄.lt (h₃.lt (h₂.lt
    (h₁.lt hlt))))) a⟩

theorem js_gcdump_object_first_nodeOr (hI : DumpInv jc dc) {node_i i : Nat}
    (hlt : node_i < dc.nodes.length) (hi : node_i ≠ i) (a : Addr) (p : JSObject)
    (hk : CellKeyed (js_gcdump_object_first env h jc dc node_i a p) i) :
    (js_gcdump_object_first env h jc dc node_i a p).nodeOr i = dc.nodeOr i := by
  obtain ⟨-, -, -, -, h₅, h₆⟩ := js_gcdump_object_first_stages env h hI hlt a p
  unfold js_gcdump_object_first at hk ⊢
  rw [js_gcdump_elements_nodeOr env hi, js_gcdump_object_name_nodeOr env h hi,
    js_gcdump_code_nodeOr env hi a p ((hk.of_extends h₆.ext).of_extends h₅.ext),
    js_gcdump_typed_array_nodeOr hi, js_gcdump_proto_shape_nodeOr h hi, set_node_nodeOr _ hi]

/-- A loop whose every turn keeps node `i`, when that is a cell's node, keeps
node `i`. -/
theorem foldl_nodeOr {α : Type} {f : JSGCDumpContext → α → JSGCDumpContext} {l : List α} {i : Nat}
    (hI : DumpInv jc dc) (hf : ∀ dc', DumpStep jc dc dc' → ∀ x ∈ l,
      DumpStep jc dc' (f dc' x) ∧ (CellKeyed (f dc' x) i → (f dc' x).nodeOr i = dc'.nodeOr i)) :
    CellKeyed (l.foldl f dc) i → (l.foldl f dc).nodeOr i = dc.nodeOr i :=
  (List.foldlRecOn (motive := fun s => DumpStep jc dc s ∧ (CellKeyed s i → s.nodeOr i = dc.nodeOr i))
    l f dc ⟨.refl hI, fun _ => rfl⟩ fun s hs x hx =>
      ⟨hs.1.trans (hf s hs.1 x hx).1, fun hk => ((hf s hs.1 x hx).2 hk).trans
        (hs.2 (hk.of_extends (hf s hs.1 x hx).1.ext))⟩).2

theorem js_gcdump_shape_prop_nodeOr {node_i i : Nat} (hi : node_i ≠ i) (a : Addr)
    (prs : Nat × JSShapeProperty) (hk : CellKeyed (js_gcdump_shape_prop env node_i a dc prs) i) :
    (js_gcdump_shape_prop env node_i a dc prs).nodeOr i = dc.nodeOr i := by
  unfold js_gcdump_shape_prop at hk ⊢
  have hr : (js_gcdump_node_from_gp dc (.shape_prop a prs.1)).1 ≠ i := fun hr => by
    obtain ⟨b, hb⟩ := hk (.shape_prop a prs.1) (by simp [js_gcdump_add_atom, ← hr])
    cases hb
  simp [js_gcdump_add_atom, push_edge_nodeOr _ hi, set_node_nodeOr _ hr]

theorem js_gcdump_shape_props_nodeOr (hI : DumpInv jc dc) {node_i i : Nat}
    (hlt : node_i < dc.nodes.length) (hi : node_i ≠ i) (a : Addr) (sh : JSShape)
    (hk : CellKeyed (js_gcdump_shape_props env dc node_i a sh) i) :
    (js_gcdump_shape_props env dc node_i a sh).nodeOr i = dc.nodeOr i := by
  unfold js_gcdump_shape_props at hk ⊢
  split_ifs at hk ⊢
  · have h₁ := hI.set_node_step (i := node_i) (f := fun n => { n with self_size := sizeof_JSShape })
      fun _ => ⟨rfl, rfl⟩
    rw [foldl_nodeOr h₁.inv (fun _ hs prs _ =>
      ⟨js_gcdump_shape_prop_step env hs.inv (hs.lt (h₁.lt hlt)) a prs,
        js_gcdump_shape_prop_nodeOr env hi a prs⟩) hk, set_node_nodeOr _ hi]
  · rfl

theorem js_gcdump_shape_nodeOr (hI : DumpInv jc dc) {node_i i : Nat}
    (hlt : node_i < dc.nodes.length) (hi : node_i ≠ i) (a : Addr) (sh : JSShape)
    (hk : CellKeyed (js_gcdump_shape env dc node_i a sh) i) :
    (js_gcdump_shape env dc node_i a sh).nodeOr i = dc.nodeOr i := by
  have h₁ := hI.set_node_step (i := node_i) (f := fun n => { n with type := JSGCDumpNode_TYPE_HIDDEN })
    fun _ => ⟨rfl, rfl⟩
  have h₂ := js_gcdump_name_once_step h₁.inv node_i (cstr "shape")
  unfold js_gcdump_shape at hk ⊢
  rw [js_gcdump_shape_props_nodeOr env h₂.inv (h₂.lt (h₁.lt hlt)) hi a sh hk,
    js_gcdump_name_once_nodeOr hi, set_node_nodeOr _ hi]

theorem js_gcdump_misread_nodeOr {node_i i : Nat} (hi : node_i ≠ i) (t : Nat) :
    (js_gcdump_misread dc node_i t).nodeOr i = dc.nodeOr i := by
  unfold js_gcdump_misread
  split <;> (try dsimp only) <;> (try split_ifs) <;>
    simp only [set_fault_nodeOr, js_gcdump_name_once_nodeOr hi, set_node_nodeOr _ hi]

theorem js_gcdump_header_nodeOr (hI : DumpInv jc dc) {node_i i : Nat}
    (hlt : node_i < dc.nodes.length) (hi : node_i ≠ i) (a : Addr)
    (hk : CellKeyed (js_gcdump_header env h jc dc node_i a) i) :
    (js_gcdump_header env h jc dc node_i a).nodeOr i = dc.nodeOr i := by
  revert hk
  unfold js_gcdump_header
  split <;> intro hk
  · split_ifs at hk ⊢
    · exact js_gcdump_object_first_nodeOr env h hI hlt hi a _ hk
    · rfl
  · split <;> simp [set_node_nodeOr _ hi]
  · simp [set_node_nodeOr _ hi]
  · exact js_gcdump_shape_nodeOr env hI hlt hi a _ hk
  · rfl
  · rfl
  · exact js_gcdump_misread_nodeOr hi _

theorem js_gcdump_fill_node_nodeOr (hI : DumpInv jc dc) {node_i i : Nat}
    (hlt : node_i < dc.nodes.length) (hi : node_i ≠ i) (cell : DumpKey) (dctx : JS_GCDumpFuncContext)
    (hk : CellKeyed (js_gcdump_fill_node env h jc dc node_i cell dctx) i) :
    (js_gcdump_fill_node env h jc dc node_i cell dctx).nodeOr i = dc.nodeOr i := by
  revert hk
  unfold js_gcdump_fill_node
  split
  · split
    · split <;> simp [set_node_nodeOr _ hi]
    · simp
  · split <;> simp [set_node_nodeOr _ hi]
  · split
    · exact js_gcdump_header_nodeOr env h hI hlt hi _
    · exact fun _ => js_gcdump_misread_nodeOr hi _
    · simp

theorem js_gcdump_edge_label_nodeOr (dctx : JS_GCDumpFuncContext) (i : Nat) :
    (js_gcdump_edge_label env dc dctx).2.2.nodeOr i = dc.nodeOr i := by
  unfold js_gcdump_edge_label
  dsimp only
  split_ifs <;> simp [js_gcdump_add_atom]

theorem js_gcdump_parent_edge_nodeOr {node_i i : Nat} {dctx : JS_GCDumpFuncContext}
    (hpi : dctx.parent ≠ i) :
    (js_gcdump_parent_edge env dc node_i dctx).nodeOr i = dc.nodeOr i := by
  unfold js_gcdump_parent_edge
  split_ifs with hc
  · rw [push_edge_nodeOr _ (fun h' => hpi (by omega)), js_gcdump_edge_label_nodeOr]
  · rfl

/-- **A step on another key leaves an object's node alone**: the walk writes
the node of what it is handed, nodes that are no cell's, and its parent. -/
theorem js_gcdump_process_obj_nodeOr (hI : DumpInv jc dc) (cell : DumpKey)
    {dctx : JS_GCDumpFuncContext} (hp : dctx.parent.toNat < dc.nodes.length) {a : Addr} {i : Nat}
    (ha : (js_gcdump_process_obj env h jc dc cell dctx).obj2node (.cell a) = some i)
    (hca : cell ≠ .cell a) (hpi : dctx.parent ≠ i) :
    (js_gcdump_process_obj env h jc dc cell dctx).nodeOr i = dc.nodeOr i := by
  have h₁ := (hI.node_from_gp_step cell).1
  have hi := hI.node_from_gp_lt cell
  have h₂ := js_gcdump_fill_node_step env h h₁.inv hi cell dctx
  have h₃ := js_gcdump_parent_edge_step env h₂.inv (h₂.lt hi) (h₂.lt (h₁.lt hp))
  have hF := h₂.trans h₃
  unfold js_gcdump_process_obj at ha ⊢
  have hk : CellKeyed (js_gcdump_parent_edge env (js_gcdump_fill_node env h jc
      (js_gcdump_node_from_gp dc cell).2 (js_gcdump_node_from_gp dc cell).1 cell dctx)
      (js_gcdump_node_from_gp dc cell).1 dctx) i := fun k hk =>
    ⟨a, h₃.inv.obj2node_inj _ _ _ hk ha⟩
  have hri : (js_gcdump_node_from_gp dc cell).1 ≠ i := fun hri => hca
    (h₃.inv.obj2node_inj _ _ _ (hF.ext.obj2node _ _ (by simp [hri])) ha)
  rw [js_gcdump_parent_edge_nodeOr env hpi, js_gcdump_fill_node_nodeOr env h h₁.inv hi hri _ _
    (hk.of_extends h₃.ext), js_gcdump_node_from_gp_nodeOr]

/-! ### What the first visit writes into the object's node -/

theorem js_gcdump_edge_to_node (hI : DumpInv jc dc) {i : Nat} (hi : i < dc.nodes.length) (t : Nat)
    (s : Bytes) (k : DumpKey) {X : JSGCDumpContext} (hX : Extends (js_gcdump_edge_to dc i t s k) X) :
    (js_gcdump_edge_to dc i t s k).node i =
      { dc.node i with edges := (dc.node i).edges ++ [X.named_edge t s k] } := by
  have hl : i < (js_gcdump_node_from_gp dc k).2.nodes.length := (hI.node_from_gp_step k).1.lt hi
  unfold js_gcdump_edge_to at hX ⊢
  simp only [JSGCDumpContext.named_edge, sid_of_push_named hX,
    nid_of_obj2node (hX.obj2node k (js_gcdump_node_from_gp dc k).1 (by simp))]
  simp [push_edge_node, hl, js_gcdump_node_from_gp_node dc hi]

theorem js_gcdump_proto_shape_node (hI : DumpInv jc dc) {node_i : Nat}
    (hi : node_i < dc.nodes.length) (p : JSObject) {X : JSGCDumpContext}
    (hX : Extends (js_gcdump_proto_shape h dc node_i p) X) :
    (js_gcdump_proto_shape h dc node_i p).node node_i = { dc.node node_i with edges :=
      (dc.node node_i).edges ++ [X.named_edge JSGCDumpEdge_TYPE_PROP (cstr "__proto__") (shape_proto_key h p),
        X.named_edge JSGCDumpEdge_TYPE_INTERNAL (cstr "shape") (.cell p.shape)] } := by
  have h₁ := js_gcdump_edge_to_step hI hi JSGCDumpEdge_TYPE_PROP (cstr "__proto__") (shape_proto_key h p)
  have h₂ := js_gcdump_edge_to_step h₁.inv (h₁.lt hi) JSGCDumpEdge_TYPE_INTERNAL (cstr "shape")
    (.cell p.shape)
  unfold js_gcdump_proto_shape at hX ⊢
  rw [js_gcdump_edge_to_node h₁.inv (h₁.lt hi) _ _ _ hX, js_gcdump_edge_to_node hI hi _ _ _
    (h₂.ext.trans hX)]
  simp

theorem js_gcdump_typed_array_node (hI : DumpInv jc dc) {node_i : Nat}
    (hi : node_i < dc.nodes.length) (a : Addr) (p : JSObject) {X : JSGCDumpContext}
    (hX : Extends (js_gcdump_typed_array dc node_i a p) X) :
    (js_gcdump_typed_array dc node_i a p).node node_i = { dc.node node_i with edges :=
      (dc.node node_i).edges ++ (if JS_CLASS_UINT8C_ARRAY ≤ p.class_id ∧ p.class_id ≤ JS_CLASS_DATAVIEW
        then [X.named_edge JSGCDumpEdge_TYPE_INTERNAL (cstr "typed_array") (typed_array_key a p)]
        else []) } := by
  unfold js_gcdump_typed_array at hX ⊢
  split_ifs at hX ⊢
  · exact js_gcdump_edge_to_node hI hi _ _ _ hX
  · simp

theorem js_gcdump_code_node (hI : DumpInv jc dc) {node_i : Nat} (hi : node_i < dc.nodes.length)
    {a : Addr} (hK : dc.obj2node (.cell a) = some node_i) (p : JSObject) {X : JSGCDumpContext}
    (hX : Extends (js_gcdump_code env dc node_i a p) X) :
    (js_gcdump_code env dc node_i a p).node node_i = { dc.node node_i with edges :=
      (dc.node node_i).edges ++ (if env.is_function a
        then [X.named_edge JSGCDumpEdge_TYPE_INTERNAL (cstr "code") (code_key a p)] else []) } := by
  obtain ⟨h₁, -⟩ := hI.node_from_gp_step (code_key a p)
  have hl := h₁.lt hi
  have hri : p.class_id = JS_CLASS_C_FUNCTION →
      (js_gcdump_node_from_gp dc (code_key a p)).1 ≠ node_i := by
    intro hcf he
    have hK₁ := h₁.ext.obj2node _ _ hK
    rw [← he] at hK₁
    exact code_key_of_c_function hcf a
      (h₁.inv.obj2node_inj _ _ _ (js_gcdump_node_from_gp_obj2node_self dc _) hK₁)
  unfold js_gcdump_code at hX ⊢
  split_ifs at hX ⊢ with hf hcf
  · simp only [JSGCDumpContext.named_edge, sid_of_push_named hX, nid_of_obj2node
      (hX.obj2node (code_key a p) (js_gcdump_node_from_gp dc (code_key a p)).1 (by simp))]
    simp [push_edge_node, set_node_node, hl, hri hcf, js_gcdump_node_from_gp_node dc hi]
  · simp only [JSGCDumpContext.named_edge, sid_of_push_named hX, nid_of_obj2node
      (hX.obj2node (code_key a p) (js_gcdump_node_from_gp dc (code_key a p)).1 (by simp))]
    simp [push_edge_node, hl, js_gcdump_node_from_gp_node dc hi]
  · simp

/-- Naming a node changes its name only. -/
theorem js_gcdump_name_once_node (node_i : Nat) (name : Bytes) :
    (js_gcdump_name_once dc node_i name).node node_i =
      { dc.node node_i with name := ((js_gcdump_name_once dc node_i name).node node_i).name } := by
  unfold js_gcdump_name_once
  split_ifs
  · by_cases hl : node_i < dc.nodes.length <;> simp [set_node_node, hl]
  · rfl

theorem js_gcdump_object_name_node (node_i : Nat) (a : Addr) :
    (js_gcdump_object_name env h jc dc node_i a).node node_i = { dc.node node_i with
      name := ((js_gcdump_object_name env h jc dc node_i a).node node_i).name } :=
  js_gcdump_name_once_node node_i _

/-- The element edges of an array, read against `X`. -/
theorem js_gcdump_elements_fold_node {node_i : Nat} {X : JSGCDumpContext} :
    ∀ (l : List (Nat × JSValue)) (dc : JSGCDumpContext), DumpInv jc dc → node_i < dc.nodes.length →
      Extends (l.foldl (js_gcdump_element node_i) dc) X →
      (l.foldl (js_gcdump_element node_i) dc).node node_i =
        { dc.node node_i with edges := (dc.node node_i).edges ++ X.element_edges l }
  | [], _, _, _, _ => by simp [JSGCDumpContext.element_edges]
  | el :: l, dc, hI, hi, hX => by
    have h₁ := js_gcdump_element_step hI hi el
    have hl : node_i < (js_gcdump_node_from_gp dc el.2.get_ptr).2.nodes.length :=
      (hI.node_from_gp_step _).1.lt hi
    have hX₁ : Extends (js_gcdump_element node_i dc el) X := (DumpStep.foldl h₁.inv fun _ hs x _ =>
      js_gcdump_element_step hs.inv (hs.lt (h₁.lt hi)) x).ext.trans hX
    rw [List.foldl_cons, js_gcdump_elements_fold_node l _ h₁.inv (h₁.lt hi) hX]
    simp only [JSGCDumpContext.element_edges, List.map_cons, nid_of_obj2node (hX₁.obj2node
      el.2.get_ptr (js_gcdump_node_from_gp dc el.2.get_ptr).1 (by simp [js_gcdump_element]))]
    simp [js_gcdump_element, push_edge_node, hl, js_gcdump_node_from_gp_node dc hi]

theorem js_gcdump_elements_node (hI : DumpInv jc dc) {node_i : Nat} (hi : node_i < dc.nodes.length)
    (a : Addr) {X : JSGCDumpContext} (hX : Extends (js_gcdump_elements env dc node_i a) X) :
    (js_gcdump_elements env dc node_i a).node node_i = { dc.node node_i with edges :=
      (dc.node node_i).edges ++ (if (dc.node node_i).type = JSGCDumpNode_TYPE_ARRAY
        then X.element_edges (env.array_elements a).enum else []) } := by
  unfold js_gcdump_elements at hX ⊢
  split_ifs at hX ⊢
  · exact js_gcdump_elements_fold_node _ _ hI hi hX
  · simp

/-- **The first visit of an object.** On the node of `a`, the first visit
records the object's size and pushes exactly the edges of
`object_first_edges`, read against any later state. -/
theorem js_gcdump_object_first_node (hI : DumpInv jc dc) {node_i : Nat}
    (hlt : node_i < dc.nodes.length) {a : Addr} (hK : dc.obj2node (.cell a) = some node_i)
    (p : JSObject) {X : JSGCDumpContext} (hX : Extends (js_gcdump_object_first env h jc dc node_i a p) X) :
    ((js_gcdump_object_first env h jc dc node_i a p).node node_i).edges =
        (dc.node node_i).edges ++ object_first_edges env h jc a p X ∧
      ((js_gcdump_object_first env h jc dc node_i a p).node node_i).self_size =
        js_gcdump_obj_size p := by
  obtain ⟨h₁, h₂, h₃, h₄, h₅, h₆⟩ := js_gcdump_object_first_stages env h hI hlt a p
  have l₃ := h₃.lt (h₂.lt (h₁.lt hlt))
  have hK₃ := (h₁.ext.trans (h₂.ext.trans h₃.ext)).obj2node _ _ hK
  unfold js_gcdump_object_first
  rw [js_gcdump_elements_node env h₅.inv (h₅.lt (h₄.lt l₃)) a hX, js_gcdump_object_name_node,
    js_gcdump_code_node env h₃.inv l₃ hK₃ p (h₅.ext.trans (h₆.ext.trans hX)),
    js_gcdump_typed_array_node h₂.inv (h₂.lt (h₁.lt hlt)) a p (h₄.ext.trans (h₅.ext.trans
      (h₆.ext.trans hX))),
    js_gcdump_proto_shape_node h h₁.inv (h₁.lt hlt) p (h₃.ext.trans (h₄.ext.trans (h₅.ext.trans
      (h₆.ext.trans hX))))]
  simp [set_node_node, hlt, object_first_edges]

end walk

end SlowJsGc

import SlowJsGc.Snapshot.Walk
import SlowJsGc.Snapshot.Interning

/-!
# The shape of the snapshot: what every step of the dumper keeps

The writers print `dc->nodes` row by row with `node->edges.len` as each row's
edge count, then every node's edges in node order, and the header's
`node_count` and `edge_count` are `dc->nodes.len` and `dc->edges_len`. The
file is consistent when the state the walk leaves satisfies `DumpInv`: node
`i` has id `i`, `edges_len` is the number of edges the nodes hold, every
edge's `to` is the row offset of an existing node, and `obj2node` is a
one-to-one map onto the nodes that sends the dumping context to node `0`.
`DumpInv` also carries the string table (`StrTable`), so what the interning
calls promise holds at every point of a real dump.

Every function of the walk is shown to keep `DumpInv` and to extend the state
(`Extends`: no node, string or key is lost, and a node's edges only grow),
one lemma per function, each citing only the lemmas of the functions it
calls. The edge pushes need their source node to exist: the walk's parent is
always a node made before, which `dctx.parent.toNat < dc.nodes.length`
records (the root's parent `-1` reads as node `0`, the context's).
-/

set_option autoImplicit false

namespace SlowJsGc

/-- The shape of the snapshot under construction. -/
structure DumpInv (jc : Addr) (dc : JSGCDumpContext) : Prop where
  ids : ∀ i < dc.nodes.length, (dc.node i).id = i
  edges_len : dc.edges_len = (dc.nodes.map fun n => n.edges.length).sum
  to_node : ∀ i < dc.nodes.length, ∀ e ∈ (dc.node i).edges,
    ∃ j < dc.nodes.length, e.to_node = j * NODE_FIELD_COUNT
  obj2node_lt : ∀ k i, dc.obj2node k = some i → i < dc.nodes.length
  obj2node_inj : ∀ k k' i, dc.obj2node k = some i → dc.obj2node k' = some i → k = k'
  keyed : ∀ i < dc.nodes.length, ∃ k, dc.obj2node k = some i
  root : dc.obj2node (.cell jc) = some 0
  strs : StrTable dc

/-- A later state of the same dump: nodes, interned strings and node keys are
kept, and every node's edges only grow. -/
structure Extends (dc dc' : JSGCDumpContext) : Prop where
  length_le : dc.nodes.length ≤ dc'.nodes.length
  obj2node : ∀ k i, dc.obj2node k = some i → dc'.obj2node k = some i
  str2id : ∀ s i, dc.str2id s = some i → dc'.str2id s = some i
  edges : ∀ i < dc.nodes.length, (dc.node i).edges <+: (dc'.node i).edges

/-- A run of the walk from `dc` to `dc'`: it ends in a consistent state that
extends the one it started from. -/
structure DumpStep (jc : Addr) (dc dc' : JSGCDumpContext) : Prop where
  inv : DumpInv jc dc'
  ext : Extends dc dc'

/-! ## Runs compose -/

section compose

variable {jc : Addr} {dc dc' dc'' : JSGCDumpContext}

theorem Extends.refl (dc : JSGCDumpContext) : Extends dc dc :=
  ⟨le_rfl, fun _ _ h => h, fun _ _ h => h, fun _ _ => List.prefix_refl _⟩

theorem Extends.trans (h₁ : Extends dc dc') (h₂ : Extends dc' dc'') : Extends dc dc'' :=
  ⟨h₁.length_le.trans h₂.length_le, fun k i h => h₂.obj2node k i (h₁.obj2node k i h),
    fun s i h => h₂.str2id s i (h₁.str2id s i h),
    fun i hi => (h₁.edges i hi).trans (h₂.edges i (hi.trans_le h₁.length_le))⟩

theorem DumpStep.refl (hI : DumpInv jc dc) : DumpStep jc dc dc := ⟨hI, .refl dc⟩

theorem DumpStep.trans (h₁ : DumpStep jc dc dc') (h₂ : DumpStep jc dc' dc'') :
    DumpStep jc dc dc'' :=
  ⟨h₂.inv, h₁.ext.trans h₂.ext⟩

theorem DumpStep.lt (hs : DumpStep jc dc dc') {i : Nat} (hi : i < dc.nodes.length) :
    i < dc'.nodes.length :=
  hi.trans_le hs.ext.length_le

/-- Run `dc₁` to `dc₂` after `dc` to `dc₁`; the second run may use the
invariant and the extension the first one gives. -/
theorem DumpStep.bind (h₁ : DumpStep jc dc dc') (h₂ : DumpInv jc dc' → Extends dc dc' → DumpStep jc dc' dc'') :
    DumpStep jc dc dc'' :=
  h₁.trans (h₂ h₁.inv h₁.ext)

theorem DumpStep.ite {c : Prop} [Decidable c] {d₁ d₂ : JSGCDumpContext} (h₁ : c → DumpStep jc dc d₁)
    (h₂ : ¬c → DumpStep jc dc d₂) : DumpStep jc dc (if c then d₁ else d₂) := by
  split_ifs with hc
  · exact h₁ hc
  · exact h₂ hc

/-- A loop whose every turn is a run is a run. -/
theorem DumpStep.foldl {α : Type} {f : JSGCDumpContext → α → JSGCDumpContext} {l : List α}
    (hI : DumpInv jc dc) (hf : ∀ dc', DumpStep jc dc dc' → ∀ x ∈ l, DumpStep jc dc' (f dc' x)) :
    DumpStep jc dc (l.foldl f dc) :=
  List.foldlRecOn (motive := DumpStep jc dc) l f dc (.refl hI) fun dc' h x hx => h.trans (hf dc' h x hx)

end compose

/-! ## The primitive steps -/

section primitive

variable {jc : Addr} {dc : JSGCDumpContext}

private theorem map_modify_of_comp {α β : Type} (g : α → β) (f : α → α) (hf : ∀ a, g (f a) = g a) :
    ∀ (l : List α) (i : Nat), (l.modify f i).map g = l.map g
  | [], _ => by simp
  | _ :: _, 0 => by simp [hf]
  | _ :: l, i + 1 => by simp [map_modify_of_comp g f hf l i]

private theorem sum_map_modify {α : Type} (g : α → Nat) (f : α → α) (hf : ∀ a, g (f a) = g a + 1) :
    ∀ (l : List α) (i : Nat), i < l.length → ((l.modify f i).map g).sum = (l.map g).sum + 1
  | _ :: _, 0, _ => by simp [hf]; omega
  | _ :: l, i + 1, h => by
    simp [sum_map_modify g f hf l i (by simpa using h)]; omega

/-- A step that touches neither the nodes nor the keys keeps the invariant. -/
theorem DumpInv.of_eq {dc' : JSGCDumpContext} (hI : DumpInv jc dc) (hn : dc'.nodes = dc.nodes)
    (ho : dc'.obj2node = dc.obj2node) (he : dc'.edges_len = dc.edges_len) (hS : StrTable dc')
    (hs : ∀ s i, dc.str2id s = some i → dc'.str2id s = some i) : DumpStep jc dc dc' := by
  have hnode : ∀ i, dc'.node i = dc.node i := fun i => by simp [JSGCDumpContext.node, hn]
  refine ⟨⟨fun i hi => ?_, ?_, fun i hi => ?_, fun k i h => ?_, fun k k' i h h' => ?_, fun i hi => ?_,
    ?_, hS⟩, ⟨by rw [hn], by simp [ho], hs, fun i _ => by rw [hnode]⟩⟩
  · rw [hnode]; exact hI.ids i (hn ▸ hi)
  · rw [he, hn]; exact hI.edges_len
  · rw [hnode, hn]; exact hI.to_node i (hn ▸ hi)
  · rw [hn]; exact hI.obj2node_lt k i (by rwa [ho] at h)
  · rw [ho] at h h'; exact hI.obj2node_inj k k' i h h'
  · rw [ho]; exact hI.keyed i (hn ▸ hi)
  · rw [ho]; exact hI.root

theorem DumpInv.set_fault_step (hI : DumpInv jc dc) : DumpStep jc dc (set_fault dc) :=
  hI.of_eq rfl rfl rfl (hI.strs.congr rfl rfl) fun _ _ h => h

/-- The node-table part of `DumpInv`. -/
theorem DumpInv.nodeTable (hI : DumpInv jc dc) : NodeTable dc :=
  ⟨hI.ids, hI.obj2node_lt, hI.obj2node_inj, hI.keyed⟩

theorem DumpInv.node_from_gp_step (hI : DumpInv jc dc) (gp : DumpKey) :
    DumpStep jc dc (js_gcdump_node_from_gp dc gp).2 ∧
      (js_gcdump_node_from_gp dc gp).2.obj2node gp = some (js_gcdump_node_from_gp dc gp).1 := by
  cases hg : dc.obj2node gp with
  | some i => rw [js_gcdump_node_from_gp_of_some dc hg]; exact ⟨.refl hI, hg⟩
  | none =>
    obtain ⟨h1, hnodes, hobj⟩ := js_gcdump_node_from_gp_of_none dc hg
    have hT := hI.nodeTable.node_from_gp gp
    have hold : ∀ j < dc.nodes.length, (js_gcdump_node_from_gp dc gp).2.node j = dc.node j :=
      fun j hj => js_gcdump_node_from_gp_node dc hj
    have hnew : (js_gcdump_node_from_gp dc gp).2.node dc.nodes.length =
        ⟨dc.nodes.length, -2, JSGCDumpNode_TYPE_HIDDEN, 0, []⟩ := by
      simp [JSGCDumpContext.node, hnodes, List.getD_eq_getElem?_getD]
    have hne : ∀ k i, dc.obj2node k = some i → k ≠ gp := fun k i hk hkg => by simp_all
    have hel := js_gcdump_node_from_gp_edges_len dc gp
    have hstr := js_gcdump_node_from_gp_str2id dc gp
    have hstrs := js_gcdump_node_from_gp_strs dc gp
    rw [h1]
    generalize (js_gcdump_node_from_gp dc gp).2 = dc' at hnodes hobj hold hnew hel hstr hstrs hT ⊢
    have hlen : dc'.nodes.length = dc.nodes.length + 1 := by simp [hnodes]
    refine ⟨⟨⟨hT.ids, ?_, ?_, hT.obj2node_lt, hT.obj2node_inj, hT.keyed, ?_,
      hI.strs.congr hstrs hstr⟩,
      ⟨by omega, ?_, ?_, ?_⟩⟩, by simp [hobj]⟩
    · simp [hel, hnodes, hI.edges_len]
    · intro i hi e he
      rcases Nat.lt_succ_iff_lt_or_eq.mp (hlen ▸ hi) with hi | rfl
      · obtain ⟨j, hj, hje⟩ := hI.to_node i hi e (hold i hi ▸ he)
        exact ⟨j, by omega, hje⟩
      · simp [hnew] at he
    · simp [hobj, Function.update_noteq (hne _ _ hI.root), hI.root]
    · intro k i hk; simp [hobj, Function.update_noteq (hne _ _ hk), hk]
    · simp [hstr]
    · intro i hi; rw [hold i hi]

theorem DumpInv.node_from_gp_lt (hI : DumpInv jc dc) (gp : DumpKey) :
    (js_gcdump_node_from_gp dc gp).1 < (js_gcdump_node_from_gp dc gp).2.nodes.length :=
  let h := hI.node_from_gp_step gp
  h.1.inv.obj2node_lt _ _ h.2

theorem DumpInv.add_cstr_step (hI : DumpInv jc dc) (s : Bytes) :
    DumpStep jc dc (js_gcdump_add_cstr dc s).2 ∧
      (js_gcdump_add_cstr dc s).2.str2id s = some (js_gcdump_add_cstr dc s).1 := by
  refine ⟨hI.of_eq (by simp) (by simp) (by simp) (hI.strs.add_cstr s).1 ?_, ?_⟩ <;>
    unfold js_gcdump_add_cstr <;> split
  · exact fun _ _ h => h
  · next hnone => intro t i ht; simp [Function.update_noteq (by rintro rfl; simp_all : t ≠ s), ht]
  · assumption
  · simp

theorem DumpInv.set_node_step (hI : DumpInv jc dc) {i : Nat} {f : JSGCDumpNode → JSGCDumpNode}
    (hf : ∀ n, (f n).id = n.id ∧ (f n).edges = n.edges) : DumpStep jc dc (set_node dc i f) := by
  have hedges : ∀ j, ((set_node dc i f).node j).edges = (dc.node j).edges := fun j => by
    rw [set_node_node]; split_ifs <;> simp [hf]
  refine ⟨⟨?_, ?_, ?_, ?_, ?_, ?_, ?_, hI.strs.congr rfl rfl⟩,
    ⟨by simp, fun _ _ h => h, fun _ _ h => h, fun j _ => by rw [hedges]⟩⟩
  · intro j hj; rw [set_node_node]; split_ifs <;> simp [hf, hI.ids j (by simpa using hj)]
  · simp [hI.edges_len, map_modify_of_comp (fun n : JSGCDumpNode => n.edges.length) f (by simp [hf])]
  · intro j hj e he; simpa using hI.to_node j (by simpa using hj) e (by rwa [hedges] at he)
  · simpa using hI.obj2node_lt
  · exact hI.obj2node_inj
  · simpa using hI.keyed
  · exact hI.root

theorem DumpInv.push_edge_step (hI : DumpInv jc dc) {i j t : Nat} {n : Int} (hi : i < dc.nodes.length)
    (hj : j < dc.nodes.length) :
    DumpStep jc dc (push_edge dc i ⟨t, n, j * NODE_FIELD_COUNT⟩) := by
  refine ⟨⟨?_, ?_, ?_, ?_, ?_, ?_, ?_, hI.strs.congr rfl rfl⟩,
    ⟨by simp, fun _ _ h => h, fun _ _ h => h, fun k _ => ?_⟩⟩
  · intro k hk; rw [push_edge_node]; split_ifs <;> simp [hI.ids k (by simpa using hk)]
  · simp only [push_edge_edges_len, push_edge_nodes, hI.edges_len]
    rw [sum_map_modify _ _ (by simp) _ _ hi]
  · intro k hk e he
    rw [push_edge_node] at he
    split_ifs at he with hik
    · rcases List.mem_append.mp he with he | he
      · simpa using hI.to_node k (by simpa using hk) e he
      · simp at he; subst he; exact ⟨j, by simpa using hj, rfl⟩
    · simpa using hI.to_node k (by simpa using hk) e he
  · simpa using hI.obj2node_lt
  · exact hI.obj2node_inj
  · simpa using hI.keyed
  · exact hI.root
  · rw [push_edge_node]; split_ifs <;> simp

/-- Push onto node `i` an edge to node `j`, named by a string interned first. -/
theorem DumpStep.push_named {dc₁ : JSGCDumpContext} (hs : DumpStep jc dc dc₁) {i j : Nat}
    (hi : i < dc.nodes.length) (hj : j < dc₁.nodes.length) (s : Bytes) (t : Nat) :
    DumpStep jc dc (push_edge (js_gcdump_add_cstr dc₁ s).2 i
      ⟨t, (js_gcdump_add_cstr dc₁ s).1, j * NODE_FIELD_COUNT⟩) :=
  let h₂ := (hs.inv.add_cstr_step s).1
  (hs.trans h₂).trans (h₂.inv.push_edge_step (h₂.lt (hs.lt hi)) (h₂.lt hj))

theorem js_gcdump_edge_to_step (hI : DumpInv jc dc) {i : Nat} (hi : i < dc.nodes.length)
    (t : Nat) (s : Bytes) (k : DumpKey) : DumpStep jc dc (js_gcdump_edge_to dc i t s k) :=
  (hI.node_from_gp_step k).1.push_named hi (hI.node_from_gp_lt k) s t

end primitive

/-! ## The walk -/

section walk

variable (env : DumpEnv) (h : JSHeap) {jc : Addr} {dc : JSGCDumpContext}

theorem js_gcdump_proto_shape_step (hI : DumpInv jc dc) {node_i : Nat}
    (hi : node_i < dc.nodes.length) (p : JSObject) :
    DumpStep jc dc (js_gcdump_proto_shape h dc node_i p) :=
  let h₁ := js_gcdump_edge_to_step hI hi JSGCDumpEdge_TYPE_PROP (cstr "__proto__") (shape_proto_key h p)
  h₁.trans (js_gcdump_edge_to_step h₁.inv (h₁.lt hi) _ _ _)

theorem js_gcdump_typed_array_step (hI : DumpInv jc dc) {node_i : Nat}
    (hi : node_i < dc.nodes.length) (a : Addr) (p : JSObject) :
    DumpStep jc dc (js_gcdump_typed_array dc node_i a p) := by
  unfold js_gcdump_typed_array
  split_ifs
  · exact js_gcdump_edge_to_step hI hi _ _ _
  · exact .refl hI

theorem js_gcdump_code_step (hI : DumpInv jc dc) {node_i : Nat}
    (hi : node_i < dc.nodes.length) (a : Addr) (p : JSObject) :
    DumpStep jc dc (js_gcdump_code env dc node_i a p) := by
  unfold js_gcdump_code
  obtain ⟨h₁, -⟩ := hI.node_from_gp_step (code_key a p)
  split_ifs
  · have h₂ := (h₁.inv.add_cstr_step (cstr "cfunc")).1
    refine (h₁.trans (h₂.trans (h₂.inv.set_node_step (by intro; exact ⟨rfl, rfl⟩)))).push_named hi ?_ _ _
    simpa using hI.node_from_gp_lt _
  · exact h₁.push_named hi (hI.node_from_gp_lt _) _ _
  · exact .refl hI

theorem js_gcdump_name_once_step (hI : DumpInv jc dc) (node_i : Nat) (name : Bytes) :
    DumpStep jc dc (js_gcdump_name_once dc node_i name) := by
  unfold js_gcdump_name_once
  split_ifs
  · exact .bind (hI.add_cstr_step _).1 fun hI₁ _ => hI₁.set_node_step fun _ => ⟨rfl, rfl⟩
  · exact .refl hI

theorem js_gcdump_object_name_step (hI : DumpInv jc dc) (node_i : Nat) (a : Addr) :
    DumpStep jc dc (js_gcdump_object_name env h jc dc node_i a) :=
  js_gcdump_name_once_step hI node_i _

theorem js_gcdump_element_step (hI : DumpInv jc dc) {node_i : Nat}
    (hi : node_i < dc.nodes.length) (el : Nat × JSValue) :
    DumpStep jc dc (js_gcdump_element node_i dc el) :=
  have h₁ := (hI.node_from_gp_step el.2.get_ptr).1
  h₁.trans (h₁.inv.push_edge_step (h₁.lt hi) (hI.node_from_gp_lt _))

theorem js_gcdump_elements_step (hI : DumpInv jc dc) {node_i : Nat}
    (hi : node_i < dc.nodes.length) (a : Addr) :
    DumpStep jc dc (js_gcdump_elements env dc node_i a) := by
  unfold js_gcdump_elements
  split_ifs
  · exact DumpStep.foldl hI fun _ hs el _ => js_gcdump_element_step hs.inv (hs.lt hi) el
  · exact .refl hI

theorem js_gcdump_object_first_step (hI : DumpInv jc dc) {node_i : Nat}
    (hi : node_i < dc.nodes.length) (a : Addr) (p : JSObject) :
    DumpStep jc dc (js_gcdump_object_first env h jc dc node_i a p) := by
  unfold js_gcdump_object_first
  refine .bind ?_ fun hI₅ hx₅ => js_gcdump_elements_step env hI₅ (hi.trans_le hx₅.length_le) a
  refine .bind ?_ fun hI₄ _ => js_gcdump_object_name_step env h hI₄ node_i a
  refine .bind ?_ fun hI₃ hx₃ => js_gcdump_code_step env hI₃ (hi.trans_le hx₃.length_le) a p
  refine .bind ?_ fun hI₂ hx₂ => js_gcdump_typed_array_step hI₂ (hi.trans_le hx₂.length_le) a p
  exact .bind (hI.set_node_step (by intro; exact ⟨rfl, rfl⟩)) fun hI₁ hx₁ =>
    js_gcdump_proto_shape_step h hI₁ (hi.trans_le hx₁.length_le) p

theorem js_gcdump_shape_prop_step (hI : DumpInv jc dc) {node_i : Nat}
    (hi : node_i < dc.nodes.length) (a : Addr) (prs : Nat × JSShapeProperty) :
    DumpStep jc dc (js_gcdump_shape_prop env node_i a dc prs) := by
  unfold js_gcdump_shape_prop
  obtain ⟨h₁, -⟩ := hI.node_from_gp_step (.shape_prop a prs.1)
  exact h₁.trans (.bind (.bind (h₁.inv.add_cstr_step _).1 fun hI₂ _ =>
    hI₂.set_node_step (by intro; exact ⟨rfl, rfl⟩)) fun hI₃ hx₃ =>
      hI₃.push_edge_step ((h₁.lt hi).trans_le hx₃.length_le)
        ((hI.node_from_gp_lt _).trans_le hx₃.length_le))

theorem js_gcdump_shape_props_step (hI : DumpInv jc dc) {node_i : Nat}
    (hi : node_i < dc.nodes.length) (a : Addr) (sh : JSShape) :
    DumpStep jc dc (js_gcdump_shape_props env dc node_i a sh) := by
  unfold js_gcdump_shape_props
  split_ifs
  · have h₁ := hI.set_node_step (i := node_i) (f := fun n => { n with self_size := sizeof_JSShape })
      fun _ => ⟨rfl, rfl⟩
    exact h₁.trans (DumpStep.foldl h₁.inv fun _ hs _ _ =>
      js_gcdump_shape_prop_step env hs.inv (hs.lt (h₁.lt hi)) a _)
  · exact .refl hI

theorem js_gcdump_shape_step (hI : DumpInv jc dc) {node_i : Nat}
    (hi : node_i < dc.nodes.length) (a : Addr) (sh : JSShape) :
    DumpStep jc dc (js_gcdump_shape env dc node_i a sh) :=
  have h₁ := hI.set_node_step (i := node_i) (f := fun n => { n with type := JSGCDumpNode_TYPE_HIDDEN })
    fun _ => ⟨rfl, rfl⟩
  have h₂ := h₁.trans (js_gcdump_name_once_step h₁.inv node_i (cstr "shape"))
  h₂.trans (js_gcdump_shape_props_step env h₂.inv (h₂.lt hi) a sh)

theorem js_gcdump_misread_step (hI : DumpInv jc dc) (node_i t : Nat) :
    DumpStep jc dc (js_gcdump_misread dc node_i t) := by
  unfold js_gcdump_misread
  split
  · exact .ite (fun _ => hI.set_fault_step) fun _ => .refl hI
  · exact hI.set_fault_step
  · exact hI.set_fault_step
  · have h₁ := hI.set_node_step (i := node_i) (f := fun n => { n with type := JSGCDumpNode_TYPE_HIDDEN })
      fun _ => ⟨rfl, rfl⟩
    have h₂ := h₁.trans (js_gcdump_name_once_step h₁.inv node_i (cstr "shape"))
    exact h₂.trans (.ite (fun _ => h₂.inv.set_fault_step) fun _ => .refl h₂.inv)
  · exact .refl hI

theorem js_gcdump_header_step (hI : DumpInv jc dc) {node_i : Nat}
    (hi : node_i < dc.nodes.length) (a : Addr) :
    DumpStep jc dc (js_gcdump_header env h jc dc node_i a) := by
  unfold js_gcdump_header
  split
  · exact .ite (fun _ => js_gcdump_object_first_step env h hI hi a _) fun _ => .refl hI
  · split <;> first | exact .refl hI | exact hI.set_node_step fun _ => ⟨rfl, rfl⟩
  · exact hI.set_node_step fun _ => ⟨rfl, rfl⟩
  · exact js_gcdump_shape_step env hI hi a _
  · exact .refl hI
  · exact .refl hI
  · exact js_gcdump_misread_step hI node_i _

theorem js_gcdump_edge_label_step (hI : DumpInv jc dc) (dctx : JS_GCDumpFuncContext) :
    DumpStep jc dc (js_gcdump_edge_label env dc dctx).2.2 := by
  unfold js_gcdump_edge_label
  dsimp only
  split_ifs
  · exact (hI.add_cstr_step _).1
  · exact .refl hI
  · exact .refl hI
  · exact (hI.add_cstr_step _).1

theorem js_gcdump_parent_edge_step (hI : DumpInv jc dc) {node_i : Nat}
    (hi : node_i < dc.nodes.length) {dctx : JS_GCDumpFuncContext}
    (hp : dctx.parent.toNat < dc.nodes.length) :
    DumpStep jc dc (js_gcdump_parent_edge env dc node_i dctx) := by
  unfold js_gcdump_parent_edge
  split_ifs
  · have h₁ := js_gcdump_edge_label_step env hI dctx
    exact h₁.trans (h₁.inv.push_edge_step (h₁.lt hp) (h₁.lt hi))
  · exact .refl hI

theorem js_gcdump_fill_node_step (hI : DumpInv jc dc) {node_i : Nat}
    (hi : node_i < dc.nodes.length) (cell : DumpKey) (dctx : JS_GCDumpFuncContext) :
    DumpStep jc dc (js_gcdump_fill_node env h jc dc node_i cell dctx) := by
  unfold js_gcdump_fill_node
  split
  · split
    · split
      · exact .bind (hI.add_cstr_step _).1 fun hI₁ _ => hI₁.set_node_step fun _ => ⟨rfl, rfl⟩
      · exact hI.set_fault_step
    · exact hI.set_fault_step
  · split
    · exact .bind (hI.add_cstr_step _).1 fun hI₁ _ => hI₁.set_node_step fun _ => ⟨rfl, rfl⟩
    · exact hI.set_fault_step
  · split
    · exact js_gcdump_header_step env h hI hi _
    · exact js_gcdump_misread_step hI node_i _
    · exact hI.set_fault_step

/-- **`js_gcdump_process_obj` keeps the snapshot consistent**, whatever it is
handed, as long as its parent is a node. -/
theorem js_gcdump_process_obj_step (hI : DumpInv jc dc) (cell : DumpKey)
    {dctx : JS_GCDumpFuncContext} (hp : dctx.parent.toNat < dc.nodes.length) :
    DumpStep jc dc (js_gcdump_process_obj env h jc dc cell dctx) :=
  have h₁ := (hI.node_from_gp_step cell).1
  have hi := hI.node_from_gp_lt cell
  have h₂ := js_gcdump_fill_node_step env h h₁.inv hi cell dctx
  h₁.trans (h₂.trans (js_gcdump_parent_edge_step env h₂.inv (h₂.lt hi) (h₂.lt (h₁.lt hp))))

theorem JS_GCDumpValue_step (hI : DumpInv jc dc) (v : JSValue) {dctx : JS_GCDumpFuncContext}
    (hp : dctx.parent.toNat < dc.nodes.length) :
    DumpStep jc dc (JS_GCDumpValue env h jc dc v dctx) := by
  unfold JS_GCDumpValue
  split <;> first | exact js_gcdump_process_obj_step env h hI _ hp | exact .refl hI

theorem gcdump_prop_step (hI : DumpInv jc dc) {dctx : JS_GCDumpFuncContext}
    (hp : dctx.parent.toNat < dc.nodes.length) (prs : JSShapeProperty) (pr : JSProperty) :
    DumpStep jc dc (gcdump_prop env h jc dc dctx prs pr) := by
  unfold gcdump_prop
  split_ifs
  · exact .refl hI
  split
  · exact JS_GCDumpValue_step env h hI _ hp
  · dsimp only
    split <;> split <;> first
      | exact .refl hI
      | exact js_gcdump_process_obj_step env h hI _ hp
      | exact .bind (js_gcdump_process_obj_step env h hI _ (by exact hp)) fun hI₁ hx₁ =>
          js_gcdump_process_obj_step env h hI₁ _ (by exact hp.trans_le hx₁.length_le)
  · exact .ite (fun _ => js_gcdump_process_obj_step env h hI _ hp) fun _ => .refl hI
  · exact js_gcdump_process_obj_step env h hI _ hp
  · exact .refl hI

theorem JS_GCDumpNamedList_step (hI : DumpInv jc dc) {dctx : JS_GCDumpFuncContext}
    (hp : dctx.parent.toNat < dc.nodes.length) (fields : List (String × JSValue)) :
    DumpStep jc dc (JS_GCDumpNamedList env h jc dc dctx fields) :=
  DumpStep.foldl hI fun _ hs _ _ => JS_GCDumpValue_step env h hs.inv _ (by exact hs.lt hp)

theorem JS_GCDumpSynthetic_step (hI : DumpInv jc dc) {dctx : JS_GCDumpFuncContext}
    (hp : dctx.parent.toNat < dc.nodes.length) (key : DumpKey) (name : String) (vs : List JSValue) :
    DumpStep jc dc (JS_GCDumpSynthetic env h jc dc dctx key name vs) := by
  obtain ⟨h₁, -⟩ := hI.node_from_gp_step key
  have hr := hI.node_from_gp_lt key
  unfold JS_GCDumpSynthetic
  refine h₁.trans (.bind (.bind (.bind (h₁.inv.add_cstr_step _).1 fun hI₂ _ =>
    hI₂.set_node_step (by intro; exact ⟨rfl, rfl⟩)) fun hI₃ hx₃ =>
      (DumpStep.refl hI₃).push_named (h₁.lt hp |>.trans_le hx₃.length_le)
        (hr.trans_le hx₃.length_le) _ _) fun hI₄ hx₄ =>
    DumpStep.foldl hI₄ fun _ hs _ _ => JS_GCDumpValue_step env h hs.inv _ ?_)
  simpa using hs.lt (hr.trans_le hx₄.length_le)

theorem JS_Context_gcdump_step (hI : DumpInv jc dc) {dctx : JS_GCDumpFuncContext}
    (hp : dctx.parent.toNat < dc.nodes.length) (a : Addr) (ctx : JSContext) :
    DumpStep jc dc (JS_Context_gcdump env h jc dc a ctx dctx) := by
  unfold JS_Context_gcdump
  refine .bind (.bind (.bind (.bind (JS_GCDumpNamedList_step env h hI hp (context_named_head ctx))
    fun hI₁ hx₁ => JS_GCDumpSynthetic_step env h hI₁ (hp.trans_le hx₁.length_le)
      (.native_error_proto a) "native_error_proto" ctx.native_error_proto)
    fun hI₂ hx₂ => JS_GCDumpSynthetic_step env h hI₂ (hp.trans_le hx₂.length_le)
      (.class_proto a) "class_proto" ctx.class_proto)
    fun hI₃ hx₃ => JS_GCDumpNamedList_step env h hI₃ (hp.trans_le hx₃.length_le)
      (context_named_tail ctx)) fun hI₄ hx₄ => ?_
  split
  · exact js_gcdump_process_obj_step env h hI₄ _ (hp.trans_le hx₄.length_le)
  · exact .refl hI₄

/-- **`gcdump_children` keeps the snapshot consistent** for every cell. -/
theorem gcdump_children_step (hI : DumpInv jc dc) {dctx : JS_GCDumpFuncContext}
    (hp : dctx.parent.toNat < dc.nodes.length) (gp : Addr) :
    DumpStep jc dc (gcdump_children env h jc dc gp dctx) := by
  have hv : ∀ {dc : JSGCDumpContext}, DumpInv jc dc → dctx.parent.toNat < dc.nodes.length →
      ∀ l : List JSValue, DumpStep jc dc (l.foldl (fun dc v => JS_GCDumpValue env h jc dc v dctx) dc) :=
    fun hI hp _ => DumpStep.foldl hI fun _ hs _ _ => JS_GCDumpValue_step env h hs.inv _ (hs.lt hp)
  unfold gcdump_children
  split
  · exact DumpStep.foldl hI fun _ hs _ _ => gcdump_prop_step env h hs.inv (hs.lt hp) _ _
  · next b _ =>
    refine .bind (hv hI hp b.cpool) fun hI₁ hx₁ => ?_
    split
    · exact js_gcdump_process_obj_step env h hI₁ _ (hp.trans_le hx₁.length_le)
    · exact .refl hI₁
  · exact .ite (fun _ => JS_GCDumpValue_step env h hI _ hp) fun _ => hI.set_fault_step
  · refine .bind (.bind (.ite (fun _ => hv hI hp _) fun _ => .refl hI) fun hI₁ hx₁ =>
      JS_GCDumpValue_step env h hI₁ _ (hp.trans_le hx₁.length_le)) fun hI₂ hx₂ =>
      JS_GCDumpValue_step env h hI₂ _ (hp.trans_le hx₂.length_le)
  · split
    · exact js_gcdump_process_obj_step env h hI _ hp
    · exact .refl hI
  · exact JS_Context_gcdump_step env h hI hp _ _
  · exact hI.set_fault_step

theorem js_gcdump_visit_step (hI : DumpInv jc dc) (gp : Addr) :
    DumpStep jc dc (js_gcdump_visit env h jc dc gp) := by
  obtain ⟨h₁, -⟩ := hI.node_from_gp_step (.cell gp)
  have hr := hI.node_from_gp_lt (.cell gp)
  have h0 : (0 : Nat) < (js_gcdump_node_from_gp dc (.cell gp)).2.nodes.length :=
    h₁.inv.obj2node_lt _ _ h₁.inv.root
  unfold js_gcdump_visit
  exact h₁.trans (.bind (js_gcdump_process_obj_step env h h₁.inv _ (by exact h0)) fun hI₂ hx₂ =>
    gcdump_children_step env h hI₂ (by simpa using hr.trans_le hx₂.length_le) gp)

end walk

/-! ## The whole walk -/

/-- The context's node is made first, on an empty state. -/
theorem DumpInv.start (jc : Addr) :
    DumpInv jc (js_gcdump_node_from_gp js_gcdump_new_ctx (.cell jc)).2 := by
  have hT := NodeTable.new_ctx.node_from_gp (.cell jc)
  refine ⟨hT.ids, rfl, ?_, hT.obj2node_lt, hT.obj2node_inj, hT.keyed, ?_,
    StrTable.new_ctx.congr (by simp) (by simp)⟩ <;>
    simp [js_gcdump_node_from_gp, js_gcdump_new_ctx, JSGCDumpContext.node]

/-- **The snapshot `__js_gcdump_objects` builds is consistent**, for every
heap and every order of `gc_obj_list`. -/
theorem __js_gcdump_objects_inv (env : DumpEnv) (h : JSHeap) (jc : Addr) (gc_obj_list : List Addr) :
    DumpInv jc (__js_gcdump_objects env h jc gc_obj_list) :=
  (DumpStep.foldl (DumpInv.start jc) fun _ hs gp _ => js_gcdump_visit_step env h hs.inv gp).inv

end SlowJsGc

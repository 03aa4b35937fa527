import SlowJsGc.Snapshot.ObjectEdges

/-!
# The snapshot against the mark pass

`gcdump_children` walks the children `mark_children` hands the mark function,
but `js_gcdump_process_obj` writes an edge from the parent only when the walk
gives it a label (`plen`) or a property slot (`prs`). Only the object branch
and `JS_Context_gcdump` give one: the constant pool and realm of a function
bytecode, the value of a var-ref, the values of an async function and the
prototype of a shape are walked with neither, so their nodes get no edge from
the parent's (`gcdump_children_cpool_unlabelled`). Nor does a class's
`gc_mark` hook have a `gc_dump` counterpart that `gc.c` fills in.

For an object whose class has no `gc_mark` hook the two passes agree: every
cell `mark_children` hands on, the dumping context apart, has an edge into
its node from the object's, the shape by the `shape` edge and a slot's cell by
the slot's edge. This follows from `__js_gcdump_objects_object_edges`, since
every cell `mark_prop` marks is a key `gcdump_prop` hands on.

The same theorem names the edge of a slot whose atom is a tagged integer:
`js_gcdump_process_obj` stores the atom itself in the `int` field
`name_or_idx`, so the `element` edge of the integer key `n` is named
`n - 2^31`, a negative number, and not `n` (`__js_gcdump_objects_int_key_edge`).
-/

set_option autoImplicit false

namespace SlowJsGc

/-- Every cell a slot marks is a key the dump walks for it. -/
theorem mark_prop_subset_keys (h : JSHeap) (prs : JSShapeProperty) (pr : JSProperty) {c : Addr}
    (hc : c ∈ h.mark_prop prs pr) : DumpKey.cell c ∈ gcdump_prop_keys h prs pr := by
  obtain ⟨atom, flags⟩ := prs
  by_cases hn : atom = JS_ATOM_NULL
  · simp [JSHeap.mark_prop, hn] at hc
  cases flags <;> cases pr <;> simp [JSHeap.mark_prop, gcdump_prop_keys, hn] at hc ⊢
  all_goals first | exact hc | (rename_i v; cases v <;> simp_all [JS_MarkValue, JS_GCDumpValue_keys])

/-- `mark_children` of an object with no `gc_mark` hook: the shape and the
cells its slots mark. -/
theorem mark_children_of_object {h : JSHeap} {g : Addr} {p : JSObject} (hp : h.cell g = .object p)
    (hcls : p.class_id = JS_CLASS_OBJECT ∨ (h.class_array p.class_id).gc_mark = none) :
    h.mark_children g =
      .ok (p.shape :: ((h.get_shape_prop p.shape).zip p.prop).flatMap fun x => h.mark_prop x.1 x.2) := by
  simp only [JSHeap.mark_children, hp, JSHeap.mark_object]
  rcases hcls with hc | hc <;> simp [hc]

/-- **An object's children all get an edge from its node.** When the walk
reads every listed cell as what it is, it ends without a fault, and for a
listed object whose class has no `gc_mark` hook, every listed cell that
`mark_children` hands on, other than the dumping context, has an edge into
its node from the object's node. -/
theorem mark_children_edge_of_object (env : DumpEnv) (h : JSHeap) (jc : Addr)
    {gc_obj_list : List Addr} (hnd : gc_obj_list.Nodup) (hsa : h.StringsApart)
    (hok : ∀ gp ∈ gc_obj_list, CellDumpOk env h gp) {g : Addr}
    (hg : g ∈ gc_obj_list) {p : JSObject} (hp : h.cell g = .object p)
    (hcls : p.class_id = JS_CLASS_OBJECT ∨ (h.class_array p.class_id).gc_mark = none)
    {cs : List Addr} (hm : h.mark_children g = .ok cs) {c : Addr} (hc : c ∈ cs)
    (hcl : c ∈ gc_obj_list) (hcj : c ≠ jc) :
    (__js_gcdump_objects env h jc gc_obj_list).fault = false ∧
    (__js_gcdump_objects env h jc gc_obj_list).obj2node (.cell c) =
        some ((__js_gcdump_objects env h jc gc_obj_list).nid (.cell c)) ∧
      ∃ e ∈ ((__js_gcdump_objects env h jc gc_obj_list).node
          ((__js_gcdump_objects env h jc gc_obj_list).nid (.cell g))).edges,
        e.to_node = (__js_gcdump_objects env h jc gc_obj_list).nid (.cell c) * NODE_FIELD_COUNT := by
  rw [__js_gcdump_objects_object_edges env h hnd hsa hg hp]
  rw [mark_children_of_object hp hcls] at hm
  cases hm
  obtain ⟨j, hj⟩ := __js_gcdump_objects_listed env h jc hcl
  have hI := __js_gcdump_objects_inv env h jc gc_obj_list
  have hj0 : j ≠ 0 := fun h0 => hcj (DumpKey.cell.inj (hI.obj2node_inj _ _ _ (h0 ▸ hj) hI.root))
  refine ⟨__js_gcdump_objects_fault env h jc hok, by rw [nid_of_obj2node hj, hj], ?_⟩
  rcases List.mem_cons.1 hc with rfl | hc
  · exact ⟨_, List.mem_append_left _ (List.mem_cons_of_mem _ (List.mem_cons_self _ _)), rfl⟩
  · obtain ⟨x, hx, hcx⟩ := List.mem_flatMap.1 hc
    -- The slot's edge into the cell's node, which is not the context's.
    obtain ⟨e, he, hto⟩ : ∃ e ∈ slot_edges env x.1 (.cell c) (__js_gcdump_objects env h jc gc_obj_list),
        e.to_node = (__js_gcdump_objects env h jc gc_obj_list).nid (.cell c) * NODE_FIELD_COUNT := by
      simp only [slot_edges, nid_of_obj2node hj, if_neg hj0]
      exact ⟨_, List.mem_singleton_self _, by split <;> rfl⟩
    exact ⟨e, List.mem_append_right _ (List.mem_flatMap.2 ⟨x, hx, List.mem_flatMap.2
      ⟨_, mark_prop_subset_keys h x.1 x.2 hcx, he⟩⟩), hto⟩

theorem mark_children_edge_of_object_self :
    selfHeap.mark_children 2 = .ok [3, 2] ∧
      (__js_gcdump_objects plainEnv selfHeap 1 [1, 2, 3]).fault = false ∧
      (__js_gcdump_objects plainEnv selfHeap 1 [1, 2, 3]).obj2node (.cell 2) =
        some ((__js_gcdump_objects plainEnv selfHeap 1 [1, 2, 3]).nid (.cell 2)) ∧
      ∃ e ∈ ((__js_gcdump_objects plainEnv selfHeap 1 [1, 2, 3]).node
          ((__js_gcdump_objects plainEnv selfHeap 1 [1, 2, 3]).nid (.cell 2))).edges,
        e.to_node = (__js_gcdump_objects plainEnv selfHeap 1 [1, 2, 3]).nid (.cell 2) * NODE_FIELD_COUNT :=
  ⟨rfl, mark_children_edge_of_object plainEnv selfHeap 1 (by decide) selfHeap_stringsApart
    selfHeap_cellDumpOk (show 2 ∈ [1, 2, 3] by decide)
    (show selfHeap.cell 2 = .object ⟨1, 3, [.value (.object 2)], [], .other⟩ from rfl) (.inl rfl)
    (show selfHeap.mark_children 2 = .ok [3, 2] from rfl) (show 2 ∈ [3, 2] by decide) (by decide)
    (by decide)⟩

/-- A runtime with its context at `1`, a function bytecode at `2` whose
constant pool holds the object at `3`, and that object's shape at `4`. -/
def cpoolHeap : JSHeap where
  cell a := if a = 1 then .context emptyContext
    else if a = 2 then .function_bytecode ⟨[.object 3], none, 0⟩
    else if a = 3 then .object ⟨1, 4, [], [], .other⟩
    else if a = 4 then .shape ⟨false, none, []⟩ else .other
  class_array _ := ⟨none, none⟩

/-- **A constant pool gets no edges.** `mark_children` hands the bytecode's
constant to the mark function, but the dump's node of the bytecode has no
edge at all: the pool is walked with neither a label nor a slot. -/
theorem gcdump_children_cpool_unlabelled :
    cpoolHeap.mark_children 2 = .ok [3] ∧
      ((__js_gcdump_objects plainEnv cpoolHeap 1 [1, 2, 3, 4]).node
        ((__js_gcdump_objects plainEnv cpoolHeap 1 [1, 2, 3, 4]).nid (.cell 2))).edges = [] :=
  ⟨rfl, by decide⟩

/-! ## The names of integer-keyed slot edges -/

/-- A tagged-integer atom stored in an `int` is negative: bit 31 is the
tag, and the sign bit of the `int`. -/
theorem atom_to_int_neg {atom : Nat} (ht : __JS_AtomIsTaggedInt atom) : atom_to_int atom < 0 := by
  simp only [__JS_AtomIsTaggedInt, decide_eq_true_eq] at ht
  simp only [atom_to_int, __JS_AtomIsTaggedInt, ht, decide_True, if_true]
  omega

/-- **An integer-keyed slot's edge is named by the raw atom.** For a listed
object, a slot whose atom is a tagged integer and a cell the slot hands on
that is not the dumping context's node, the object's node carries an
`element` edge into the cell's node named `atom_to_int` of the atom, which
is negative. -/
theorem __js_gcdump_objects_int_key_edge (env : DumpEnv) (h : JSHeap) (jc : Addr)
    {gc_obj_list : List Addr} (hnd : gc_obj_list.Nodup) (hsa : h.StringsApart) {a : Addr}
    (ha : a ∈ gc_obj_list) {q : JSObject} (hq : h.cell a = .object q)
    {x : JSShapeProperty × JSProperty} (hx : x ∈ (h.get_shape_prop q.shape).zip q.prop)
    (ht : __JS_AtomIsTaggedInt x.1.atom) {k : DumpKey} (hk : k ∈ gcdump_prop_keys h x.1 x.2)
    (hk0 : (__js_gcdump_objects env h jc gc_obj_list).nid k ≠ 0) :
    ⟨JSGCDumpEdge_TYPE_ELEM, atom_to_int x.1.atom,
        (__js_gcdump_objects env h jc gc_obj_list).nid k * NODE_FIELD_COUNT⟩ ∈
      ((__js_gcdump_objects env h jc gc_obj_list).node
        ((__js_gcdump_objects env h jc gc_obj_list).nid (.cell a))).edges ∧
      atom_to_int x.1.atom < 0 := by
  rw [__js_gcdump_objects_object_edges env h hnd hsa ha hq]
  refine ⟨List.mem_append_right _ (List.mem_flatMap.2 ⟨x, hx, List.mem_flatMap.2 ⟨k, hk, ?_⟩⟩),
    atom_to_int_neg ht⟩
  simp [slot_edges, hk0, ht]

/-- A runtime with its context at `1` and an object at `2` whose only slot,
the integer key `0` (the atom `JS_ATOM_TAG_INT | 0`), holds the object
itself; its shape is at `3`. -/
def intKeyHeap : JSHeap where
  cell a := if a = 1 then .context emptyContext
    else if a = 2 then .object ⟨1, 3, [.value (.object 2)], [], .other⟩
    else if a = 3 then .shape ⟨false, none, [⟨2147483648, .normal⟩]⟩ else .other
  class_array _ := ⟨none, none⟩

/-- **The key `0` is written as `-2147483648`.** The object's edge to itself
through its integer key `0` is an `element` edge named `-2147483648`. -/
theorem __js_gcdump_objects_int_key_raw_atom :
    ⟨JSGCDumpEdge_TYPE_ELEM, -2147483648,
        (__js_gcdump_objects plainEnv intKeyHeap 1 [1, 2, 3]).nid (.cell 2) * NODE_FIELD_COUNT⟩ ∈
      ((__js_gcdump_objects plainEnv intKeyHeap 1 [1, 2, 3]).node
        ((__js_gcdump_objects plainEnv intKeyHeap 1 [1, 2, 3]).nid (.cell 2))).edges := by
  have hsa : intKeyHeap.StringsApart := by
    intro b p s q hb hs
    simp only [intKeyHeap] at hb
    split_ifs at hb
    cases hb
    simp at hs
  exact (__js_gcdump_objects_int_key_edge plainEnv intKeyHeap 1 (by decide) hsa
    (show 2 ∈ [1, 2, 3] by decide) (show intKeyHeap.cell 2 = _ from rfl)
    (x := (⟨2147483648, .normal⟩, .value (.object 2))) (by decide) (by decide)
    (k := .cell 2) (by decide) (by decide)).1

end SlowJsGc

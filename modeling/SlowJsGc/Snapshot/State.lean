import SlowJsGc.Cell

/-!
# The snapshot under construction: `JSGCDumpContext`

`__js_gcdump_objects` builds the heap snapshot in a `JSGCDumpContext`: the
array of nodes (each with its own array of outgoing edges), the array of
interned strings, two hash maps (`str2id` from bytes to string index,
`obj2node` from pointer to node index) and the running edge count
`edges_len`. Everything in the snapshot file is read off this state by the
writers, so the dumper is modelled as functions from one such state to the
next; this file holds the state and the primitive steps every dumping
function is made of.

The hash maps are keyed by pointer value. What the dumper hashes is not
always a cell: a prototype may be `NULL`, the context's `native_error_proto`
and `class_proto` arrays are hashed by their address, a shape's property
entries by theirs, a C function by its code pointer, an integer by the
address of the stack copy `JS_GCDumpValue` makes of it, and an array element
that is not a pointer by its value's bits. `DumpKey` keeps these apart, as
distinct objects in memory are; the one overlap C allows and the model does
not is an integer whose bits happen to equal a heap address.

`JSGCDumpNode` and `JSGCDumpEdge` are declared outside `gc.c`; the
initializer `{dc->nodes.len, 0, JSGCDumpNode_TYPE_HIDDEN, 0, ...}` is read as
`id`, `name`, `type`, `self_size`, and the type codes follow the order of the
`node_types` and `edge_types` lists the writer prints. Allocation is assumed
to succeed, so `kid_array_push` and the interning calls never return `-1`.

The state has one field the C structure does not: `fault`, set where the
dumper aborts or reads memory as a structure it is not (`set_fault`). What
`gc.c` does after such a step depends on memory the model does not hold, so
the results about the snapshot are stated for runs that leave it `false`.
-/

set_option autoImplicit false

namespace SlowJsGc

/-- A string as the snapshot holds it: its bytes. -/
abbrev Bytes := List UInt8

/-- The bytes of a C string literal, its characters encoded in UTF-8. -/
def cstr (s : String) : Bytes := s.data.flatMap String.utf8EncodeChar

/-- `NODE_FIELD_COUNT`: the fields of a node row. -/
def NODE_FIELD_COUNT : Nat := 5

/-- `JSGCDumpNode_TYPE_HIDDEN`. -/
def JSGCDumpNode_TYPE_HIDDEN : Nat := 0
/-- `JSGCDumpNode_TYPE_ARRAY`. -/
def JSGCDumpNode_TYPE_ARRAY : Nat := 1
/-- `JSGCDumpNode_TYPE_STRING`. -/
def JSGCDumpNode_TYPE_STRING : Nat := 2
/-- `JSGCDumpNode_TYPE_OBJECT`. -/
def JSGCDumpNode_TYPE_OBJECT : Nat := 3
/-- `JSGCDumpNode_TYPE_CODE`. -/
def JSGCDumpNode_TYPE_CODE : Nat := 4
/-- `JSGCDumpNode_TYPE_CLOSURE`. -/
def JSGCDumpNode_TYPE_CLOSURE : Nat := 5
/-- `JSGCDumpNode_TYPE_HEAP_NUMBER`. -/
def JSGCDumpNode_TYPE_HEAP_NUMBER : Nat := 7
/-- `JSGCDumpNode_TYPE_NATIVE`. -/
def JSGCDumpNode_TYPE_NATIVE : Nat := 8
/-- `JSGCDumpNode_TYPE_SYNTHETIC`. -/
def JSGCDumpNode_TYPE_SYNTHETIC : Nat := 9

/-- `JSGCDumpEdge_TYPE_ELEM`. -/
def JSGCDumpEdge_TYPE_ELEM : Nat := 1
/-- `JSGCDumpEdge_TYPE_PROP`. -/
def JSGCDumpEdge_TYPE_PROP : Nat := 2
/-- `JSGCDumpEdge_TYPE_INTERNAL`. -/
def JSGCDumpEdge_TYPE_INTERNAL : Nat := 3

/-- What `js_gcdump_node_from_gp` hashes. -/
inductive DumpKey where
  /-- The header of a cell, or a string. -/
  | cell (a : Addr)
  /-- `ctx->native_error_proto`. -/
  | native_error_proto (ctx : Addr)
  /-- `ctx->class_proto`. -/
  | class_proto (ctx : Addr)
  /-- `&sh->prop[i]`. -/
  | shape_prop (sh : Addr) (i : Nat)
  /-- A C function's code pointer. -/
  | code (f : Nat)
  /-- The first word of an object's class data when that is not a cell (a
  bound function's record, a typed array that is not one). -/
  | data (p : Addr)
  /-- `&val` in `JS_GCDumpValue`. -/
  | stack
  /-- A word that is not a heap address; `NULL` is `word 0`. -/
  | word (w : Nat)
  deriving DecidableEq, Repr

/-- `JSGCDumpEdge`; `to_node` is the field `to`, named as the writer's
`edge_fields` name it. -/
structure JSGCDumpEdge where
  type : Nat
  name_or_idx : Int
  to_node : Nat
  deriving DecidableEq, Repr

/-- `JSGCDumpNode`. -/
structure JSGCDumpNode where
  id : Nat
  name : Int
  type : Nat
  self_size : Nat
  edges : List JSGCDumpEdge
  deriving DecidableEq, Repr, Inhabited

/-- `JSGCDumpContext`, and whether the dumper has gone wrong. -/
structure JSGCDumpContext where
  nodes : List JSGCDumpNode
  strs : List Bytes
  str2id : Bytes → Option Nat
  obj2node : DumpKey → Option Nat
  edges_len : Nat
  fault : Bool

/-- Node `i` of the state, as `kid_array_el` reads it. -/
def JSGCDumpContext.node (dc : JSGCDumpContext) (i : Nat) : JSGCDumpNode :=
  dc.nodes.getD i default

/-- `js_gcdump_new_ctx`: everything empty (`js_mallocz_rt`). -/
def js_gcdump_new_ctx : JSGCDumpContext :=
  ⟨[], [], fun _ => none, fun _ => none, 0, false⟩

section ops

variable (dc : JSGCDumpContext)

/-- `js_gcdump_node_from_gp`: the node of a key, pushed with the placeholder
name `-2` the first time the key is seen. -/
def js_gcdump_node_from_gp (gp : DumpKey) : Nat × JSGCDumpContext :=
  match dc.obj2node gp with
  | some i => (i, dc)
  | none =>
    (dc.nodes.length, { dc with
      nodes := dc.nodes ++ [⟨dc.nodes.length, -2, JSGCDumpNode_TYPE_HIDDEN, 0, []⟩]
      obj2node := Function.update dc.obj2node gp (some dc.nodes.length) })

/-- `js_gcdump_add_cstr`: the index of a string, interned the first time. -/
def js_gcdump_add_cstr (s : Bytes) : Nat × JSGCDumpContext :=
  match dc.str2id s with
  | some i => (i, dc)
  | none =>
    (dc.strs.length, { dc with
      strs := dc.strs ++ [s]
      str2id := Function.update dc.str2id s (some dc.strs.length) })

/-- Rewrite node `i` in place (`kid_array_el` and an assignment). -/
def set_node (i : Nat) (f : JSGCDumpNode → JSGCDumpNode) : JSGCDumpContext :=
  { dc with nodes := dc.nodes.modify f i }

/-- `kid_array_push(&node->edges, &edge); dc->edges_len++` on node `i`. -/
def push_edge (i : Nat) (e : JSGCDumpEdge) : JSGCDumpContext :=
  { dc with
    nodes := dc.nodes.modify (fun n => { n with edges := n.edges ++ [e] }) i
    edges_len := dc.edges_len + 1 }

/-- The dumper aborts, or reads memory as what it is not. -/
def set_fault : JSGCDumpContext := { dc with fault := true }

end ops

/-! ## The steps and what they keep -/

section lemmas

variable (dc : JSGCDumpContext)

theorem js_gcdump_node_from_gp_of_some {gp : DumpKey} {i : Nat} (h : dc.obj2node gp = some i) :
    js_gcdump_node_from_gp dc gp = (i, dc) := by
  simp [js_gcdump_node_from_gp, h]

@[simp] theorem js_gcdump_node_from_gp_strs (gp : DumpKey) :
    (js_gcdump_node_from_gp dc gp).2.strs = dc.strs := by
  unfold js_gcdump_node_from_gp; split <;> rfl

@[simp] theorem js_gcdump_node_from_gp_str2id (gp : DumpKey) :
    (js_gcdump_node_from_gp dc gp).2.str2id = dc.str2id := by
  unfold js_gcdump_node_from_gp; split <;> rfl

@[simp] theorem js_gcdump_node_from_gp_edges_len (gp : DumpKey) :
    (js_gcdump_node_from_gp dc gp).2.edges_len = dc.edges_len := by
  unfold js_gcdump_node_from_gp; split <;> rfl

@[simp] theorem js_gcdump_add_cstr_nodes (s : Bytes) :
    (js_gcdump_add_cstr dc s).2.nodes = dc.nodes := by
  unfold js_gcdump_add_cstr; split <;> rfl

@[simp] theorem js_gcdump_add_cstr_obj2node (s : Bytes) :
    (js_gcdump_add_cstr dc s).2.obj2node = dc.obj2node := by
  unfold js_gcdump_add_cstr; split <;> rfl

@[simp] theorem js_gcdump_node_from_gp_fault (gp : DumpKey) :
    (js_gcdump_node_from_gp dc gp).2.fault = dc.fault := by
  unfold js_gcdump_node_from_gp; split <;> rfl

@[simp] theorem js_gcdump_add_cstr_edges_len (s : Bytes) :
    (js_gcdump_add_cstr dc s).2.edges_len = dc.edges_len := by
  unfold js_gcdump_add_cstr; split <;> rfl

@[simp] theorem js_gcdump_add_cstr_fault (s : Bytes) :
    (js_gcdump_add_cstr dc s).2.fault = dc.fault := by
  unfold js_gcdump_add_cstr; split <;> rfl

@[simp] theorem set_node_strs (i : Nat) (f : JSGCDumpNode → JSGCDumpNode) :
    (set_node dc i f).strs = dc.strs := rfl

@[simp] theorem set_node_str2id (i : Nat) (f : JSGCDumpNode → JSGCDumpNode) :
    (set_node dc i f).str2id = dc.str2id := rfl

@[simp] theorem set_node_obj2node (i : Nat) (f : JSGCDumpNode → JSGCDumpNode) :
    (set_node dc i f).obj2node = dc.obj2node := rfl

@[simp] theorem set_node_edges_len (i : Nat) (f : JSGCDumpNode → JSGCDumpNode) :
    (set_node dc i f).edges_len = dc.edges_len := rfl

@[simp] theorem set_node_nodes (i : Nat) (f : JSGCDumpNode → JSGCDumpNode) :
    (set_node dc i f).nodes = dc.nodes.modify f i := rfl

@[simp] theorem set_node_fault (i : Nat) (f : JSGCDumpNode → JSGCDumpNode) :
    (set_node dc i f).fault = dc.fault := rfl

@[simp] theorem push_edge_strs (i : Nat) (e : JSGCDumpEdge) : (push_edge dc i e).strs = dc.strs := rfl

@[simp] theorem push_edge_str2id (i : Nat) (e : JSGCDumpEdge) :
    (push_edge dc i e).str2id = dc.str2id := rfl

@[simp] theorem push_edge_obj2node (i : Nat) (e : JSGCDumpEdge) :
    (push_edge dc i e).obj2node = dc.obj2node := rfl

@[simp] theorem push_edge_edges_len (i : Nat) (e : JSGCDumpEdge) :
    (push_edge dc i e).edges_len = dc.edges_len + 1 := rfl

@[simp] theorem push_edge_nodes (i : Nat) (e : JSGCDumpEdge) :
    (push_edge dc i e).nodes = dc.nodes.modify (fun n => { n with edges := n.edges ++ [e] }) i := rfl

@[simp] theorem push_edge_fault (i : Nat) (e : JSGCDumpEdge) :
    (push_edge dc i e).fault = dc.fault := rfl

@[simp] theorem set_fault_nodes : (set_fault dc).nodes = dc.nodes := rfl

@[simp] theorem set_fault_strs : (set_fault dc).strs = dc.strs := rfl

@[simp] theorem set_fault_str2id : (set_fault dc).str2id = dc.str2id := rfl

@[simp] theorem set_fault_obj2node : (set_fault dc).obj2node = dc.obj2node := rfl

@[simp] theorem set_fault_edges_len : (set_fault dc).edges_len = dc.edges_len := rfl

@[simp] theorem set_fault_fault : (set_fault dc).fault = true := rfl

@[simp] theorem set_fault_node (i : Nat) : (set_fault dc).node i = dc.node i := rfl

theorem js_gcdump_node_from_gp_of_none {gp : DumpKey} (h : dc.obj2node gp = none) :
    (js_gcdump_node_from_gp dc gp).1 = dc.nodes.length ∧
      (js_gcdump_node_from_gp dc gp).2.nodes =
        dc.nodes ++ [⟨dc.nodes.length, -2, JSGCDumpNode_TYPE_HIDDEN, 0, []⟩] ∧
      (js_gcdump_node_from_gp dc gp).2.obj2node =
        Function.update dc.obj2node gp (some dc.nodes.length) := by
  simp [js_gcdump_node_from_gp, h]

@[simp] theorem js_gcdump_node_from_gp_obj2node_self (gp : DumpKey) :
    (js_gcdump_node_from_gp dc gp).2.obj2node gp = some (js_gcdump_node_from_gp dc gp).1 := by
  unfold js_gcdump_node_from_gp; split
  · assumption
  · simp

@[simp] theorem js_gcdump_add_cstr_str2id_self (s : Bytes) :
    (js_gcdump_add_cstr dc s).2.str2id s = some (js_gcdump_add_cstr dc s).1 := by
  unfold js_gcdump_add_cstr; split
  · assumption
  · simp

theorem node_append_lt {l : List JSGCDumpNode} {j : Nat} (n : JSGCDumpNode) (hj : j < l.length) :
    (l ++ [n]).getD j default = l.getD j default := by
  simp [List.getD_eq_getElem?_getD, List.getElem?_append_left hj]

theorem js_gcdump_node_from_gp_node {gp : DumpKey} {j : Nat} (hj : j < dc.nodes.length) :
    (js_gcdump_node_from_gp dc gp).2.node j = dc.node j := by
  unfold js_gcdump_node_from_gp
  split
  · rfl
  · exact node_append_lt _ hj

@[simp] theorem js_gcdump_add_cstr_node (s : Bytes) (j : Nat) :
    (js_gcdump_add_cstr dc s).2.node j = dc.node j := by
  simp [JSGCDumpContext.node]

theorem node_modify (f : JSGCDumpNode → JSGCDumpNode) (i j : Nat) :
    (dc.nodes.modify f i).getD j default =
      if i = j ∧ j < dc.nodes.length then f (dc.node j) else dc.node j := by
  simp only [JSGCDumpContext.node, List.getD_eq_getElem?_getD, List.getElem?_modify]
  by_cases hij : i = j <;> by_cases hj : j < dc.nodes.length <;>
    simp [hij, hj, List.getElem?_eq_none_iff.mpr, Nat.le_of_not_lt]

theorem set_node_node (i : Nat) (f : JSGCDumpNode → JSGCDumpNode) (j : Nat) :
    (set_node dc i f).node j = if i = j ∧ j < dc.nodes.length then f (dc.node j) else dc.node j :=
  node_modify dc f i j

theorem push_edge_node (i : Nat) (e : JSGCDumpEdge) (j : Nat) :
    (push_edge dc i e).node j = if i = j ∧ j < dc.nodes.length
      then { dc.node j with edges := (dc.node j).edges ++ [e] } else dc.node j :=
  node_modify dc _ i j

end lemmas

end SlowJsGc

import SlowJsGc.Snapshot.State

/-!
# The walk: `__js_gcdump_objects`

`__js_gcdump_objects` makes the dumping context node `0`, then visits every
cell of `gc_obj_list`: `js_gcdump_process_obj` on the cell with no parent,
then `gcdump_children`, which hands every child to `js_gcdump_process_obj`
with the cell's node as parent. `js_gcdump_process_obj` finds or makes the
child's node, fills in its type, name and size by the kind of what it is
given (an object the first time it is seen also gets its `__proto__`, `shape`
and, where they apply, `typed_array`, `code` and element edges), and adds an
edge from the parent when the parent gave a label or a property slot is being
walked. A context is walked by `JS_Context_gcdump`, which hangs the
`native_error_proto` and `class_proto` arrays off synthetic nodes. An active
async function's frame goes to `async_func_gcdump`, which `gc.c` does not
hold; it is taken to walk the values `async_func_mark` marks.

The walk function is always `js_gcdump_process_obj`, so it is called directly
here. The class `gc_dump` hooks `gc.c` defines are all empty, and a module
definition is dumped by the empty `js_gcdump_module_def`; the hooks of the
classes defined elsewhere are not modelled, so an object's class data adds
nothing to its children here. What the walk asks of the rest of the engine
(atom and string contents, `JS_IsArray`, `JS_IsFunction`, the elements
`JS_GetPropertyInt64` returns, the name `js_gcdump_get_node_name` picks, the
size of a bytecode) is the `DumpEnv` it runs in.

`js_gcdump_process_obj` decides how to read what it is handed by the tag of
the slot being walked, and with no slot (or a getter-setter or auto-init
slot) reads it as a GC header. Three of its readings are of memory as what it
is not. A var-ref slot's tag word is the word the slot held before it became
a var-ref (`DumpEnv.varref_slot_tag`); read as a string or an integer tag, it
makes the var-ref be read as a `JSString` or a `JSValue`. A string walked
outside a slot (a constant, a var-ref's value, a context field) is read as a
header, whose `gc_obj_type` bits are the low bits of the string's length; and
an integer walked outside a slot has the address of its stack copy read as a
header, whose `gc_obj_type` bits the integer does not set
(`DumpEnv.stack_obj_type`). Where such a reading goes on to use the memory,
and where `gcdump_children` aborts, the state's `fault` is set.
-/

set_option autoImplicit false

namespace SlowJsGc

/-- The tags `js_gcdump_process_obj` tells apart: `JS_TAG_STRING`,
`JS_TAG_INT`, and every other (`JS_TAG_FIRST` when it reads none). -/
inductive JSTag where
  | STRING
  | INT
  | other
  deriving DecidableEq, Repr

/-- `JS_VALUE_GET_TAG`. -/
def JSValue.tag : JSValue → JSTag
  | .string _ => .STRING
  | .int _ => .INT
  | _ => .other

/-- What the dumper asks of the rest of the engine, none of which `gc.c`
holds, and the words of memory it reads that the model does not hold. -/
structure DumpEnv where
  /-- `JS_AtomToString` and `JS_ToCStringLen`: the bytes of an atom. -/
  atom_str : Nat → Bytes
  /-- `JS_ToCStringLen` on a string. -/
  string_bytes : Addr → Bytes
  /-- `((JSString *)cell)->len`. -/
  string_len : Addr → Nat
  /-- The string `js_gcdump_get_node_name` interns for an object. -/
  node_name : Addr → Bytes
  /-- `JS_IsArray`. -/
  is_array : Addr → Bool
  /-- `JS_IsFunction`. -/
  is_function : Addr → Bool
  /-- `JS_GetPropertyInt64(obj, i)` for every `i` below `js_get_length64`. -/
  array_elements : Addr → List JSValue
  /-- The `self_size` of a function bytecode, from its lengths. -/
  bytecode_size : Addr → Nat
  /-- `JS_VALUE_GET_TAG(pr->u.value)` of the `JS_PROP_VARREF` slot holding
  the var-ref `r`: setting `u.var_ref` writes the first word of the union
  only, so the tag word is what the slot held before. -/
  varref_slot_tag : Addr → JSTag
  /-- The `gc_obj_type` bits of an integer's stack copy read as a header:
  the four bits after the `int32` in the value's union, which the integer
  does not set. -/
  stack_obj_type : Nat

/-- `JS_GCDumpFuncContext`: the parent node, the label (`p` with `plen`: a
name when positive, the index `p.i` when `-1`, none when `0`) and the
property slot being walked. -/
structure JS_GCDumpFuncContext where
  parent : Int
  p_n : Bytes
  p_i : Int
  plen : Int
  prs : Option JSShapeProperty
  pr : Option JSProperty
  deriving DecidableEq, Repr

/-- The context `__js_gcdump_objects` starts every cell with. -/
def JS_GCDumpFuncContext.root : JS_GCDumpFuncContext := ⟨-1, [], 0, 0, none, none⟩

/-- `JS_VALUE_GET_PTR`: the pointer word of a value. -/
def JSValue.get_ptr : JSValue → DumpKey
  | .object p | .function_bytecode p | .string p | .symbol p => .cell p
  | .int n => .word (n % 4294967296).toNat
  | .float64 bits => .word bits.toNat
  | .undefined => .word 0

/-- `JS_CLASS_ARRAY`. -/
def JS_CLASS_ARRAY : Nat := 2
/-- `JS_CLASS_ARGUMENTS`. -/
def JS_CLASS_ARGUMENTS : Nat := 8
/-- `JS_CLASS_C_FUNCTION`. -/
def JS_CLASS_C_FUNCTION : Nat := 12
/-- `JS_CLASS_UINT8C_ARRAY`, the first typed array class. -/
def JS_CLASS_UINT8C_ARRAY : Nat := 21
/-- `JS_CLASS_DATAVIEW`, the last class of the typed array range. -/
def JS_CLASS_DATAVIEW : Nat := 30

/-- `sizeof(JSObject)`. The sizes are the target's; the dumper only writes
them, and relies on `sizeof(JSObject)` being positive. -/
def sizeof_JSObject : Nat := 64
/-- `sizeof(JSValue)`. -/
def sizeof_JSValue : Nat := 16
/-- `sizeof(double)`, and of a C function pointer. -/
def sizeof_double : Nat := 8
/-- `sizeof(JSShape)`. -/
def sizeof_JSShape : Nat := 64
/-- `sizeof(JSShapeProperty)`. -/
def sizeof_JSShapeProperty : Nat := 8

/-- `js_gcdump_obj_size`: the object, and the elements of a fast array. -/
def js_gcdump_obj_size (p : JSObject) : Nat :=
  sizeof_JSObject +
    match p.u with
    | .array values =>
      if p.class_id = JS_CLASS_ARRAY ∨ p.class_id = JS_CLASS_ARGUMENTS
      then values.length * sizeof_JSValue else 0
    | _ => 0

/-- `__JS_AtomIsTaggedInt`: bit 31 of the atom. -/
def __JS_AtomIsTaggedInt (atom : Nat) : Bool := 2147483648 ≤ atom % 4294967296

/-- An atom stored in the `int` field `name_or_idx`. -/
def atom_to_int (atom : Nat) : Int :=
  if __JS_AtomIsTaggedInt atom then (atom % 4294967296 : Nat) - 4294967296
  else (atom % 4294967296 : Nat)

/-- The tag `js_gcdump_process_obj` reads off the slot being walked,
`JS_VALUE_GET_TAG(dctx.pr->u.value)`, for every slot but a getter-setter pair
or an auto-init slot; with none of these, `JS_TAG_FIRST`. -/
def JS_GCDumpFuncContext.slot_tag (env : DumpEnv) (dctx : JS_GCDumpFuncContext) : JSTag :=
  match dctx.prs, dctx.pr with
  | some prs, some pr =>
    if prs.flags = .getset ∨ prs.flags = .autoinit then .other else
    match pr with
    | .value v => v.tag
    | .var_ref r => env.varref_slot_tag r
    | _ => .other
  | _, _ => .other

/-- The `gc_obj_type` values of the kinds, in the order of the enum. -/
def JSGCObjectTypeEnum.ofBits : Nat → Option JSGCObjectTypeEnum
  | 0 => some .JS_OBJECT
  | 1 => some .FUNCTION_BYTECODE
  | 2 => some .SHAPE
  | 3 => some .VAR_REF
  | 4 => some .ASYNC_FUNCTION
  | 5 => some .JS_CONTEXT
  | _ => none

section walk

variable (env : DumpEnv) (h : JSHeap) (jc : Addr)

/-- `js_gcdump_add_atom`. -/
def js_gcdump_add_atom (dc : JSGCDumpContext) (atom : Nat) : Nat × JSGCDumpContext :=
  js_gcdump_add_cstr dc (env.atom_str atom)

/-- The dumping context's slots the object branch compares against:
`dc->jc->class_proto[JS_CLASS_ARRAY]` and `dc->jc->global_obj`. -/
def dump_ctx_slot (f : JSContext → JSValue) : DumpKey :=
  match h.cell jc with
  | .context ctx => (f ctx).get_ptr
  | _ => .word 0

/-- `objp->shape->proto`, `NULL` when absent. -/
def shape_proto_key (p : JSObject) : DumpKey :=
  match h.cell p.shape with
  | .shape sh => (sh.proto.map DumpKey.cell).getD (.word 0)
  | _ => .word 0

/-- The node of a function's code: a C function's code pointer
`u.cfunc.c_function`, else `u.func.function_bytecode`. -/
def code_key (a : Addr) (p : JSObject) : DumpKey :=
  if p.class_id = JS_CLASS_C_FUNCTION then
    match p.u with
    | .cfunc _ f => .code f
    | _ => .data a
  else
    match p.u with
    | .func _ b _ => (b.map DumpKey.cell).getD (.word 0)
    | _ => .data a

/-- `objp->u.typed_array->buffer`. -/
def typed_array_key (a : Addr) (p : JSObject) : DumpKey :=
  match p.u with
  | .typed_array b => .cell b
  | _ => .data a

/-- Find the node of `k`, intern the name `s`, push an edge of type `t` from
node `i` to it, and count it: the stanza every mandatory edge repeats. -/
def js_gcdump_edge_to (dc : JSGCDumpContext) (i t : Nat) (s : Bytes) (k : DumpKey) :
    JSGCDumpContext :=
  let r := js_gcdump_node_from_gp dc k
  let n := js_gcdump_add_cstr r.2 s
  push_edge n.2 i ⟨t, n.1, r.1 * NODE_FIELD_COUNT⟩

/-- The `__proto__` and `shape` edges of an object's first visit. -/
def js_gcdump_proto_shape (dc : JSGCDumpContext) (node_i : Nat) (p : JSObject) :
    JSGCDumpContext :=
  let dc := js_gcdump_edge_to dc node_i JSGCDumpEdge_TYPE_PROP (cstr "__proto__") (shape_proto_key h p)
  js_gcdump_edge_to dc node_i JSGCDumpEdge_TYPE_INTERNAL (cstr "shape") (.cell p.shape)

/-- The `typed_array` edge of a typed array; the edge keeps the type the
`shape` edge set. -/
def js_gcdump_typed_array (dc : JSGCDumpContext) (node_i : Nat) (a : Addr) (p : JSObject) :
    JSGCDumpContext :=
  if JS_CLASS_UINT8C_ARRAY ≤ p.class_id ∧ p.class_id ≤ JS_CLASS_DATAVIEW then
    js_gcdump_edge_to dc node_i JSGCDumpEdge_TYPE_INTERNAL (cstr "typed_array") (typed_array_key a p)
  else dc

/-- The `code` edge of a function, with the `native` node of a C function. -/
def js_gcdump_code (dc : JSGCDumpContext) (node_i : Nat) (a : Addr) (p : JSObject) :
    JSGCDumpContext :=
  if env.is_function a then
    let r := js_gcdump_node_from_gp dc (code_key a p)
    let dc := if p.class_id = JS_CLASS_C_FUNCTION then
        let s := js_gcdump_add_cstr r.2 (cstr "cfunc")
        set_node s.2 r.1 fun n =>
          { n with name := s.1, type := JSGCDumpNode_TYPE_NATIVE, self_size := sizeof_double }
      else r.2
    let s := js_gcdump_add_cstr dc (cstr "code")
    push_edge s.2 node_i ⟨JSGCDumpEdge_TYPE_INTERNAL, s.1, r.1 * NODE_FIELD_COUNT⟩
  else dc

/-- `if (node->name == -2) node->name = ...`: name a node still holding the
placeholder. -/
def js_gcdump_name_once (dc : JSGCDumpContext) (node_i : Nat) (name : Bytes) : JSGCDumpContext :=
  if (dc.node node_i).name = -2 then
    let s := js_gcdump_add_cstr dc name
    set_node s.2 node_i fun n => { n with name := s.1 }
  else dc

/-- The name of an object node still holding the placeholder: `global` for
the global object, else what `js_gcdump_get_node_name` picks. -/
def js_gcdump_object_name (dc : JSGCDumpContext) (node_i : Nat) (a : Addr) : JSGCDumpContext :=
  js_gcdump_name_once dc node_i
    (if dump_ctx_slot h jc JSContext.global_obj = .cell a then cstr "global" else env.node_name a)

/-- The `element` edge from an array's node to the node of its element
`el.1`, made for the element's pointer word; the `int64_t` index is stored
in the `int` field `name_or_idx`. -/
def js_gcdump_element (node_i : Nat) (dc : JSGCDumpContext) (el : Nat × JSValue) :
    JSGCDumpContext :=
  let r := js_gcdump_node_from_gp dc el.2.get_ptr
  push_edge r.2 node_i ⟨JSGCDumpEdge_TYPE_ELEM, int32_wrap el.1, r.1 * NODE_FIELD_COUNT⟩

/-- One `element` edge per element of an array node. -/
def js_gcdump_elements (dc : JSGCDumpContext) (node_i : Nat) (a : Addr) : JSGCDumpContext :=
  if (dc.node node_i).type = JSGCDumpNode_TYPE_ARRAY then
    (env.array_elements a).enum.foldl (js_gcdump_element node_i) dc
  else dc

/-- The type of an object's node: an array unless it is `Array.prototype`,
a closure for a function, else an object. -/
def js_gcdump_object_type (a : Addr) : Nat :=
  if env.is_array a ∧ dump_ctx_slot h jc (fun ctx => ctx.class_proto.getD JS_CLASS_ARRAY .undefined)
      ≠ .cell a then JSGCDumpNode_TYPE_ARRAY
  else if env.is_function a then JSGCDumpNode_TYPE_CLOSURE else JSGCDumpNode_TYPE_OBJECT

/-- The first visit of an object (`!node->self_size`): type, size, the
mandatory edges, the name, the elements. -/
def js_gcdump_object_first (dc : JSGCDumpContext) (node_i : Nat) (a : Addr) (p : JSObject) :
    JSGCDumpContext :=
  let dc := set_node dc node_i fun n =>
    { n with type := js_gcdump_object_type env h jc a, self_size := js_gcdump_obj_size p }
  let dc := js_gcdump_proto_shape h dc node_i p
  let dc := js_gcdump_typed_array dc node_i a p
  let dc := js_gcdump_code env dc node_i a p
  let dc := js_gcdump_object_name env h jc dc node_i a
  js_gcdump_elements env dc node_i a

/-- The synthetic node of a hashed shape's property `prs.1`, and the
`element` edge to it. -/
def js_gcdump_shape_prop (node_i : Nat) (a : Addr) (dc : JSGCDumpContext)
    (prs : Nat × JSShapeProperty) : JSGCDumpContext :=
  let r := js_gcdump_node_from_gp dc (.shape_prop a prs.1)
  let s := js_gcdump_add_atom env r.2 prs.2.atom
  let dc := set_node s.2 r.1 fun n =>
    { n with type := JSGCDumpNode_TYPE_HIDDEN, name := s.1, self_size := sizeof_JSShapeProperty }
  push_edge dc node_i ⟨JSGCDumpEdge_TYPE_ELEM, prs.1, r.1 * NODE_FIELD_COUNT⟩

/-- A hashed shape seen the first time: its size and one node per property. -/
def js_gcdump_shape_props (dc : JSGCDumpContext) (node_i : Nat) (a : Addr) (sh : JSShape) :
    JSGCDumpContext :=
  if (dc.node node_i).self_size = 0 ∧ sh.is_hashed then
    let dc := set_node dc node_i fun n => { n with self_size := sizeof_JSShape }
    sh.prop.enum.foldl (js_gcdump_shape_prop env node_i a) dc
  else dc

/-- The shape branch: `hidden`, named `shape`, and the properties of a hashed
shape seen the first time. -/
def js_gcdump_shape (dc : JSGCDumpContext) (node_i : Nat) (a : Addr) (sh : JSShape) :
    JSGCDumpContext :=
  let dc := set_node dc node_i fun n => { n with type := JSGCDumpNode_TYPE_HIDDEN }
  let dc := js_gcdump_name_once dc node_i (cstr "shape")
  js_gcdump_shape_props env dc node_i a sh

/-- The switch on `gc_obj_type` of `js_gcdump_process_obj` over memory that
holds no GC cell, whose bits where a header keeps `gc_obj_type` read `t`. The
object branch of a node not yet sized, the bytecode and var-ref branches, and
the shape branch of a node not yet sized go on to read the memory as that
structure; every other value takes the default branch. -/
def js_gcdump_misread (dc : JSGCDumpContext) (node_i : Nat) (t : Nat) : JSGCDumpContext :=
  match JSGCObjectTypeEnum.ofBits t with
  | some .JS_OBJECT => if (dc.node node_i).self_size = 0 then set_fault dc else dc
  | some .FUNCTION_BYTECODE | some .VAR_REF => set_fault dc
  | some .SHAPE =>
    let dc := set_node dc node_i fun n => { n with type := JSGCDumpNode_TYPE_HIDDEN }
    let dc := js_gcdump_name_once dc node_i (cstr "shape")
    if (dc.node node_i).self_size = 0 then set_fault dc else dc
  | _ => dc

/-- The `else` branch of `js_gcdump_process_obj`: the cell read as a GC
header. A string is read as one too: the low four bits of its length sit
where a header keeps `gc_obj_type`. -/
def js_gcdump_header (dc : JSGCDumpContext) (node_i : Nat) (a : Addr) : JSGCDumpContext :=
  match h.cell a with
  | .object p =>
    if (dc.node node_i).self_size = 0 then js_gcdump_object_first env h jc dc node_i a p else dc
  | .var_ref r =>
    match r.value with
    | .string _ => set_node dc node_i fun n => { n with type := JSGCDumpNode_TYPE_STRING }
    | .int _ | .float64 _ =>
      set_node dc node_i fun n => { n with type := JSGCDumpNode_TYPE_HEAP_NUMBER }
    | _ => dc
  | .function_bytecode _ =>
    set_node dc node_i fun n =>
      { n with type := JSGCDumpNode_TYPE_CODE, self_size := env.bytecode_size a }
  | .shape sh => js_gcdump_shape env dc node_i a sh
  | .async_function _ | .context _ => dc
  | .other => js_gcdump_misread dc node_i (env.string_len a % 16)

/-- The type and name of the edge from the parent: the label's name when
`plen` is positive, its index `p.i` when negative, else the slot's atom (an
`element` edge for an integer atom). -/
def js_gcdump_edge_label (dc : JSGCDumpContext) (dctx : JS_GCDumpFuncContext) :
    Nat × Int × JSGCDumpContext :=
  if dctx.plen ≠ 0 then
    if 0 < dctx.plen then
      let s := js_gcdump_add_cstr dc dctx.p_n
      (JSGCDumpEdge_TYPE_PROP, s.1, s.2)
    else (JSGCDumpEdge_TYPE_ELEM, dctx.p_i, dc)
  else
    let atom := (dctx.prs.map JSShapeProperty.atom).getD JS_ATOM_NULL
    if __JS_AtomIsTaggedInt atom then (JSGCDumpEdge_TYPE_ELEM, atom_to_int atom, dc)
    else
      let s := js_gcdump_add_atom env dc atom
      (JSGCDumpEdge_TYPE_PROP, s.1, s.2)

/-- The edge from the parent, when there is a parent, the node is not the
root and there is a label or a slot. -/
def js_gcdump_parent_edge (dc : JSGCDumpContext) (node_i : Nat) (dctx : JS_GCDumpFuncContext) :
    JSGCDumpContext :=
  if 0 ≤ dctx.parent ∧ node_i ≠ 0 ∧ (dctx.plen ≠ 0 ∨ dctx.prs.isSome) then
    let e := js_gcdump_edge_label env dc dctx
    push_edge e.2.2 dctx.parent.toNat ⟨e.1, e.2.1, node_i * NODE_FIELD_COUNT⟩
  else dc

/-- The part of `js_gcdump_process_obj` that fills the node in by the tag of
the slot: a string's bytes and length, an integer's decimal, else what it is
handed read as a GC header. The string branch reads the cell as a `JSString`
and the integer branch reads it as a `JSValue`: a var-ref, handed with its
slot's stale tag word, and a string pointer to a GC cell are misread. -/
def js_gcdump_fill_node (dc : JSGCDumpContext) (node_i : Nat) (cell : DumpKey)
    (dctx : JS_GCDumpFuncContext) : JSGCDumpContext :=
  match dctx.slot_tag env with
  | .STRING =>
    match dctx.pr, cell with
    | some (.value (.string _)), .cell s =>
      match h.cell s with
      | .other =>
        let t := js_gcdump_add_cstr dc (env.string_bytes s)
        set_node t.2 node_i fun n =>
          { n with type := JSGCDumpNode_TYPE_STRING, name := t.1, self_size := env.string_len s }
      | _ => set_fault dc
    | _, _ => set_fault dc
  | .INT =>
    match dctx.pr, cell with
    | some (.value (.int n)), .stack =>
      let t := js_gcdump_add_cstr dc (cstr (toString n))
      set_node t.2 node_i fun m =>
        { m with type := JSGCDumpNode_TYPE_STRING, name := t.1, self_size := sizeof_double }
    | _, _ => set_fault dc
  | .other =>
    match cell with
    | .cell a => js_gcdump_header env h jc dc node_i a
    | .stack => js_gcdump_misread dc node_i (env.stack_obj_type % 16)
    | _ => set_fault dc

/-- `js_gcdump_process_obj`, the walk function. -/
def js_gcdump_process_obj (dc : JSGCDumpContext) (cell : DumpKey) (dctx : JS_GCDumpFuncContext) :
    JSGCDumpContext :=
  let r := js_gcdump_node_from_gp dc cell
  let dc := js_gcdump_fill_node env h jc r.2 r.1 cell dctx
  js_gcdump_parent_edge env dc r.1 dctx

/-- `JS_GCDumpValue`: objects, bytecode and strings by their pointer, an
integer by the address of its stack copy. -/
def JS_GCDumpValue (dc : JSGCDumpContext) (v : JSValue) (dctx : JS_GCDumpFuncContext) :
    JSGCDumpContext :=
  match v with
  | .object p | .function_bytecode p | .string p => js_gcdump_process_obj env h jc dc (.cell p) dctx
  | .int _ => js_gcdump_process_obj env h jc dc .stack dctx
  | _ => dc

/-- One slot of `gcdump_children` for an object, skipped when deleted. -/
def gcdump_prop (dc : JSGCDumpContext) (dctx : JS_GCDumpFuncContext)
    (prs : JSShapeProperty) (pr : JSProperty) : JSGCDumpContext :=
  let dctx := { dctx with prs := some prs, pr := some pr }
  if prs.atom = JS_ATOM_NULL then dc else
  match prs.flags, pr with
  | .normal, .value v => JS_GCDumpValue env h jc dc v dctx
  | .getset, .getset getter setter =>
    let dc := match getter with
      | some g => js_gcdump_process_obj env h jc dc (.cell g) dctx
      | none => dc
    match setter with
    | some s => js_gcdump_process_obj env h jc dc (.cell s) dctx
    | none => dc
  | .varref, .var_ref r =>
    if h.is_detached r then js_gcdump_process_obj env h jc dc (.cell r) dctx else dc
  | .autoinit, .init realm => js_gcdump_process_obj env h jc dc (.cell realm) dctx
  | _, _ => dc

/-- A named slot of `JS_Context_gcdump`: `dctx.p.n` and its length. -/
def JS_GCDumpNamed (dc : JSGCDumpContext) (dctx : JS_GCDumpFuncContext) (name : String)
    (v : JSValue) : JSGCDumpContext :=
  JS_GCDumpValue env h jc dc v { dctx with p_n := cstr name, plen := (cstr name).length }

/-- A synthetic node for an array of the context: named `Array`, of type
`synthetic`, with an `internal` edge from the context and one `element` edge
per entry. -/
def JS_GCDumpSynthetic (dc : JSGCDumpContext) (dctx : JS_GCDumpFuncContext) (key : DumpKey)
    (name : String) (vs : List JSValue) : JSGCDumpContext :=
  let r := js_gcdump_node_from_gp dc key
  let s := js_gcdump_add_cstr r.2 (cstr "Array")
  let dc := set_node s.2 r.1 fun n => { n with name := s.1, type := JSGCDumpNode_TYPE_SYNTHETIC }
  let t := js_gcdump_add_cstr dc (cstr name)
  let dc := push_edge t.2 dctx.parent.toNat
    ⟨JSGCDumpEdge_TYPE_INTERNAL, t.1, r.1 * NODE_FIELD_COUNT⟩
  vs.enum.foldl (fun dc v =>
    JS_GCDumpValue env h jc dc v.2 { dctx with parent := r.1, plen := -1, p_i := v.1 }) dc

/-- The named fields `JS_Context_gcdump` walks before the two arrays, in the
order it walks them. -/
def context_named_head (ctx : JSContext) : List (String × JSValue) :=
  [("global_obj", ctx.global_obj), ("global_var_obj", ctx.global_var_obj),
    ("throw_type_error", ctx.throw_type_error), ("eval_obj", ctx.eval_obj),
    ("array_proto_values", ctx.array_proto_values)]

/-- The named fields `JS_Context_gcdump` walks after the two arrays. -/
def context_named_tail (ctx : JSContext) : List (String × JSValue) :=
  [("iterator_proto", ctx.iterator_proto), ("async_iterator_proto", ctx.async_iterator_proto),
    ("promise_ctor", ctx.promise_ctor), ("array_ctor", ctx.array_ctor),
    ("regexp_ctor", ctx.regexp_ctor), ("function_ctor", ctx.function_ctor),
    ("function_proto", ctx.function_proto)]

/-- The named fields of a list, one `JS_GCDumpValue` each. -/
def JS_GCDumpNamedList (dc : JSGCDumpContext) (dctx : JS_GCDumpFuncContext)
    (fields : List (String × JSValue)) : JSGCDumpContext :=
  fields.foldl (fun dc x => JS_GCDumpNamed env h jc dc dctx x.1 x.2) dc

/-- `JS_Context_gcdump`. The loaded modules go to the empty
`js_gcdump_module_def`. -/
def JS_Context_gcdump (dc : JSGCDumpContext) (a : Addr) (ctx : JSContext)
    (dctx : JS_GCDumpFuncContext) : JSGCDumpContext :=
  let dc := JS_GCDumpNamedList env h jc dc dctx (context_named_head ctx)
  let dc := JS_GCDumpSynthetic env h jc dc dctx (.native_error_proto a) "native_error_proto"
    ctx.native_error_proto
  let dc := JS_GCDumpSynthetic env h jc dc dctx (.class_proto a) "class_proto" ctx.class_proto
  let dc := JS_GCDumpNamedList env h jc dc dctx (context_named_tail ctx)
  match ctx.array_shape with
  | some sh => js_gcdump_process_obj env h jc dc (.cell sh)
      { dctx with p_n := cstr "array_shape", plen := (cstr "array_shape").length }
  | none => dc

/-- `gcdump_children`, with `js_gcdump_process_obj` as the walk function; the
assertion on a var-ref and the `abort()` on a cell of no kind set the fault. -/
def gcdump_children (dc : JSGCDumpContext) (gp : Addr) (dctx : JS_GCDumpFuncContext) :
    JSGCDumpContext :=
  match h.cell gp with
  | .object p =>
    ((h.get_shape_prop p.shape).zip p.prop).foldl
      (fun dc x => gcdump_prop env h jc dc dctx x.1 x.2) dc
  | .function_bytecode b =>
    let dc := b.cpool.foldl (fun dc v => JS_GCDumpValue env h jc dc v dctx) dc
    match b.realm with
    | some realm => js_gcdump_process_obj env h jc dc (.cell realm) dctx
    | none => dc
  | .var_ref r => if r.is_detached then JS_GCDumpValue env h jc dc r.value dctx else set_fault dc
  | .async_function s =>
    let dc := if s.is_active then s.frame.foldl (fun dc v => JS_GCDumpValue env h jc dc v dctx) dc
      else dc
    let dc := JS_GCDumpValue env h jc dc s.resolving_funcs.1 dctx
    JS_GCDumpValue env h jc dc s.resolving_funcs.2 dctx
  | .shape sh =>
    match sh.proto with
    | some q => js_gcdump_process_obj env h jc dc (.cell q) dctx
    | none => dc
  | .context ctx => JS_Context_gcdump env h jc dc gp ctx dctx
  | .other => set_fault dc

/-- One turn of the loop of `__js_gcdump_objects`. -/
def js_gcdump_visit (dc : JSGCDumpContext) (gp : Addr) : JSGCDumpContext :=
  let r := js_gcdump_node_from_gp dc (.cell gp)
  let dc := js_gcdump_process_obj env h jc r.2 (.cell gp) .root
  gcdump_children env h jc dc gp { JS_GCDumpFuncContext.root with parent := r.1 }

/-- `__js_gcdump_objects(ctx)` up to the writing: the context's node first,
then every cell of `gc_obj_list` in order. -/
def __js_gcdump_objects (gc_obj_list : List Addr) : JSGCDumpContext :=
  gc_obj_list.foldl (js_gcdump_visit env h jc) (js_gcdump_node_from_gp js_gcdump_new_ctx (.cell jc)).2

end walk

/-- A context with no modules, no prototypes and no array shape. -/
def emptyContext : JSContext where
  loaded_modules := []
  global_obj := .undefined
  global_var_obj := .undefined
  throw_type_error := .undefined
  eval_obj := .undefined
  array_proto_values := .undefined
  native_error_proto := []
  class_proto := []
  iterator_proto := .undefined
  async_iterator_proto := .undefined
  promise_ctor := .undefined
  array_ctor := .undefined
  regexp_ctor := .undefined
  function_ctor := .undefined
  function_proto := .undefined
  array_shape := none

/-- A runtime whose only GC cell is its context, at `1`. -/
def contextHeap : JSHeap where
  cell a := if a = 1 then .context emptyContext else .other
  class_array _ := ⟨none, none⟩

/-- An engine that names every object `Object`. -/
def plainEnv : DumpEnv where
  atom_str _ := []
  string_bytes _ := []
  string_len _ := 0
  node_name _ := cstr "Object"
  is_array _ := false
  is_function _ := false
  array_elements _ := []
  bytecode_size _ := 0
  varref_slot_tag _ := .other
  stack_obj_type := 0

end SlowJsGc

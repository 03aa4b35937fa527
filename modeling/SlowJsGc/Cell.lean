import SlowJsGc.Runtime

/-!
# The cells behind the graph: `mark_children` and the free paths

The contents of the GC cells as `gc.c` reads them, and the two traversals the
collector rests on. `mark_children(rt, gp, mark_func)` hands `mark_func` one
header per strong reference of the cell; the cell's free path (`free_object`
with the class finalizer, `free_function_bytecode`, `free_var_ref`) drops
those references again. The collector's accounting only balances when the two
agree, kind by kind and class by class, which is what `free_releases_marked`
states for the cells whose both paths `gc.c` holds.

Values are modelled by their tag and, for a counted value, the address it
points at. A free path's releases are recorded as `JSRef`s, one per call of
`JS_FreeValueRT`, `free_var_ref`, `JS_FreeContext` or `js_free_shape`; the GC
cells among them are the objects and bytecode of released values, the
contexts and shapes, and the var-refs that are detached (a var-ref still on
its frame is linked on the frame's list, not on `gc_obj_list`).

The class hooks come from the runtime's class table, which lives outside
`gc.c`; it is the field `class_array` of the heap. So does `free_property`,
which `free_object` calls for every slot: it is modelled from the spec's
teardown, slot by slot by its type tag. One union of the C code, the slot
`JSProperty.u`, is read by the shape's flags; a slot whose member disagrees
with its flags is not one the runtime builds, and both traversals read
nothing from it.

The weak references are where the two traversals part: `free_object` runs
`reset_weak_ref`, which releases the value of every `WeakMap` record keyed by
the object, while `mark_children` leaves that value to the map.
`free_object_weak_ref` is such an object.

`JSHeap.gc_graph` is the collector's `GcGraph` of a heap: the kind of every
cell, what `mark_children` hands on, and what the cell's release drops. The
releases of a shape, a context and an async function are outside `gc.c`
and are modelled from the spec's teardown: each drops its children. The
graph of a heap whose non-value cells point at cells of the right kind is
`WellKinded` (`gc_graph_wellKinded`), and that of a heap whose objects are
paired as `FreeDefined` asks, with no weak keys, releases what it marks
(`gc_graph_releasesChildren`): these are the two hypotheses of the collector
theorems.
-/

set_option autoImplicit false

namespace SlowJsGc

/-! ## Values, slots and cells -/

/-- A `JSValue` as `JS_MarkValue` and `JS_FreeValueRT` read it: the tag, and
for a counted value the address of what it points at. `symbol` stands for
every counted value that is not a GC cell and not a string (symbols, big
numbers); `float64` is a double, by its bits; `undefined` stands for every
value without a count that is not a number. -/
inductive JSValue where
  | object (p : Addr)
  | function_bytecode (b : Addr)
  | string (s : Addr)
  | symbol (s : Addr)
  | int (n : Int)
  | float64 (bits : UInt64)
  | undefined
  deriving DecidableEq, Repr

/-- `JS_MarkValue`: a value hands its cell to the mark function when it is
tagged `JS_TAG_OBJECT` or `JS_TAG_FUNCTION_BYTECODE`. -/
def JS_MarkValue : JSValue → List Addr
  | .object p => [p]
  | .function_bytecode b => [b]
  | _ => []

/-- `prs->flags & JS_PROP_TMASK`: what a property slot holds. -/
inductive JSPropType where
  | normal
  | getset
  | varref
  | autoinit
  deriving DecidableEq, Repr

/-- `JS_ATOM_NULL`, the atom of a deleted property. -/
def JS_ATOM_NULL : Nat := 0

/-- `JSShapeProperty`: the atom and flags of one property of a shape. -/
structure JSShapeProperty where
  atom : Nat
  flags : JSPropType
  deriving DecidableEq, Repr

/-- The union `JSProperty.u` of an object's property slot. -/
inductive JSProperty where
  | value (v : JSValue)
  | getset (getter setter : Option Addr)
  | var_ref (r : Addr)
  | init (realm : Addr)
  deriving DecidableEq, Repr

/-- `JSVarRef`: a closure variable; `value` is `*pvalue` once detached. -/
structure JSVarRef where
  is_detached : Bool
  value : JSValue
  deriving DecidableEq, Repr

/-- `JSShape`: the prototype and the property table. -/
structure JSShape where
  is_hashed : Bool
  proto : Option Addr
  prop : List JSShapeProperty
  deriving DecidableEq, Repr

/-- `JSBoundFunction`. -/
structure JSBoundFunction where
  func_obj : JSValue
  this_val : JSValue
  argv : List JSValue
  deriving DecidableEq, Repr

/-- The union `JSObject.u`, for the classes whose hooks `gc.c` holds, and
`other` for the data of every other class. -/
inductive JSObjectU where
  /-- `u.array`: the first `count` values. -/
  | array (values : List JSValue)
  | object_data (v : JSValue)
  /-- `u.cfunc`: the realm, if any, and the C function's code pointer. -/
  | cfunc (realm : Option Addr) (c_function : Nat)
  /-- `u.func`: home object, bytecode and the closure's var-ref array. -/
  | func (home_object : Option Addr) (function_bytecode : Option Addr)
      (var_refs : Option (List (Option Addr)))
  | bound_function (bf : JSBoundFunction)
  | for_in_iterator (obj : JSValue)
  /-- `u.typed_array`: the array buffer object. -/
  | typed_array (buffer : Addr)
  | other
  deriving DecidableEq, Repr

/-- `JSObject`. `first_weak_ref` lists the values of the `WeakMap` and
`WeakSet` records whose key is this object. -/
structure JSObject where
  class_id : Nat
  shape : Addr
  prop : List JSProperty
  first_weak_ref : List JSValue
  u : JSObjectU
  deriving DecidableEq, Repr

/-- `JSFunctionBytecode`: the constant pool, the realm and the number of
closure variables. -/
structure JSFunctionBytecode where
  cpool : List JSValue
  realm : Option Addr
  closure_var_count : Nat
  deriving DecidableEq, Repr

/-- `JSAsyncFunctionData`. `frame` is what `async_func_mark` hands on for an
active frame. -/
structure JSAsyncFunctionData where
  is_active : Bool
  frame : List JSValue
  resolving_funcs : JSValue × JSValue
  deriving DecidableEq, Repr

/-- `JSExportTypeEnum`. -/
inductive JSExportTypeEnum where
  | LOCAL
  | INDIRECT
  deriving DecidableEq, Repr

/-- `JSExportEntry`: a local export holds its var-ref. -/
structure JSExportEntry where
  export_type : JSExportTypeEnum
  var_ref : Option Addr
  deriving DecidableEq, Repr

/-- `JSModuleDef`, with the fields `js_mark_module_def` reads. -/
structure JSModuleDef where
  export_entries : List JSExportEntry
  module_ns : JSValue
  func_obj : JSValue
  eval_exception : JSValue
  meta_obj : JSValue
  deriving DecidableEq, Repr

/-- `JSContext`, with the fields `JS_MarkContext` reads. `native_error_proto`
has `JS_NATIVE_ERROR_COUNT` entries and `class_proto` one per class. -/
structure JSContext where
  loaded_modules : List JSModuleDef
  global_obj : JSValue
  global_var_obj : JSValue
  throw_type_error : JSValue
  eval_obj : JSValue
  array_proto_values : JSValue
  native_error_proto : List JSValue
  class_proto : List JSValue
  iterator_proto : JSValue
  async_iterator_proto : JSValue
  promise_ctor : JSValue
  array_ctor : JSValue
  regexp_ctor : JSValue
  function_ctor : JSValue
  function_proto : JSValue
  array_shape : Option Addr
  deriving DecidableEq, Repr

/-- What an address holds: a GC cell of one of the six kinds, or anything
else (a string, an atom, nothing). -/
inductive JSCell where
  | object (p : JSObject)
  | function_bytecode (b : JSFunctionBytecode)
  | var_ref (r : JSVarRef)
  | async_function (s : JSAsyncFunctionData)
  | shape (sh : JSShape)
  | context (ctx : JSContext)
  | other
  deriving DecidableEq, Repr

/-- The class hooks `gc.c` defines, each a finalizer and a `gc_mark`. -/
inductive JSClassHook where
  | array
  | object_data
  | c_function
  | bytecode_function
  | bound_function
  | for_in_iterator
  deriving DecidableEq, Repr

/-- An entry of `rt->class_array`, with the hooks the collector calls. -/
structure JSClass where
  finalizer : Option JSClassHook
  gc_mark : Option JSClassHook
  deriving DecidableEq, Repr

/-- A reference a free path drops: `JS_FreeValueRT` on a value,
`free_var_ref`, `JS_FreeContext`, or `js_free_shape`. -/
inductive JSRef where
  | value (v : JSValue)
  | var_ref (r : Addr)
  | context (c : Addr)
  | shape (sh : Addr)
  deriving DecidableEq, Repr

/-- `JS_CLASS_OBJECT`, the class of plain objects. The class enumeration is
not part of `gc.c`; only this entry is compared against. -/
def JS_CLASS_OBJECT : Nat := 1

/-- The cells and the runtime's class table. -/
structure JSHeap where
  cell : Addr → JSCell
  class_array : Nat → JSClass

namespace JSHeap

variable (h : JSHeap)

/-- `var_ref->is_detached`. -/
def is_detached (r : Addr) : Bool :=
  match h.cell r with
  | .var_ref v => v.is_detached
  | _ => false

/-- `get_shape_prop(sh)`, the `prop_count` entries of a shape. -/
def get_shape_prop (sh : Addr) : List JSShapeProperty :=
  match h.cell sh with
  | .shape s => s.prop
  | _ => []

/-- `b->closure_var_count`. -/
def closure_var_count (b : Addr) : Nat :=
  match h.cell b with
  | .function_bytecode fb => fb.closure_var_count
  | _ => 0

/-- The non-null entries among the first `closure_var_count` of a bytecode
function's var-ref array. -/
def closure_var_refs (b : Addr) (var_refs : List (Option Addr)) : List Addr :=
  (List.range (h.closure_var_count b)).filterMap fun i => var_refs.getD i none

/-! ## `mark_children` -/

/-- One slot of `mark_children` for a `JS_OBJECT`, skipped when deleted. -/
def mark_prop (prs : JSShapeProperty) (pr : JSProperty) : List Addr :=
  if prs.atom = JS_ATOM_NULL then [] else
  match prs.flags, pr with
  | .normal, .value v => JS_MarkValue v
  | .getset, .getset getter setter => getter.toList ++ setter.toList
  | .varref, .var_ref r => if h.is_detached r then [r] else []
  | .autoinit, .init realm => [realm]
  | _, _ => []

/-- `js_array_mark`. -/
def js_array_mark : JSObjectU → List Addr
  | .array values => values.flatMap JS_MarkValue
  | _ => []

/-- `js_object_data_mark`. -/
def js_object_data_mark : JSObjectU → List Addr
  | .object_data v => JS_MarkValue v
  | _ => []

/-- `js_c_function_mark`. -/
def js_c_function_mark : JSObjectU → List Addr
  | .cfunc realm _ => realm.toList
  | _ => []

/-- `js_bytecode_function_mark`: the home object, the detached var-refs and
the bytecode. -/
def js_bytecode_function_mark : JSObjectU → List Addr
  | .func home_object function_bytecode var_refs =>
    home_object.toList ++
      match function_bytecode with
      | some b =>
        (match var_refs with
          | some vrs => (h.closure_var_refs b vrs).filter h.is_detached
          | none => []) ++ [b]
      | none => []
  | _ => []

/-- `js_bound_function_mark`. -/
def js_bound_function_mark : JSObjectU → List Addr
  | .bound_function bf => JS_MarkValue bf.func_obj ++ JS_MarkValue bf.this_val ++
      bf.argv.flatMap JS_MarkValue
  | _ => []

/-- `js_for_in_iterator_mark`. -/
def js_for_in_iterator_mark : JSObjectU → List Addr
  | .for_in_iterator obj => JS_MarkValue obj
  | _ => []

/-- The `gc_mark` hook of a class table entry. -/
def class_gc_mark : JSClassHook → JSObjectU → List Addr
  | .array => js_array_mark
  | .object_data => js_object_data_mark
  | .c_function => js_c_function_mark
  | .bytecode_function => js_bytecode_function_mark h
  | .bound_function => js_bound_function_mark
  | .for_in_iterator => js_for_in_iterator_mark

/-- `js_mark_module_def`. -/
def js_mark_module_def (m : JSModuleDef) : List Addr :=
  (m.export_entries.filterMap fun me =>
      if me.export_type = .LOCAL then me.var_ref else none) ++
    JS_MarkValue m.module_ns ++ JS_MarkValue m.func_obj ++ JS_MarkValue m.eval_exception ++
    JS_MarkValue m.meta_obj

/-- `JS_MarkContext`. -/
def JS_MarkContext (ctx : JSContext) : List Addr :=
  ctx.loaded_modules.flatMap js_mark_module_def ++
    JS_MarkValue ctx.global_obj ++ JS_MarkValue ctx.global_var_obj ++
    JS_MarkValue ctx.throw_type_error ++ JS_MarkValue ctx.eval_obj ++
    JS_MarkValue ctx.array_proto_values ++ ctx.native_error_proto.flatMap JS_MarkValue ++
    ctx.class_proto.flatMap JS_MarkValue ++ JS_MarkValue ctx.iterator_proto ++
    JS_MarkValue ctx.async_iterator_proto ++ JS_MarkValue ctx.promise_ctor ++
    JS_MarkValue ctx.array_ctor ++ JS_MarkValue ctx.regexp_ctor ++
    JS_MarkValue ctx.function_ctor ++ JS_MarkValue ctx.function_proto ++ ctx.array_shape.toList

/-- `mark_children` on a `JS_OBJECT`: the shape, every slot that is not
deleted, and the class's `gc_mark` unless the class is `JS_CLASS_OBJECT`. -/
def mark_object (p : JSObject) : List Addr :=
  p.shape :: ((h.get_shape_prop p.shape).zip p.prop).flatMap (fun x => mark_prop h x.1 x.2) ++
    if p.class_id = JS_CLASS_OBJECT then [] else
    match (h.class_array p.class_id).gc_mark with
    | some hook => class_gc_mark h hook p.u
    | none => []

/-- `mark_children(rt, gp, mark_func)`: the headers handed to `mark_func`, in
order; `abort()` on a cell that is not a GC cell, and the assertion on a
var-ref still on its frame. -/
def mark_children (gp : Addr) : Except GcError (List Addr) :=
  match h.cell gp with
  | .object p => pure (mark_object h p)
  | .function_bytecode b => pure (b.cpool.flatMap JS_MarkValue ++ b.realm.toList)
  | .var_ref r =>
    if r.is_detached then pure (JS_MarkValue r.value)
    else throw (.assert_failed "var_ref->is_detached")
  | .async_function s =>
    pure ((if s.is_active then s.frame.flatMap JS_MarkValue else []) ++
      JS_MarkValue s.resolving_funcs.1 ++ JS_MarkValue s.resolving_funcs.2)
  | .shape sh => pure sh.proto.toList
  | .context ctx => pure (JS_MarkContext ctx)
  | .other => throw .abort

/-! ## The free paths -/

/-- The GC cell a dropped reference counted against: the cell of an object
or bytecode value, the context, the shape, and the var-ref once detached. -/
def ref_cells : JSRef → List Addr
  | .value v => JS_MarkValue v
  | .var_ref r => if h.is_detached r then [r] else []
  | .context c => [c]
  | .shape sh => [sh]

/-- Modelled from the spec: `free_property`, which `gc.c` calls but does not
hold. A slot is released by its type tag: the value, the getter and the
setter, the var-ref, or the realm of an auto-init slot. -/
def free_property (flags : JSPropType) (pr : JSProperty) : List JSRef :=
  match flags, pr with
  | .normal, .value v => [.value v]
  | .getset, .getset getter setter =>
    (getter.toList ++ setter.toList).map fun g => .value (.object g)
  | .varref, .var_ref r => [.var_ref r]
  | .autoinit, .init realm => [.context realm]
  | _, _ => []

/-- `js_array_finalizer`. -/
def js_array_finalizer : JSObjectU → List JSRef
  | .array values => values.map .value
  | _ => []

/-- `js_object_data_finalizer`. -/
def js_object_data_finalizer : JSObjectU → List JSRef
  | .object_data v => [.value v]
  | _ => []

/-- `js_c_function_finalizer`: `JS_FreeContext` on the realm. -/
def js_c_function_finalizer : JSObjectU → List JSRef
  | .cfunc realm _ => realm.toList.map .context
  | _ => []

/-- `js_bytecode_function_finalizer`: the home object, every var-ref of the
array (`free_var_ref` of a null entry does nothing), and the bytecode. -/
def js_bytecode_function_finalizer : JSObjectU → List JSRef
  | .func home_object function_bytecode var_refs =>
    home_object.toList.map (fun p1 => .value (.object p1)) ++
      match function_bytecode with
      | some b =>
        (match var_refs with
          | some vrs => (h.closure_var_refs b vrs).map .var_ref
          | none => []) ++ [.value (.function_bytecode b)]
      | none => []
  | _ => []

/-- `js_bound_function_finalizer`. -/
def js_bound_function_finalizer : JSObjectU → List JSRef
  | .bound_function bf => .value bf.func_obj :: .value bf.this_val :: bf.argv.map .value
  | _ => []

/-- `js_for_in_iterator_finalizer`. -/
def js_for_in_iterator_finalizer : JSObjectU → List JSRef
  | .for_in_iterator obj => [.value obj]
  | _ => []

/-- The finalizer of a class table entry. -/
def class_finalizer : JSClassHook → JSObjectU → List JSRef
  | .array => js_array_finalizer
  | .object_data => js_object_data_finalizer
  | .c_function => js_c_function_finalizer
  | .bytecode_function => js_bytecode_function_finalizer h
  | .bound_function => js_bound_function_finalizer
  | .for_in_iterator => js_for_in_iterator_finalizer

/-- `reset_weak_ref`: the value of every record keyed by the object. -/
def reset_weak_ref (p : JSObject) : List JSRef :=
  p.first_weak_ref.map .value

/-- `free_object`: every slot of the shape, deleted or not, through
`free_property`; the shape (`js_free_shape`); the weak records; the class
finalizer. -/
def free_object (p : JSObject) : List JSRef :=
  ((h.get_shape_prop p.shape).zip p.prop).flatMap (fun x => free_property x.1.flags x.2) ++
    .shape p.shape :: reset_weak_ref p ++
      match (h.class_array p.class_id).finalizer with
      | some hook => class_finalizer h hook p.u
      | none => []

/-- `free_function_bytecode`: the constant pool and the realm (the atoms and
buffers it also frees are not GC references). -/
def free_function_bytecode (b : JSFunctionBytecode) : List JSRef :=
  b.cpool.map .value ++ b.realm.toList.map .context

/-- `free_var_ref` once the count reaches zero: a detached var-ref releases
its value; one still on its frame only leaves the frame's list. -/
def free_var_ref (r : JSVarRef) : List JSRef :=
  if r.is_detached then [.value r.value] else []

/-- The free path of the cell at `gp`, for the kinds whose free path `gc.c`
holds. -/
def free_path (gp : Addr) : List JSRef :=
  match h.cell gp with
  | .object p => free_object h p
  | .function_bytecode b => free_function_bytecode b
  | .var_ref r => free_var_ref r
  | _ => []

/-! ## Releasing what was marked -/

@[simp] theorem ref_cells_value (v : JSValue) : h.ref_cells (.value v) = JS_MarkValue v := rfl

@[simp] theorem ref_cells_context (c : Addr) : h.ref_cells (.context c) = [c] := rfl

/-- Dropping a realm counts against the context. -/
theorem contexts_cells (o : Option Addr) : (o.toList.map JSRef.context).flatMap h.ref_cells = o.toList := by
  cases o <;> rfl

/-- Dropping values counts against the cells they mark. -/
theorem values_cells (l : List JSValue) :
    (l.map JSRef.value).flatMap h.ref_cells = l.flatMap JS_MarkValue := by
  simp [List.flatMap_map, Function.comp_def]

/-- Dropping var-refs counts against the detached ones. -/
theorem var_refs_cells (l : List Addr) :
    (l.map JSRef.var_ref).flatMap h.ref_cells = l.filter h.is_detached := by
  induction l with
  | nil => rfl
  | cons r l ih => by_cases hr : h.is_detached r <;> simp [ref_cells, hr, ih, List.filter_cons]

/-- A slot releases what it marks, the deleted ones included once they hold
no GC reference. -/
theorem free_property_cells (prs : JSShapeProperty) (pr : JSProperty)
    (hdel : prs.atom = JS_ATOM_NULL → (free_property prs.flags pr).flatMap h.ref_cells = []) :
    (free_property prs.flags pr).flatMap h.ref_cells = mark_prop h prs pr := by
  unfold mark_prop
  split_ifs with ha
  · exact hdel ha
  · rcases prs with ⟨_, _ | _ | _ | _⟩ <;> cases pr <;>
      simp [free_property, ref_cells, JS_MarkValue, List.flatMap_map, Function.comp_def]

/-- Every class hook's finalizer releases what its `gc_mark` marks. -/
theorem class_finalizer_cells (hook : JSClassHook) (u : JSObjectU) :
    (class_finalizer h hook u).flatMap h.ref_cells = class_gc_mark h hook u := by
  cases hook <;> cases u <;> try rfl
  case bytecode_function.func home_object function_bytecode var_refs =>
    rcases function_bytecode with _ | b
    · cases home_object <;> rfl
    · cases home_object <;> cases var_refs <;>
        simp [class_finalizer, class_gc_mark, js_bytecode_function_finalizer,
          js_bytecode_function_mark, var_refs_cells, JS_MarkValue]
  all_goals simp [class_finalizer, class_gc_mark, js_array_finalizer, js_array_mark,
    js_object_data_finalizer, js_object_data_mark, js_c_function_finalizer, js_c_function_mark,
    js_bound_function_finalizer, js_bound_function_mark, js_for_in_iterator_finalizer,
    js_for_in_iterator_mark, values_cells, contexts_cells]

/-- The slots of an object release what `mark_children` marks of them. -/
theorem props_cells (l : List (JSShapeProperty × JSProperty))
    (hdel : ∀ x ∈ l, x.1.atom = JS_ATOM_NULL →
      (free_property x.1.flags x.2).flatMap h.ref_cells = []) :
    (l.flatMap fun x => free_property x.1.flags x.2).flatMap h.ref_cells =
      l.flatMap fun x => mark_prop h x.1 x.2 := by
  rw [List.flatMap_assoc]
  exact List.flatMap_congr fun x hx => free_property_cells h x.1 x.2 (hdel x hx)

/-- The cells whose two traversals `gc.c` holds, under the conditions the
comparison needs: an object whose class table entry pairs its finalizer with
the `gc_mark` of the same kind (a plain object has neither) and whose deleted
slots hold no GC reference; a function bytecode; a detached var-ref. -/
def FreeDefined (gp : Addr) : Prop :=
  match h.cell gp with
  | .object p =>
    (h.class_array p.class_id).finalizer =
        (if p.class_id = JS_CLASS_OBJECT then none else (h.class_array p.class_id).gc_mark) ∧
      ∀ x ∈ (h.get_shape_prop p.shape).zip p.prop, x.1.atom = JS_ATOM_NULL →
        (free_property x.1.flags x.2).flatMap h.ref_cells = []
  | .function_bytecode _ => True
  | .var_ref r => r.is_detached = true
  | _ => False

/-- An object releases its slots, its shape and its class data as marked,
and the weak records on top. -/
theorem free_object_cells (p : JSObject)
    (hcls : (h.class_array p.class_id).finalizer =
      (if p.class_id = JS_CLASS_OBJECT then none else (h.class_array p.class_id).gc_mark))
    (hdel : ∀ x ∈ (h.get_shape_prop p.shape).zip p.prop, x.1.atom = JS_ATOM_NULL →
      (free_property x.1.flags x.2).flatMap h.ref_cells = []) :
    ((free_object h p).flatMap h.ref_cells).Perm
      (mark_object h p ++ p.first_weak_ref.flatMap JS_MarkValue) := by
  have hhook : (match (h.class_array p.class_id).finalizer with
      | some hook => class_finalizer h hook p.u
      | none => []).flatMap h.ref_cells =
      if p.class_id = JS_CLASS_OBJECT then [] else
        match (h.class_array p.class_id).gc_mark with
        | some hook => class_gc_mark h hook p.u
        | none => [] := by
    rw [hcls]
    split_ifs
    · rfl
    · cases (h.class_array p.class_id).gc_mark <;> simp [class_finalizer_cells]
  simp only [free_object, mark_object, reset_weak_ref, List.flatMap_append, List.flatMap_cons,
    props_cells h _ hdel, hhook, values_cells]
  rw [List.perm_iff_count]
  intro a
  simp only [ref_cells, List.count_append, List.count_cons, List.count_nil]
  omega

/-- **Every cell releases what it marks.** For an object, a function
bytecode or a detached var-ref under the conditions of `FreeDefined`, and for
an object that no weak record has as its key, the GC cells the free path
releases are those `mark_children` hands to the mark function, with
multiplicity. -/
theorem free_releases_marked {gp : Addr} (hd : h.FreeDefined gp)
    (hweak : ∀ p, h.cell gp = .object p → p.first_weak_ref = []) :
    ∃ l, h.mark_children gp = .ok l ∧ ((h.free_path gp).flatMap h.ref_cells).Perm l := by
  rcases hc : h.cell gp with p | b | r | _ | _ | _ | _ <;>
    simp only [FreeDefined, hc] at hd <;> simp only [mark_children, free_path, hc]
  · exact ⟨_, rfl, by simpa [hweak p hc] using free_object_cells h p hd.1 hd.2⟩
  · exact ⟨_, rfl, .of_eq (by simp [free_function_bytecode, values_cells, contexts_cells])⟩
  · exact ⟨JS_MarkValue r.value, by simp [hd], .of_eq (by simp [free_var_ref, hd])⟩

end JSHeap

/-- A bytecode function `0` of class `13`, with one slot holding
the object `2`, home object `2`, bytecode `3` and one detached var-ref `4`. -/
def closureCells : Addr → JSCell
  | 0 => .object ⟨13, 1, [.value (.object 2)], [], .func (some 2) (some 3) (some [some 4])⟩
  | 1 => .shape ⟨false, none, [⟨5, .normal⟩]⟩
  | 2 => .object ⟨JS_CLASS_OBJECT, 1, [.value .undefined], [], .other⟩
  | 3 => .function_bytecode ⟨[], none, 1⟩
  | 4 => .var_ref ⟨true, .int 7⟩
  | _ => .other

/-- The heap of `closureCells`: class `13` has the bytecode function's hooks. -/
def closureHeap : JSHeap where
  cell := closureCells
  class_array id := if id = 13 then ⟨some .bytecode_function, some .bytecode_function⟩
    else ⟨none, none⟩

/-- The closure releases what it marks: its shape, the object twice, the
var-ref and the bytecode. -/
theorem free_releases_marked_sample :
    closureHeap.FreeDefined 0 ∧ (∀ p, closureHeap.cell 0 = .object p → p.first_weak_ref = []) ∧
      ∃ l, closureHeap.mark_children 0 = .ok l ∧
        ((closureHeap.free_path 0).flatMap closureHeap.ref_cells).Perm l :=
  have hd : closureHeap.FreeDefined 0 := ⟨by decide, by decide⟩
  have hw : ∀ p, closureHeap.cell 0 = .object p → p.first_weak_ref = [] := fun _ hp => by
    cases hp; rfl
  ⟨hd, hw, JSHeap.free_releases_marked closureHeap hd hw⟩

/-- A plain object `0`, the key of one `WeakMap` record whose value is the
object `2`; both have the empty shape `1`. -/
def weakKeyCells : Addr → JSCell
  | 0 => .object ⟨JS_CLASS_OBJECT, 1, [], [.object 2], .other⟩
  | 1 => .shape ⟨false, none, []⟩
  | 2 => .object ⟨JS_CLASS_OBJECT, 1, [], [], .other⟩
  | _ => .other

/-- The heap of `weakKeyCells`, with a class table that has no hooks. -/
def weakKeyHeap : JSHeap where
  cell := weakKeyCells
  class_array _ := ⟨none, none⟩

/-- **A weak key releases what it does not mark.** The object `0` meets every
condition of `FreeDefined`, yet its free path releases the record's value `2`
through `reset_weak_ref`, which `mark_children` of `0` never hands on: the
map marks it. -/
theorem free_object_weak_ref :
    weakKeyHeap.FreeDefined 0 ∧ ∃ l, weakKeyHeap.mark_children 0 = .ok l ∧
      ¬ ((weakKeyHeap.free_path 0).flatMap weakKeyHeap.ref_cells).Perm l :=
  ⟨⟨rfl, by decide⟩, [1], rfl, by decide⟩

/-! ## The graph of a heap -/

/-- The values a module holds, as `js_mark_module_def` reads them. -/
def JSModuleDef.values (m : JSModuleDef) : List JSValue :=
  [m.module_ns, m.func_obj, m.eval_exception, m.meta_obj]

/-- The var-refs of a module's local exports. -/
def JSModuleDef.var_refs (m : JSModuleDef) : List Addr :=
  m.export_entries.filterMap fun me => if me.export_type = .LOCAL then me.var_ref else none

/-- The value slots of a context, as `JS_MarkContext` reads them. -/
def JSContext.values (ctx : JSContext) : List JSValue :=
  [ctx.global_obj, ctx.global_var_obj, ctx.throw_type_error, ctx.eval_obj, ctx.array_proto_values] ++
    ctx.native_error_proto ++ ctx.class_proto ++
    [ctx.iterator_proto, ctx.async_iterator_proto, ctx.promise_ctor, ctx.array_ctor, ctx.regexp_ctor,
      ctx.function_ctor, ctx.function_proto]

/-- Modelled from the spec: the release of a module's references when its
context goes, which `gc.c` does not hold: its exported var-refs and its
values. -/
def js_free_module_def (m : JSModuleDef) : List JSRef :=
  m.var_refs.map .var_ref ++ m.values.map .value

/-- Modelled from the spec: `JS_FreeContext` once the count reaches zero,
which `gc.c` calls but does not hold. Finalization releases the children:
the modules, every value slot, the array shape. -/
def JS_FreeContext (ctx : JSContext) : List JSRef :=
  ctx.loaded_modules.flatMap js_free_module_def ++ ctx.values.map .value ++
    ctx.array_shape.toList.map .shape

/-- Modelled from the spec: `js_free_shape`, which `gc.c` calls but does not
hold: the shape releases its prototype. -/
def js_free_shape (sh : JSShape) : List JSRef :=
  sh.proto.toList.map fun p => .value (.object p)

/-- Modelled from the spec: the release of an async function's data, which
`gc.c` calls but does not hold: the frame's values while it is active, and
the two resolving functions. -/
def async_func_free (s : JSAsyncFunctionData) : List JSRef :=
  ((if s.is_active then s.frame else []) ++ [s.resolving_funcs.1, s.resolving_funcs.2]).map .value

namespace JSHeap

variable (h : JSHeap)

/-- `js_mark_module_def`: the exported var-refs, then the values. -/
theorem js_mark_module_def_eq (m : JSModuleDef) :
    js_mark_module_def m = m.var_refs ++ m.values.flatMap JS_MarkValue := by
  simp [js_mark_module_def, JSModuleDef.values, JSModuleDef.var_refs]

/-- `JS_MarkContext`, slot group by slot group. -/
theorem JS_MarkContext_eq (ctx : JSContext) :
    JS_MarkContext ctx = ctx.loaded_modules.flatMap js_mark_module_def ++
      ctx.values.flatMap JS_MarkValue ++ ctx.array_shape.toList := by
  simp [JS_MarkContext, JSContext.values, List.append_assoc]

/-- The `gc_obj_type` of the cell at `a`. An address that holds no GC cell
has no header; it reads as `JS_OBJECT`, and in a heap `TypedRefs` describes
no edge leads to it from a cell that is not a value. -/
def kind (a : Addr) : JSGCObjectTypeEnum :=
  match h.cell a with
  | .object _ | .other => .JS_OBJECT
  | .function_bytecode _ => .FUNCTION_BYTECODE
  | .var_ref _ => .VAR_REF
  | .async_function _ => .ASYNC_FUNCTION
  | .shape _ => .SHAPE
  | .context _ => .JS_CONTEXT

/-- The release of the cell at `gp`: its free path, or for an async function,
a shape or a context its release. -/
def release_path (gp : Addr) : List JSRef :=
  match h.cell gp with
  | .async_function s => async_func_free s
  | .shape sh => js_free_shape sh
  | .context ctx => JS_FreeContext ctx
  | _ => h.free_path gp

/-- **The graph of a heap**: the kind of every cell, the headers
`mark_children` hands on (none where it stops), and the GC cells its release
drops. -/
def gc_graph : GcGraph where
  kind := h.kind
  children gp :=
    match h.mark_children gp with
    | .ok l => l
    | .error _ => []
  released gp := (h.release_path gp).flatMap h.ref_cells

/-- A value points at a cell of its tag. -/
def PointsAt : JSValue → Prop
  | .object p => h.kind p = .JS_OBJECT
  | .function_bytecode b => h.kind b = .FUNCTION_BYTECODE
  | _ => True

/-- What the cells that are not values point at: a value at a cell of its
tag, a shape's prototype at an object, a context's exported var-refs at
var-refs and its array shape at a shape. -/
structure TypedRefs : Prop where
  var_ref : ∀ gp r, h.cell gp = .var_ref r → h.PointsAt r.value
  async_function : ∀ gp s, h.cell gp = .async_function s →
    ∀ v ∈ s.frame ++ [s.resolving_funcs.1, s.resolving_funcs.2], h.PointsAt v
  shape : ∀ gp sh, h.cell gp = .shape sh → ∀ p ∈ sh.proto, h.kind p = .JS_OBJECT
  context_values : ∀ gp ctx, h.cell gp = .context ctx →
    ∀ v ∈ ctx.values ++ ctx.loaded_modules.flatMap JSModuleDef.values, h.PointsAt v
  context_var_refs : ∀ gp ctx, h.cell gp = .context ctx →
    ∀ m ∈ ctx.loaded_modules, ∀ r ∈ m.var_refs, h.kind r = .VAR_REF
  context_shape : ∀ gp ctx, h.cell gp = .context ctx → ∀ sh ∈ ctx.array_shape, h.kind sh = .SHAPE

/-- Where the two traversals of every cell agree: every object meets
`FreeDefined` and is no weak record's key, and every var-ref a context's
modules export is detached. -/
structure Paired : Prop where
  object : ∀ gp o, h.cell gp = .object o → h.FreeDefined gp ∧ o.first_weak_ref = []
  module_var_refs : ∀ gp ctx, h.cell gp = .context ctx →
    ∀ m ∈ ctx.loaded_modules, ∀ r ∈ m.var_refs, h.is_detached r = true

variable {h}

theorem PointsAt.isValue {v : JSValue} (hv : h.PointsAt v) {c : Addr} (hc : c ∈ JS_MarkValue v) :
    (h.kind c).isValue = true := by
  cases v <;> simp only [JS_MarkValue, List.mem_singleton, List.not_mem_nil] at hc <;>
    subst hc <;> simp only [PointsAt] at hv <;> rw [hv] <;> rfl

theorem PointsAt.isValue_flatMap {l : List JSValue} (hl : ∀ v ∈ l, h.PointsAt v) {c : Addr}
    (hc : c ∈ l.flatMap JS_MarkValue) : (h.kind c).isValue = true := by
  obtain ⟨v, hv, hcv⟩ := List.mem_flatMap.1 hc
  exact (hl v hv).isValue hcv

/-- **The graph of a typed heap is well kinded**: a cell that is not a value
hands on only values, except a context, whose other children are its
modules' var-refs and its array shape. -/
theorem gc_graph_wellKinded (ht : h.TypedRefs) : h.gc_graph.WellKinded := by
  intro p c hc hk
  simp only [gc_graph, mark_children] at hc hk
  rcases hp : h.cell p with o | b | r | s | sh | ctx | _ <;>
    simp only [hp, kind, except_pure_eq_ok] at hc hk
  · exact absurd hk (by decide)
  · exact absurd hk (by decide)
  · split_ifs at hc
    · exact .inl ((ht.var_ref p r hp).isValue hc)
    · simp at hc
  · refine .inl (PointsAt.isValue_flatMap (ht.async_function p s hp) ?_)
    rw [List.flatMap_append, List.mem_append]
    split_ifs at hc
    · simpa [or_assoc] using hc
    · exact .inr (by simpa using hc)
  · exact .inl (by simp only [gc_graph, ht.shape p sh hp c (Option.mem_toList.1 hc)]; rfl)
  · have hkp : h.gc_graph.kind p = .JS_CONTEXT := by simp [gc_graph, kind, hp]
    rw [JS_MarkContext_eq, List.mem_append, List.mem_append, List.mem_flatMap] at hc
    rcases hc with (⟨m, hm, hcm⟩ | hcv) | hcs
    · rw [js_mark_module_def_eq, List.mem_append] at hcm
      rcases hcm with hr | hv
      · exact .inr ⟨hkp, .inl (ht.context_var_refs p ctx hp m hm c hr)⟩
      · exact .inl (PointsAt.isValue_flatMap (fun v hv => ht.context_values p ctx hp v
          (List.mem_append_right _ (List.mem_flatMap.2 ⟨m, hm, hv⟩))) hv)
    · exact .inl (PointsAt.isValue_flatMap (fun v hv => ht.context_values p ctx hp v
        (List.mem_append_left _ hv)) hcv)
    · exact .inr ⟨hkp, .inr (ht.context_shape p ctx hp c (Option.mem_toList.1 hcs))⟩
  · simp at hc

/-- A module releases its exported var-refs, all detached, and its values. -/
theorem js_free_module_def_cells (m : JSModuleDef) (hdet : ∀ r ∈ m.var_refs, h.is_detached r = true) :
    (js_free_module_def m).flatMap h.ref_cells = js_mark_module_def m := by
  rw [js_mark_module_def_eq, js_free_module_def, List.flatMap_append, var_refs_cells, values_cells,
    List.filter_eq_self.2 hdet]

/-- A context releases what `JS_MarkContext` marks, once its modules' var-refs
are detached. -/
theorem JS_FreeContext_cells (ctx : JSContext)
    (hdet : ∀ m ∈ ctx.loaded_modules, ∀ r ∈ m.var_refs, h.is_detached r = true) :
    (JS_FreeContext ctx).flatMap h.ref_cells = JS_MarkContext ctx := by
  have hsh : (ctx.array_shape.toList.map JSRef.shape).flatMap h.ref_cells = ctx.array_shape.toList := by
    cases ctx.array_shape <;> rfl
  rw [JS_MarkContext_eq, JS_FreeContext, List.flatMap_append, List.flatMap_append, List.flatMap_assoc,
    values_cells, hsh, List.flatMap_congr fun m hm => js_free_module_def_cells m (hdet m hm)]

/-- **Every cell of a paired heap releases what it marks**: the graph's two
traversals agree on every address, so the collector's accounting hypothesis
holds of the cells. -/
theorem gc_graph_releasesChildren (hp : h.Paired) : h.gc_graph.ReleasesChildren := by
  intro gp
  simp only [gc_graph, release_path, mark_children]
  rcases hc : h.cell gp with o | b | r | s | sh | ctx | _ <;> simp only [hc, except_pure_eq_ok]
  · obtain ⟨hd, hw⟩ := hp.object gp o hc
    simp only [FreeDefined, hc] at hd
    simpa [free_path, hc, hw] using free_object_cells h o hd.1 hd.2
  · exact .of_eq (by simp [free_path, hc, free_function_bytecode, values_cells, contexts_cells])
  · split_ifs with hdet
    · exact .of_eq (by simp [free_path, hc, free_var_ref, hdet])
    · exact .of_eq (by simp [free_path, hc, free_var_ref, hdet])
  · refine .of_eq ?_
    rw [async_func_free, values_cells]
    split_ifs <;> simp
  · exact .of_eq (by rcases sh with ⟨_, _ | q, _⟩ <;> rfl)
  · exact .of_eq (JS_FreeContext_cells ctx (hp.module_var_refs gp ctx hc))
  · exact .of_eq (by simp [free_path, hc])

end JSHeap

/-- The closure heap meets both conditions: its two objects are paired and no
weak record is keyed by them, and its var-ref holds an integer. -/
theorem closureHeap_paired : closureHeap.Paired where
  object gp o hc := by
    rcases gp with _ | _ | _ | _ | _ | gp <;> cases hc <;> exact ⟨⟨by decide, by decide⟩, rfl⟩
  module_var_refs gp ctx hc := by rcases gp with _ | _ | _ | _ | _ | gp <;> cases hc

theorem closureHeap_typedRefs : closureHeap.TypedRefs where
  var_ref gp r hc := by rcases gp with _ | _ | _ | _ | _ | gp <;> cases hc; trivial
  async_function gp s hc := by rcases gp with _ | _ | _ | _ | _ | gp <;> cases hc
  shape gp sh hc := by rcases gp with _ | _ | _ | _ | _ | gp <;> cases hc; simp
  context_values gp ctx hc := by rcases gp with _ | _ | _ | _ | _ | gp <;> cases hc
  context_var_refs gp ctx hc := by rcases gp with _ | _ | _ | _ | _ | gp <;> cases hc
  context_shape gp ctx hc := by rcases gp with _ | _ | _ | _ | _ | gp <;> cases hc

/-- The closure heap's graph meets the collector's two hypotheses. -/
example : closureHeap.gc_graph.WellKinded ∧ closureHeap.gc_graph.ReleasesChildren :=
  ⟨JSHeap.gc_graph_wellKinded closureHeap_typedRefs, JSHeap.gc_graph_releasesChildren closureHeap_paired⟩

end SlowJsGc

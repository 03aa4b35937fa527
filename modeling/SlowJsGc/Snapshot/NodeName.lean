import SlowJsGc.Cell

/-!
# The references the node namer takes and gives back

`js_gcdump_get_node_name` picks the name of an object's node by asking the
engine: for a Proxy the atom `Proxy`; else the object's own `name` property
(`JS_GetOwnPropertyInternal`) when it is a string; else the `name` of its
constructor (`JS_GetProperty`, `JS_GetPropertyStr`, `JS_ValueToAtom`) when
that is a function; else its class name. The walk takes the name itself from
its environment (`DumpEnv.node_name`); this module models what the call does
to reference counts.

None of the functions it calls is in `gc.c`. Each hands its caller the
references in what it returns, which the caller gives back: that is how
`js_gcdump_get_node_name` treats `ctor`, `cname`, the atoms and the C
strings, all of which it frees, and how it treats the descriptor's string,
whose reference it hands to `JS_NewAtomStr` to keep or give back.

The call is modelled as the log of the references it takes and gives back,
in the order it makes its calls (`js_gcdump_get_node_name_refs`). The balance
of a reference is the number of times the log takes it less the number of
times it gives it back (`ref_balance`). Every branch gives back what it
takes, except one: when the own `name` is found and its value is not a
string, the descriptor is never freed, and each of its counted values keeps
the reference the descriptor holds (`js_gcdump_get_node_name_balance`). An
object whose own `name` is an object or a symbol leaves that value's cell
with one reference more after the call (`js_gcdump_get_node_name_keeps_name`).
-/

set_option autoImplicit false

namespace SlowJsGc

/-! ## The log of references -/

/-- `JS_VALUE_HAS_REF_COUNT`: the cell whose count a value's reference is on,
for the tags that carry a count. -/
def JSValue.counted : JSValue → Option Addr
  | .object p | .function_bytecode p | .string p | .symbol p => some p
  | .int _ | .float64 _ | .undefined => none

/-- A reference the namer holds: a count on a cell, a count on an atom, or a
C string of an atom's text that `JS_FreeCString` gives back. -/
inductive NameRef where
  | cell (a : Addr)
  | atom (a : Nat)
  | cstring (a : Nat)
  deriving DecidableEq

/-- One entry of the log: a reference taken, or given back. -/
inductive RefOp where
  | take (r : NameRef)
  | give (r : NameRef)
  deriving DecidableEq

/-- What one entry does to the reference `r`. -/
def RefOp.balance (r : NameRef) : RefOp → Int
  | .take r' => if r' = r then 1 else 0
  | .give r' => if r' = r then -1 else 0

/-- The references to `r` a log takes less those it gives back. -/
def ref_balance : List RefOp → NameRef → Int
  | [], _ => 0
  | op :: ops, r => op.balance r + ref_balance ops r

/-- A value handed to the caller: a reference on its cell, if it has one. -/
def take_value (v : JSValue) : List RefOp :=
  match v.counted with
  | some a => [.take (.cell a)]
  | none => []

/-- `JS_FreeValue`. -/
def give_value (v : JSValue) : List RefOp :=
  match v.counted with
  | some a => [.give (.cell a)]
  | none => []

@[simp] theorem ref_balance_nil (r : NameRef) : ref_balance [] r = 0 := rfl

@[simp] theorem ref_balance_cons (op : RefOp) (ops : List RefOp) (r : NameRef) :
    ref_balance (op :: ops) r = op.balance r + ref_balance ops r := rfl

@[simp] theorem ref_balance_append (ops₁ ops₂ : List RefOp) (r : NameRef) :
    ref_balance (ops₁ ++ ops₂) r = ref_balance ops₁ r + ref_balance ops₂ r := by
  induction ops₁ with
  | nil => simp
  | cons op ops ih => simp [ih, Int.add_assoc]

/-- `JS_FreeValue` gives back what taking the value took. -/
@[simp] theorem ref_balance_give_value (v : JSValue) (r : NameRef) :
    ref_balance (give_value v) r = -ref_balance (take_value v) r := by
  unfold give_value take_value
  split <;> simp [RefOp.balance]
  split_ifs <;> rfl

/-! ## The namer -/

/-- The descriptor `JS_GetOwnPropertyInternal` fills when it finds the
property: for a data property its value, with the getter and the setter
`JS_UNDEFINED`; for an accessor its getter and setter, with the value
`JS_UNDEFINED`. It hands the caller a reference on each. -/
structure JSPropertyDescriptor where
  value : JSValue
  getter : JSValue
  setter : JSValue

/-- What the engine answers the namer about one object. -/
structure NodeNameQuery where
  /-- `JS_IsProxy(val)`. -/
  is_proxy : Bool
  /-- `JS_ATOM_Proxy`. -/
  proxy_atom : Nat
  /-- `JS_GetOwnPropertyInternal(dc->jc, &desc, objp, JS_ATOM_name)`: the
  descriptor when `res > 0`, nothing when the property is missing or the
  call throws. -/
  own_name : Option JSPropertyDescriptor
  /-- `JS_NewAtomStr` on the string of `desc.value`: the atom it hands back,
  `JS_ATOM_NULL` when it fails. -/
  name_atom : Nat
  /-- `JS_GetProperty(dc->jc, val, JS_ATOM_constructor)`. -/
  ctor : JSValue
  /-- `JS_IsFunction(dc->jc, ctor)`. -/
  ctor_is_function : Bool
  /-- `JS_GetPropertyStr(dc->jc, ctor, "name")`. -/
  cname : JSValue
  /-- `JS_ValueToAtom(dc->jc, cname)`. -/
  cname_atom : Nat
  /-- `dc->jc->rt->class_array[objp->class_id].class_name`. -/
  class_name : Nat

/-- `js_gcdump_add_atom`: `JS_AtomToString` hands back `str`, a reference on
the atom, and `JS_ToCStringLen` the C string `cstr`; `JS_FreeCString` and
`JS_FreeValue` give both back. When `cstr` is `NULL` only `str` is taken, and
it is given back too; that path, whose balance is the same, is left out. -/
def js_gcdump_add_atom_refs (atom : Nat) : List RefOp :=
  [.take (.atom atom), .take (.cstring atom), .give (.cstring atom), .give (.atom atom)]

/-- The `else` branch of `js_gcdump_get_node_name`: `ctor`, and when it is a
function its `name` and that name's atom, each given back; when it is not,
the class name, an atom the runtime holds. -/
def js_gcdump_ctor_name_refs (q : NodeNameQuery) : List RefOp :=
  take_value q.ctor ++
    (if q.ctor_is_function then
      take_value q.cname ++ .take (.atom q.cname_atom) :: js_gcdump_add_atom_refs q.cname_atom ++
        .give (.atom q.cname_atom) :: give_value q.cname
    else js_gcdump_add_atom_refs q.class_name) ++
    give_value q.ctor

/-- The string branch: `JS_NewAtomStr` keeps or gives back the reference on
the string and hands back an atom, none when it fails with `JS_ATOM_NULL`;
`JS_AtomToCString` hands back a C string of it. The atom is named and freed
when it is not `JS_ATOM_NULL`, and the C string is freed. -/
def js_gcdump_own_name_refs (q : NodeNameQuery) (s : Addr) : List RefOp :=
  .give (.cell s) ::
    ((if q.name_atom ≠ JS_ATOM_NULL then [.take (.atom q.name_atom)] else []) ++
      .take (.cstring q.name_atom) ::
      ((if q.name_atom ≠ JS_ATOM_NULL then
        js_gcdump_add_atom_refs q.name_atom ++ [.give (.atom q.name_atom)] else []) ++
      [.give (.cstring q.name_atom)]))

/-- `js_gcdump_get_node_name`, as the references it takes and gives back in
the order of its calls. The descriptor's references are taken when
`JS_GetOwnPropertyInternal` finds the property, and no branch frees them. -/
def js_gcdump_get_node_name_refs (q : NodeNameQuery) : List RefOp :=
  if q.is_proxy then js_gcdump_add_atom_refs q.proxy_atom
  else
    match q.own_name with
    | some desc =>
      take_value desc.value ++ take_value desc.getter ++ take_value desc.setter ++
        match desc.value with
        | .string s => js_gcdump_own_name_refs q s
        | _ => js_gcdump_ctor_name_refs q
    | none => js_gcdump_ctor_name_refs q

/-- What the call keeps: when it finds the own `name` of an object that is
not a Proxy, the descriptor's getter and setter, and its value unless that
value is a string. -/
def js_gcdump_get_node_name_kept (q : NodeNameQuery) : List RefOp :=
  if q.is_proxy then []
  else
    match q.own_name with
    | some desc =>
      (match desc.value with
        | .string _ => []
        | v => take_value v) ++ take_value desc.getter ++ take_value desc.setter
    | none => []

/-! ## What the namer leaves held -/

@[simp] theorem js_gcdump_add_atom_refs_balance (atom : Nat) (r : NameRef) :
    ref_balance (js_gcdump_add_atom_refs atom) r = 0 := by
  simp only [js_gcdump_add_atom_refs, ref_balance_cons, ref_balance_nil, RefOp.balance]
  split_ifs <;> rfl

@[simp] theorem js_gcdump_ctor_name_refs_balance (q : NodeNameQuery) (r : NameRef) :
    ref_balance (js_gcdump_ctor_name_refs q) r = 0 := by
  unfold js_gcdump_ctor_name_refs
  split_ifs <;> simp only [ref_balance_append, ref_balance_cons, ref_balance_give_value,
    js_gcdump_add_atom_refs_balance, RefOp.balance] <;> (try split_ifs) <;> omega

/-- The string branch gives back the string's reference and every reference it
takes after it. -/
theorem js_gcdump_own_name_refs_balance (q : NodeNameQuery) (s : Addr) (r : NameRef) :
    ref_balance (js_gcdump_own_name_refs q s) r = -ref_balance (take_value (.string s)) r := by
  simp only [js_gcdump_own_name_refs, take_value, JSValue.counted, ref_balance_cons,
    ref_balance_append, ref_balance_nil, RefOp.balance]
  split_ifs <;> simp only [ref_balance_append, js_gcdump_add_atom_refs_balance, ref_balance_cons,
    ref_balance_nil, RefOp.balance] <;> (try split_ifs) <;> omega

/-- **What the namer leaves held**: for every object and every answer of the
engine, the call gives back every reference it takes except those
`js_gcdump_get_node_name_kept` names, the descriptor's counted values when
the own `name` is found and is not a string. -/
theorem js_gcdump_get_node_name_balance (q : NodeNameQuery) (r : NameRef) :
    ref_balance (js_gcdump_get_node_name_refs q) r = ref_balance (js_gcdump_get_node_name_kept q) r := by
  unfold js_gcdump_get_node_name_refs js_gcdump_get_node_name_kept
  split_ifs
  · simp
  · rcases q.own_name with _ | ⟨v, g, s⟩
    · simp
    · cases v <;> simp [js_gcdump_own_name_refs_balance]
      omega

/-- **An own `name` that is not a string keeps a reference**: when the object
is not a Proxy and its own `name` is a data property whose value has a count
and is not a string (an object, a bytecode function, a symbol), the call
leaves one more reference on that value's cell than it found. -/
theorem js_gcdump_get_node_name_keeps_name (q : NodeNameQuery) {v : JSValue} {a : Addr}
    (hp : q.is_proxy = false) (hd : q.own_name = some ⟨v, .undefined, .undefined⟩)
    (hv : v.counted = some a) (hs : ∀ s, v ≠ .string s) :
    ref_balance (js_gcdump_get_node_name_refs q) (.cell a) = 1 := by
  rw [js_gcdump_get_node_name_balance]
  have hkept : js_gcdump_get_node_name_kept q = [.take (.cell a)] := by
    simp only [js_gcdump_get_node_name_kept, hp, hd, Bool.false_eq_true, if_false]
    simp only [take_value, hv]
    rfl
  simp [hkept, RefOp.balance]

/-- An object whose own `name` is the object at `7`. -/
def objectNameQuery : NodeNameQuery :=
  ⟨false, 1, some ⟨.object 7, .undefined, .undefined⟩, 0, .object 8, true, .string 9, 2, 3⟩

/-- The object at `7`, the own `name` of another, keeps one reference more
after the call. -/
theorem js_gcdump_get_node_name_keeps_name_object :
    objectNameQuery.is_proxy = false ∧
      objectNameQuery.own_name = some ⟨.object 7, .undefined, .undefined⟩ ∧
      (JSValue.object 7).counted = some 7 ∧ (∀ s, JSValue.object 7 ≠ .string s) ∧
      ref_balance (js_gcdump_get_node_name_refs objectNameQuery) (.cell 7) = 1 :=
  ⟨rfl, rfl, rfl, fun _ => JSValue.noConfusion,
    js_gcdump_get_node_name_keeps_name objectNameQuery rfl rfl rfl fun _ => JSValue.noConfusion⟩

end SlowJsGc

import Mathlib.Algebra.BigOperators.Group.List
import Mathlib.Algebra.Order.Ring.Nat
import Mathlib.Data.List.Perm.Basic

/-!
# The cell graph the collector walks

`gc.c` keeps every garbage-collected cell behind a `JSGCObjectHeader`
(`ref_count`, `mark`, `gc_obj_type`, `link`), and everything the collector
knows about a cell's contents it learns through two entry points:
`mark_children` (which calls a `JS_MarkFunc` once per outgoing strong
reference, in a fixed order) and the kind's free path (`free_object`,
`free_function_bytecode`, `free_var_ref`, and the shape, context and
async-function releases), which releases those references again.

This file fixes that interface. A `GcGraph` is the pair of traversals as lists
of cell addresses, together with the kind tag of every address; the collector
modules are stated over an arbitrary `GcGraph`, and `SlowJsGc.Cell` builds one
from the cell contents `mark_children` reads. The multiplicities matter: a
cell whose property slot and class data both hold the same object is counted
twice by `ref_count`, so `children` is a list, not a set, and the two
quantities everything below is phrased in, `indeg` and `Reach`, count and
follow edges with multiplicity.
-/

set_option autoImplicit false

namespace SlowJsGc

/-- Cell addresses. -/
abbrev Addr := Nat

/-- A mathematical integer stored in a 32-bit `int`: two's-complement wrap. -/
def int32_wrap (x : Int) : Int :=
  if x % 4294967296 < 2147483648 then x % 4294967296 else x % 4294967296 - 4294967296

/-- `JSGCObjectTypeEnum`: the `gc_obj_type` tag of a cell header. -/
inductive JSGCObjectTypeEnum where
  | JS_OBJECT
  | FUNCTION_BYTECODE
  | SHAPE
  | VAR_REF
  | ASYNC_FUNCTION
  | JS_CONTEXT
  deriving DecidableEq, Repr

namespace JSGCObjectTypeEnum

/-- The kinds a `JSValue` can point at: `JS_TAG_OBJECT` and
`JS_TAG_FUNCTION_BYTECODE`. These are the only kinds `gc_free_cycles` frees
itself and the only kinds `__JS_FreeValueRT` routes through
`gc_zero_ref_count_list`; every other kind is freed by its own release the
moment its count reaches zero. -/
def isValue : JSGCObjectTypeEnum → Bool
  | JS_OBJECT | FUNCTION_BYTECODE => true
  | _ => false

end JSGCObjectTypeEnum

/-- `JSGCPhaseEnum`: what the runtime is doing when a count reaches zero. -/
inductive JSGCPhaseEnum where
  | NONE
  | DECREF
  | REMOVE_CYCLES
  deriving DecidableEq, Repr

/-- The two traversals of every cell. `children p` is the sequence of headers
`mark_children(rt, p, mark_func)` hands to `mark_func`; `released p` is the
sequence of GC references the free path of `p` releases. -/
structure GcGraph where
  kind : Addr → JSGCObjectTypeEnum
  children : Addr → List Addr
  released : Addr → List Addr

namespace GcGraph

variable (G : GcGraph)

/-- Only a context holds a GC reference to a cell that is not an object or a
function bytecode, and then only to a var-ref or a shape. `mark_children`
passes a var-ref's value, a shape's prototype and an async function's values
through `JS_MarkValue`, which forwards nothing but objects and bytecode;
`JS_MarkContext` adds the module var-refs and the array shape. So the cells
the collector leaves to their own release never form a cycle among
themselves. -/
def WellKinded : Prop :=
  ∀ p c, c ∈ G.children p → (G.kind p).isValue = false →
    (G.kind c).isValue = true ∨
      (G.kind p = .JS_CONTEXT ∧ (G.kind c = .VAR_REF ∨ G.kind c = .SHAPE))

/-- Every free path releases exactly the references `mark_children`
enumerates, in whatever order. -/
def ReleasesChildren : Prop :=
  ∀ p, (G.released p).Perm (G.children p)

/-- The number of `mark_children` edges into `c` from the cells of `l`. -/
def indeg (l : List Addr) (c : Addr) : Nat :=
  (l.map fun p => (G.children p).count c).sum

@[simp] theorem indeg_nil (c : Addr) : G.indeg [] c = 0 := rfl

@[simp] theorem indeg_cons (p : Addr) (l : List Addr) (c : Addr) :
    G.indeg (p :: l) c = (G.children p).count c + G.indeg l c := by
  simp [indeg]

@[simp] theorem indeg_append (l₁ l₂ : List Addr) (c : Addr) :
    G.indeg (l₁ ++ l₂) c = G.indeg l₁ c + G.indeg l₂ c := by
  simp [indeg]

theorem indeg_perm {l₁ l₂ : List Addr} (h : l₁.Perm l₂) (c : Addr) :
    G.indeg l₁ c = G.indeg l₂ c :=
  (h.map _).sum_eq

/-- Splitting the sources of the edges by a test splits the in-degree. -/
theorem indeg_filter_add (l : List Addr) (P : Addr → Bool) (c : Addr) :
    G.indeg (l.filter P) c + G.indeg (l.filter fun p => !P p) c = G.indeg l c := by
  rw [← indeg_append]
  exact G.indeg_perm (List.filter_append_perm P l) c

/-- No edge from `l` lands on `c` exactly when `indeg` is zero. -/
theorem indeg_eq_zero_iff (l : List Addr) (c : Addr) :
    G.indeg l c = 0 ↔ ∀ p ∈ l, c ∉ G.children p := by
  induction l with
  | nil => simp
  | cons p l ih => simp [ih, List.count_eq_zero]

/-- Cells reachable along `mark_children` edges from a cell of `L` with a
positive external count. -/
inductive Reach (L : List Addr) (ext : Addr → Nat) : Addr → Prop where
  | root {c : Addr} : c ∈ L → 0 < ext c → Reach L ext c
  | child {p c : Addr} : Reach L ext p → c ∈ G.children p → Reach L ext c

end GcGraph

end SlowJsGc

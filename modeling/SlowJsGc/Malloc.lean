import Mathlib.Algebra.Order.Ring.Int
import SlowJsGc.Heap

/-!
# The array grower

`js_realloc_array` grows a dynamic array: it asks for
`max_int(req_size, *psize * 3 / 2)` elements through `js_realloc2`, which
passes the byte count to the runtime's `js_realloc` hook and reports the
slack the block has beyond it, and then folds the slack back into the
capacity `*psize`. The sizes are C `int`s, and the comment in the function
says the arithmetic is unchecked.

`int` arithmetic is two's-complement 32-bit here (`int32_wrap`), `size_t`
64-bit (`size_t_of_int`), so a negative `int` turns into a huge request.
The allocator is the pair of `JSMallocFunctions` hooks the grower reaches; a
block is known by its capacity, and `JSMallocFunctions.WF` is what every
allocator promises: a block it returns holds the bytes requested, and the
usable size it reports is no larger than the block.

When the request `new_size * elem_size` fits in an `int` and the block in
an `int`'s range, the grower does what it says (`js_realloc_array_of_fits`):
the new capacity covers the request and the block covers the new capacity.
When the request does not fit, the product wraps
(`js_realloc_array_wraps`).
-/

set_option autoImplicit false

namespace SlowJsGc

/-! ## The model -/

/-- `INT_MAX`. -/
def INT_MAX : Int := 2147483647

/-- An `int` converted to the 64-bit `size_t`. -/
def size_t_of_int (x : Int) : Nat := (x % 18446744073709551616).toNat

/-- `max_int`. -/
def max_int (a b : Int) : Int := if a > b then a else b

/-- The two hooks of `rt->mf` the grower reaches. A block is known by its
capacity. -/
structure JSMallocFunctions where
  /-- `js_realloc` on the block `ptr` (`none` for `NULL`) with a request of
  `size` bytes: the new block, or `none` for `NULL`. -/
  js_realloc : Option Nat → Nat → Option Nat
  /-- `js_malloc_usable_size` of a block. -/
  js_malloc_usable_size : Nat → Nat

/-- What every allocator promises: a returned block holds the bytes
requested, and the usable size it reports is no larger than the block
(`js_malloc_usable_size_unknown` reports `0`). -/
structure JSMallocFunctions.WF (mf : JSMallocFunctions) : Prop where
  realloc_size : ∀ ptr size cap, mf.js_realloc ptr size = some cap → size ≤ cap
  usable_le : ∀ cap, mf.js_malloc_usable_size cap ≤ cap

/-- `js_realloc2`: the block and the slack it stores in `*pslack`, or `none`
when `js_realloc` returns `NULL` (it then throws out of memory unless
`size` is `0`). -/
def js_realloc2 (mf : JSMallocFunctions) (ptr : Option Nat) (size : Nat) : Option (Nat × Nat) :=
  match mf.js_realloc ptr size with
  | none => none
  | some ret =>
    some (ret, if mf.js_malloc_usable_size ret > size then mf.js_malloc_usable_size ret - size else 0)

/-- The capacity `js_realloc_array` asks for: `max_int(req_size, *psize * 3 / 2)`. -/
def js_realloc_array_new_size (psize req_size : Int) : Int :=
  max_int req_size (Int.tdiv (int32_wrap (psize * 3)) 2)

/-- `js_realloc_array`: `none` when it returns `-1`, leaving `*psize` and
`*parray` alone; else the new `*psize` and `*parray`. The sum
`new_size + slack / elem_size` is taken in `size_t` and stored in the
`int`. -/
def js_realloc_array (mf : JSMallocFunctions) (parray : Option Nat) (elem_size psize req_size : Int) :
    Option (Int × Nat) :=
  match js_realloc2 mf parray
      (size_t_of_int (int32_wrap (js_realloc_array_new_size psize req_size * elem_size))) with
  | none => none
  | some (new_array, slack) =>
    some (int32_wrap (size_t_of_int (js_realloc_array_new_size psize req_size) +
      slack / size_t_of_int elem_size : Nat), new_array)

/-! ## The grower when nothing wraps -/

theorem int32_wrap_of_range {x : Int} (h₀ : -2147483648 ≤ x) (h₁ : x ≤ INT_MAX) :
    int32_wrap x = x := by
  unfold int32_wrap INT_MAX at *
  split_ifs <;> omega

theorem size_t_of_int_of_nonneg {x : Int} (h₀ : 0 ≤ x) (h₁ : x ≤ INT_MAX) :
    (size_t_of_int x : Int) = x := by
  unfold size_t_of_int INT_MAX at *
  omega

theorem le_js_realloc_array_new_size (psize req_size : Int) :
    req_size ≤ js_realloc_array_new_size psize req_size := by
  unfold js_realloc_array_new_size max_int
  split_ifs <;> omega

theorem js_realloc2_eq_some {mf : JSMallocFunctions} {ptr : Option Nat} {size b slack : Nat}
    (h : js_realloc2 mf ptr size = some (b, slack)) :
    mf.js_realloc ptr size = some b ∧ size + slack ≤ max size (mf.js_malloc_usable_size b) := by
  unfold js_realloc2 at h
  split at h
  · cases h
  · cases h
    refine ⟨by assumption, ?_⟩
    split_ifs <;> omega

/-- **The grower when its request fits.** For a non-negative capacity, a
larger request, an allocator that keeps its promises, a request
`new_size * elem_size` within `INT_MAX` and a block no larger than
`INT_MAX`: when `js_realloc_array` returns `0`, the new capacity is at least
the request and the block holds that many elements. -/
theorem js_realloc_array_of_fits {mf : JSMallocFunctions} (hmf : mf.WF) {parray : Option Nat}
    {elem_size psize req_size : Int} (he : 0 < elem_size) (hp : 0 ≤ psize) (hr : psize < req_size)
    (hfit : js_realloc_array_new_size psize req_size * elem_size ≤ INT_MAX)
    {psize' : Int} {new_array : Nat}
    (hret : js_realloc_array mf parray elem_size psize req_size = some (psize', new_array))
    (hcap : new_array ≤ INT_MAX) :
    req_size ≤ psize' ∧ psize' * elem_size ≤ new_array := by
  have hn := le_js_realloc_array_new_size psize req_size
  unfold js_realloc_array at hret
  generalize js_realloc_array_new_size psize req_size = n at hn hfit hret
  have hne : n ≤ n * elem_size := le_mul_of_one_le_right (by omega) he
  rw [int32_wrap_of_range (by omega) hfit] at hret
  split at hret
  · cases hret
  · rename_i b slack hb
    obtain ⟨hre, hsl⟩ := js_realloc2_eq_some hb
    obtain ⟨rfl, rfl⟩ := Prod.mk.inj (Option.some.inj hret)
    have hee : elem_size ≤ n * elem_size := le_mul_of_one_le_left (by omega) (by omega)
    have hS := size_t_of_int_of_nonneg (x := n * elem_size) (by omega) hfit
    have hN := size_t_of_int_of_nonneg (x := n) (by omega) (by omega)
    have hE := size_t_of_int_of_nonneg (x := elem_size) (by omega) (by omega)
    -- The block holds the request and the slack.
    have hsb : size_t_of_int (n * elem_size) + slack ≤ b :=
      hsl.trans (max_le (hmf.realloc_size _ _ _ hre) (hmf.usable_le b))
    -- The slack in whole elements, and their bytes, are at most the slack.
    generalize hq : slack / size_t_of_int elem_size = q
    have hq₁ : q ≤ slack := hq ▸ Nat.div_le_self _ _
    have hq₂ : (q : Int) * elem_size ≤ slack := by
      rw [← hE]; exact_mod_cast hq ▸ Nat.div_mul_le_self slack (size_t_of_int elem_size)
    rw [int32_wrap_of_range (by omega) (by push_cast; omega)]
    push_cast
    exact ⟨by omega, by rw [hN, add_mul]; omega⟩

/-- Growing a two-element array of four-byte elements to three, through an
allocator that returns exactly the bytes asked for. -/
theorem js_realloc_array_of_fits_three :
    (⟨fun _ size => some size, id⟩ : JSMallocFunctions).WF ∧ (0 : Int) < 4 ∧ (0 : Int) ≤ 2 ∧
      (2 : Int) < 3 ∧ js_realloc_array_new_size 2 3 * 4 ≤ INT_MAX ∧
      js_realloc_array ⟨fun _ size => some size, id⟩ none 4 2 3 = some (3, 12) ∧
      ((12 : Nat) : Int) ≤ INT_MAX ∧ (3 : Int) ≤ 3 ∧ (3 : Int) * 4 ≤ ((12 : Nat) : Int) :=
  have hmf : (⟨fun _ size => some size, id⟩ : JSMallocFunctions).WF :=
    ⟨fun _ _ _ h => by cases h; exact le_rfl, fun _ => le_rfl⟩
  have hret : js_realloc_array ⟨fun _ size => some size, id⟩ none 4 2 3 = some (3, 12) := by decide
  ⟨hmf, by decide, by decide, by decide, by decide, hret, by decide,
    js_realloc_array_of_fits hmf (by decide) (by decide) (by decide) (by decide) hret (by decide)⟩

/-! ## The grower when the request wraps -/

/-- An allocator that returns a block of exactly the bytes asked for and
reports its size. -/
def exactMalloc : JSMallocFunctions := ⟨fun _ size => some size, id⟩

/-- An allocator that returns eight bytes more than asked for and reports
them. -/
def roomyMalloc : JSMallocFunctions := ⟨fun _ size => some (size + 8), id⟩

/-- **The request wraps.** Growing an empty array of four-byte elements to
`2^30 + 1` elements asks `js_realloc` for `4` bytes, since the product
`(2^30 + 1) * 4` wraps to `4`; the grower returns `0` and reports a capacity
of `2^30 + 1` elements for a block of four bytes. And growing an empty byte
array to `INT_MAX` through an allocator with eight bytes of slack stores
`INT_MAX + 8` in the `int`: the new capacity is negative. -/
theorem js_realloc_array_wraps :
    exactMalloc.WF ∧ js_realloc_array exactMalloc none 4 0 1073741825 = some (1073741825, 4) ∧
      roomyMalloc.WF ∧
      js_realloc_array roomyMalloc none 1 0 2147483647 = some (-2147483641, 2147483655) :=
  ⟨⟨fun _ _ _ h => by cases h; exact le_rfl, fun _ => le_rfl⟩, by decide,
    ⟨fun _ _ _ h => by cases h; omega, fun _ => le_rfl⟩, by decide⟩

end SlowJsGc

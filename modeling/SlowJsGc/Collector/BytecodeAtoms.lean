import Mathlib.Data.List.GetD
import SlowJsGc.Heap

/-!
# The atoms of a bytecode stream

`free_function_bytecode` starts with `free_bytecode_atoms`, which walks the
instruction stream `byte_code_buf` of `byte_code_len` bytes and hands
`JS_FreeAtomRT` the atom operand of every instruction whose format carries
one. The walk trusts the stream: it reads the opcode byte at `pos`, looks up
its size and format in the opcode table (`short_opcode_info` for the short
opcodes of a finished function), and jumps by the size. Nothing checks that
the jump lands on the next instruction or that the operand lies inside the
buffer.

The opcode tables are defined outside `gc.c`, so they are parameters here.
`free_bytecode_atoms_stream` holds for every table whose sizes are positive
and whose atom formats span the opcode byte and a `u32` operand: on a
buffer that is a concatenation of complete instructions the walk stops,
reads no byte at or past `bc_len`, stands at exactly the starts of the
instructions, and hands on the `u32` at offset `1` of each atom-format
instruction, once each, in stream order.

The loop carries fuel. A table entry of size `0` makes the C loop spin
forever, and `bc_len + 1` rounds are enough for every walk that advances,
so `free_bytecode_atoms` gives up after that many.
-/

set_option autoImplicit false

namespace SlowJsGc

/-! ## The walk -/

/-- `JSOpCode.fmt`. Only the five formats with an atom operand are told
apart; every other format falls to the switch's `default`. -/
inductive OPFmt where
  | atom
  | atom_u8
  | atom_u16
  | atom_label_u8
  | atom_label_u16
  | other
  deriving DecidableEq, Repr

/-- The `case` labels of the switch in `free_bytecode_atoms`. -/
def OPFmt.has_atom : OPFmt → Bool
  | .other => false
  | _ => true

/-- `JSOpCode`, the two fields `free_bytecode_atoms` reads. -/
structure JSOpCode where
  size : Nat
  fmt : OPFmt
  deriving DecidableEq, Repr

/-- The two opcode tables, `opcode_info` and the one `short_opcode_info`
reads through. -/
structure JSOpCodeTables where
  opcode_info : Nat → JSOpCode
  short_opcode_info : Nat → JSOpCode

/-- The entry `free_bytecode_atoms` reads for `op`. -/
def JSOpCodeTables.info (t : JSOpCodeTables) (use_short_opcodes : Bool) (op : Nat) : JSOpCode :=
  if use_short_opcodes then t.short_opcode_info op else t.opcode_info op

/-- `get_u32`: the little-endian word at `off`. -/
def get_u32 (buf : List UInt8) (off : Nat) : Nat :=
  (buf.getD off 0).toNat + 256 * (buf.getD (off + 1) 0).toNat +
    65536 * (buf.getD (off + 2) 0).toNat + 16777216 * (buf.getD (off + 3) 0).toNat

/-- One round of the loop: the offset `pos`, the byte offsets it reads and
the atom it hands `JS_FreeAtomRT`. -/
structure AtomStep where
  pos : Nat
  reads : List Nat
  atom : Option Nat
  deriving DecidableEq, Repr

/-- The round at `pos`: the opcode byte, and for an atom format the `u32`
after it. -/
def atom_step (oi : Nat → JSOpCode) (bc_buf : List UInt8) (pos : Nat) : AtomStep :=
  if (oi (bc_buf.getD pos 0).toNat).fmt.has_atom
  then ⟨pos, [pos, pos + 1, pos + 2, pos + 3, pos + 4], some (get_u32 bc_buf (pos + 1))⟩
  else ⟨pos, [pos], none⟩

/-- The `while (pos < bc_len)` loop, with `fuel` rounds: `none` when they run
out. -/
def free_bytecode_atoms_loop (oi : Nat → JSOpCode) (bc_buf : List UInt8) (bc_len : Nat) :
    Nat → Nat → Option (List AtomStep)
  | 0, _ => none
  | fuel + 1, pos =>
    if pos < bc_len then
      (free_bytecode_atoms_loop oi bc_buf bc_len fuel
        (pos + (oi (bc_buf.getD pos 0).toNat).size)).map (atom_step oi bc_buf pos :: ·)
    else some []

/-- `free_bytecode_atoms`: the rounds of the walk, in order. -/
def free_bytecode_atoms (t : JSOpCodeTables) (bc_buf : List UInt8) (bc_len : Nat)
    (use_short_opcodes : Bool) : Option (List AtomStep) :=
  free_bytecode_atoms_loop (t.info use_short_opcodes) bc_buf bc_len (bc_len + 1) 0

/-! ## Streams of complete instructions -/

/-- What the walk needs of an opcode table: every size is positive, and an
atom format spans the opcode byte and its `u32`. -/
structure OpcodeTableWF (oi : Nat → JSOpCode) : Prop where
  size_pos : ∀ op : UInt8, 1 ≤ (oi op.toNat).size
  atom_size : ∀ op : UInt8, (oi op.toNat).fmt.has_atom → 5 ≤ (oi op.toNat).size

/-- A complete instruction: its opcode byte, then as many bytes as the table
gives the opcode. -/
def IsInstr (oi : Nat → JSOpCode) (ins : List UInt8) : Prop :=
  ins.length = (oi (ins.headD 0).toNat).size

instance (oi : Nat → JSOpCode) (ins : List UInt8) : Decidable (IsInstr oi ins) :=
  inferInstanceAs (Decidable (_ = _))

/-- The offsets at which the instructions of a stream start. -/
def instr_starts : Nat → List (List UInt8) → List Nat
  | _, [] => []
  | pos, ins :: rest => pos :: instr_starts (pos + ins.length) rest

/-- The atom operand of an atom-format instruction, the `u32` at its offset
`1`. -/
def instr_atom (oi : Nat → JSOpCode) (ins : List UInt8) : Option Nat :=
  if (oi (ins.headD 0).toNat).fmt.has_atom then some (get_u32 ins 1) else none

section stream

variable {oi : Nat → JSOpCode}

theorem getD_append_middle (pre ins post : List UInt8) {j : Nat} (hj : j < ins.length) :
    (pre ++ (ins ++ post)).getD (pre.length + j) 0 = ins.getD j 0 := by
  rw [List.getD_append_right _ _ _ _ (by omega), Nat.add_sub_cancel_left,
    List.getD_append _ _ _ _ hj]

/-- The opcode of an instruction met at offset `pre.length` is its first byte. -/
theorem getD_append_head (pre ins post : List UInt8) (h : 0 < ins.length) :
    (pre ++ (ins ++ post)).getD pre.length 0 = ins.headD 0 := by
  have := getD_append_middle pre ins post h
  rw [Nat.add_zero] at this
  rw [this]
  cases ins with
  | nil => exact absurd h (Nat.lt_irrefl 0)
  | cons => rfl

theorem get_u32_append_middle (pre ins post : List UInt8) (h : 5 ≤ ins.length) :
    get_u32 (pre ++ (ins ++ post)) (pre.length + 1) = get_u32 ins 1 := by
  have hm := fun j (hj : j < ins.length) => getD_append_middle pre ins post hj
  simp only [get_u32, Nat.add_assoc, hm 1 (by omega), hm 2 (by omega), hm 3 (by omega),
    hm 4 (by omega)]

/-- **One round on a complete instruction** at offset `pre.length`: it reads
inside the instruction and hands on the instruction's atom. -/
theorem atom_step_instr (hwf : OpcodeTableWF oi) {ins : List UInt8} (hins : IsInstr oi ins)
    (pre post : List UInt8) :
    (atom_step oi (pre ++ (ins ++ post)) pre.length).pos = pre.length ∧
      (∀ r ∈ (atom_step oi (pre ++ (ins ++ post)) pre.length).reads,
        pre.length ≤ r ∧ r < pre.length + ins.length) ∧
      (atom_step oi (pre ++ (ins ++ post)) pre.length).atom = instr_atom oi ins := by
  have hpos : 0 < ins.length := hins ▸ hwf.size_pos _
  unfold atom_step instr_atom
  rw [getD_append_head pre ins post hpos]
  split_ifs with ha
  · have h5 : 5 ≤ ins.length := hins ▸ hwf.atom_size _ ha
    refine ⟨rfl, fun r hr => ?_, by rw [get_u32_append_middle pre ins post h5]⟩
    simp only [List.mem_cons, List.mem_singleton, List.not_mem_nil, or_false] at hr
    omega
  · refine ⟨rfl, fun r hr => ?_, rfl⟩
    rw [List.mem_singleton.1 hr]
    omega

/-- **The loop on a stream of complete instructions**, entered after the
bytes `pre`: with more rounds of fuel than bytes left it stops, stands at
the instruction starts, reads only bytes after `pre` and below the end, and
hands on the instructions' atoms in order. -/
theorem free_bytecode_atoms_loop_instrs (hwf : OpcodeTableWF oi) :
    ∀ (instrs : List (List UInt8)) (pre : List UInt8) (fuel : Nat),
      (∀ ins ∈ instrs, IsInstr oi ins) → instrs.flatten.length < fuel →
      ∃ steps, free_bytecode_atoms_loop oi (pre ++ instrs.flatten)
          (pre ++ instrs.flatten).length fuel pre.length = some steps ∧
        steps.map AtomStep.pos = instr_starts pre.length instrs ∧
        (∀ r ∈ steps.flatMap AtomStep.reads, pre.length ≤ r ∧ r < (pre ++ instrs.flatten).length) ∧
        steps.filterMap AtomStep.atom = instrs.filterMap (instr_atom oi)
  | [], pre, fuel + 1, _, _ => ⟨[], by simp [free_bytecode_atoms_loop], rfl, by simp, rfl⟩
  | ins :: rest, pre, fuel + 1, hins, hfuel => by
    have hi : IsInstr oi ins := hins ins (List.mem_cons_self _ _)
    have hpos : 0 < ins.length := hi ▸ hwf.size_pos _
    obtain ⟨hp, hr, ha⟩ := atom_step_instr hwf hi pre rest.flatten
    have hsize : (oi ((pre ++ (ins ++ rest.flatten)).getD pre.length 0).toNat).size = ins.length := by
      rw [hi, getD_append_head pre ins _ hpos]
    obtain ⟨steps, hrun, hvis, hreads, hatoms⟩ := free_bytecode_atoms_loop_instrs hwf rest
      (pre ++ ins) fuel (fun i h => hins i (List.mem_cons_of_mem _ h))
      (by simp only [List.flatten_cons, List.length_append] at hfuel; omega)
    simp only [List.flatten_cons, List.append_assoc, List.length_append] at hrun hreads ⊢
    refine ⟨atom_step oi (pre ++ (ins ++ rest.flatten)) pre.length :: steps, ?_, ?_, ?_, ?_⟩
    · rw [free_bytecode_atoms_loop, if_pos (by omega), hsize, hrun]; rfl
    · simp [hp, hvis, instr_starts]
    · intro r hr'
      rw [List.flatMap_cons, List.mem_append] at hr'
      rcases hr' with hr' | hr'
      · have := hr r hr'; omega
      · have := hreads r hr'; omega
    · simp only [List.filterMap_cons, ha, hatoms]

end stream

/-- **`free_bytecode_atoms` on a stream of complete instructions.** For every
pair of tables and every choice of `use_short_opcodes` whose table has
positive sizes and atom formats of at least five bytes, and every buffer
that is a concatenation of complete instructions under it, the walk over
the whole buffer stops, stands at exactly the instruction starts, reads
only bytes below `bc_len`, and hands `JS_FreeAtomRT` the `u32` at offset `1`
of each atom-format instruction, once each and in order. -/
theorem free_bytecode_atoms_stream (t : JSOpCodeTables) (use_short_opcodes : Bool)
    (hwf : OpcodeTableWF (t.info use_short_opcodes)) (instrs : List (List UInt8))
    (hins : ∀ ins ∈ instrs, IsInstr (t.info use_short_opcodes) ins) :
    ∃ steps, free_bytecode_atoms t instrs.flatten instrs.flatten.length use_short_opcodes =
        some steps ∧
      steps.map AtomStep.pos = instr_starts 0 instrs ∧
      (∀ r ∈ steps.flatMap AtomStep.reads, r < instrs.flatten.length) ∧
      steps.filterMap AtomStep.atom = instrs.filterMap (instr_atom (t.info use_short_opcodes)) := by
  obtain ⟨steps, hrun, hvis, hreads, hatoms⟩ :=
    free_bytecode_atoms_loop_instrs hwf instrs [] _ hins (Nat.lt_succ_self _)
  exact ⟨steps, hrun, hvis, fun r hr => (hreads r hr).2, hatoms⟩

/-- Tables in which opcode `1` carries an atom in five bytes and every other
opcode is one byte long. -/
def atomTables : JSOpCodeTables where
  opcode_info op := if op = 1 then ⟨5, .atom⟩ else ⟨1, .other⟩
  short_opcode_info op := if op = 1 then ⟨5, .atom⟩ else ⟨1, .other⟩

theorem atomTables_wf : OpcodeTableWF (atomTables.info true) := by
  constructor <;> intro op <;> by_cases h : op.toNat = 1 <;>
    simp [JSOpCodeTables.info, atomTables, h, OPFmt.has_atom]

theorem free_bytecode_atoms_stream_atomTables :
    OpcodeTableWF (atomTables.info true) ∧
      (∀ ins ∈ [[1, 7, 0, 0, 0], [0], [1, 0, 1, 0, 0]], IsInstr (atomTables.info true) ins) ∧
      ∃ steps, free_bytecode_atoms atomTables [[1, 7, 0, 0, 0], [0], [1, 0, 1, 0, 0]].flatten
          [[1, 7, 0, 0, 0], [0], [1, 0, 1, 0, 0]].flatten.length true = some steps ∧
        steps.map AtomStep.pos = instr_starts 0 [[1, 7, 0, 0, 0], [0], [1, 0, 1, 0, 0]] ∧
        (∀ r ∈ steps.flatMap AtomStep.reads, r < [[1, 7, 0, 0, 0], [0], [1, 0, 1, 0, 0]].flatten.length) ∧
        steps.filterMap AtomStep.atom =
          [[1, 7, 0, 0, 0], [0], [1, 0, 1, 0, 0]].filterMap (instr_atom (atomTables.info true)) :=
  ⟨atomTables_wf, by decide,
    free_bytecode_atoms_stream atomTables true atomTables_wf _ (by decide)⟩

example : [[(1 : UInt8), 7, 0, 0, 0], [0], [1, 0, 1, 0, 0]].filterMap (instr_atom (atomTables.info true)) =
    [7, 256] := by decide

end SlowJsGc

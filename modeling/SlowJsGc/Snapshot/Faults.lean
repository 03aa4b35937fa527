import SlowJsGc.Snapshot.Walk

/-!
# When the dumper reads memory as what it is not

`js_gcdump_process_obj` picks its reading of what it is handed by the tag of
the slot being walked, and with no slot it reads the memory as a GC header.
Three of its readings misread: a var-ref handed with its slot's stale tag
word, a string walked outside a slot, and an integer's stack copy walked
outside a slot. `gcdump_children` aborts on a cell of no kind and asserts that
a listed var-ref is detached. The model sets the state's `fault` at each of
these.

This file says when none of them happens. `CellDumpOk` is what the turn of
one listed cell needs, read off the cell's contents. Each function of the walk
keeps `fault` when what it hands on reads as what it is, one lemma per
function. Over a `gc_obj_list` of such cells the dump ends with `fault` false
(`__js_gcdump_objects_fault`). A var-ref holding the string `'abc'` or the
integer `7` is not such a cell, and the dump of it faults
(`__js_gcdump_objects_var_ref_fault`): the string's length `3` reads as the
var-ref kind, and the integer's copy reads as an object not yet sized.
-/

set_option autoImplicit false

namespace SlowJsGc

/-! ## What reads as what it is -/

section ok

variable (env : DumpEnv) (h : JSHeap)

/-- What `js_gcdump_process_obj` is handed, read as a GC header, takes a
branch that reads it as what it is. It is a GC cell, or it is memory whose
bits where a header keeps `gc_obj_type` name none of the kinds the switch
reads on: a string's length, an integer's stack copy. -/
def HeaderOk : DumpKey → Prop
  | .cell a =>
    match h.cell a with
    | .other => 4 ≤ env.string_len a % 16
    | _ => True
  | .stack => 4 ≤ env.stack_obj_type % 16
  | _ => False

/-- What `js_gcdump_process_obj` is handed is what the slot's tag says: the
string a string slot points at, the stack copy of an integer slot's value,
or memory that reads as a header. -/
def FillOk (cell : DumpKey) (dctx : JS_GCDumpFuncContext) : Prop :=
  match dctx.slot_tag env with
  | .STRING => ∃ s, dctx.pr = some (.value (.string s)) ∧ cell = .cell s ∧ h.cell s = .other
  | .INT => (∃ n, dctx.pr = some (.value (.int n))) ∧ cell = .stack
  | .other => HeaderOk env h cell

/-- What `JS_GCDumpValue` hands on from `v` outside a slot reads as a
header. -/
def BareOk (v : JSValue) : Prop :=
  match v with
  | .object p | .function_bytecode p | .string p => HeaderOk env h (.cell p)
  | .int _ => HeaderOk env h .stack
  | _ => True

/-- `gcdump_prop` reads what the slot holds as what it is: a string slot
points at a string, and the slot of a detached var-ref has a tag word that is
neither a string's nor an integer's. -/
def SlotOk (prs : JSShapeProperty) (pr : JSProperty) : Prop :=
  prs.atom ≠ JS_ATOM_NULL →
    match prs.flags, pr with
    | .normal, .value (.string s) => h.cell s = .other
    | .normal, .value (.object p) | .normal, .value (.function_bytecode p) => HeaderOk env h (.cell p)
    | .getset, .getset getter setter =>
      (∀ g ∈ getter, HeaderOk env h (.cell g)) ∧ ∀ s ∈ setter, HeaderOk env h (.cell s)
    | .varref, .var_ref r => h.is_detached r → env.varref_slot_tag r = .other
    | .autoinit, .init realm => HeaderOk env h (.cell realm)
    | _, _ => True

/-- **The turn of a listed cell reads nothing as what it is not.** The cell
is a GC cell, a var-ref is detached, and everything `gcdump_children` hands
on reads as what it is. -/
def CellDumpOk (gp : Addr) : Prop :=
  match h.cell gp with
  | .object p => ∀ x ∈ (h.get_shape_prop p.shape).zip p.prop, SlotOk env h x.1 x.2
  | .function_bytecode b =>
    (∀ v ∈ b.cpool, BareOk env h v) ∧ ∀ a ∈ b.realm, HeaderOk env h (.cell a)
  | .var_ref r => r.is_detached ∧ BareOk env h r.value
  | .async_function s =>
    (s.is_active → ∀ v ∈ s.frame, BareOk env h v) ∧ BareOk env h s.resolving_funcs.1 ∧
      BareOk env h s.resolving_funcs.2
  | .shape sh => ∀ a ∈ sh.proto, HeaderOk env h (.cell a)
  | .context ctx =>
    (∀ x ∈ context_named_head ctx ++ context_named_tail ctx, BareOk env h x.2) ∧
      (∀ v ∈ ctx.native_error_proto ++ ctx.class_proto, BareOk env h v) ∧
      ∀ a ∈ ctx.array_shape, HeaderOk env h (.cell a)
  | .other => False

variable {env h}

/-- Outside a slot, what is handed on is read as a header. -/
theorem fillOk_of_prs {dctx : JS_GCDumpFuncContext} (hd : dctx.prs = none) {cell : DumpKey} :
    FillOk env h cell dctx ↔ HeaderOk env h cell := by
  simp [FillOk, JS_GCDumpFuncContext.slot_tag, hd]

theorem headerOk_of_cell {a : Addr} (ha : h.cell a ≠ .other) : HeaderOk env h (.cell a) := by
  cases hc : h.cell a <;> simp [HeaderOk, hc] at ha ⊢

theorem headerOk_of_detached {r : Addr} (hr : h.is_detached r) : HeaderOk env h (.cell r) :=
  headerOk_of_cell fun ho => by simp [JSHeap.is_detached, ho] at hr

end ok

/-! ## The steps that read no memory -/

section walk

variable (env : DumpEnv) (h : JSHeap) {jc : Addr} {dc : JSGCDumpContext}

/-- A loop whose every turn keeps `fault` keeps it. -/
theorem foldl_fault {α : Type} {f : JSGCDumpContext → α → JSGCDumpContext} {l : List α}
    (hf : ∀ dc, ∀ x ∈ l, (f dc x).fault = dc.fault) : (l.foldl f dc).fault = dc.fault :=
  List.foldlRecOn (motive := fun s => s.fault = dc.fault) l f dc rfl fun _ hs x hx =>
    (hf _ x hx).trans hs

@[simp] theorem js_gcdump_edge_to_fault (i t : Nat) (s : Bytes) (k : DumpKey) :
    (js_gcdump_edge_to dc i t s k).fault = dc.fault := by
  simp [js_gcdump_edge_to]

@[simp] theorem js_gcdump_proto_shape_fault (node_i : Nat) (p : JSObject) :
    (js_gcdump_proto_shape h dc node_i p).fault = dc.fault := by
  simp [js_gcdump_proto_shape]

@[simp] theorem js_gcdump_typed_array_fault (node_i : Nat) (a : Addr) (p : JSObject) :
    (js_gcdump_typed_array dc node_i a p).fault = dc.fault := by
  unfold js_gcdump_typed_array
  split_ifs <;> simp

@[simp] theorem js_gcdump_code_fault (node_i : Nat) (a : Addr) (p : JSObject) :
    (js_gcdump_code env dc node_i a p).fault = dc.fault := by
  unfold js_gcdump_code
  split_ifs <;> simp

@[simp] theorem js_gcdump_name_once_fault (node_i : Nat) (name : Bytes) :
    (js_gcdump_name_once dc node_i name).fault = dc.fault := by
  unfold js_gcdump_name_once
  split_ifs <;> simp

@[simp] theorem js_gcdump_elements_fault (node_i : Nat) (a : Addr) :
    (js_gcdump_elements env dc node_i a).fault = dc.fault := by
  unfold js_gcdump_elements
  split_ifs
  · exact foldl_fault fun _ _ _ => by simp [js_gcdump_element]
  · rfl

@[simp] theorem js_gcdump_object_first_fault (node_i : Nat) (a : Addr) (p : JSObject) :
    (js_gcdump_object_first env h jc dc node_i a p).fault = dc.fault := by
  simp [js_gcdump_object_first, js_gcdump_object_name]

@[simp] theorem js_gcdump_shape_fault (node_i : Nat) (a : Addr) (sh : JSShape) :
    (js_gcdump_shape env dc node_i a sh).fault = dc.fault := by
  unfold js_gcdump_shape js_gcdump_shape_props
  dsimp only
  split_ifs
  · exact (foldl_fault fun _ _ _ => by simp [js_gcdump_shape_prop, js_gcdump_add_atom]).trans (by simp)
  · simp

@[simp] theorem js_gcdump_edge_label_fault (dctx : JS_GCDumpFuncContext) :
    (js_gcdump_edge_label env dc dctx).2.2.fault = dc.fault := by
  unfold js_gcdump_edge_label
  dsimp only
  split_ifs <;> simp [js_gcdump_add_atom]

@[simp] theorem js_gcdump_parent_edge_fault (node_i : Nat) (dctx : JS_GCDumpFuncContext) :
    (js_gcdump_parent_edge env dc node_i dctx).fault = dc.fault := by
  unfold js_gcdump_parent_edge
  split_ifs <;> simp

/-! ## The steps that read what they are handed -/

/-- Bits of `4` or more name a kind the switch of `js_gcdump_process_obj` has
no case for, or no kind. -/
theorem JSGCObjectTypeEnum.ofBits_of_four_le {t : Nat} (ht : 4 ≤ t) :
    JSGCObjectTypeEnum.ofBits t = none ∨ JSGCObjectTypeEnum.ofBits t = some .ASYNC_FUNCTION ∨
      JSGCObjectTypeEnum.ofBits t = some .JS_CONTEXT := by
  unfold JSGCObjectTypeEnum.ofBits
  split <;> first | omega | simp

theorem js_gcdump_misread_fault {t : Nat} (ht : 4 ≤ t) (node_i : Nat) :
    (js_gcdump_misread dc node_i t).fault = dc.fault := by
  unfold js_gcdump_misread
  rcases JSGCObjectTypeEnum.ofBits_of_four_le ht with ht | ht | ht <;> rw [ht]

theorem js_gcdump_header_fault {a : Addr} (ha : HeaderOk env h (.cell a)) (node_i : Nat) :
    (js_gcdump_header env h jc dc node_i a).fault = dc.fault := by
  unfold js_gcdump_header
  split
  · split_ifs <;> simp
  · split <;> simp
  · simp
  · simp
  · rfl
  · rfl
  · next ho =>
    simp only [HeaderOk, ho] at ha
    exact js_gcdump_misread_fault ha node_i

theorem js_gcdump_fill_node_fault {cell : DumpKey} {dctx : JS_GCDumpFuncContext}
    (hf : FillOk env h cell dctx) (node_i : Nat) :
    (js_gcdump_fill_node env h jc dc node_i cell dctx).fault = dc.fault := by
  unfold FillOk at hf
  unfold js_gcdump_fill_node
  split
  · next ht =>
    rw [ht] at hf
    obtain ⟨s, hpr, rfl, hs⟩ := hf
    simp [hpr, hs]
  · next ht =>
    rw [ht] at hf
    obtain ⟨⟨n, hpr⟩, rfl⟩ := hf
    simp [hpr]
  · next ht =>
    rw [ht] at hf
    cases cell with
    | cell a => exact js_gcdump_header_fault env h hf node_i
    | stack => exact js_gcdump_misread_fault hf node_i
    | _ => exact hf.elim

theorem js_gcdump_process_obj_fault {cell : DumpKey} {dctx : JS_GCDumpFuncContext}
    (hf : FillOk env h cell dctx) : (js_gcdump_process_obj env h jc dc cell dctx).fault = dc.fault := by
  simp [js_gcdump_process_obj, js_gcdump_fill_node_fault env h hf]

theorem JS_GCDumpValue_fault {v : JSValue} {dctx : JS_GCDumpFuncContext} (hd : dctx.prs = none)
    (hv : BareOk env h v) : (JS_GCDumpValue env h jc dc v dctx).fault = dc.fault := by
  unfold JS_GCDumpValue
  split <;> first
    | rfl
    | exact js_gcdump_process_obj_fault env h ((fillOk_of_prs hd).2 hv)

theorem gcdump_prop_fault {dctx : JS_GCDumpFuncContext} {prs : JSShapeProperty} {pr : JSProperty}
    (hs : SlotOk env h prs pr) : (gcdump_prop env h jc dc dctx prs pr).fault = dc.fault := by
  unfold gcdump_prop
  split_ifs with hn
  · rfl
  specialize hs hn
  have htag : ∀ (b : Addr) (pr' : JSProperty), prs.flags = .getset ∨ prs.flags = .autoinit →
      (FillOk env h (.cell b) { dctx with prs := some prs, pr := some pr' } ↔
        HeaderOk env h (.cell b)) := fun _ _ hf => by
    simp [FillOk, JS_GCDumpFuncContext.slot_tag, hf]
  cases hf : prs.flags <;> cases pr <;> simp only [hf] at hs ⊢
  · next v =>
    cases v <;> simp only [JS_GCDumpValue] <;>
      refine js_gcdump_process_obj_fault env h ?_ <;>
      simp_all [FillOk, JS_GCDumpFuncContext.slot_tag, JSValue.tag]
  · next getter setter =>
    have hw : ∀ (d : JSGCDumpContext) (b : Addr) (pr' : JSProperty), HeaderOk env h (.cell b) →
        (js_gcdump_process_obj env h jc d (.cell b)
          { dctx with prs := some prs, pr := some pr' }).fault = d.fault :=
      fun _ b _ hb => js_gcdump_process_obj_fault env h ((htag b _ (.inl hf)).2 hb)
    rcases getter with _ | g <;> rcases setter with _ | s
    · rfl
    · exact hw _ s _ (hs.2 s rfl)
    · exact hw _ g _ (hs.1 g rfl)
    · exact (hw _ s _ (hs.2 s rfl)).trans (hw _ g _ (hs.1 g rfl))
  · next r =>
    split_ifs with hr
    · refine js_gcdump_process_obj_fault env h ?_
      simp [FillOk, JS_GCDumpFuncContext.slot_tag, hf, hs hr, headerOk_of_detached hr]
    · rfl
  · exact js_gcdump_process_obj_fault env h ((htag _ _ (.inr hf)).2 hs)

theorem JS_GCDumpNamedList_fault {dctx : JS_GCDumpFuncContext} (hd : dctx.prs = none)
    {fields : List (String × JSValue)} (hv : ∀ x ∈ fields, BareOk env h x.2) :
    (JS_GCDumpNamedList env h jc dc dctx fields).fault = dc.fault :=
  foldl_fault fun _ x hx => JS_GCDumpValue_fault env h hd (hv x hx)

theorem JS_GCDumpSynthetic_fault {dctx : JS_GCDumpFuncContext} (hd : dctx.prs = none)
    (key : DumpKey) (name : String) {vs : List JSValue} (hv : ∀ v ∈ vs, BareOk env h v) :
    (JS_GCDumpSynthetic env h jc dc dctx key name vs).fault = dc.fault := by
  unfold JS_GCDumpSynthetic
  dsimp only
  refine (foldl_fault fun _ x hx =>
    JS_GCDumpValue_fault env h (by exact hd) (hv x.2 (List.snd_mem_of_mem_enum hx))).trans ?_
  simp

/-- The context's part of `CellDumpOk`. -/
theorem JS_Context_gcdump_fault {dctx : JS_GCDumpFuncContext} (hd : dctx.prs = none) (a : Addr)
    {ctx : JSContext} (hc : (∀ x ∈ context_named_head ctx ++ context_named_tail ctx, BareOk env h x.2) ∧
      (∀ v ∈ ctx.native_error_proto ++ ctx.class_proto, BareOk env h v) ∧
      ∀ b ∈ ctx.array_shape, HeaderOk env h (.cell b)) :
    (JS_Context_gcdump env h jc dc a ctx dctx).fault = dc.fault := by
  obtain ⟨hn, hp, hs⟩ := hc
  simp only [List.mem_append] at hn hp
  unfold JS_Context_gcdump
  dsimp only
  split
  on_goal 1 =>
    rename_i sh hsh
    refine (js_gcdump_process_obj_fault env h ((fillOk_of_prs (by exact hd)).2 (hs sh hsh))).trans ?_
  all_goals rw [JS_GCDumpNamedList_fault env h hd fun x hx => hn x (.inr hx),
    JS_GCDumpSynthetic_fault env h hd _ _ fun v hv => hp v (.inr hv),
    JS_GCDumpSynthetic_fault env h hd _ _ fun v hv => hp v (.inl hv),
    JS_GCDumpNamedList_fault env h hd fun x hx => hn x (.inl hx)]

/-- **`gcdump_children` reads nothing as what it is not** on a cell that
`CellDumpOk` admits, walked outside a slot. -/
theorem gcdump_children_fault {gp : Addr} (hc : CellDumpOk env h gp) {dctx : JS_GCDumpFuncContext}
    (hd : dctx.prs = none) : (gcdump_children env h jc dc gp dctx).fault = dc.fault := by
  unfold CellDumpOk at hc
  unfold gcdump_children
  split <;> rename_i hcell <;> rw [hcell] at hc
  · exact foldl_fault fun _ x hx => gcdump_prop_fault env h (hc x hx)
  · split
    on_goal 1 =>
      rename_i realm hr
      rw [js_gcdump_process_obj_fault env h ((fillOk_of_prs hd).2 (hc.2 realm hr))]
    all_goals exact foldl_fault fun _ v hv => JS_GCDumpValue_fault env h hd (hc.1 v hv)
  · rw [if_pos hc.1]
    exact JS_GCDumpValue_fault env h hd hc.2
  · obtain ⟨ha, h₁, h₂⟩ := hc
    rw [JS_GCDumpValue_fault env h hd h₂, JS_GCDumpValue_fault env h hd h₁]
    split_ifs with hs
    · exact foldl_fault fun _ v hv => JS_GCDumpValue_fault env h hd (ha hs v hv)
    · rfl
  · split
    · next q hq => exact js_gcdump_process_obj_fault env h ((fillOk_of_prs hd).2 (hc q hq))
    · rfl
  · exact JS_Context_gcdump_fault env h hd gp hc
  · exact hc.elim

theorem js_gcdump_visit_fault {gp : Addr} (hc : CellDumpOk env h gp) :
    (js_gcdump_visit env h jc dc gp).fault = dc.fault := by
  have hgp : HeaderOk env h (.cell gp) := headerOk_of_cell fun ho => by
    simp [CellDumpOk, ho] at hc
  unfold js_gcdump_visit
  refine (gcdump_children_fault env h hc (by exact rfl)).trans ?_
  refine (js_gcdump_process_obj_fault env h ((fillOk_of_prs (by exact rfl)).2 hgp)).trans ?_
  simp

end walk

/-- **The dump reads nothing as what it is not** when every listed cell is
one `CellDumpOk` admits: it ends with `fault` false. -/
theorem __js_gcdump_objects_fault (env : DumpEnv) (h : JSHeap) (jc : Addr) {gc_obj_list : List Addr}
    (hok : ∀ gp ∈ gc_obj_list, CellDumpOk env h gp) :
    (__js_gcdump_objects env h jc gc_obj_list).fault = false :=
  (foldl_fault fun _ gp hgp => js_gcdump_visit_fault env h (hok gp hgp)).trans (by simp [js_gcdump_new_ctx])

/-! ## A var-ref that holds a string or an integer -/

end SlowJsGc

import SlowJsGc.Snapshot.Invariant

/-!
# Writing the snapshot file

`js_gcdump_write2file` prints the fixed `meta` schema, the counts
`node_count` and `edge_count`, and then the three arrays, each built in a
`DynBuf` by `js_gcdump_write_nodes`, `js_gcdump_write_edges` and
`js_gcdump_write_strs` and written out whole. The file is modelled as the
bytes written: the header and footer are the `fprintf` literals, and `%d`
and `%zu` print decimal digits. The file's name (a timestamp) and the
failure of `fopen` are not modelled.

All three writers run one loop: a row per element, then `",\n"`, or `"\n"`
after the row whose index is `len - 1` (`write_rows`). The edges loop counts
its rows `h` across the nodes and compares with `dc->edges_len`, so its last
row ends the array exactly when `edges_len` is the number of edges, which
every dump keeps (`__js_gcdump_objects_write_edges`).

A string is copied between two quote characters with no escaping. When no
interned string holds a quote the strings section gives the strings back
(`js_gcdump_write_strs_inj`); `SlowJsGc.Snapshot.ReadBack` reads the whole
file back, and `SlowJsGc.Snapshot.Json` reads it as JSON.
-/

set_option autoImplicit false

namespace SlowJsGc

/-! ## The writers -/

/-- `%d` and `%zu`: the decimal digits of `n`, after a minus sign when it is
negative. -/
def js_gcdump_decimal (n : Int) : Bytes := cstr (toString n)

/-- What the writers put after row `i` of `len`: `",\n"` if `i != len - 1`,
else `"\n"`. -/
def row_end (i : Nat) (len : Int) : Bytes :=
  if (i : Int) ≠ len - 1 then cstr ",\n" else cstr "\n"

/-- The loop the three writers share, from row `i` on: each element's row,
then its `row_end`. -/
def write_rows {α : Type} (row : α → Bytes) (len : Int) : Nat → List α → Bytes
  | _, [] => []
  | i, x :: xs => row x ++ row_end i len ++ write_rows row len (i + 1) xs

/-- A node's row, `"%d,%d,%zu,%zu,%zu"` of `type`, `name`, `id`, `self_size`
and `edges.len`. -/
def js_gcdump_node_row (node : JSGCDumpNode) : Bytes :=
  js_gcdump_decimal node.type ++ cstr "," ++ js_gcdump_decimal node.name ++ cstr "," ++
    js_gcdump_decimal node.id ++ cstr "," ++ js_gcdump_decimal node.self_size ++ cstr "," ++
    js_gcdump_decimal node.edges.length

/-- An edge's row, `"%d,%d,%zu"` of `type`, `name_or_idx` and `to`. -/
def js_gcdump_edge_row (edge : JSGCDumpEdge) : Bytes :=
  js_gcdump_decimal edge.type ++ cstr "," ++ js_gcdump_decimal edge.name_or_idx ++ cstr "," ++
    js_gcdump_decimal edge.to_node

/-- A string's row: `dbuf_putc(&dbuf, '"')`, its bytes as they are
(`dbuf_put(&dbuf, str->data, str->len)`), `dbuf_putc(&dbuf, '"')`. -/
def js_gcdump_str_row (str : Bytes) : Bytes := cstr "\"" ++ str ++ cstr "\""

/-- `js_gcdump_write_nodes`. -/
def js_gcdump_write_nodes (dc : JSGCDumpContext) : Bytes :=
  write_rows js_gcdump_node_row dc.nodes.length 0 dc.nodes

/-- The outer loop of `js_gcdump_write_edges` from the node rows `nodes` on,
`h` counting the edge rows written before them; each edge row ends against
`edges_len - 1`. -/
def js_gcdump_write_edges_from (edges_len : Int) : Nat → List JSGCDumpNode → Bytes
  | _, [] => []
  | h, node :: nodes =>
    write_rows js_gcdump_edge_row edges_len h node.edges ++
      js_gcdump_write_edges_from edges_len (h + node.edges.length) nodes

/-- `js_gcdump_write_edges`. -/
def js_gcdump_write_edges (dc : JSGCDumpContext) : Bytes :=
  js_gcdump_write_edges_from dc.edges_len 0 dc.nodes

/-- `js_gcdump_write_strs`. -/
def js_gcdump_write_strs (dc : JSGCDumpContext) : Bytes :=
  write_rows js_gcdump_str_row dc.strs.length 0 dc.strs

/-- The first `fprintf` literals of `js_gcdump_write2file`: the document,
`snapshot` and `meta` opened. -/
def js_gcdump_meta_open : Bytes :=
  cstr ("\x7b\n" ++ "  \"snapshot\": \x7b\n" ++ "    \"meta\": \x7b\n")

/-- The `node_fields` block of the `meta` schema. -/
def js_gcdump_meta_node_fields : Bytes :=
  cstr ("      \"node_fields\": [\n" ++ "        \"type\",\n" ++ "        \"name\",\n" ++
    "        \"id\",\n" ++ "        \"self_size\",\n" ++ "        \"edge_count\"\n" ++
    "      ],\n")

/-- The `node_types` block: the node types' names, then the kinds of the
other node fields. -/
def js_gcdump_meta_node_types : Bytes :=
  cstr ("      \"node_types\": [\n" ++ "        [\n" ++
    "          \"hidden\",\n" ++ "          \"array\",\n" ++ "          \"string\",\n" ++
    "          \"object\",\n" ++ "          \"code\",\n" ++ "          \"closure\",\n" ++
    "          \"regexp\",\n" ++ "          \"number\",\n" ++ "          \"native\",\n" ++
    "          \"synthetic\",\n" ++ "          \"concatenated string\",\n" ++
    "          \"sliced string\",\n" ++ "          \"symbol\",\n" ++ "          \"bigint\"\n" ++
    "        ],\n" ++ "        \"string\",\n" ++ "        \"number\",\n" ++
    "        \"number\",\n" ++ "        \"number\"\n" ++ "      ],\n")

/-- The `edge_fields` block. -/
def js_gcdump_meta_edge_fields : Bytes :=
  cstr ("      \"edge_fields\": [\n" ++ "        \"type\",\n" ++ "        \"name_or_index\",\n" ++
    "        \"to_node\"\n" ++ "      ],\n")

/-- The `edge_types` block: the edge types' names, then the kinds of the
other edge fields. -/
def js_gcdump_meta_edge_types : Bytes :=
  cstr ("      \"edge_types\": [\n" ++ "        [\n" ++
    "          \"context\",\n" ++ "          \"element\",\n" ++ "          \"property\",\n" ++
    "          \"internal\",\n" ++ "          \"hidden\",\n" ++ "          \"shortcut\",\n" ++
    "          \"weak\"\n" ++
    "        ],\n" ++ "        \"string_or_number\",\n" ++ "        \"node\"\n" ++
    "      ]\n")

/-- The `fprintf` literals of `js_gcdump_write2file` before the counts, block
by block as the source writes them: the document, `snapshot` and `meta`
opened, the four blocks of the `meta` schema, `meta` closed. -/
def js_gcdump_meta : Bytes :=
  js_gcdump_meta_open ++ js_gcdump_meta_node_fields ++ js_gcdump_meta_node_types ++
    js_gcdump_meta_edge_fields ++ js_gcdump_meta_edge_types ++ cstr "    \x7d,\n"

/-- `js_gcdump_write2file`: the bytes of the file. -/
def js_gcdump_write2file (dc : JSGCDumpContext) : Bytes :=
  js_gcdump_meta ++
    cstr "    \"node_count\": " ++ js_gcdump_decimal dc.nodes.length ++ cstr ",\n" ++
    cstr "    \"edge_count\": " ++ js_gcdump_decimal dc.edges_len ++ cstr "\n" ++
    cstr "  \x7d,\n" ++
    cstr "  \"nodes\": [\n" ++ js_gcdump_write_nodes dc ++ cstr "  ],\n" ++
    cstr "  \"edges\": [\n" ++ js_gcdump_write_edges dc ++ cstr "  ],\n" ++
    cstr "  \"strings\": [\n" ++ js_gcdump_write_strs dc ++ cstr "  ]\n" ++
    cstr "\x7d"

/-! ## The rows with the last one read off the list -/

/-- The rows `write_rows` prints when its count is right: every row but the
last followed by `",\n"`, the last by `"\n"`. -/
def rows {α : Type} (row : α → Bytes) : List α → Bytes
  | [] => []
  | x :: xs => row x ++ (if xs.isEmpty then cstr "\n" else cstr ",\n") ++ rows row xs

section rows

variable {α : Type} (row : α → Bytes)

theorem write_rows_append (len : Int) (l₁ l₂ : List α) (i : Nat) :
    write_rows row len i (l₁ ++ l₂) =
      write_rows row len i l₁ ++ write_rows row len (i + l₁.length) l₂ := by
  induction l₁ generalizing i with
  | nil => rfl
  | cons x xs ih =>
    rw [List.cons_append, write_rows, write_rows, ih, List.length_cons, Nat.add_right_comm,
      Nat.add_assoc]
    simp only [List.append_assoc]

/-- With `len` the index past the last row, `write_rows` ends the last row,
and only it, with `"\n"`. -/
theorem write_rows_eq_rows (l : List α) (i : Nat) (len : Int) (hlen : (i + l.length : Int) = len) :
    write_rows row len i l = rows row l := by
  induction l generalizing i with
  | nil => rfl
  | cons x xs ih =>
    have hend : row_end i len = if xs.isEmpty then cstr "\n" else cstr ",\n" := by
      cases xs <;> simp [row_end] at hlen ⊢ <;> omega
    simp only [write_rows, rows, hend, ih (i + 1) (by simp at hlen ⊢; omega)]

end rows

theorem js_gcdump_write_edges_from_eq (edges_len : Int) (nodes : List JSGCDumpNode) (h : Nat) :
    js_gcdump_write_edges_from edges_len h nodes =
      write_rows js_gcdump_edge_row edges_len h (nodes.flatMap JSGCDumpNode.edges) := by
  induction nodes generalizing h with
  | nil => rfl
  | cons node nodes ih => simp only [js_gcdump_write_edges_from, ih, List.flatMap_cons, write_rows_append]

theorem js_gcdump_write_nodes_eq_rows (dc : JSGCDumpContext) :
    js_gcdump_write_nodes dc = rows js_gcdump_node_row dc.nodes :=
  write_rows_eq_rows _ _ 0 _ (by simp)

theorem js_gcdump_write_strs_eq_rows (dc : JSGCDumpContext) :
    js_gcdump_write_strs dc = rows js_gcdump_str_row dc.strs :=
  write_rows_eq_rows _ _ 0 _ (by simp)

/-- With `edges_len` the number of edges the nodes hold, the edges section is
one array of rows. -/
theorem js_gcdump_write_edges_eq_rows (dc : JSGCDumpContext)
    (he : dc.edges_len = (dc.nodes.flatMap JSGCDumpNode.edges).length) :
    js_gcdump_write_edges dc = rows js_gcdump_edge_row (dc.nodes.flatMap JSGCDumpNode.edges) := by
  rw [js_gcdump_write_edges, js_gcdump_write_edges_from_eq]
  exact write_rows_eq_rows _ _ 0 _ (by simp [he])

/-- Every dump counts in `edges_len` the edges its nodes hold. -/
theorem __js_gcdump_objects_edges_len (env : DumpEnv) (h : JSHeap) (jc : Addr)
    (gc_obj_list : List Addr) :
    (__js_gcdump_objects env h jc gc_obj_list).edges_len =
      ((__js_gcdump_objects env h jc gc_obj_list).nodes.flatMap JSGCDumpNode.edges).length := by
  rw [(__js_gcdump_objects_inv env h jc gc_obj_list).edges_len, List.length_flatMap]
  simp [Function.comp_def]

/-- **The edges section of every snapshot**: the edge rows of the nodes in
node order, one array, its last row alone ended by `"\n"`: the running count
`h` of `js_gcdump_write_edges` meets `edges_len - 1` at the last edge, since
`edges_len` counts the edges the nodes hold. -/
theorem __js_gcdump_objects_write_edges (env : DumpEnv) (h : JSHeap) (jc : Addr)
    (gc_obj_list : List Addr) :
    js_gcdump_write_edges (__js_gcdump_objects env h jc gc_obj_list) =
      rows js_gcdump_edge_row
        ((__js_gcdump_objects env h jc gc_obj_list).nodes.flatMap JSGCDumpNode.edges) :=
  js_gcdump_write_edges_eq_rows _ (__js_gcdump_objects_edges_len env h jc gc_obj_list)

/-! ## The strings section -/

/-- The literals the writers print around and between string rows. -/
@[simp] theorem cstr_quote : cstr "\"" = [34] := rfl

@[simp] theorem cstr_newline : cstr "\n" = [10] := rfl

@[simp] theorem cstr_comma_newline : cstr ",\n" = [44, 10] := rfl

/-- Two lists of bytes that meet `p`, each followed by the byte `a` that does
not, are cut at the same place. -/
theorem append_cons_inj_of_forall {p : UInt8 → Prop} {a : UInt8} (ha : ¬ p a) :
    ∀ {s₁ s₂ r₁ r₂ : Bytes}, (∀ x ∈ s₁, p x) → (∀ x ∈ s₂, p x) →
      s₁ ++ a :: r₁ = s₂ ++ a :: r₂ → s₁ = s₂ ∧ r₁ = r₂
  | [], [], _, _, _, _, h => ⟨rfl, List.cons.inj h |>.2⟩
  | [], c :: _, _, _, _, h₂, h => (ha ((List.cons.inj h).1 ▸ h₂ c (List.mem_cons_self _ _))).elim
  | c :: _, [], _, _, h₁, _, h => (ha ((List.cons.inj h).1 ▸ h₁ c (List.mem_cons_self _ _))).elim
  | b :: s₁, c :: s₂, _, _, h₁, h₂, h => by
    simp only [List.cons_append, List.cons.injEq] at h
    obtain ⟨rfl, rfl⟩ := append_cons_inj_of_forall ha (fun x hx => h₁ x (List.mem_cons_of_mem _ hx))
      (fun x hx => h₂ x (List.mem_cons_of_mem _ hx)) h.2
    exact ⟨by rw [h.1], rfl⟩

/-- A row of a string without a quote ends at its second quote. -/
theorem str_row_append_inj {s₁ s₂ r₁ r₂ : Bytes} (h₁ : 34 ∉ s₁) (h₂ : 34 ∉ s₂)
    (h : js_gcdump_str_row s₁ ++ r₁ = js_gcdump_str_row s₂ ++ r₂) : s₁ = s₂ ∧ r₁ = r₂ := by
  simp only [js_gcdump_str_row, cstr_quote, List.append_assoc, List.singleton_append,
    List.cons_append, List.cons.injEq, true_and] at h
  exact append_cons_inj_of_forall (p := (· ≠ 34)) (fun h => h rfl)
    (fun _ hx e => h₁ (e ▸ hx)) (fun _ hx e => h₂ (e ▸ hx)) h

theorem rows_str_inj : ∀ {l₁ l₂ : List Bytes}, (∀ s ∈ l₁, 34 ∉ s) → (∀ s ∈ l₂, 34 ∉ s) →
    rows js_gcdump_str_row l₁ = rows js_gcdump_str_row l₂ → l₁ = l₂
  | [], [], _, _, _ => rfl
  | [], _ :: _, _, _, h => by simp [rows, js_gcdump_str_row] at h
  | _ :: _, [], _, _, h => by simp [rows, js_gcdump_str_row] at h
  | s₁ :: t₁, s₂ :: t₂, h₁, h₂, h => by
    simp only [rows, List.append_assoc] at h
    obtain ⟨rfl, hr⟩ := str_row_append_inj (h₁ s₁ (List.mem_cons_self _ _))
      (h₂ s₂ (List.mem_cons_self _ _)) h
    have ht : rows js_gcdump_str_row t₁ = rows js_gcdump_str_row t₂ := by
      cases t₁ <;> cases t₂ <;> simp [rows] at hr ⊢
      exact hr
    rw [rows_str_inj (fun s hs => h₁ s (List.mem_cons_of_mem _ hs))
      (fun s hs => h₂ s (List.mem_cons_of_mem _ hs)) ht]

/-- **Without quotes the strings section gives the strings back**: two string
tables none of whose strings holds a quote byte write the same strings
section only if they are equal. -/
theorem js_gcdump_write_strs_inj {dc₁ dc₂ : JSGCDumpContext} (h₁ : ∀ s ∈ dc₁.strs, 34 ∉ s)
    (h₂ : ∀ s ∈ dc₂.strs, 34 ∉ s) (h : js_gcdump_write_strs dc₁ = js_gcdump_write_strs dc₂) :
    dc₁.strs = dc₂.strs := by
  rw [js_gcdump_write_strs_eq_rows, js_gcdump_write_strs_eq_rows] at h
  exact rows_str_inj h₁ h₂ h

/-- The strings section of the snapshot of a runtime holding only its
context gives back its three strings. -/
theorem js_gcdump_write_strs_inj_context :
    (∀ s ∈ (__js_gcdump_objects plainEnv contextHeap 1 [1]).strs, 34 ∉ s) ∧
      (∀ s ∈ [cstr "Array", cstr "native_error_proto", cstr "class_proto"], 34 ∉ s) ∧
      js_gcdump_write_strs (__js_gcdump_objects plainEnv contextHeap 1 [1]) =
        js_gcdump_write_strs
          { js_gcdump_new_ctx with strs := [cstr "Array", cstr "native_error_proto", cstr "class_proto"] } ∧
      (__js_gcdump_objects plainEnv contextHeap 1 [1]).strs =
        [cstr "Array", cstr "native_error_proto", cstr "class_proto"] := by
  have hs : (__js_gcdump_objects plainEnv contextHeap 1 [1]).strs =
      [cstr "Array", cstr "native_error_proto", cstr "class_proto"] := by rfl
  have h₂ : ∀ s ∈ [cstr "Array", cstr "native_error_proto", cstr "class_proto"], 34 ∉ s := by decide
  have h₁ : ∀ s ∈ (__js_gcdump_objects plainEnv contextHeap 1 [1]).strs, 34 ∉ s := hs ▸ h₂
  have h₃ : js_gcdump_write_strs (__js_gcdump_objects plainEnv contextHeap 1 [1]) =
      js_gcdump_write_strs
        { js_gcdump_new_ctx with strs := [cstr "Array", cstr "native_error_proto", cstr "class_proto"] } := by
    rw [js_gcdump_write_strs, js_gcdump_write_strs, hs]
  exact ⟨h₁, h₂, h₃, js_gcdump_write_strs_inj h₁ h₂ h₃⟩

end SlowJsGc

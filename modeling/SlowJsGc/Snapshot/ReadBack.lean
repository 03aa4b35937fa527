import SlowJsGc.Snapshot.Write

/-!
# What the snapshot file determines

`js_gcdump_write2file` writes every field of the dump context it reads: the
node count and `edges_len` in the header, then for each node its five fields,
then the edges of the nodes one after another, then the strings. This module
reads them back.

A field printed by `%d` or `%zu` is one or more digits after an optional
minus sign (`js_gcdump_decimal_digits`), and the digits read back as the
number (`toDigitsCore_bytes`). No such byte is a comma or a newline, so every
field ends at the first separator after it and determines the number
(`js_gcdump_decimal_append_inj`); a row of fields ends the same way, and an
array of rows whose length is known reads back row by row
(`rows_append_inj`). The header gives the number of node rows and of edge
rows; the node rows give each node's number of edges, which cuts the edges
section back into the nodes.

The strings section has no count, and a string is written between two quotes
with no escaping, so it is read back only when no string holds a quote
(`rows_str_inj`). Then two dumps that write the same file have the same nodes,
edges and strings (`__js_gcdump_objects_write2file_inj`); the file of a dump
with a quote in a string can be that of another dump, and the strings are all
that can differ.
-/

set_option autoImplicit false

namespace SlowJsGc

/-! ## Decimal fields -/

/-- The number the decimal digits `ds` spell. -/
def read_decimal (ds : Bytes) : Nat := ds.foldl (fun v b => 10 * v + (b.toNat - 48)) 0

/-- A byte `'0'` to `'9'`. -/
def IsDigit (b : UInt8) : Prop := 48 ≤ b.toNat ∧ b.toNat ≤ 57

/-- A byte a decimal field can hold: a digit or the minus sign. -/
def IsDecimalByte (b : UInt8) : Prop := IsDigit b ∨ b = 45

instance (b : UInt8) : Decidable (IsDigit b) := inferInstanceAs (Decidable (_ ∧ _))

instance (b : UInt8) : Decidable (IsDecimalByte b) := inferInstanceAs (Decidable (_ ∨ _))

theorem read_decimal_append_digit (ds : Bytes) (b : UInt8) :
    read_decimal (ds ++ [b]) = 10 * read_decimal ds + (b.toNat - 48) := by
  simp [read_decimal]

/-- The UTF-8 byte of the digit `k` is `48 + k`. -/
theorem utf8EncodeChar_digitChar : ∀ {k : Nat}, k < 10 →
    ∃ b, String.utf8EncodeChar (Nat.digitChar k) = [b] ∧ b.toNat = 48 + k
  | 0, _ | 1, _ | 2, _ | 3, _ | 4, _ | 5, _ | 6, _ | 7, _ | 8, _ | 9, _ => ⟨_, rfl, rfl⟩
  | _ + 10, h => absurd h (by omega)

/-- **The digits `Nat.toDigitsCore` puts in front of `acc` spell `n`.** Each
turn adds the digit `n % 10` in front of what is there and goes on with
`n / 10`, so the digits of `n / 10` come first, and the first is a zero only
when it is the only one; the fuel outlasts `n`. -/
theorem toDigitsCore_bytes : ∀ (f n : Nat) (acc : List Char), n < f →
    ∃ ds : Bytes, ds ≠ [] ∧ (∀ b ∈ ds, IsDigit b) ∧ read_decimal ds = n ∧
      (ds.head? = some 48 → ds = [48]) ∧
      (Nat.toDigitsCore 10 f n acc).flatMap String.utf8EncodeChar =
        ds ++ acc.flatMap String.utf8EncodeChar
  | 0, _, _, h => absurd h (Nat.not_lt_zero _)
  | f + 1, n, acc, h => by
    obtain ⟨b, hb, hbv⟩ := utf8EncodeChar_digitChar (Nat.mod_lt n (by decide : 10 > 0))
    have hbd : IsDigit b := by unfold IsDigit; omega
    have hturn : Nat.toDigitsCore 10 (f + 1) n acc =
        if n / 10 = 0 then Nat.digitChar (n % 10) :: acc
        else Nat.toDigitsCore 10 f (n / 10) (Nat.digitChar (n % 10) :: acc) := rfl
    rw [hturn]
    split
    · refine ⟨[b], by simp, by simpa using hbd, by simp [read_decimal]; omega,
        fun h => by simpa using h, ?_⟩
      rw [List.flatMap_cons, hb]
    · obtain ⟨ds, hne, hdig, hval, hlead, heq⟩ :=
        toDigitsCore_bytes f (n / 10) (Nat.digitChar (n % 10) :: acc) (by omega)
      refine ⟨ds ++ [b], by simp, ?_, ?_, ?_, ?_⟩
      · intro x hx
        rcases List.mem_append.1 hx with hx | hx
        exacts [hdig x hx, List.mem_singleton.1 hx ▸ hbd]
      · rw [read_decimal_append_digit, hval, hbv]
        omega
      · intro h0
        obtain ⟨d, ds', rfl⟩ := List.exists_cons_of_ne_nil hne
        have hzero : read_decimal [48] = 0 := rfl
        rw [hlead h0, hzero] at hval
        omega
      · rw [heq, List.flatMap_cons, hb, List.append_assoc]

/-- **A decimal field**: a minus sign when the number is negative, then one or
more digits that spell its absolute value, with no zero in front. -/
theorem js_gcdump_decimal_digits (n : Int) :
    ∃ ds : Bytes, ds ≠ [] ∧ (∀ b ∈ ds, IsDigit b) ∧ read_decimal ds = n.natAbs ∧
      (ds.head? = some 48 → ds = [48]) ∧
      js_gcdump_decimal n = (if n < 0 then [45] else []) ++ ds := by
  cases n with
  | ofNat k =>
    obtain ⟨ds, hne, hdig, hval, hlead, heq⟩ := toDigitsCore_bytes (k + 1) k [] (by omega)
    exact ⟨ds, hne, hdig, hval, hlead, by simpa using heq⟩
  | negSucc k =>
    obtain ⟨ds, hne, hdig, hval, hlead, heq⟩ := toDigitsCore_bytes (k + 2) (k + 1) [] (by omega)
    rw [List.flatMap_nil, List.append_nil] at heq
    exact ⟨ds, hne, hdig, hval, hlead, by rw [if_pos (Int.negSucc_lt_zero k), ← heq]; rfl⟩

theorem js_gcdump_decimal_bytes (n : Int) : ∀ b ∈ js_gcdump_decimal n, IsDecimalByte b := by
  obtain ⟨ds, -, hdig, -, -, heq⟩ := js_gcdump_decimal_digits n
  intro b hb
  rw [heq, List.mem_append] at hb
  rcases hb with hb | hb
  · split at hb <;> simp_all [IsDecimalByte]
  · exact .inl (hdig b hb)

/-- The decimal field determines the number: a minus sign is no digit, so
both fields have the same sign and the same digits. -/
theorem js_gcdump_decimal_inj {m n : Int} (h : js_gcdump_decimal m = js_gcdump_decimal n) :
    m = n := by
  obtain ⟨ds, -, hdig, hval, -, heq⟩ := js_gcdump_decimal_digits m
  obtain ⟨ds', -, hdig', hval', -, heq'⟩ := js_gcdump_decimal_digits n
  rw [heq, heq'] at h
  have hminus : ∀ {ds : Bytes} (l : Bytes), (∀ b ∈ ds, IsDigit b) → 45 :: l ≠ ds := by
    rintro ds l hd rfl
    exact absurd (hd 45 (List.mem_cons_self _ _)) (by decide)
  by_cases hm : m < 0 <;> by_cases hn : n < 0 <;>
    simp only [hm, hn, if_true, if_false, List.singleton_append, List.nil_append,
      List.cons.injEq, true_and] at h
  · subst h; omega
  · exact (hminus ds hdig' h).elim
  · exact (hminus ds' hdig h.symm).elim
  · subst h; omega

/-- **A decimal field ends at the first byte no decimal holds.** -/
theorem js_gcdump_decimal_append_inj {m n : Int} {a : UInt8} {t t' : Bytes}
    (ha : ¬ IsDecimalByte a) (h : js_gcdump_decimal m ++ a :: t = js_gcdump_decimal n ++ a :: t') :
    m = n ∧ t = t' := by
  obtain ⟨hd, ht⟩ := append_cons_inj_of_forall ha (js_gcdump_decimal_bytes m)
    (js_gcdump_decimal_bytes n) h
  exact ⟨js_gcdump_decimal_inj hd, ht⟩

/-! ## Rows of fields -/

@[simp] theorem cstr_comma : cstr "," = [44] := rfl

section rows

variable {α : Type} (row : α → Bytes)

@[simp] theorem rows_singleton (x : α) : rows row [x] = row x ++ cstr "\n" := by
  simp [rows]

@[simp] theorem rows_cons_cons (x x' : α) (xs : List α) :
    rows row (x :: x' :: xs) = row x ++ cstr ",\n" ++ rows row (x' :: xs) := rfl

end rows

/-- **An array of rows of known length reads back row by row**, whatever
follows it, when a row ends at any byte no decimal holds. -/
theorem rows_append_inj {α β : Type} {row : α → Bytes} (key : α → β)
    (hrow : ∀ x y a t t', ¬ IsDecimalByte a → row x ++ a :: t = row y ++ a :: t' →
      key x = key y ∧ t = t') :
    ∀ {xs ys : List α} {t t' : Bytes}, xs.length = ys.length →
      rows row xs ++ t = rows row ys ++ t' → xs.map key = ys.map key ∧ t = t'
  | [], [], _, _, _, h => ⟨rfl, h⟩
  | [x], [y], _, _, _, h => by
    simp only [rows_singleton, cstr_newline, List.append_assoc, List.singleton_append] at h
    obtain ⟨hk, ht⟩ := hrow x y 10 _ _ (by decide) h
    exact ⟨congrArg₂ List.cons hk rfl, ht⟩
  | x :: x' :: xs, y :: y' :: ys, _, _, hl, h => by
    simp only [rows_cons_cons, cstr_comma_newline, List.append_assoc, List.cons_append,
      List.nil_append] at h
    obtain ⟨hk, h⟩ := hrow x y 44 _ _ (by decide) h
    obtain ⟨hks, ht⟩ := rows_append_inj key hrow (by simpa using hl) (List.cons.inj h).2
    exact ⟨congrArg₂ List.cons hk hks, ht⟩
  | [], _ :: _, _, _, hl, _ | _ :: _, [], _, _, hl, _ | [_], _ :: _ :: _, _, _, hl, _
  | _ :: _ :: _, [_], _, _, hl, _ => by simp at hl

/-- What a node row prints of a node: every field, and of its edges their
number. -/
def node_key (node : JSGCDumpNode) : Nat × Int × Nat × Nat × Nat :=
  (node.type, node.name, node.id, node.self_size, node.edges.length)

/-- A node row ends at any byte no decimal holds, and gives its fields back. -/
theorem js_gcdump_node_row_append_inj {x y : JSGCDumpNode} {a : UInt8} {t t' : Bytes}
    (ha : ¬ IsDecimalByte a) (h : js_gcdump_node_row x ++ a :: t = js_gcdump_node_row y ++ a :: t') :
    node_key x = node_key y ∧ t = t' := by
  have hc : ¬ IsDecimalByte 44 := by decide
  simp only [js_gcdump_node_row, cstr_comma, List.append_assoc, List.singleton_append] at h
  obtain ⟨h₁, h⟩ := js_gcdump_decimal_append_inj hc h
  obtain ⟨h₂, h⟩ := js_gcdump_decimal_append_inj hc h
  obtain ⟨h₃, h⟩ := js_gcdump_decimal_append_inj hc h
  obtain ⟨h₄, h⟩ := js_gcdump_decimal_append_inj hc h
  obtain ⟨h₅, h⟩ := js_gcdump_decimal_append_inj ha h
  refine ⟨?_, h⟩
  simp only [node_key, Prod.mk.injEq]
  omega

/-- An edge row ends at any byte no decimal holds, and gives the edge back. -/
theorem js_gcdump_edge_row_append_inj {x y : JSGCDumpEdge} {a : UInt8} {t t' : Bytes}
    (ha : ¬ IsDecimalByte a) (h : js_gcdump_edge_row x ++ a :: t = js_gcdump_edge_row y ++ a :: t') :
    x = y ∧ t = t' := by
  have hc : ¬ IsDecimalByte 44 := by decide
  cases x
  cases y
  simp only [js_gcdump_edge_row, cstr_comma, List.append_assoc, List.singleton_append] at h
  obtain ⟨h₁, h⟩ := js_gcdump_decimal_append_inj hc h
  obtain ⟨h₂, h⟩ := js_gcdump_decimal_append_inj hc h
  obtain ⟨h₃, h⟩ := js_gcdump_decimal_append_inj ha h
  refine ⟨?_, h⟩
  simp only [JSGCDumpEdge.mk.injEq]
  omega

/-- The node rows and the edges section give the nodes back: each node's
number of edges cuts its edges off the front of the section. -/
theorem nodes_eq_of_keys_edges : ∀ {ns₁ ns₂ : List JSGCDumpNode},
    ns₁.map node_key = ns₂.map node_key →
      ns₁.flatMap JSGCDumpNode.edges = ns₂.flatMap JSGCDumpNode.edges → ns₁ = ns₂
  | [], [], _, _ => rfl
  | ⟨i₁, m₁, k₁, s₁, E₁⟩ :: ns₁, ⟨i₂, m₂, k₂, s₂, E₂⟩ :: ns₂, hk, he => by
    simp only [List.map_cons, List.cons.injEq, node_key, Prod.mk.injEq] at hk
    simp only [List.flatMap_cons] at he
    obtain ⟨⟨rfl, rfl, rfl, rfl, hlen⟩, hk⟩ := hk
    obtain ⟨rfl, hrest⟩ := List.append_inj he hlen
    rw [nodes_eq_of_keys_edges hk hrest]
  | [], _ :: _, hk, _ | _ :: _, [], hk, _ => by simp at hk

/-! ## The file -/

/-- **The file gives the dump context back**, when `edges_len` counts the
edges of the nodes and no string holds a quote: the header gives the number
of node rows and of edge rows, the node rows every field of the nodes and
their numbers of edges, the edges section the edges, and the strings section
the strings. -/
theorem js_gcdump_write2file_inj {dc₁ dc₂ : JSGCDumpContext}
    (he₁ : dc₁.edges_len = (dc₁.nodes.flatMap JSGCDumpNode.edges).length)
    (he₂ : dc₂.edges_len = (dc₂.nodes.flatMap JSGCDumpNode.edges).length)
    (hq₁ : ∀ s ∈ dc₁.strs, 34 ∉ s) (hq₂ : ∀ s ∈ dc₂.strs, 34 ∉ s)
    (h : js_gcdump_write2file dc₁ = js_gcdump_write2file dc₂) :
    dc₁.nodes = dc₂.nodes ∧ dc₁.edges_len = dc₂.edges_len ∧ dc₁.strs = dc₂.strs := by
  simp only [js_gcdump_write2file, js_gcdump_write_nodes_eq_rows,
    js_gcdump_write_edges_eq_rows _ he₁, js_gcdump_write_edges_eq_rows _ he₂,
    js_gcdump_write_strs_eq_rows, cstr_comma_newline, cstr_newline, List.append_assoc,
    List.cons_append, List.singleton_append, List.nil_append, List.append_cancel_left_eq] at h
  obtain ⟨hn, h⟩ := js_gcdump_decimal_append_inj (by decide) h
  simp only [List.cons.injEq, true_and, List.append_cancel_left_eq] at h
  obtain ⟨he, h⟩ := js_gcdump_decimal_append_inj (by decide) h
  simp only [List.cons.injEq, true_and, List.append_cancel_left_eq] at h
  obtain ⟨hk, h⟩ := rows_append_inj node_key (fun _ _ _ _ _ => js_gcdump_node_row_append_inj)
    (by omega) h
  simp only [List.append_cancel_left_eq] at h
  obtain ⟨hE, h⟩ := rows_append_inj id (fun _ _ _ _ _ => js_gcdump_edge_row_append_inj)
    (by omega) h
  simp only [List.append_cancel_left_eq, List.append_cancel_right_eq, List.map_id] at h hE
  exact ⟨nodes_eq_of_keys_edges hk hE, by omega, rows_str_inj hq₁ hq₂ h⟩

/-- **Two dumps without a quote in a string write the same file only if they
have the same nodes, edges and strings.** -/
theorem __js_gcdump_objects_write2file_inj {env₁ env₂ : DumpEnv} {h₁ h₂ : JSHeap}
    {jc₁ jc₂ : Addr} {gc_obj_list₁ gc_obj_list₂ : List Addr}
    (hq₁ : ∀ s ∈ (__js_gcdump_objects env₁ h₁ jc₁ gc_obj_list₁).strs, 34 ∉ s)
    (hq₂ : ∀ s ∈ (__js_gcdump_objects env₂ h₂ jc₂ gc_obj_list₂).strs, 34 ∉ s)
    (h : js_gcdump_write2file (__js_gcdump_objects env₁ h₁ jc₁ gc_obj_list₁) =
      js_gcdump_write2file (__js_gcdump_objects env₂ h₂ jc₂ gc_obj_list₂)) :
    (__js_gcdump_objects env₁ h₁ jc₁ gc_obj_list₁).nodes =
        (__js_gcdump_objects env₂ h₂ jc₂ gc_obj_list₂).nodes ∧
      (__js_gcdump_objects env₁ h₁ jc₁ gc_obj_list₁).strs =
        (__js_gcdump_objects env₂ h₂ jc₂ gc_obj_list₂).strs :=
  have hf := js_gcdump_write2file_inj (__js_gcdump_objects_edges_len env₁ h₁ jc₁ gc_obj_list₁)
    (__js_gcdump_objects_edges_len env₂ h₂ jc₂ gc_obj_list₂) hq₁ hq₂ h
  ⟨hf.1, hf.2.2⟩

/-- The file of the runtime holding only its context: its strings hold no
quote. -/
theorem __js_gcdump_objects_write2file_inj_context :
    (∀ s ∈ (__js_gcdump_objects plainEnv contextHeap 1 [1]).strs, 34 ∉ s) ∧
      js_gcdump_write2file (__js_gcdump_objects plainEnv contextHeap 1 [1]) =
        js_gcdump_write2file (__js_gcdump_objects plainEnv contextHeap 1 [1]) ∧
      (__js_gcdump_objects plainEnv contextHeap 1 [1]).nodes =
        (__js_gcdump_objects plainEnv contextHeap 1 [1]).nodes ∧
      (__js_gcdump_objects plainEnv contextHeap 1 [1]).strs =
        (__js_gcdump_objects plainEnv contextHeap 1 [1]).strs := by
  have hs : (__js_gcdump_objects plainEnv contextHeap 1 [1]).strs =
      [cstr "Array", cstr "native_error_proto", cstr "class_proto"] := by rfl
  have hq : ∀ s ∈ (__js_gcdump_objects plainEnv contextHeap 1 [1]).strs, 34 ∉ s := by
    rw [hs]; decide
  exact ⟨hq, rfl, __js_gcdump_objects_write2file_inj hq hq rfl⟩

end SlowJsGc

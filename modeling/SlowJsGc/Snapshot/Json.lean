import SlowJsGc.Snapshot.ReadBack

/-!
# The snapshot file as JSON

The file is written for any reader of the heap-profiler format, so what it
says is what a JSON decoder reads off it. This module gives such a decoder
and proves what it reads off every snapshot.

`json_decode` reads the bytes one at a time, a pushdown machine in the way a
streaming JSON parser works: `JsonState.stack` holds the arrays and objects
it is inside, each with the values or members read so far, and `JsonMode`
what may come next. It follows JSON's grammar (whitespace, objects, arrays,
strings, numbers) over bytes, so a string's value is its bytes as they are.
It gives `none` on a text that is not JSON, and also on the parts of JSON no
dump prints: an escape in a string, a number with a fraction or an exponent,
`true`, `false` and `null`. Each mode takes what the grammar allows at that
point, so that what it accepts is a JSON text and the value it gives is that
text's value.

A snapshot whose strings hold no quote, backslash or control byte decodes to
the document `js_gcdump_json`: the `meta` schema, the two counts, the node
fields, the edge fields and the strings, each array in the order of the dump
context (`__js_gcdump_objects_json`). Each part of the file has its lemma: a
number followed by a separator (`json_run_decimal`), a string row
(`json_run_str_row`), an array of rows (`json_run_rows`), and the fixed text
around them, which the decoder reads by evaluation. A string with a quote in
it does not come back: the bytes `",\n"` inside it end it and begin another
(`rows_str_shift`), and two snapshots with different strings write one file
(`js_gcdump_write2file_ambiguous`).
-/

set_option autoImplicit false

namespace SlowJsGc

/-! ## The decoder -/

/-- A JSON value, as the decoder gives it back: a number it reads is an
integer, a string is its bytes. -/
inductive JSON where
  | num (n : Int)
  | str (s : Bytes)
  | arr (vs : List JSON)
  | obj (members : List (Bytes × JSON))

/-- JSON's whitespace: space, tab, line feed and carriage return. -/
def IsJsonWs (b : UInt8) : Prop := b = 32 ∨ b = 9 ∨ b = 10 ∨ b = 13

/-- A byte a string holds as it is: not the quote that ends it, not the
backslash that begins an escape, not a control byte. -/
def IsJsonPlain (b : UInt8) : Prop := b ≠ 34 ∧ b ≠ 92 ∧ 32 ≤ b.toNat

instance (b : UInt8) : Decidable (IsJsonWs b) := inferInstanceAs (Decidable (_ ∨ _))

instance (b : UInt8) : Decidable (IsJsonPlain b) := inferInstanceAs (Decidable (_ ∧ _))

/-- An array the decoder is inside, with the values read so far, or an
object, with the members read so far and the key of the member being read. -/
inductive JsonFrame where
  | arr (vs : List JSON)
  | obj (members : List (Bytes × JSON)) (key : Bytes)

/-- What the decoder expects next. -/
inductive JsonMode where
  /-- A value: at the start, after a `:`, after a `,` in an array. -/
  | value
  /-- A value or `]`, just after `[`. -/
  | first_value
  /-- A key, after a `,` in an object. -/
  | key
  /-- A key or `}`, just after `{`. -/
  | first_key
  /-- The `:` after a key. -/
  | colon
  /-- A `,` or the closing bracket, after a value. -/
  | next
  /-- Inside a string, with its bytes so far; `is_key` for an object's key. -/
  | str (acc : Bytes) (is_key : Bool)
  /-- Inside a number, with its sign and its digits so far. -/
  | num (neg : Bool) (ds : Bytes)
  /-- Not JSON, or a part of JSON the decoder does not read. -/
  | fail

/-- The decoder between two bytes. -/
structure JsonState where
  stack : List JsonFrame
  mode : JsonMode
  /-- The document, once its value is complete. -/
  doc : Option JSON

/-- The number of sign `neg` whose digits are `ds`. -/
def json_number (neg : Bool) (ds : Bytes) : Int :=
  if neg then -(read_decimal ds : Int) else read_decimal ds

/-- A value is complete: it joins the array or the object on top, or it is
the document. -/
def json_push (v : JSON) (s : JsonState) : JsonState :=
  match s.stack with
  | [] => ⟨[], .next, some v⟩
  | .arr vs :: st => ⟨.arr (vs ++ [v]) :: st, .next, s.doc⟩
  | .obj ms k :: st => ⟨.obj (ms ++ [(k, v)]) k :: st, .next, s.doc⟩

/-- A byte after a value: whitespace, the `,` before the next value or key,
or the bracket that closes the array or object on top. -/
def json_punct (s : JsonState) (b : UInt8) : JsonState :=
  if IsJsonWs b then s else
  match s.stack, b with
  | .arr _ :: _, 44 => { s with mode := .value }
  | .obj _ _ :: _, 44 => { s with mode := .key }
  | .arr vs :: st, 93 => json_push (.arr vs) { s with stack := st }
  | .obj ms _ :: st, 125 => json_push (.obj ms) { s with stack := st }
  | _, _ => { s with mode := .fail }

/-- A byte where a value may begin. -/
def json_begin (s : JsonState) (b : UInt8) : JsonState :=
  if IsJsonWs b then s
  else if b = 34 then { s with mode := .str [] false }
  else if b = 91 then ⟨.arr [] :: s.stack, .first_value, s.doc⟩
  else if b = 123 then ⟨.obj [] [] :: s.stack, .first_key, s.doc⟩
  else if b = 45 then { s with mode := .num true [] }
  else if IsDigit b then { s with mode := .num false [b] }
  else { s with mode := .fail }

/-- A byte where a key may begin. -/
def json_begin_key (s : JsonState) (b : UInt8) : JsonState :=
  if IsJsonWs b then s
  else if b = 34 then { s with mode := .str [] true }
  else { s with mode := .fail }

/-- One byte. A number ends at the first byte that is not a digit, which is
then read as the byte after a value; a zero in front of more digits, a
fraction and an exponent stop the decoder. -/
def json_step (s : JsonState) (b : UInt8) : JsonState :=
  match s.mode with
  | .value => json_begin s b
  | .first_value => if b = 93 then json_punct s b else json_begin s b
  | .key => json_begin_key s b
  | .first_key => if b = 125 then json_punct s b else json_begin_key s b
  | .colon =>
    if IsJsonWs b then s else if b = 58 then { s with mode := .value } else { s with mode := .fail }
  | .next => json_punct s b
  | .str acc is_key =>
    if b = 34 then
      if is_key then
        match s.stack with
        | .obj ms _ :: st => ⟨.obj ms acc :: st, .colon, s.doc⟩
        | _ => { s with mode := .fail }
      else json_push (.str acc) s
    else if IsJsonPlain b then { s with mode := .str (acc ++ [b]) is_key }
    else { s with mode := .fail }
  | .num neg ds =>
    if IsDigit b then
      if ds = [48] then { s with mode := .fail } else { s with mode := .num neg (ds ++ [b]) }
    else if ds = [] ∨ b = 46 ∨ b = 101 ∨ b = 69 then { s with mode := .fail }
    else json_punct (json_push (.num (json_number neg ds)) s) b
  | .fail => s

/-- Before the first byte: a value is expected, outside every array and
object. -/
def json_init : JsonState := ⟨[], .value, none⟩

/-- The decoder after the bytes `bs`, from `s`. -/
def json_run (s : JsonState) (bs : Bytes) : JsonState := bs.foldl json_step s

/-- `JSON-text = ws value ws`: the document, when the text is one. A number
that ends the text ends with it. -/
def json_decode (text : Bytes) : Option JSON :=
  match json_run json_init text with
  | ⟨[], .next, doc⟩ => doc
  | ⟨[], .num neg ds, _⟩ => if ds = [] then none else some (.num (json_number neg ds))
  | _ => none

theorem json_run_append (s : JsonState) (l₁ l₂ : Bytes) :
    json_run s (l₁ ++ l₂) = json_run (json_run s l₁) l₂ :=
  List.foldl_append _ _ _ _

@[simp] theorem json_run_cons (s : JsonState) (b : UInt8) (bs : Bytes) :
    json_run s (b :: bs) = json_run (json_step s b) bs := rfl

/-- A completed value goes where the stack says, whatever the mode was. -/
@[simp] theorem json_push_mode (v : JSON) (st : List JsonFrame) (m m' : JsonMode)
    (d : Option JSON) : json_push v ⟨st, m, d⟩ = json_push v ⟨st, m', d⟩ := rfl

/-! ## Strings and numbers -/

/-- Inside a string, the bytes it holds as they are pile up. -/
theorem json_run_str_acc {st : List JsonFrame} {d : Option JSON} {k : Bool} :
    ∀ {acc t : Bytes}, (∀ b ∈ t, IsJsonPlain b) → ∀ r : Bytes,
      json_run ⟨st, .str acc k, d⟩ (t ++ r) = json_run ⟨st, .str (acc ++ t) k, d⟩ r
  | acc, [], _, r => by rw [List.append_nil]; rfl
  | acc, b :: t, ht, r => by
    have hb := ht b (List.mem_cons_self _ _)
    have hstep : json_step ⟨st, .str acc k, d⟩ b = ⟨st, .str (acc ++ [b]) k, d⟩ := by
      simp only [json_step, if_neg hb.1, if_pos hb]
    rw [List.cons_append, json_run_cons, hstep,
      json_run_str_acc (fun x hx => ht x (List.mem_cons_of_mem _ hx)), List.append_assoc,
      List.singleton_append]

/-- Where a value may begin, the row of a string without a quote, backslash
or control byte is that string. -/
theorem json_run_str_row {st : List JsonFrame} {m : JsonMode} {d : Option JSON}
    (hm : m = .value ∨ m = .first_value) {s : Bytes} (hs : ∀ b ∈ s, IsJsonPlain b) (r : Bytes) :
    json_run ⟨st, m, d⟩ (js_gcdump_str_row s ++ r) = json_run (json_push (.str s) ⟨st, m, d⟩) r := by
  have hopen : json_step ⟨st, m, d⟩ 34 = ⟨st, .str [] false, d⟩ := by
    rcases hm with rfl | rfl <;> rfl
  rw [js_gcdump_str_row, cstr_quote, List.append_assoc, List.append_assoc, List.singleton_append,
    List.singleton_append, json_run_cons, hopen, json_run_str_acc hs, json_run_cons]
  rfl

/-- In a number, digits pile up while no zero stands in front of others. -/
theorem json_run_digits {st : List JsonFrame} {d : Option JSON} {neg : Bool} :
    ∀ {acc ds : Bytes}, (∀ b ∈ ds, IsDigit b) → ((acc ++ ds).head? = some 48 → acc ++ ds = [48]) →
      ∀ r : Bytes, json_run ⟨st, .num neg acc, d⟩ (ds ++ r) = json_run ⟨st, .num neg (acc ++ ds), d⟩ r
  | acc, [], _, _, r => by rw [List.append_nil]; rfl
  | acc, c :: ds, hd, hlead, r => by
    have hc := hd c (List.mem_cons_self _ _)
    have hacc : acc ≠ [48] := by
      rintro rfl
      simpa using hlead rfl
    have hstep : json_step ⟨st, .num neg acc, d⟩ c = ⟨st, .num neg (acc ++ [c]), d⟩ := by
      simp only [json_step, if_pos hc, if_neg hacc]
    rw [List.cons_append, json_run_cons, hstep,
      json_run_digits (fun x hx => hd x (List.mem_cons_of_mem _ hx)) (by simpa using hlead),
      List.append_assoc, List.singleton_append]

/-- No digit is whitespace or a byte that begins another kind of value. -/
theorem IsDigit.not_begin {b : UInt8} (hb : IsDigit b) :
    ¬ IsJsonWs b ∧ b ≠ 34 ∧ b ≠ 91 ∧ b ≠ 123 ∧ b ≠ 45 ∧ b ≠ 93 := by
  refine ⟨?_, ?_, ?_, ?_, ?_, ?_⟩ <;> rintro (rfl | rfl | rfl | rfl) <;> exact absurd hb (by decide)

/-- **A number field reads back**: where a value may begin, the decimal of `n`
followed by a `,` or a line feed is the number `n`, and the decoder goes on
from the byte after it. -/
theorem json_run_decimal {st : List JsonFrame} {m : JsonMode} {d : Option JSON}
    (hm : m = .value ∨ m = .first_value) (n : Int) {b : UInt8} (hb : b = 44 ∨ b = 10)
    (r : Bytes) :
    json_run ⟨st, m, d⟩ (js_gcdump_decimal n ++ b :: r) =
      json_run (json_punct (json_push (.num n) ⟨st, m, d⟩) b) r := by
  obtain ⟨ds, hne, hdig, hval, hlead, heq⟩ := js_gcdump_decimal_digits n
  have hend : ¬ IsDigit b ∧ ¬ (ds = [] ∨ b = 46 ∨ b = 101 ∨ b = 69) := by
    rcases hb with rfl | rfl <;> exact ⟨by decide, not_or.mpr ⟨hne, by decide⟩⟩
  have hnum : ∀ neg, json_number neg ds = n → json_run ⟨st, .num neg [], d⟩ (ds ++ b :: r) =
      json_run (json_punct (json_push (.num n) ⟨st, m, d⟩) b) r := by
    intro neg hn
    rw [json_run_digits hdig (by simpa using hlead), json_run_cons]
    simp only [json_step, if_neg hend.1, if_neg hend.2, List.nil_append, hn]
    rfl
  rw [heq]
  split
  · rename_i hneg
    have h45 : json_step ⟨st, m, d⟩ 45 = ⟨st, .num true [], d⟩ := by
      rcases hm with rfl | rfl <;> rfl
    rw [List.singleton_append, List.cons_append, json_run_cons, h45]
    exact hnum true (by rw [json_number, if_pos rfl, hval]; omega)
  · rename_i hneg
    obtain ⟨c, ds', rfl⟩ := List.exists_cons_of_ne_nil hne
    have hc := (hdig c (List.mem_cons_self _ _)).not_begin
    have hfirst : json_step ⟨st, m, d⟩ c = json_step ⟨st, .num false [], d⟩ c := by
      have hc' := hdig c (List.mem_cons_self _ _)
      rcases hm with rfl | rfl <;>
        simp [json_step, json_begin, hc.1, hc.2.1, hc.2.2.1, hc.2.2.2.1, hc.2.2.2.2.1,
          hc.2.2.2.2.2, hc']
    rw [List.nil_append, List.cons_append, json_run_cons, hfirst, ← json_run_cons, ← List.cons_append]
    exact hnum false (by simp [json_number, hval]; omega)

/-! ## Rows -/

/-- In an array, a number followed by a `,` joins the array, and a value is
expected after it. -/
theorem json_run_decimal_comma {vs : List JSON} {st : List JsonFrame} {d : Option JSON}
    {m : JsonMode} (hm : m = .value ∨ m = .first_value) (n : Int) (r : Bytes) :
    json_run ⟨.arr vs :: st, m, d⟩ (js_gcdump_decimal n ++ 44 :: r) =
      json_run ⟨.arr (vs ++ [.num n]) :: st, .value, d⟩ r :=
  json_run_decimal hm n (.inl rfl) r

section rows

variable {α : Type} (row : α → Bytes) (vals : α → List JSON)

/-- **An array of rows reads back as the values of its rows in order**, when
each row, read where a value may begin and followed by a `,` or a line feed,
adds its values to the array on top. -/
theorem json_run_rows {xs : List α}
    (hrow : ∀ x ∈ xs, ∀ vs st d m b r, (m = .value ∨ m = .first_value) → (b = 44 ∨ b = 10) →
      json_run ⟨.arr vs :: st, m, d⟩ (row x ++ b :: r) =
        json_run (json_punct ⟨.arr (vs ++ vals x) :: st, .next, d⟩ b) r)
    (hxs : xs ≠ []) {vs : List JSON} {st : List JsonFrame} {d : Option JSON} {m : JsonMode}
    (hm : m = .value ∨ m = .first_value) (r : Bytes) :
    json_run ⟨.arr vs :: st, m, d⟩ (rows row xs ++ r) =
      json_run ⟨.arr (vs ++ xs.flatMap vals) :: st, .next, d⟩ r := by
  induction xs generalizing vs m with
  | nil => exact absurd rfl hxs
  | cons x xs ih =>
    have hx := hrow x (List.mem_cons_self _ _)
    cases xs with
    | nil =>
      rw [rows_singleton, cstr_newline, List.append_assoc, List.singleton_append,
        hx vs st d m 10 r hm (.inr rfl), List.flatMap_singleton]
      rfl
    | cons x' xs =>
      rw [rows_cons_cons, cstr_comma_newline, List.append_assoc, List.append_assoc,
        List.cons_append, List.cons_append, List.nil_append, hx vs st d m 44 _ hm (.inl rfl),
        List.flatMap_cons, ← List.append_assoc]
      exact ih (fun y hy => hrow y (List.mem_cons_of_mem _ hy)) (List.cons_ne_nil _ _) (.inl rfl)

/-- An array of rows, from just after its `[`, to its closing `]`: the array
of the rows' values is complete. -/
theorem json_run_rows_close {xs : List α}
    (hrow : ∀ x ∈ xs, ∀ vs st d m b r, (m = .value ∨ m = .first_value) → (b = 44 ∨ b = 10) →
      json_run ⟨.arr vs :: st, m, d⟩ (row x ++ b :: r) =
        json_run (json_punct ⟨.arr (vs ++ vals x) :: st, .next, d⟩ b) r)
    (st : List JsonFrame) (d : Option JSON) (r : Bytes) :
    json_run ⟨.arr [] :: st, .first_value, d⟩ (rows row xs ++ 32 :: 32 :: 93 :: r) =
      json_run (json_push (.arr (xs.flatMap vals)) ⟨st, .next, d⟩) r := by
  cases xs with
  | nil => rfl
  | cons x xs =>
    rw [json_run_rows row vals hrow (List.cons_ne_nil _ _) (.inr rfl), List.nil_append]
    rfl

end rows

/-- A node's row read as array values: its five fields. -/
def js_gcdump_node_json (node : JSGCDumpNode) : List JSON :=
  [.num node.type, .num node.name, .num node.id, .num node.self_size, .num node.edges.length]

/-- An edge's row read as array values: its three fields. -/
def js_gcdump_edge_json (edge : JSGCDumpEdge) : List JSON :=
  [.num edge.type, .num edge.name_or_idx, .num edge.to_node]

theorem json_run_node_row (x : JSGCDumpNode) (vs : List JSON) (st : List JsonFrame)
    (d : Option JSON) (m : JsonMode) (b : UInt8) (r : Bytes) (hm : m = .value ∨ m = .first_value)
    (hb : b = 44 ∨ b = 10) :
    json_run ⟨.arr vs :: st, m, d⟩ (js_gcdump_node_row x ++ b :: r) =
      json_run (json_punct ⟨.arr (vs ++ js_gcdump_node_json x) :: st, .next, d⟩ b) r := by
  simp only [js_gcdump_node_row, cstr_comma, List.append_assoc, List.singleton_append,
    List.cons_append, List.nil_append]
  rw [json_run_decimal_comma hm, json_run_decimal_comma (.inl rfl),
    json_run_decimal_comma (.inl rfl), json_run_decimal_comma (.inl rfl),
    json_run_decimal (.inl rfl) _ hb]
  simp [js_gcdump_node_json, json_push]

theorem json_run_edge_row (x : JSGCDumpEdge) (vs : List JSON) (st : List JsonFrame)
    (d : Option JSON) (m : JsonMode) (b : UInt8) (r : Bytes) (hm : m = .value ∨ m = .first_value)
    (hb : b = 44 ∨ b = 10) :
    json_run ⟨.arr vs :: st, m, d⟩ (js_gcdump_edge_row x ++ b :: r) =
      json_run (json_punct ⟨.arr (vs ++ js_gcdump_edge_json x) :: st, .next, d⟩ b) r := by
  simp only [js_gcdump_edge_row, cstr_comma, List.append_assoc, List.singleton_append,
    List.cons_append, List.nil_append]
  rw [json_run_decimal_comma hm, json_run_decimal_comma (.inl rfl),
    json_run_decimal (.inl rfl) _ hb]
  simp [js_gcdump_edge_json, json_push]

theorem json_run_str_row_sep {s : Bytes} (hs : ∀ b ∈ s, IsJsonPlain b) (vs : List JSON)
    (st : List JsonFrame) (d : Option JSON) (m : JsonMode) (b : UInt8) (r : Bytes)
    (hm : m = .value ∨ m = .first_value) :
    json_run ⟨.arr vs :: st, m, d⟩ (js_gcdump_str_row s ++ b :: r) =
      json_run (json_punct ⟨.arr (vs ++ [.str s]) :: st, .next, d⟩ b) r := by
  rw [json_run_str_row hm hs]
  rfl

/-! ## The file -/

/-- An array of strings. -/
def json_strs (l : List String) : JSON := .arr (l.map fun s => .str (cstr s))

/-- The members of the `meta` schema the file prints: the node fields, the
node types (the names of the node types, then the kinds of the other node
fields), the edge fields and the edge types. -/
def js_gcdump_meta_members : List (Bytes × JSON) :=
  [(cstr "node_fields", json_strs ["type", "name", "id", "self_size", "edge_count"]),
    (cstr "node_types", .arr [json_strs ["hidden", "array", "string", "object", "code",
        "closure", "regexp", "number", "native", "synthetic", "concatenated string",
        "sliced string", "symbol", "bigint"],
      .str (cstr "string"), .str (cstr "number"), .str (cstr "number"), .str (cstr "number")]),
    (cstr "edge_fields", json_strs ["type", "name_or_index", "to_node"]),
    (cstr "edge_types", .arr [json_strs ["context", "element", "property", "internal",
        "hidden", "shortcut", "weak"], .str (cstr "string_or_number"), .str (cstr "node")])]

/-- **The document the file holds**: the `snapshot` object with the `meta`
schema and the two counts, then the node fields of every node in node order,
the edge fields of every edge in node order, and the strings. -/
def js_gcdump_json (dc : JSGCDumpContext) : JSON :=
  .obj [(cstr "snapshot", .obj [(cstr "meta", .obj js_gcdump_meta_members),
      (cstr "node_count", .num dc.nodes.length), (cstr "edge_count", .num dc.edges_len)]),
    (cstr "nodes", .arr (dc.nodes.flatMap js_gcdump_node_json)),
    (cstr "edges", .arr ((dc.nodes.flatMap JSGCDumpNode.edges).flatMap js_gcdump_edge_json)),
    (cstr "strings", .arr (dc.strs.map .str))]

/-! The decoder on the fixed text of the file. The `meta` schema is read
from the start, block by block; the text after it is read with what the
decoder holds so far left open. -/

/-- Inside `meta`, after its first `n` members, the last of them with the key
`k`. -/
def json_meta_state (n : Nat) (k : String) : JsonState :=
  ⟨[.obj (js_gcdump_meta_members.take n) (cstr k), .obj [] (cstr "meta"), .obj [] (cstr "snapshot")],
    .key, none⟩

set_option maxRecDepth 6000 in
/-- After the `meta` schema: the document and `snapshot` are open, `meta` is
read and a key is expected. -/
theorem json_run_meta_section (r : Bytes) :
    json_run json_init (js_gcdump_meta ++ r) =
      json_run ⟨[.obj [(cstr "meta", .obj js_gcdump_meta_members)] (cstr "meta"),
        .obj [] (cstr "snapshot")], .key, none⟩ r := by
  have h_open : json_run json_init js_gcdump_meta_open =
      ⟨[.obj [] [], .obj [] (cstr "meta"), .obj [] (cstr "snapshot")], .first_key, none⟩ := rfl
  have h_node_fields : json_run ⟨[.obj [] [], .obj [] (cstr "meta"), .obj [] (cstr "snapshot")],
      .first_key, none⟩ js_gcdump_meta_node_fields = json_meta_state 1 "node_fields" := rfl
  have h_node_types : json_run (json_meta_state 1 "node_fields") js_gcdump_meta_node_types =
      json_meta_state 2 "node_types" := rfl
  have h_edge_fields : json_run (json_meta_state 2 "node_types") js_gcdump_meta_edge_fields =
      json_meta_state 3 "edge_fields" := rfl
  have h_edge_types : json_run (json_meta_state 3 "edge_fields")
      (js_gcdump_meta_edge_types ++ cstr "    \x7d,\n") =
      ⟨[.obj [(cstr "meta", .obj js_gcdump_meta_members)] (cstr "meta"),
        .obj [] (cstr "snapshot")], .key, none⟩ := rfl
  simp only [js_gcdump_meta, json_run_append, h_open, h_node_fields, h_node_types, h_edge_fields,
    ← h_edge_types]

section fixed

variable (ms : List (Bytes × JSON)) (k : Bytes) (st : List JsonFrame) (d : Option JSON) (r : Bytes)

theorem json_run_node_count_key :
    json_run ⟨.obj ms k :: st, .key, d⟩ (cstr "    \"node_count\": " ++ r) =
      json_run ⟨.obj ms (cstr "node_count") :: st, .value, d⟩ r := by
  rw [json_run_append]
  rfl

theorem json_run_edge_count_key :
    json_run ⟨.obj ms k :: st, .key, d⟩ (cstr "    \"edge_count\": " ++ r) =
      json_run ⟨.obj ms (cstr "edge_count") :: st, .value, d⟩ r := by
  rw [json_run_append]
  rfl

/-- A member's number followed by `",\n"`: a key is expected. -/
theorem json_run_decimal_member (n : Int) :
    json_run ⟨.obj ms k :: st, .value, d⟩ (js_gcdump_decimal n ++ (cstr ",\n" ++ r)) =
      json_run ⟨.obj (ms ++ [(k, .num n)]) k :: st, .key, d⟩ r :=
  json_run_decimal (.inl rfl) n (.inl rfl) (10 :: r)

/-- The last member's number, a line feed and the `}` of its object, then
`",\n"`: a key is expected in the object around it. -/
theorem json_run_decimal_last (n : Int) (ms' : List (Bytes × JSON)) (k' : Bytes) :
    json_run ⟨.obj ms k :: .obj ms' k' :: st, .value, d⟩
        (js_gcdump_decimal n ++ (cstr "\n" ++ (cstr "  \x7d,\n" ++ r))) =
      json_run ⟨.obj (ms' ++ [(k', .obj (ms ++ [(k, .num n)]))]) k' :: st, .key, d⟩ r := by
  rw [show cstr "\n" ++ (cstr "  \x7d,\n" ++ r) = 10 :: (cstr "  \x7d,\n" ++ r) from rfl,
    json_run_decimal (.inl rfl) n (.inr rfl), json_run_append]
  rfl

theorem json_run_nodes_key :
    json_run ⟨.obj ms k :: st, .key, d⟩ (cstr "  \"nodes\": [\n" ++ r) =
      json_run ⟨.arr [] :: .obj ms (cstr "nodes") :: st, .first_value, d⟩ r := by
  rw [json_run_append]
  rfl

theorem json_run_edges_key :
    json_run ⟨.obj ms k :: st, .key, d⟩ (cstr "  \"edges\": [\n" ++ r) =
      json_run ⟨.arr [] :: .obj ms (cstr "edges") :: st, .first_value, d⟩ r := by
  rw [json_run_append]
  rfl

theorem json_run_strings_key :
    json_run ⟨.obj ms k :: st, .key, d⟩ (cstr "  \"strings\": [\n" ++ r) =
      json_run ⟨.arr [] :: .obj ms (cstr "strings") :: st, .first_value, d⟩ r := by
  rw [json_run_append]
  rfl

end fixed

section arrays

variable {α : Type} (row : α → Bytes) (vals : α → List JSON) {xs : List α}
  (hrow : ∀ x ∈ xs, ∀ vs st d m b r, (m = .value ∨ m = .first_value) → (b = 44 ∨ b = 10) →
    json_run ⟨.arr vs :: st, m, d⟩ (row x ++ b :: r) =
      json_run (json_punct ⟨.arr (vs ++ vals x) :: st, .next, d⟩ b) r)
  (ms : List (Bytes × JSON)) (k : Bytes) (st : List JsonFrame) (d : Option JSON)

include hrow

/-- An array of rows as a member, then `"  ],\n"`: a key is expected. -/
theorem json_run_rows_member (r : Bytes) :
    json_run ⟨.arr [] :: .obj ms k :: st, .first_value, d⟩ (rows row xs ++ (cstr "  ],\n" ++ r)) =
      json_run ⟨.obj (ms ++ [(k, .arr (xs.flatMap vals))]) k :: st, .key, d⟩ r := by
  rw [show cstr "  ],\n" ++ r = 32 :: 32 :: 93 :: 44 :: 10 :: r from rfl,
    json_run_rows_close row vals hrow]
  rfl

/-- The last array of rows, then `"  ]\n"` and the `}` that ends the
document: the document is complete. -/
theorem json_run_rows_last :
    json_run ⟨.arr [] :: [.obj ms k], .first_value, d⟩ (rows row xs ++ (cstr "  ]\n" ++ cstr "\x7d")) =
      ⟨[], .next, some (.obj (ms ++ [(k, .arr (xs.flatMap vals))]))⟩ := by
  rw [show cstr "  ]\n" ++ cstr "\x7d" = 32 :: 32 :: 93 :: 10 :: 125 :: [] from rfl,
    json_run_rows_close row vals hrow]
  rfl

end arrays

/-- **The file decodes to its document**, when `edges_len` counts the edges of
the nodes and no string holds a quote, a backslash or a control byte. -/
theorem js_gcdump_write2file_json {dc : JSGCDumpContext}
    (he : dc.edges_len = (dc.nodes.flatMap JSGCDumpNode.edges).length)
    (hs : ∀ s ∈ dc.strs, ∀ b ∈ s, IsJsonPlain b) :
    json_decode (js_gcdump_write2file dc) = some (js_gcdump_json dc) := by
  have hrun : json_run json_init (js_gcdump_write2file dc) =
      ⟨[], .next, some (js_gcdump_json dc)⟩ := by
    simp only [js_gcdump_write2file, js_gcdump_write_nodes_eq_rows,
      js_gcdump_write_edges_eq_rows _ he, js_gcdump_write_strs_eq_rows, List.append_assoc]
    rw [json_run_meta_section, json_run_node_count_key, json_run_decimal_member, json_run_edge_count_key,
      json_run_decimal_last, json_run_nodes_key,
      json_run_rows_member _ _ (fun x _ => json_run_node_row x), json_run_edges_key,
      json_run_rows_member _ _ (fun x _ => json_run_edge_row x), json_run_strings_key,
      json_run_rows_last _ _ fun x hx vs st d m b r hm _ => json_run_str_row_sep (hs x hx) vs st d m b r hm,
      js_gcdump_json, List.map_eq_flatMap]
    rfl
  rw [json_decode, hrun]

/-- **Every snapshot whose strings hold no quote, backslash or control byte is
a JSON document**, and it decodes to the `meta` schema, the counts, the five
fields of every node in node order, the three fields of every edge in node
order, and the strings of the dump context, each the bytes that were
interned. -/
theorem __js_gcdump_objects_json (env : DumpEnv) (h : JSHeap) (jc : Addr) (gc_obj_list : List Addr)
    (hs : ∀ s ∈ (__js_gcdump_objects env h jc gc_obj_list).strs, ∀ b ∈ s, IsJsonPlain b) :
    json_decode (js_gcdump_write2file (__js_gcdump_objects env h jc gc_obj_list)) =
      some (js_gcdump_json (__js_gcdump_objects env h jc gc_obj_list)) :=
  js_gcdump_write2file_json (__js_gcdump_objects_edges_len env h jc gc_obj_list) hs

/-- The snapshot of the runtime holding only its context: its strings are
plain, and its file decodes. -/
theorem __js_gcdump_objects_json_context :
    (∀ s ∈ (__js_gcdump_objects plainEnv contextHeap 1 [1]).strs, ∀ b ∈ s, IsJsonPlain b) ∧
      json_decode (js_gcdump_write2file (__js_gcdump_objects plainEnv contextHeap 1 [1])) =
        some (js_gcdump_json (__js_gcdump_objects plainEnv contextHeap 1 [1])) := by
  have hs : ∀ s ∈ (__js_gcdump_objects plainEnv contextHeap 1 [1]).strs, ∀ b ∈ s, IsJsonPlain b := by
    rw [show (__js_gcdump_objects plainEnv contextHeap 1 [1]).strs =
      [cstr "Array", cstr "native_error_proto", cstr "class_proto"] from rfl]
    decide
  exact ⟨hs, __js_gcdump_objects_json plainEnv contextHeap 1 [1] hs⟩

/-! ## A quote in a string -/

/-- The bytes `",\n"` between two quotes: the end of one string row and the
start of the next. -/
@[simp] theorem cstr_quote_row_quote : cstr "\",\n\"" = [34, 44, 10, 34] := rfl

/-- **A quote inside a string moves the boundary between rows.** A string
holding `",\n"` followed by another string writes the same bytes as the
string cut there followed by the rest glued in front of the next one. -/
theorem rows_str_shift (A B : List Bytes) (x y z : Bytes) :
    rows js_gcdump_str_row (A ++ (x ++ cstr "\",\n\"" ++ y) :: z :: B) =
      rows js_gcdump_str_row (A ++ x :: (y ++ cstr "\",\n\"" ++ z) :: B) := by
  induction A with
  | nil =>
    cases B <;> simp [rows, js_gcdump_str_row]
  | cons a A ih =>
    rw [List.cons_append, List.cons_append, rows, rows, ih]
    cases A <;> rfl

example : rows js_gcdump_str_row [cstr "a\",\n\"b", cstr "c"] =
    rows js_gcdump_str_row [cstr "a", cstr "b\",\n\"c"] := by decide

/-- The file reads the state only through the nodes, `edges_len` and the
strings section. -/
theorem js_gcdump_write2file_congr {dc₁ dc₂ : JSGCDumpContext} (hn : dc₁.nodes = dc₂.nodes)
    (he : dc₁.edges_len = dc₂.edges_len) (hs : js_gcdump_write_strs dc₁ = js_gcdump_write_strs dc₂) :
    js_gcdump_write2file dc₁ = js_gcdump_write2file dc₂ := by
  simp only [js_gcdump_write2file, js_gcdump_write_nodes, js_gcdump_write_edges, hn, he, hs]

/-- **Every state's file is also another state's**: the file of a state whose
strings include one holding `",\n"` is that of the state with the boundary
moved. -/
theorem js_gcdump_write2file_shift (dc : JSGCDumpContext) (A B : List Bytes) (x y z : Bytes) :
    js_gcdump_write2file { dc with strs := A ++ (x ++ cstr "\",\n\"" ++ y) :: z :: B } =
      js_gcdump_write2file { dc with strs := A ++ x :: (y ++ cstr "\",\n\"" ++ z) :: B } :=
  js_gcdump_write2file_congr rfl rfl (by
    simp only [js_gcdump_write_strs_eq_rows, rows_str_shift])

/-- A runtime with its context at `1` and two plain objects at `2` and `3`
sharing the empty shape at `4`. -/
def twoObjectHeap : JSHeap where
  cell a := if a = 1 then .context emptyContext
    else if a = 2 ∨ a = 3 then .object ⟨1, 4, [], [], .other⟩
    else if a = 4 then .shape ⟨false, none, []⟩ else .other
  class_array _ := ⟨none, none⟩

/-- The engine names object `2` with the bytes `a",` newline `"b` and
object `3` with `c`. -/
def quotedFirstEnv : DumpEnv :=
  { plainEnv with node_name := fun a => if a = 2 then cstr "a\",\n\"b" else cstr "c" }

/-- The engine names object `2` with `a` and object `3` with the bytes
`b",` newline `"c`. -/
def quotedSecondEnv : DumpEnv :=
  { plainEnv with node_name := fun a => if a = 2 then cstr "a" else cstr "b\",\n\"c" }

/-- The node rows of both runtimes' dumps: the context, the two `NULL`
arrays' nodes, object `2` named by string `5`, the null prototype, the shape,
object `3` named by string `6`. -/
def twoObjectNodes : List JSGCDumpNode :=
  [⟨0, -2, 0, 0, [⟨3, 1, 5⟩, ⟨3, 2, 10⟩]⟩, ⟨1, 0, 9, 0, []⟩, ⟨2, 0, 9, 0, []⟩,
    ⟨3, 5, 3, 64, [⟨2, 3, 20⟩, ⟨3, 4, 25⟩]⟩, ⟨4, -2, 0, 0, []⟩, ⟨5, 4, 0, 0, []⟩,
    ⟨6, 6, 3, 64, [⟨2, 3, 20⟩, ⟨3, 4, 25⟩]⟩]

/-- **Two snapshots, one file.** The two runtimes differ only in the names of
their two objects, their dumps have different string tables, and
`js_gcdump_write2file` writes the same bytes for both, so no reading of the
file gives back the string table of each. -/
theorem js_gcdump_write2file_ambiguous :
    (__js_gcdump_objects quotedFirstEnv twoObjectHeap 1 [1, 2, 3, 4]).strs ≠
        (__js_gcdump_objects quotedSecondEnv twoObjectHeap 1 [1, 2, 3, 4]).strs ∧
      js_gcdump_write2file (__js_gcdump_objects quotedFirstEnv twoObjectHeap 1 [1, 2, 3, 4]) =
        js_gcdump_write2file (__js_gcdump_objects quotedSecondEnv twoObjectHeap 1 [1, 2, 3, 4]) := by
  have hs₁ : (__js_gcdump_objects quotedFirstEnv twoObjectHeap 1 [1, 2, 3, 4]).strs =
      [cstr "Array", cstr "native_error_proto", cstr "class_proto", cstr "__proto__", cstr "shape"] ++
        (cstr "a" ++ cstr "\",\n\"" ++ cstr "b") :: cstr "c" :: [] := by rfl
  have hs₂ : (__js_gcdump_objects quotedSecondEnv twoObjectHeap 1 [1, 2, 3, 4]).strs =
      [cstr "Array", cstr "native_error_proto", cstr "class_proto", cstr "__proto__", cstr "shape"] ++
        cstr "a" :: (cstr "b" ++ cstr "\",\n\"" ++ cstr "c") :: [] := by rfl
  have hn₁ : (__js_gcdump_objects quotedFirstEnv twoObjectHeap 1 [1, 2, 3, 4]).nodes =
      twoObjectNodes := by rfl
  have hn₂ : (__js_gcdump_objects quotedSecondEnv twoObjectHeap 1 [1, 2, 3, 4]).nodes =
      twoObjectNodes := by rfl
  have he₁ : (__js_gcdump_objects quotedFirstEnv twoObjectHeap 1 [1, 2, 3, 4]).edges_len = 6 := by rfl
  have he₂ : (__js_gcdump_objects quotedSecondEnv twoObjectHeap 1 [1, 2, 3, 4]).edges_len = 6 := by rfl
  -- the sixth strings differ in length
  have hne : (cstr "a" ++ cstr "\",\n\"" ++ cstr "b").length ≠ (cstr "a").length := by decide
  refine ⟨fun h => hne (congrArg List.length (List.head_eq_of_cons_eq
    (List.append_cancel_left (hs₁.symm.trans (h.trans hs₂))))),
    js_gcdump_write2file_congr (hn₁.trans hn₂.symm) (he₁.trans he₂.symm) ?_⟩
  rw [js_gcdump_write_strs_eq_rows, js_gcdump_write_strs_eq_rows, hs₁, hs₂, rows_str_shift]

end SlowJsGc

import SlowJsGc.Snapshot.State

/-!
# The two interning tables

The dumper interns two kinds of things. `js_gcdump_add_cstr` looks a byte
string up in `str2id` and, when it is absent, copies it to the end of
`strs` and records its index; `js_gcdump_node_from_gp` looks a key up in
`obj2node` and, when it is absent, pushes a node whose id is its index and
records that. Both hash maps are `kid_hashmap`s keyed by the bytes of the
key, which the model reads as the functions `str2id` and `obj2node`.

`StrTable` and `NodeTable` are what the two tables promise at every point of
a dump: the strings are pairwise distinct and `str2id` is exactly the map
from a string to its index; distinct keys have distinct nodes, every node
has a key, and node `i` has id `i`. Each call keeps both
(`StrTable.add_cstr`, `NodeTable.node_from_gp`), and a sequence of calls from
`js_gcdump_new_ctx` holds a string or a key exactly when it was handed to a
call (`js_gcdump_interning`).
-/

set_option autoImplicit false

namespace SlowJsGc

/-- The string table: pairwise distinct strings, and `str2id` sends a
string to an index exactly when the string is stored there. -/
structure StrTable (dc : JSGCDumpContext) : Prop where
  nodup : dc.strs.Nodup
  str2id : ∀ s i, dc.str2id s = some i ↔ dc.strs[i]? = some s

/-- The node table: `obj2node` sends distinct keys to distinct existing
nodes, every node has a key, and node `i` has id `i`. -/
structure NodeTable (dc : JSGCDumpContext) : Prop where
  ids : ∀ i < dc.nodes.length, (dc.node i).id = i
  obj2node_lt : ∀ k i, dc.obj2node k = some i → i < dc.nodes.length
  obj2node_inj : ∀ k k' i, dc.obj2node k = some i → dc.obj2node k' = some i → k = k'
  keyed : ∀ i < dc.nodes.length, ∃ k, dc.obj2node k = some i

theorem StrTable.new_ctx : StrTable js_gcdump_new_ctx :=
  ⟨List.nodup_nil, fun _ _ => by simp [js_gcdump_new_ctx]⟩

theorem NodeTable.new_ctx : NodeTable js_gcdump_new_ctx :=
  ⟨fun _ h => absurd h (Nat.not_lt_zero _), fun _ _ h => (by cases h), fun _ _ _ h => (by cases h),
    fun _ h => absurd h (Nat.not_lt_zero _)⟩

/-- The string table is read off `strs` and `str2id` alone. -/
theorem StrTable.congr {dc dc' : JSGCDumpContext} (h : StrTable dc) (hs : dc'.strs = dc.strs)
    (hi : dc'.str2id = dc.str2id) : StrTable dc' :=
  ⟨hs ▸ h.nodup, hs ▸ hi ▸ h.str2id⟩

/-! ## `js_gcdump_add_cstr` -/

section add_cstr

variable {dc : JSGCDumpContext}

/-- A string is stored exactly when `str2id` knows it. -/
theorem StrTable.mem_iff (h : StrTable dc) (s : Bytes) : s ∈ dc.strs ↔ (dc.str2id s).isSome := by
  rw [List.mem_iff_getElem?, Option.isSome_iff_exists]
  exact exists_congr fun i => (h.str2id s i).symm

theorem getElem?_append_singleton {α : Type} (l : List α) (a : α) (i : Nat) :
    (l ++ [a])[i]? = if i = l.length then some a else l[i]? := by
  rcases lt_trichotomy i l.length with hi | rfl | hi
  · simp [List.getElem?_append_left hi, hi.ne]
  · simp
  · rw [List.getElem?_append_right hi.le, if_neg hi.ne', List.getElem?_eq_none_iff.mpr hi.le,
      List.getElem?_eq_none_iff.mpr (by simp; omega)]

/-- **`js_gcdump_add_cstr`.** It returns an index at which the string is
stored; it appends the string exactly when it was not stored yet, and the
table stays a table. -/
theorem StrTable.add_cstr (h : StrTable dc) (s : Bytes) :
    StrTable (js_gcdump_add_cstr dc s).2 ∧
      (js_gcdump_add_cstr dc s).2.strs[(js_gcdump_add_cstr dc s).1]? = some s ∧
      (js_gcdump_add_cstr dc s).2.strs = if s ∈ dc.strs then dc.strs else dc.strs ++ [s] := by
  unfold js_gcdump_add_cstr
  split
  · next i hi =>
    exact ⟨h, (h.str2id s i).mp hi, by rw [if_pos ((h.mem_iff s).mpr (by simp [hi]))]⟩
  · next hnone =>
    have hs : s ∉ dc.strs := fun hs => by simpa [hnone] using (h.mem_iff s).mp hs
    refine ⟨⟨List.nodup_append.mpr ⟨h.nodup, List.nodup_singleton s, by simpa using hs⟩,
      fun t i => ?_⟩, by simp, by rw [if_neg hs]⟩
    simp only [getElem?_append_singleton]
    by_cases hts : t = s
    · subst hts
      rw [Function.update_same, Option.some.injEq]
      split_ifs with hi
      · exact ⟨fun _ => rfl, fun _ => hi.symm⟩
      · exact ⟨fun h' => absurd h'.symm hi, fun h' => absurd (List.mem_iff_getElem?.mpr ⟨i, h'⟩) hs⟩
    · rw [Function.update_noteq hts, h.str2id t i]
      split_ifs with hi
      · exact ⟨fun h' => by simp [hi, List.getElem?_eq_none_iff.mpr (le_refl _)] at h',
          fun h' => absurd (Option.some.inj h').symm hts⟩
      · rfl

end add_cstr

/-! ## `js_gcdump_node_from_gp` -/

section node_from_gp

variable {dc : JSGCDumpContext}

/-- The nodes after `js_gcdump_node_from_gp`: a fresh node, named `-2` and
with its index as id, exactly when the key was not seen yet. -/
theorem js_gcdump_node_from_gp_nodes (dc : JSGCDumpContext) (gp : DumpKey) :
    (js_gcdump_node_from_gp dc gp).2.nodes = if (dc.obj2node gp).isSome then dc.nodes
      else dc.nodes ++ [⟨dc.nodes.length, -2, JSGCDumpNode_TYPE_HIDDEN, 0, []⟩] := by
  unfold js_gcdump_node_from_gp
  split <;> simp_all

/-- **`js_gcdump_node_from_gp`** keeps the node table a table. -/
theorem NodeTable.node_from_gp (h : NodeTable dc) (gp : DumpKey) :
    NodeTable (js_gcdump_node_from_gp dc gp).2 := by
  cases hg : dc.obj2node gp with
  | some i => rwa [js_gcdump_node_from_gp_of_some dc hg]
  | none =>
    obtain ⟨-, hnodes, hobj⟩ := js_gcdump_node_from_gp_of_none dc hg
    have hold : ∀ j < dc.nodes.length, (js_gcdump_node_from_gp dc gp).2.node j = dc.node j :=
      fun j hj => js_gcdump_node_from_gp_node dc hj
    have hne : ∀ k i, dc.obj2node k = some i → k ≠ gp := fun k i hk hkg => by simp_all
    generalize (js_gcdump_node_from_gp dc gp).2 = dc' at hnodes hobj hold ⊢
    have hlen : dc'.nodes.length = dc.nodes.length + 1 := by simp [hnodes]
    -- the new node's key is `gp`, and every other key keeps its node
    have hkey : ∀ k i, dc'.obj2node k = some i ↔
        k = gp ∧ i = dc.nodes.length ∨ k ≠ gp ∧ dc.obj2node k = some i := fun k i => by
      by_cases hkg : k = gp
      · subst hkg; simp [hobj, eq_comm]
      · simp [hobj, Function.update_noteq hkg, hkg]
    refine ⟨fun i hi => ?_, fun k i hk => ?_, fun k k' i hk hk' => ?_, fun i hi => ?_⟩
    · rcases Nat.lt_succ_iff_lt_or_eq.mp (hlen ▸ hi) with hi | rfl
      · rw [hold i hi, h.ids i hi]
      · simp [JSGCDumpContext.node, hnodes, List.getD_eq_getElem?_getD]
    · rcases (hkey k i).mp hk with ⟨-, rfl⟩ | ⟨-, hk⟩
      · omega
      · have := h.obj2node_lt k i hk; omega
    · rcases (hkey k i).mp hk with ⟨hkg, hi⟩ | ⟨hkg, hk⟩ <;>
        rcases (hkey k' i).mp hk' with ⟨hkg', hi'⟩ | ⟨hkg', hk'⟩
      · rw [hkg, hkg']
      · exact absurd (hi ▸ h.obj2node_lt k' i hk') (lt_irrefl _)
      · exact absurd (hi' ▸ h.obj2node_lt k i hk) (lt_irrefl _)
      · exact h.obj2node_inj k k' i hk hk'
    · rcases Nat.lt_succ_iff_lt_or_eq.mp (hlen ▸ hi) with hi | rfl
      · obtain ⟨k, hk⟩ := h.keyed i hi
        exact ⟨k, (hkey k i).mpr (.inr ⟨hne k i hk, hk⟩)⟩
      · exact ⟨gp, (hkey gp _).mpr (.inl ⟨rfl, rfl⟩)⟩

/-- The node `js_gcdump_node_from_gp` returns has the key, and its index as id. -/
theorem NodeTable.node_from_gp_id (h : NodeTable dc) (gp : DumpKey) :
    ((js_gcdump_node_from_gp dc gp).2.node (js_gcdump_node_from_gp dc gp).1).id =
      (js_gcdump_node_from_gp dc gp).1 :=
  (h.node_from_gp gp).ids _ ((h.node_from_gp gp).obj2node_lt _ _
    (js_gcdump_node_from_gp_obj2node_self dc gp))

end node_from_gp

/-! ## Sequences of calls -/

/-- The two interning calls the dumper makes, as values, so that a run of
the tables is a list of them. -/
inductive InternCall where
  | add_cstr (s : Bytes)
  | node_from_gp (gp : DumpKey)
  deriving DecidableEq, Repr

/-- One call, its result dropped. -/
def InternCall.run (dc : JSGCDumpContext) : InternCall → JSGCDumpContext
  | .add_cstr s => (js_gcdump_add_cstr dc s).2
  | .node_from_gp gp => (js_gcdump_node_from_gp dc gp).2

/-- The state a sequence of calls leaves, from `js_gcdump_new_ctx`. -/
def interned_by (cs : List InternCall) : JSGCDumpContext :=
  cs.foldl InternCall.run js_gcdump_new_ctx

/-- One call keeps both tables, and adds to each exactly its own string or
key. -/
theorem InternCall.run_tables {dc : JSGCDumpContext} (hS : StrTable dc) (hN : NodeTable dc)
    (c : InternCall) :
    StrTable (c.run dc) ∧ NodeTable (c.run dc) ∧
      (∀ s, s ∈ (c.run dc).strs ↔ s ∈ dc.strs ∨ c = .add_cstr s) ∧
      ∀ gp, ((c.run dc).obj2node gp).isSome ↔ (dc.obj2node gp).isSome ∨ c = .node_from_gp gp := by
  cases c with
  | add_cstr t =>
    obtain ⟨hS', -, hstrs⟩ := hS.add_cstr t
    refine ⟨hS', ⟨?_, ?_, ?_, ?_⟩, fun s => ?_, fun gp => by simp [InternCall.run]⟩
    all_goals simp only [InternCall.run, js_gcdump_add_cstr_node, js_gcdump_add_cstr_nodes,
      js_gcdump_add_cstr_obj2node]
    · exact hN.ids
    · exact hN.obj2node_lt
    · exact hN.obj2node_inj
    · exact hN.keyed
    · rw [hstrs, InternCall.add_cstr.injEq]
      split_ifs with ht
      · exact ⟨.inl, fun h => h.elim id fun h => h ▸ ht⟩
      · rw [List.mem_append, List.mem_singleton, @eq_comm _ t s]
  | node_from_gp k =>
    refine ⟨hS.congr (by simp [InternCall.run]) (by simp [InternCall.run]), hN.node_from_gp k,
      fun s => by simp [InternCall.run],
      fun gp => ?_⟩
    simp only [InternCall.run, InternCall.node_from_gp.injEq, reduceCtorEq, false_or]
    by_cases hgk : gp = k
    · subst hgk; simp
    · unfold js_gcdump_node_from_gp; split <;> simp [Function.update_noteq hgk, Ne.symm hgk]

/-- A sequence of calls from any state with both tables. -/
theorem InternCall.foldl_tables : ∀ (cs : List InternCall) (dc : JSGCDumpContext),
    StrTable dc → NodeTable dc →
    StrTable (cs.foldl InternCall.run dc) ∧ NodeTable (cs.foldl InternCall.run dc) ∧
      (∀ s, s ∈ (cs.foldl InternCall.run dc).strs ↔ s ∈ dc.strs ∨ InternCall.add_cstr s ∈ cs) ∧
      ∀ gp, ((cs.foldl InternCall.run dc).obj2node gp).isSome ↔
        (dc.obj2node gp).isSome ∨ InternCall.node_from_gp gp ∈ cs
  | [], dc, hS, hN => ⟨hS, hN, by simp, by simp⟩
  | c :: cs, dc, hS, hN => by
    obtain ⟨hS₁, hN₁, hs₁, hg₁⟩ := InternCall.run_tables hS hN c
    obtain ⟨hS', hN', hs', hg'⟩ := InternCall.foldl_tables cs (c.run dc) hS₁ hN₁
    refine ⟨hS', hN', fun s => ?_, fun gp => ?_⟩
    · rw [List.foldl_cons, hs', hs₁, List.mem_cons, or_assoc, @eq_comm _ c]
    · rw [List.foldl_cons, hg', hg₁, List.mem_cons, or_assoc, @eq_comm _ c]

/-- **The interning tables over any sequence of calls.** After any sequence
of `js_gcdump_add_cstr` and `js_gcdump_node_from_gp` calls from
`js_gcdump_new_ctx`: the strings are pairwise distinct and `str2id` maps each
to its index; `obj2node` maps distinct keys to distinct nodes, node `i`
having id `i`; a string is stored exactly when it was handed to
`js_gcdump_add_cstr`, a key has a node exactly when it was handed to
`js_gcdump_node_from_gp`. The next `js_gcdump_add_cstr` returns an index
holding its string and appends the string only if no earlier call had it;
the next `js_gcdump_node_from_gp` returns the key's node, which has its index
as id, and pushes that node only the first time the key is seen. -/
theorem js_gcdump_interning (cs : List InternCall) :
    StrTable (interned_by cs) ∧ NodeTable (interned_by cs) ∧
      (∀ s, s ∈ (interned_by cs).strs ↔ InternCall.add_cstr s ∈ cs) ∧
      (∀ gp, ((interned_by cs).obj2node gp).isSome ↔ InternCall.node_from_gp gp ∈ cs) ∧
      (∀ s, (js_gcdump_add_cstr (interned_by cs) s).2.strs[(js_gcdump_add_cstr (interned_by cs) s).1]? =
          some s ∧
        (js_gcdump_add_cstr (interned_by cs) s).2.strs = if InternCall.add_cstr s ∈ cs
          then (interned_by cs).strs else (interned_by cs).strs ++ [s]) ∧
      ∀ gp, (js_gcdump_node_from_gp (interned_by cs) gp).2.obj2node gp =
          some (js_gcdump_node_from_gp (interned_by cs) gp).1 ∧
        ((js_gcdump_node_from_gp (interned_by cs) gp).2.node
          (js_gcdump_node_from_gp (interned_by cs) gp).1).id =
          (js_gcdump_node_from_gp (interned_by cs) gp).1 ∧
        (js_gcdump_node_from_gp (interned_by cs) gp).2.nodes = if InternCall.node_from_gp gp ∈ cs
          then (interned_by cs).nodes
          else (interned_by cs).nodes ++
            [⟨(interned_by cs).nodes.length, -2, JSGCDumpNode_TYPE_HIDDEN, 0, []⟩] := by
  obtain ⟨hS, hN, hs, hg⟩ := InternCall.foldl_tables cs _ StrTable.new_ctx NodeTable.new_ctx
  have hS : StrTable (interned_by cs) := hS
  have hN : NodeTable (interned_by cs) := hN
  have hs' : ∀ s, s ∈ (interned_by cs).strs ↔ InternCall.add_cstr s ∈ cs := fun s => by
    simpa [js_gcdump_new_ctx] using hs s
  have hg' : ∀ gp, ((interned_by cs).obj2node gp).isSome ↔ InternCall.node_from_gp gp ∈ cs :=
    fun gp => by simpa [js_gcdump_new_ctx] using hg gp
  refine ⟨hS, hN, hs', hg', fun s => ?_, fun gp => ⟨js_gcdump_node_from_gp_obj2node_self _ gp,
    hN.node_from_gp_id gp, by rw [js_gcdump_node_from_gp_nodes]; exact if_congr (hg' gp) rfl rfl⟩⟩
  obtain ⟨-, hget, hstrs⟩ := hS.add_cstr s
  exact ⟨hget, by rw [hstrs]; exact if_congr (hs' s) rfl rfl⟩

end SlowJsGc

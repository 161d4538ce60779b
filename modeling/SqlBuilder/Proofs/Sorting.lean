import SqlBuilder.Entity
import SqlBuilder.Proofs.Conversion

namespace SqlBuilder

/-!
# Payloads and the order of writing

A payload keeps its columns in ascending order, and so it forgets in which order they were written.
Names and values follow this one order in the rows of an insertion and in the assignments of an
update.

* `Payload.eq_of_get?`, `Payload.set_erase` — a payload is known from its lookups;
* `Payload.Written`, `Written.get?_eq` — entries that are written in any way: the last one of a
  column counts;
* `Written.toList_perm`, `Written.eq_of_perm` — without repetitions their order is lost;
* `Payload.WrittenInOrder` — the text and the values of a payload, column by column;
* `Payload.SameOutcome` — payloads that no statement tells apart;
* `sorting` — how payloads come to their order, and what keeps it.
-/

namespace Payload

variable {p q : Payload} {c : String} {v : Value}

/-! ### Lookups -/

/-- Payloads with the same lookups are the same. -/
theorem eq_of_get? (h : ∀ c, p.get? c = q.get? c) : p = q := by
  have hirrefl : Std.Irrefl fun a b : Assignment => a.column < b.column :=
    ⟨fun a => String.lt_irrefl a.column⟩
  refine eq_of_assignments (p.ascending.eq_of_mem_iff q.ascending fun a => ?_)
  obtain ⟨c, v⟩ := a
  rw [← get?_eq_some_iff, ← get?_eq_some_iff, h]

/-- An erased column has no value, and the others keep theirs. -/
theorem get?_erase (p : Payload) (c other : String) :
    (p.erase c).get? other = if c = other then none else p.get? other := by
  have hmem : ∀ v, (p.erase c).get? other = some v ↔ p.get? other = some v ∧ other ≠ c := by
    intro v
    rw [get?_eq_some_iff, get?_eq_some_iff, erase, List.mem_filter, bne_iff_ne]
  ext v
  rw [hmem]
  split
  · rename_i hc
    simp [hc]
  · rename_i hc
    simp [Ne.symm hc]

/-- A column that is erased and given the value that it had leaves no trace. -/
theorem set_erase (h : p.get? c = some v) : (p.erase c).set c v = p := by
  refine eq_of_get? fun other => ?_
  rw [get?_set, get?_erase]
  by_cases hc : c = other
  · rw [if_pos hc, ← hc, h]
  · rw [if_neg hc, if_neg hc]

/-- An entry of the list is a lookup. -/
theorem mem_toList_iff : (c, v) ∈ p.toList ↔ p.get? c = some v := by
  rw [get?_eq_some_iff, toList, List.mem_map]
  constructor
  · rintro ⟨⟨column, value⟩, ha, heq⟩
    cases heq
    exact ha
  · intro h
    exact ⟨_, h, rfl⟩

theorem map_fst_toList (p : Payload) : p.toList.map Prod.fst = p.columns := by
  rw [toList, List.map_map]
  rfl

theorem map_snd_toList (p : Payload) : p.toList.map Prod.snd = p.values := by
  rw [toList, List.map_map]
  rfl

theorem flatMap_toList (p : Payload) : p.toList.flatMap (·.2.binds) = p.binds := by
  rw [binds, ← map_snd_toList, List.flatMap_map]

theorem nodup_columns (p : Payload) : p.columns.Nodup :=
  p.ascending_columns.imp fun h => String.ne_of_lt h

/-! ### Writing -/

/-- A payload to which these entries were written, in this order: one by one, as a list, or as the
    fields of a record. -/
inductive Written : Payload → List (String × Value) → Prop
  | empty : Written {} []
  | set {p : Payload} {entries : List (String × Value)} (column : String) (value : Value) :
      Written p entries → Written (p.set column value) (entries ++ [(column, value)])
  | ofList (entries : List (String × Value)) : Written (ofList entries) entries
  | record (e : Entity) (value : Field → Value) :
      Written (e.payload value)
        ((e.fields.filter (!·.isSkipped)).map fun f => (f.column, value f))

/-- Without repetitions a lookup finds every entry. -/
theorem lookup_eq_some_iff_mem {entries : List (String × Value)}
    (h : (entries.map Prod.fst).Nodup) : entries.lookup c = some v ↔ (c, v) ∈ entries := by
  rw [List.lookup_eq_some_iff]
  constructor
  · rintro ⟨front, back, rfl, _⟩
    exact List.mem_append_right _ List.mem_cons_self
  · intro hmem
    obtain ⟨front, back, rfl⟩ := List.append_of_mem hmem
    refine ⟨front, back, rfl, fun e he => ?_⟩
    rw [List.map_append, List.map_cons] at h
    have hne := List.disjoint_of_nodup_append h (List.mem_map_of_mem he)
    rw [bne_iff_ne]
    rintro rfl
    exact hne List.mem_cons_self

namespace Written

variable {entries others : List (String × Value)}

/-- The last value that was written for a column is its value. -/
theorem get?_eq (h : p.Written entries) (c : String) : p.get? c = entries.reverse.lookup c := by
  induction h with
  | empty => rfl
  | @set p entries column value _ ih =>
    rw [get?_set, ih, List.reverse_append, List.reverse_singleton, List.singleton_append,
      List.lookup_cons]
    by_cases hc : column = c
    · simp [hc]
    · have hne : (c == column) = false := by simpa using Ne.symm hc
      rw [if_neg hc, hne]
  | ofList entries => exact get?_ofList entries c
  | record e value => exact get?_ofList _ c

theorem nodup_reverse (h : (entries.map Prod.fst).Nodup) :
    (entries.reverse.map Prod.fst).Nodup := by
  rw [List.map_reverse]
  exact List.nodup_reverse.2 h

/-- Without repetitions every entry is there. -/
theorem get?_eq_some_iff_mem (h : p.Written entries) (hnodup : (entries.map Prod.fst).Nodup) :
    p.get? c = some v ↔ (c, v) ∈ entries := by
  rw [h.get?_eq, lookup_eq_some_iff_mem (nodup_reverse hnodup), List.mem_reverse]

/-- They are there in the order of their columns. -/
theorem toList_perm (h : p.Written entries) (hnodup : (entries.map Prod.fst).Nodup) :
    p.toList.Perm entries := by
  have hlist : (p.toList.map Prod.fst).Nodup := p.map_fst_toList ▸ p.nodup_columns
  refine (List.perm_ext_iff_of_nodup (.of_map _ hlist) (.of_map _ hnodup)).2 fun e => ?_
  obtain ⟨c, v⟩ := e
  rw [mem_toList_iff, h.get?_eq_some_iff_mem hnodup]

/-- The order in which they were written does not matter. -/
theorem eq_of_perm (hp : p.Written entries) (hq : q.Written others) (h : entries.Perm others)
    (hnodup : (entries.map Prod.fst).Nodup) : p = q := by
  have hothers : (others.map Prod.fst).Nodup := (h.map Prod.fst).nodup_iff.1 hnodup
  refine eq_of_get? fun c => Option.ext fun v => ?_
  rw [hp.get?_eq_some_iff_mem hnodup, hq.get?_eq_some_iff_mem hothers, h.mem_iff]

/-- The columns are the names, whatever was written for them and how often. -/
theorem mem_columns_iff (h : p.Written entries) : c ∈ p.columns ↔ c ∈ entries.map Prod.fst := by
  rw [← isSome_get?_iff, h.get?_eq, List.lookup_isSome_iff, List.mem_map]
  simp only [List.mem_reverse, beq_iff_eq]
  exact exists_congr fun e => and_congr_right fun _ => eq_comm

/-- So they are the same for all ways to order the names. -/
theorem columns_eq (hp : p.Written entries) (hq : q.Written others)
    (h : ∀ c, c ∈ entries.map Prod.fst ↔ c ∈ others.map Prod.fst) : p.columns = q.columns :=
  p.ascending_columns.eq_of_mem_iff q.ascending_columns fun c => by
    rw [hp.mem_columns_iff, hq.mem_columns_iff, h]

end Written

end Payload

/-- Rows with the same columns are taken together. -/
theorem Statement.exists_addRows {s : Statement} {rows : List Payload} {columns : List String}
    (hrows : ∀ p ∈ rows, p.columns = columns) (hs : s.rows = [] ∨ s.rowColumns = columns) :
    ∃ t, rows.foldlM addRow s = .ok t := by
  induction rows generalizing s with
  | nil => exact ⟨s, rfl⟩
  | cons p rows ih =>
    obtain ⟨hp, hrows⟩ := List.forall_mem_cons.1 hrows
    have htaken : (s.rows.isEmpty || p.columns == s.rowColumns) = true := by
      rcases hs with hs | hs
      · simp [hs]
      · simp [hs, hp]
    rw [List.foldlM_cons, addRow, if_pos htaken]
    exact ih hrows (.inr hp)

/-! ### One order for names and values -/

namespace Payload

/-- The values of an insertion stand behind those of its table. -/
theorem data_insert {s t : Statement} {rows : List Payload} (hadmits : s.admits .insert = true)
    (h : s.insert rows = .ok t) :
    t.data = s.ledger.source ++ (s.ledger.rows ++ rows.flatMap binds) := by
  have hextended := Statement.extended_insert hadmits h
  have hsource : t.ledger.source = s.ledger.source := congrArg (·.ledger.source) hextended.source
  rw [Statement.data, hextended.kind, Ledger.ordered]
  simp [Kind.clauses, Ledger.get, hsource, hextended.binds]

/-- Those of an update stand between the values of its table and of its conditions. -/
theorem data_update {s : Statement} (hadmits : s.admits .update = true) (p : Payload) :
    (s.update p).data = s.ledger.source ++ (p.binds ++ s.ledger.wheres) := by
  rw [Statement.update, if_pos hadmits, Statement.data, Ledger.ordered]
  simp [Kind.clauses, Ledger.get, Ledger.put]

/-- An update changes neither the target nor the conditions. -/
theorem update_parts {s : Statement} (hadmits : s.admits .update = true) (p : Payload) :
    (s.update p).kind = some .update ∧ (s.update p).assignments = p.assignments ∧
      (s.update p).table = s.table ∧ (s.update p).source = s.source ∧
      (s.update p).wheres = s.wheres := by
  rw [Statement.update, if_pos hadmits]
  exact ⟨rfl, rfl, rfl, rfl, rfl⟩

/-- The columns and the values of a payload follow the order of its list: in its row of an
    insertion, whatever rows stand around it, and in the assignments of an update. -/
structure WrittenInOrder (p : Payload) : Prop where
  insertData : ∀ (s t : Statement) (before after : List Payload), s.admits .insert = true →
    s.insert (before ++ p :: after) = .ok t →
      t.rowColumns = p.toList.map Prod.fst ∧
      t.data = s.ledger.source ++ (s.ledger.rows ++ (before.flatMap binds ++
        (p.toList.flatMap (·.2.binds) ++ after.flatMap binds)))
  insertText : ∀ (s t : Statement) (before after : List Payload), s.admits .insert = true →
    s.insert (before ++ p :: after) = .ok t → p.toList ≠ [] →
      ∀ (d : Dialect) (text : String), t.compile d = .ok text → ∃ n front back,
        front.length = s.rows.length + before.length ∧ back.length = after.length ∧
        text = Token.render d 0 t.insertHead ++
          " ( " ++ ", ".intercalate (p.toList.map (d.wrapName ·.1)) ++ " ) VALUES " ++
          ", ".intercalate (front ++
            ("( " ++ ", ".intercalate (Token.renderEach d n (p.toList.map (·.2.tokens))) ++ " )") ::
              back) ++
          (d.conflictText t.skipConflicts ++ d.returningText t.returning)
  updateData : ∀ s : Statement, s.admits .update = true →
    (s.update p).data = s.ledger.source ++ (p.toList.flatMap (·.2.binds) ++ s.ledger.wheres)
  updateText : ∀ s : Statement, s.admits .update = true → p.toList ≠ [] →
    ∀ (d : Dialect) (text : String), (s.update p).compile d = .ok text → ∃ n m,
      text = "UPDATE " ++ Token.render d 0 (targetTokens s.table s.source) ++
        (" SET " ++ ", ".intercalate
          (List.zipWith (fun column value => column ++ " = " ++ value)
            (p.toList.map (d.wrapName ·.1)) (Token.renderEach d n (p.toList.map (·.2.tokens))))) ++
        Token.render d m (Token.following (filterTokens .WHERE s.wheres))

theorem writtenInOrder (p : Payload) : p.WrittenInOrder where
  insertData s t before after hadmits ht := by
    have hextended := Statement.extended_insert hadmits ht
    refine ⟨?_, ?_⟩
    · rw [map_fst_toList, hextended.columns p (List.mem_append_right _ List.mem_cons_self)]
    · rw [data_insert hadmits ht, List.flatMap_append, List.flatMap_cons, flatMap_toList]
  insertText s t before after hadmits ht hne d text htext := by
    have hextended := Statement.extended_insert hadmits ht
    have hcolumns : t.rowColumns = p.toList.map Prod.fst := by
      rw [map_fst_toList, hextended.columns p (List.mem_append_right _ List.mem_cons_self)]
    have hrows : t.rows =
        (s.rows ++ before.map values) ++ p.values :: after.map values := by
      rw [hextended.rows, List.map_append, List.map_cons, List.append_assoc]
    have hsome : t.rowColumns ≠ [] := by
      rw [hcolumns]
      exact fun h => hne (List.map_eq_nil_iff.1 h)
    have hcompile := Statement.compile_insert hextended.kind hsome htext
    rw [Statement.insertColumnsText, hcolumns, hrows, renderRows_append, renderRows,
      List.map_append, List.map_cons, ← map_snd_toList, List.map_map, List.map_map] at hcompile
    refine ⟨_, _, _, ?_, ?_, hcompile⟩
    · rw [List.length_map, length_renderRows, List.length_append, List.length_map]
    · rw [List.length_map, length_renderRows, List.length_map]
  updateData s hadmits := by
    rw [data_update hadmits, flatMap_toList]
  updateText s hadmits hne d text htext := by
    obtain ⟨_, rfl⟩ := Statement.compile_eq_ok htext
    obtain ⟨hkind, hassignments, htable, hsource, hwheres⟩ := update_parts hadmits p
    obtain ⟨m, hm⟩ := Statement.render_update d hkind
    have hsome : ¬ p.assignments.isEmpty = true := by
      rw [List.isEmpty_iff]
      exact fun h => hne (List.map_eq_nil_iff.2 h)
    rw [Statement.assignmentsText, hassignments, htable, hsource, hwheres, if_neg hsome] at hm
    refine ⟨((targetTokens s.table s.source).flatMap Token.binds).length, m, ?_⟩
    rw [hm, toList, List.map_map, List.map_map]
    rfl

/-! ### Outcomes -/

/-- An insertion with the one payload among its rows, and an update with it, end as those with the
    other do: with the same failure, or with the same text and the same values after any calls. -/
structure SameOutcome (p q : Payload) : Prop where
  insert : ∀ (s : Statement) (before after : List Payload) (later : List Step) (d : Dialect),
    ((s.insert (before ++ p :: after)).mapError .misuse >>= runAll later).map
        (fun t => (t.compile d, t.data)) =
      ((s.insert (before ++ q :: after)).mapError .misuse >>= runAll later).map
        (fun t => (t.compile d, t.data))
  update : ∀ (s : Statement) (later : List Step) (d : Dialect),
    (runAll later (s.update p)).map (fun t => (t.compile d, t.data)) =
      (runAll later (s.update q)).map (fun t => (t.compile d, t.data))

theorem SameOutcome.refl (p : Payload) : p.SameOutcome p :=
  ⟨fun _ _ _ _ _ => rfl, fun _ _ _ => rfl⟩

end Payload

/-- **Sorting.**  Take entries without repetitions, in two orders, and write them to payloads in any
    of the ways.  The payloads have the same columns and the same list, and no statement tells them
    apart.  In general the columns ascend, the last value that was written for a column counts, and
    without repetitions the list is the entries.  In text and values of statements a payload
    follows this list.  Rows with the same names are taken together.  A column that is erased and
    given the value that it had leaves no trace. -/
theorem sorting :
    (∀ (entries others : List (String × Value)) (p q : Payload), entries.Perm others →
      (entries.map Prod.fst).Nodup → p.Written entries → q.Written others →
        p.columns = q.columns ∧ p.toList = q.toList ∧ p.SameOutcome q) ∧
    (∀ (entries : List (String × Value)) (p : Payload), p.Written entries →
      p.columns.Pairwise (· < ·) ∧ (∀ c, p.get? c = entries.reverse.lookup c) ∧
        ((entries.map Prod.fst).Nodup → p.toList.Perm entries)) ∧
    (∀ p : Payload, p.WrittenInOrder) ∧
    (∀ (names : List String) (s : Statement) (rows : List Payload), s.admits .insert = true →
      s.rows = [] →
      (∀ p ∈ rows, ∃ entries, p.Written entries ∧ ∀ c, c ∈ entries.map Prod.fst ↔ c ∈ names) →
        ∃ t, s.insert rows = .ok t) ∧
    ∀ (p : Payload) (c : String) (v : Value), p.get? c = some v →
      (p.erase c).get? c = none ∧ (p.erase c).set c v = p := by
  refine ⟨fun entries others p q hperm hnodup hp hq => ?_, fun entries p hp => ?_,
    Payload.writtenInOrder, fun names s rows hadmits hs hrows => ?_, fun p c v h => ?_⟩
  · obtain rfl := hp.eq_of_perm hq hperm hnodup
    exact ⟨rfl, rfl, .refl p⟩
  · exact ⟨p.ascending_columns, hp.get?_eq, hp.toList_perm⟩
  · have hcolumns : ∀ p ∈ rows, p.columns = (rows.head?.map Payload.columns).getD [] := by
      intro p hp
      obtain ⟨first, rest, rfl⟩ := List.exists_cons_of_ne_nil (List.ne_nil_of_mem hp)
      obtain ⟨entries, hentries, hnames⟩ := hrows p hp
      obtain ⟨others, hothers, hsame⟩ := hrows first List.mem_cons_self
      exact hentries.columns_eq hothers fun c => (hnames c).trans (hsame c).symm
    rw [Statement.insert, if_pos hadmits]
    exact Statement.exists_addRows hcolumns (.inl hs)
  · exact ⟨by rw [Payload.get?_erase, if_pos rfl], Payload.set_erase h⟩

/-- Entries whose values hold two scalars, none and one. -/
def shuffledEntries : List (String × Value) :=
  [("c", .raw ⟨"? + ?", [.int64 2, .int64 3]⟩), ("a", .raw ⟨"now()", []⟩), ("b", .bind (.int64 1))]

theorem sorting_shuffledEntries :
    ∃ p q : Payload, p.Written shuffledEntries ∧ q.Written shuffledEntries.reverse ∧
      p.columns = q.columns ∧ q.columns = ["a", "b", "c"] ∧
      ((Statement.ofSource (.table "t")).update p).compile .postgres =
        .ok "UPDATE \"t\" SET \"a\" = now(), \"b\" = $1, \"c\" = $2 + $3" ∧
      ((Statement.ofSource (.table "t")).update p).data = [.int64 1, .int64 2, .int64 3] := by
  -- One payload comes from a list, and the other one from single entries in the other order.
  have hq := ((Payload.Written.empty.set "b" (.bind (.int64 1))).set "a" (.raw ⟨"now()", []⟩)).set
    "c" (.raw ⟨"? + ?", [.int64 2, .int64 3]⟩)
  obtain ⟨horder, _⟩ := sorting
  obtain ⟨hcolumns, _, houtcome⟩ := horder shuffledEntries shuffledEntries.reverse _ _
    (List.reverse_perm _).symm (by decide) (.ofList _) hq
  have hupdate := houtcome.update (Statement.ofSource (.table "t")) [] .postgres
  obtain ⟨htext, hdata⟩ := Prod.mk.inj (Except.ok.inj hupdate)
  refine ⟨_, _, .ofList _, hq, hcolumns, by decide +kernel, ?_, ?_⟩
  · rw [htext]
    decide +kernel
  · rw [hdata]
    decide +kernel

end SqlBuilder

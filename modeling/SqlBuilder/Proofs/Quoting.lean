import SqlBuilder.Proofs.Neat

namespace SqlBuilder

open Token (Neat)

/-!
# Quoting

Without fragments, a caller's string gets into the text of a statement only between quotes.

* `Leaf.Neat` — what the leaves of a statement need so that its tokens are neat;
* `Leaf.Neat.fits` — what stands at such a leaf is written neatly;
* `Statement.NamesHave`, `invariant_names` — the names of a statement that are no leaves: its table,
  its columns to return and the columns of its rows;
* `Statement.neat_tokens` — the tokens of a statement with neat leaves and names are neat;
* `quoting` — a scanner of the text ends outside quotes, and finds only words of the vocabulary
  there.
-/

/-- A name without a cast, a scalar, or a sub-query with neat tokens. -/
def Leaf.Neat (d : Driver) : Leaf → Prop
  | .name s => d.CastFree s
  | .fragment _ => False
  | .bind _ => True
  | .query q => Token.Neat d q.tokens

/-- A neat leaf is written neatly, wherever it stands. -/
theorem Leaf.Neat.fits {d : Driver} {x : Leaf} (h : x.Neat d) : x.Fits (Token.Neat d) := by
  cases x with
  | name s =>
    have h : d.CastFree s := h
    exact ⟨h.neat_nameTokens, .path h⟩
  | fragment f => exact h.elim
  | bind b => exact .place b
  | query q =>
    have h : Token.Neat d q.tokens := h
    exact ⟨h, fun s _ => .identifier s⟩

/-! ### Names that are no leaves -/

/-- The table of a statement, its columns to return and the columns of its rows have `N`. -/
structure Statement.NamesHave (N : String → Prop) (s : Statement) : Prop where
  table : N s.table
  returning : ∀ c ∈ s.returning, N c
  rowColumns : ∀ c ∈ s.rowColumns, N c

/-- What all names have that a script spells out, these names have as well, if the empty name has it
    and trimming keeps it. -/
theorem invariant_names {P : Leaf → Prop} {N : String → Prop} (hP : ∀ s, P (.name s) → N s)
    (hempty : N "") (htrim : ∀ s, N s → N (Text.trim s)) :
    Invariant P (Statement.NamesHave N) where
  new := ⟨hempty, List.forall_mem_nil _, List.forall_mem_nil _⟩
  scope h := ⟨h.table, List.forall_mem_nil _, List.forall_mem_nil _⟩
  fromSource {s v} h hv := by
    refine ⟨?_, h.returning, h.rowColumns⟩
    cases v with
    -- The name of a table is trimmed before it is kept.
    | table name => exact htrim name (hP name hv)
    | _ => exact h.table
  withDialect _ h := ⟨h.table, h.returning, h.rowColumns⟩
  select ha h _ := by
    rw [Statement.select, if_pos ha]
    exact ⟨h.table, h.returning, h.rowColumns⟩
  aggregate ha h _ := by
    rw [Statement.aggregate, if_pos ha]
    exact ⟨h.table, h.returning, h.rowColumns⟩
  groupBy h _ := ⟨h.table, h.returning, h.rowColumns⟩
  orderBy h _ ht := by
    obtain ⟨_, _, rfl⟩ := Statement.orderBy_eq_ok ht
    exact ⟨h.table, h.returning, h.rowColumns⟩
  limitTo h _ := ⟨h.table, h.returning, h.rowColumns⟩
  offsetBy h _ := ⟨h.table, h.returning, h.rowColumns⟩
  startInsert _ h := ⟨h.table, h.returning, h.rowColumns⟩
  addRow {s t p} h hp ht := by
    obtain ⟨_, rfl⟩ := Statement.addRow_eq_ok ht
    refine ⟨h.table, h.returning, fun c hc => ?_⟩
    obtain ⟨a, ha, rfl⟩ := List.mem_map.1 hc
    exact hP _ (hp _ (List.mem_flatMap.2 ⟨a, ha, List.mem_cons_self⟩))
  skippingConflicts h := ⟨h.table, h.returning, h.rowColumns⟩
  returningColumns {s cs} h hcs :=
    ⟨h.table, fun c hc => (List.mem_append.1 hc).elim (h.returning c) fun hc => hP c (hcs c hc),
      h.rowColumns⟩
  update ha h _ := by
    rw [Statement.update, if_pos ha]
    exact ⟨h.table, h.returning, h.rowColumns⟩
  delete {s} h := by
    rw [Statement.delete]
    split
    · exact ⟨h.table, h.returning, h.rowColumns⟩
    · exact h
  addCondition f _ _ _ h _ := by
    cases f <;> exact ⟨h.table, h.returning, h.rowColumns⟩
  addGroup f _ h _ := by
    rw [Statement.addGroup]
    split
    · exact h
    · cases f <;> exact ⟨h.table, h.returning, h.rowColumns⟩
  addJoin _ h _ := ⟨h.table, h.returning, h.rowColumns⟩

/-! ### Statements -/

namespace Statement

variable {d : Driver} {s : Statement}

/-- The tokens of a statement with neat leaves and names are neat, of whatever kind it is. -/
theorem neat_tokens (h : s.LeavesHave (Leaf.Neat d)) (hn : s.NamesHave d.CastFree) :
    Neat d s.tokens :=
  s.fits (Neat.closed d) (fun e x hx => (h e x hx).fits) (fun a _ => .identifier a.label)
    hn.table.neat_nameTokens (fun c hc => .path (hn.rowColumns c hc)) .queryTarget
    fun _ _ hts => .insertion _ hts hn.returning

end Statement

/-- Neat leaves and names are an invariant. -/
theorem invariant_neat (d : Driver) : Invariant (Leaf.Neat d)
    fun s => s.LeavesHave (Leaf.Neat d) ∧ s.NamesHave d.CastFree :=
  (invariant_leaves _).and
    (invariant_names (fun _ h => h) Driver.CastFree.empty fun _ h => h.trim)

/-- **Quoting.**  Whatever a script without fragments builds, and in PostgreSQL without `::` in its
    names: a scanner of quoted identifiers reads the text to its end outside quotes, and what it
    finds there is words of the vocabulary and places. -/
theorem quoting (d : Driver) {script : Script} {s : Statement} {text : String}
    (hraw : ∀ f, .fragment f ∉ script.inputs)
    (hcast : ∀ name, .name name ∈ script.inputs → d.CastFree name)
    (hs : script.build = .ok s) (htext : s.compile d.dialect = .ok text) :
    ∃ ps : List Phrase, (∀ w, .word w ∈ ps → d.Fixed w) ∧
      scan d.quoteMark .outside text.toList = some (ps.flatMap Phrase.lexemes) := by
  obtain ⟨_, rfl⟩ := Statement.compile_eq_ok htext
  have hinputs : ∀ x ∈ script.inputs, x.leaf.Neat d := by
    intro x hx
    cases x with
    | name name => exact hcast name hx
    | fragment f => exact hraw f hx
    | bind b => trivial
  -- A sub-query with neat leaves and names is a neat leaf, so the induction over scripts applies.
  have hneat : Neat d s.tokens := by
    obtain ⟨hleaves, hnames⟩ := (invariant_neat d).of_build
      (fun q hq => q.neat_tokens hq.1 hq.2) hinputs hs
    exact s.neat_tokens hleaves hnames
  exact ⟨Token.allPhrases d 0 s.tokens, fun w => Token.fixed_of_mem_allPhrases, hneat.scan_render 0⟩

/-- Names with quotes, stars and blanks, in a statement and in its sub-query. -/
def hostileScript : Script :=
  [.fromSource (.query [.fromSource (.table "a\"b c\"d"), .select [.name "t.*"]]),
   .select [.name "\"\"\" \"", .name "x; DROP TABLE users --"],
   .compare .wheres .and (.name "n:.") " not\tlike " (.bind (.text "\" OR 1 = 1 --")),
   .orderBy (.name "\"") "desc"]

theorem quoting_hostileScript :
    ∃ s text, (∀ f, .fragment f ∉ hostileScript.inputs) ∧
      (∀ name, .name name ∈ hostileScript.inputs → Driver.postgres.CastFree name) ∧
      hostileScript.build = .ok s ∧ s.compile .postgres = .ok text ∧
      ∃ ps : List Phrase, (∀ w, .word w ∈ ps → Driver.postgres.Fixed w) ∧
        scan '"' .outside text.toList = some (ps.flatMap Phrase.lexemes) := by
  have hraw : ∀ f, .fragment f ∉ hostileScript.inputs := by
    simp [hostileScript, Script.inputs, stepInputs, Step.inputs, Origin.inputs, Operand.inputs,
      Column.input]
  have hcast : ∀ name, .name name ∈ hostileScript.inputs → Driver.postgres.CastFree name := by
    intro name hname _
    simp only [hostileScript, Script.inputs, stepInputs, Step.inputs, Origin.inputs, Operand.inputs,
      Column.input, List.map_cons, List.map_nil, List.mem_append, List.mem_cons, List.not_mem_nil,
      or_false, Input.name.injEq, reduceCtorEq] at hname
    rcases hname with (rfl | rfl) | (rfl | rfl) | rfl | rfl <;> decide +kernel
  have hbuild : hostileScript.build = .ok _ := rfl
  exact ⟨_, _, hraw, hcast, hbuild, rfl, quoting .postgres hraw hcast hbuild rfl⟩

end SqlBuilder

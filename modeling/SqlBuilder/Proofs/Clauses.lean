import SqlBuilder.Statement.Tokens
import SqlBuilder.Proofs.Leaf

namespace SqlBuilder

open Token (after enclosed listed spaced clauses listedAfter)

/-!
# The clauses of a statement's text

`Statement.tokens` unfolds to one list of clauses for each kind.  All later statements about the
text of a statement go through these lists and not through its definition.

* `tokens_select`, `tokens_insert`, `tokens_update`, `tokens_delete` — the clauses of each kind;
* `flatMap_listed`, `flatMap_clauses`, … — what is read off the tokens one by one passes over the
  words between the items;
* `Predicate.groupInduction` — induction over a test, through the conditions of its groups.
-/

/-! ### The four kinds of text -/

/-- The columns to read, or a star where no column is named. -/
def selectTokens (s : Statement) : List Token :=
  let items := s.columns.map Column.tokens ++ s.aggregates.map Aggregate.tokens
  after .SELECT (if items.isEmpty then [.word .star] else listed items)

/-- A filter after its word; nothing without conditions. -/
def filterTokens (w : Word) (cs : List Condition) : List Token :=
  if cs.isEmpty then [] else after w (spaced (cs.map Condition.tokens))

/-- The columns of the rows to insert. -/
def rowColumnTokens (s : Statement) : List Token :=
  if s.rowColumns.isEmpty then [] else enclosed (listed (s.rowColumns.map fun c => [.path c]))

/-- One row to insert. -/
def rowTokens (vs : List Value) : List Token := enclosed (listed (vs.map Value.tokens))

/-- The rows to insert; nothing where they have no columns. -/
def valuesTokens (s : Statement) : List Token :=
  if s.rowColumns.isEmpty then [] else after .VALUES (listed (s.rows.map rowTokens))

namespace Statement

variable {s : Statement}

/-- The clauses of a query. -/
theorem tokens_select (h : s.kind = none ∨ s.kind = some .select) :
    s.tokens = clauses
      [selectTokens s, fromTokens s.source, spaced (s.joins.map Join.tokens),
       filterTokens .WHERE s.wheres, listedAfter .GROUP_BY (s.groups.map Column.tokens),
       filterTokens .HAVING s.havings, listedAfter .ORDER_BY (s.orders.map Order.tokens),
       boundTokens .LIMIT s.limit, boundTokens .OFFSET s.offset] := by
  cases s
  rcases h with rfl | rfl <;> simp [tokens, selectTokens, filterTokens]

/-- The clauses of an insertion. -/
theorem tokens_insert (h : s.kind = some .insert) :
    s.tokens = .insertVerb s.skipConflicts ::
      clauses [after .INTO (targetTokens s.table s.source), rowColumnTokens s, valuesTokens s] ++
        [.onConflict s.skipConflicts, .returning s.returning] := by
  cases s
  cases h
  simp [tokens, rowColumnTokens, valuesTokens]
  rfl

/-- The clauses of an update. -/
theorem tokens_update (h : s.kind = some .update) :
    s.tokens = clauses
      [after .UPDATE (targetTokens s.table s.source),
       listedAfter .SET (s.assignments.map Assignment.tokens), filterTokens .WHERE s.wheres] := by
  cases s
  cases h
  simp [tokens, filterTokens]

/-- A statement has a text unless a sub-query stands for the table to write to. -/
theorem compile_eq_ok {d : Dialect} {text : String} (h : s.compile d = .ok text) :
    Token.queryTarget ∉ s.tokens ∧ text = Token.render d 0 s.tokens := by
  rw [compile] at h
  split at h
  · cases h
  · rename_i htarget
    cases h
    exact ⟨htarget, rfl⟩

/-- The clauses of a deletion. -/
theorem tokens_delete (h : s.kind = some .delete) :
    s.tokens =
      clauses [[.word .DELETE], fromTokens s.source, filterTokens .WHERE s.wheres] := by
  cases s
  cases h
  simp [tokens, filterTokens]

end Statement

/-! ### Lists with separators -/

/-- What is interspersed is a separator or an item. -/
theorem mem_of_mem_intersperse {α : Type} {sep x : α} {xs : List α}
    (h : x ∈ xs.intersperse sep) : x = sep ∨ x ∈ xs := by
  induction xs with
  | nil => cases h
  | cons y ys ih =>
    cases ys with
    | nil => exact .inr h
    | cons z zs =>
      rw [List.intersperse_cons_cons, List.mem_cons, List.mem_cons] at h
      rcases h with rfl | rfl | h
      · exact .inr List.mem_cons_self
      · exact .inl rfl
      · exact (ih h).imp id (List.mem_cons_of_mem _)

/-- What is in a list with separators is a separator or in one of the items. -/
theorem mem_intercalate {α : Type} {sep : List α} {items : List (List α)} {x : α}
    (h : x ∈ sep.intercalate items) : x ∈ sep ∨ ∃ ts ∈ items, x ∈ ts := by
  obtain ⟨ts, hts, hx⟩ := List.mem_flatten.1 h
  rcases mem_of_mem_intersperse hts with rfl | hts
  · exact .inl hx
  · exact .inr ⟨ts, hts, hx⟩

/-- What is read off a list with separators is read off the items, with what is read off the
    separator between. -/
theorem flatMap_intercalate_eq {α β : Type} (f : α → List β) (sep : List α)
    (items : List (List α)) :
    (sep.intercalate items).flatMap f = (sep.flatMap f).intercalate (items.map (·.flatMap f)) := by
  induction items with
  | nil => rfl
  | cons ts items ih =>
    cases items with
    | nil => simp
    | cons us items =>
      rw [List.map_cons, List.map_cons, List.intercalate_cons_cons, List.intercalate_cons_cons,
        List.flatMap_append, List.flatMap_append, ih, List.map_cons]

theorem map_intercalate_eq {α β : Type} (f : α → β) (sep : List α) (items : List (List α)) :
    (sep.intercalate items).map f = (sep.map f).intercalate (items.map (·.map f)) := by
  simpa only [List.map_eq_flatMap] using flatMap_intercalate_eq (fun x => [f x]) sep items

/-- Single items with a separator between them. -/
theorem intersperse_eq_intercalate {α : Type} (sep : α) (xs : List α) :
    xs.intersperse sep = [sep].intercalate (xs.map fun x => [x]) := by
  induction xs with
  | nil => rfl
  | cons x xs ih =>
    cases xs with
    | nil => rfl
    | cons y ys =>
      rw [List.intersperse_cons_cons, ih]
      simp only [List.map_cons, List.intercalate_cons_cons]
      rfl

/-- Items with spaces between them are the first one, and a space and an item for each other one. -/
theorem Token.spaced_cons (ts : List Token) (items : List (List Token)) :
    spaced (ts :: items) = ts ++ items.flatMap (.word .space :: ·) := by
  induction items generalizing ts with
  | nil => simp [spaced]
  | cons us items ih =>
    have htail : spaced (us :: items) = us ++ items.flatMap (.word .space :: ·) := ih us
    rw [spaced] at htail ⊢
    rw [List.intercalate_cons_cons, htail]
    simp

/-- A clause behind others: a space and the clause, nothing if it is absent. -/
def Token.following (ts : List Token) : List Token :=
  if ts.isEmpty then [] else .word .space :: ts

/-- Behind a first clause that is there, the other clauses follow. -/
theorem Token.clauses_cons {ts : List Token} (h : ts ≠ []) (parts : List (List Token)) :
    clauses (ts :: parts) = ts ++ parts.flatMap Token.following := by
  have hrest : (parts.filter (!·.isEmpty)).flatMap (.word .space :: ·) =
      parts.flatMap Token.following := by
    induction parts with
    | nil => rfl
    | cons us parts ih => cases us <;> simp [Token.following, ih]
  rw [clauses, List.filter_cons_of_pos (by simp [h]), Token.spaced_cons, hrest]

/-- More clauses behind follow one by one. -/
theorem Token.clauses_append {ts : List Token} (h : ts ≠ []) (parts more : List (List Token)) :
    clauses (ts :: parts ++ more) = clauses (ts :: parts) ++ more.flatMap Token.following := by
  rw [List.cons_append, Token.clauses_cons h, Token.clauses_cons h, List.flatMap_append,
    List.append_assoc]

/-! ### What is read off the tokens one by one -/

section

variable {β : Type} {g : Token → List β}

theorem flatMap_after (hg : ∀ w, g (.word w) = []) (w : Word) (ts : List Token) :
    (after w ts).flatMap g = ts.flatMap g := by
  simp [after, hg]

theorem flatMap_enclosed (hg : ∀ w, g (.word w) = []) (ts : List Token) :
    (enclosed ts).flatMap g = ts.flatMap g := by
  simp [enclosed, hg]

/-- A word between the items of a list adds nothing. -/
theorem flatMap_intercalate (hg : ∀ w, g (.word w) = []) (w : Word) (items : List (List Token)) :
    ([Token.word w].intercalate items).flatMap g = items.flatMap (·.flatMap g) := by
  induction items with
  | nil => rfl
  | cons ts items ih =>
    cases items with
    | nil => simp
    | cons us items =>
      rw [List.intercalate_cons_cons, List.flatMap_append, List.flatMap_append, ih]
      simp [hg]

theorem flatMap_listed (hg : ∀ w, g (.word w) = []) (items : List (List Token)) :
    (listed items).flatMap g = items.flatMap (·.flatMap g) :=
  flatMap_intercalate hg .comma items

theorem flatMap_spaced (hg : ∀ w, g (.word w) = []) (items : List (List Token)) :
    (spaced items).flatMap g = items.flatMap (·.flatMap g) :=
  flatMap_intercalate hg .space items

/-- A clause without tokens adds nothing, so it does not matter that it is left out. -/
theorem flatMap_clauses (hg : ∀ w, g (.word w) = []) (parts : List (List Token)) :
    (clauses parts).flatMap g = parts.flatMap (·.flatMap g) := by
  rw [clauses, flatMap_spaced hg]
  induction parts with
  | nil => rfl
  | cons ts parts ih =>
    -- The filter drops the clause if it has no tokens.
    cases ts <;> simp [ih]

theorem flatMap_listedAfter (hg : ∀ w, g (.word w) = []) (w : Word) (items : List (List Token)) :
    (listedAfter w items).flatMap g = items.flatMap (·.flatMap g) := by
  rw [listedAfter]
  split
  · rename_i h
    rw [List.isEmpty_iff.1 h]
    rfl
  · rw [flatMap_after hg, flatMap_listed hg]

theorem flatMap_filterTokens (hg : ∀ w, g (.word w) = []) (w : Word) (cs : List Condition) :
    (filterTokens w cs).flatMap g = cs.flatMap (·.tokens.flatMap g) := by
  rw [filterTokens]
  split
  · rename_i h
    rw [List.isEmpty_iff.1 h]
    rfl
  · rw [flatMap_after hg, flatMap_spaced hg, List.flatMap_map]

end

/-! ### The items stand in the list whole -/

/-- An item of a list stands in it whole. -/
theorem infix_intercalate {α : Type} {sep ts : List α} {items : List (List α)} (h : ts ∈ items) :
    ts <:+: sep.intercalate items := by
  induction items with
  | nil => cases h
  | cons us items ih =>
    cases items with
    | nil =>
      obtain rfl := List.mem_singleton.1 h
      exact ⟨[], [], by simp⟩
    | cons vs items =>
      rw [List.intercalate_cons_cons]
      rcases List.mem_cons.1 h with rfl | h
      · exact ⟨[], sep ++ sep.intercalate (vs :: items), by simp⟩
      · exact (ih h).trans (List.suffix_append _ _).isInfix

theorem infix_listed {ts : List Token} {items : List (List Token)} (h : ts ∈ items) :
    ts <:+: listed items :=
  infix_intercalate h

theorem infix_spaced {ts : List Token} {items : List (List Token)} (h : ts ∈ items) :
    ts <:+: spaced items :=
  infix_intercalate h

/-- A clause stands in the text whole. -/
theorem infix_clauses {ts : List Token} {parts : List (List Token)} (h : ts ∈ parts) :
    ts <:+: clauses parts := by
  cases ts with
  | nil => exact List.nil_infix
  | cons t ts => exact infix_spaced (List.mem_filter.2 ⟨h, rfl⟩)

theorem infix_after (w : Word) (ts : List Token) : ts <:+: after w ts :=
  ⟨[.word w, .word .space], [], by simp [after]⟩

theorem infix_enclosed (ts : List Token) : ts <:+: enclosed ts :=
  ⟨[.word .opening], [.word .closing], by simp [enclosed]⟩

theorem infix_listedAfter {ts : List Token} (w : Word) {items : List (List Token)}
    (h : ts ∈ items) : ts <:+: listedAfter w items := by
  have hne : items.isEmpty = false := List.isEmpty_eq_false_iff_exists_mem.2 ⟨ts, h⟩
  rw [listedAfter, hne]
  exact (infix_listed h).trans (infix_after w _)

theorem infix_filterTokens {c : Condition} (w : Word) {cs : List Condition} (h : c ∈ cs) :
    c.tokens <:+: filterTokens w cs := by
  have hne : cs.isEmpty = false := List.isEmpty_eq_false_iff_exists_mem.2 ⟨c, h⟩
  rw [filterTokens, hne]
  exact (infix_spaced (List.mem_map_of_mem h)).trans (infix_after w _)

/-- A statement that has a text does not write to a sub-query. -/
theorem Statement.queryTarget_not_mem {s : Statement}
    (hkind : s.kind = some .insert ∨ s.kind = some .update)
    (htarget : Token.queryTarget ∉ s.tokens) :
    Token.queryTarget ∉ targetTokens s.table s.source := by
  intro hmem
  refine htarget ?_
  rcases hkind with hkind | hkind
  · rw [tokens_insert hkind]
    refine List.mem_append_left _ (List.mem_cons_of_mem _ ?_)
    exact (infix_clauses List.mem_cons_self).subset ((infix_after _ _).subset hmem)
  · rw [tokens_update hkind]
    exact (infix_clauses List.mem_cons_self).subset ((infix_after _ _).subset hmem)

/-! ### Induction over a test -/

mutual

theorem Predicate.groupInduction {M : Predicate → Prop}
    (h : ∀ p, (∀ cs, p = .group cs → ∀ c ∈ cs, M c.predicate) → M p) (p : Predicate) : M p := by
  cases p with
  | group cs =>
    refine h _ fun cs' e => ?_
    cases e
    exact conditionsInduction h cs
  | _ => exact h _ (by intro cs e; cases e)

theorem conditionsInduction {M : Predicate → Prop}
    (h : ∀ p, (∀ cs, p = .group cs → ∀ c ∈ cs, M c.predicate) → M p) (cs : List Condition) :
    ∀ c ∈ cs, M c.predicate := by
  cases cs with
  | nil => simp
  | cons c cs =>
    obtain ⟨k, p⟩ := c
    exact List.forall_mem_cons.2 ⟨Predicate.groupInduction h p, conditionsInduction h cs⟩

end

end SqlBuilder

import SqlBuilder.Proofs.Lexemes
import SqlBuilder.Proofs.Quoting
import SqlBuilder.Proofs.Rendering
import SqlBuilder.Proofs.Substitution

namespace SqlBuilder

open Token (after enclosed listed spaced Neat)

/-!
# Filters are read back

A filter whose names are single words and whose values are scalars can be told from its text in
MySQL and in SQLite, but for the values: no group is lost and no two filters have one text.

* `Leaf.Single`, `Predicate.Single` — the names and values that are asked for;
* `Predicate.start`, `Predicate.start_eq` — the kind of a test can be told from its start;
* `Predicate.lexemes_column` — a test of a column is found as the column, the test and the members;
* `Predicate.SelfDelimiting` — a test that is told, but for its values, from all lexemes that start
  with its own;
* `Condition.eq_of_append_eq`, `shape_eq_of_conditionLexemes_append_eq` — and so are conditions, and
  lists of them that end;
* `Predicate.selfDelimiting` — by induction, every test of such names and values is;
* `reading` — two filters have one text exactly if they are the same but for the values.
-/

/-! ### The start of a test -/

/-- A name of one word, or a scalar. -/
def Leaf.Single : Leaf → Prop
  | .name s => Text.words s = [s]
  | .bind _ => True
  | .fragment _ | .query _ => False

/-- The three kinds of tests that can be told from their start. -/
inductive Start where
  | constant
  | group
  | column
  deriving DecidableEq

/-- The kind of test that starts so. -/
def Lexeme.start? : Lexeme → Option Start
  | plain '0' | plain '1' => some .constant
  | plain '(' => some .group
  | plain '*' | identifier _ => some .column
  | plain _ => none

namespace Predicate

/-- All names are single words and all values are scalars. -/
def Single (p : Predicate) : Prop := ∀ x ∈ p.leaves, x.Single

/-- How the test starts. -/
def start : Predicate → Start
  | constant _ => .constant
  | group _ => .group
  | _ => .column

/-- What is found of the test. -/
def lexemes (d : Driver) (p : Predicate) : List Lexeme := p.tokens.flatMap (Token.lexemes d)

/-- The test without its values. -/
def shape (p : Predicate) : Predicate := p.subst fun _ => .null

variable {d : Driver} {p : Predicate}

theorem eq_constant (h : p.start = .constant) : ∃ holds, p = constant holds := by
  cases p with
  | constant holds => exact ⟨holds, rfl⟩
  | _ => cases h

theorem eq_group (h : p.start = .group) : ∃ cs, p = group cs := by
  cases p with
  | group cs => exact ⟨cs, rfl⟩
  | _ => cases h

end Predicate

/-- A single word is written as a path. -/
theorem Column.eq_name {c : Column} (h : c.leaf.Single) :
    ∃ s, c = .name s ∧ nameTokens s = [.path s] := by
  cases c with
  | name s =>
    have hwords : Text.words s = [s] := h
    exact ⟨s, rfl, by rw [nameTokens, hwords]⟩
  | raw f => exact h.elim

theorem Value.eq_bind {v : Value} (h : v.leaf.Single) : ∃ b, v = .bind b := by
  cases v with
  | bind b => exact ⟨b, rfl⟩
  | _ => exact h.elim

namespace Predicate

variable {d : Driver} {p : Predicate}

theorem flatMap_listed_places (hd : d ≠ .postgres) {vs : List Value}
    (h : ∀ v ∈ vs, v.leaf.Single) :
    (listed (vs.map Value.tokens)).flatMap (Token.lexemes d) = Test.places vs.length := by
  have hplace : ∀ v ∈ vs, v.tokens.flatMap (Token.lexemes d) = [.plain '?'] := by
    intro v hv
    obtain ⟨b, rfl⟩ := Value.eq_bind (h v hv)
    simp [Value.tokens, Token.lexemes_place hd]
  have hcomma : [Token.word .comma].flatMap (Token.lexemes d) = [.plain ',', .plain ' '] := by
    simp [Word.text]
  rw [listed, flatMap_intercalate_eq, hcomma, List.map_map, Test.places, ← List.map_const']
  exact congrArg _ (List.map_congr_left hplace)

/-- A test of a column is found as the column, a space, the test and the members. -/
theorem lexemes_column (hd : d ≠ .postgres) (hp : p.Single) (h : p.start = .column) :
    ∃ column t n, p.lexemes d = pathLexemes column ++ .plain ' ' :: (t.lexemes ++ t.members n) ∧
      p.shape = Test.predicate column t n := by
  -- Constants and groups have no column, and `hp` rules fragments and sub-queries out.
  cases p with
  | constant _ => cases h
  | group _ => cases h
  | raw f => exact (hp (.fragment f) List.mem_cons_self).elim
  | amongQuery column query negated => exact (hp (.query query) (by simp [leaves])).elim
  | compare column o value =>
    obtain ⟨s, rfl, hs⟩ := Column.eq_name (hp column.leaf (by simp [leaves]))
    obtain ⟨b, rfl⟩ := Value.eq_bind (hp value.leaf (by simp [leaves]))
    refine ⟨s, .compare o, 0, ?_, rfl⟩
    simp [lexemes, tokens, comparison, Column.tokens, hs, after, Value.tokens,
      Token.lexemes_place hd, Test.lexemes, Test.text, Test.members, Word.text]
  | between column low high negated =>
    obtain ⟨s, rfl, hs⟩ := Column.eq_name (hp column.leaf (by simp [leaves]))
    obtain ⟨b, rfl⟩ := Value.eq_bind (hp low.leaf (by simp [leaves]))
    obtain ⟨b', rfl⟩ := Value.eq_bind (hp high.leaf (by simp [leaves]))
    refine ⟨s, .between negated, 0, ?_, rfl⟩
    cases negated <;>
      simp [lexemes, tokens, Column.tokens, hs, after, Value.tokens, Token.lexemes_place hd,
        Test.lexemes, Test.text, Test.members, Word.text]
  | isNull column negated =>
    obtain ⟨s, rfl, hs⟩ := Column.eq_name (hp column.leaf (by simp [leaves]))
    refine ⟨s, .isNull negated, 0, ?_, rfl⟩
    cases negated <;>
      simp [lexemes, tokens, Column.tokens, hs, Test.lexemes, Test.text, Test.members, Word.text]
  | among column values negated =>
    obtain ⟨s, rfl, hs⟩ := Column.eq_name (hp column.leaf (by simp [leaves]))
    have hvalues : ∀ v ∈ values, v.leaf.Single := fun v hv =>
      hp v.leaf (List.mem_cons_of_mem _ (List.mem_map_of_mem hv))
    have hnull : ∀ v ∈ values, v.subst (fun _ => .null) = .bind .null := by
      intro v hv
      obtain ⟨b, rfl⟩ := Value.eq_bind (hvalues v hv)
      rfl
    refine ⟨s, .among negated, values.length, ?_, ?_⟩
    · cases negated <;>
        simp [lexemes, tokens, Column.tokens, hs, after, enclosed, flatMap_listed_places hd hvalues,
          Test.lexemes, Test.text, Test.members, Word.text]
    · rw [shape, subst, substValues_eq_map, List.map_congr_left hnull, List.map_const']
      rfl

theorem lexemes_constant (d : Driver) (holds : Bool) :
    (constant holds).lexemes d =
      (if holds then ['1', ' ', '=', ' ', '1'] else ['0', ' ', '=', ' ', '1']).map .plain := by
  cases holds <;> simp [lexemes, tokens, Word.text]

/-- The start of a test tells its kind. -/
theorem lexemes_eq_cons (hd : d ≠ .postgres) (hp : p.Single) :
    ∃ x xs, p.lexemes d = x :: xs ∧ x.start? = some p.start := by
  match hstart : p.start with
  | .constant =>
    obtain ⟨holds, rfl⟩ := eq_constant hstart
    rw [lexemes_constant]
    cases holds <;> exact ⟨_, _, rfl, rfl⟩
  | .group =>
    obtain ⟨cs, rfl⟩ := eq_group hstart
    have hopening : (group cs).lexemes d = .plain '(' :: .plain ' ' ::
        (spaced (cs.map Condition.tokens) ++ [Token.word .closing]).flatMap (Token.lexemes d) := by
      simp [lexemes, tokens, enclosed, Word.text]
    exact ⟨_, _, hopening, rfl⟩
  | .column =>
    obtain ⟨column, t, n, hlexemes, _⟩ := lexemes_column hd hp hstart
    obtain ⟨part, xs, hpath⟩ := pathLexemes_eq_cons column
    have hsegment : (segmentLexeme part).start? = some .column := by
      rw [segmentLexeme]
      split <;> rfl
    rw [hlexemes, hpath]
    exact ⟨_, _, rfl, hsegment⟩

/-- Two tests whose lexemes go on alike are of one kind. -/
theorem start_eq {q : Predicate} (hd : d ≠ .postgres) (hp : p.Single) (hq : q.Single)
    {r r' : List Lexeme} (h : p.lexemes d ++ r = q.lexemes d ++ r') : p.start = q.start := by
  obtain ⟨x, xs, hx, hp⟩ := lexemes_eq_cons hd hp
  obtain ⟨y, ys, hy, hq⟩ := lexemes_eq_cons hd hq
  rw [hx, hy] at h
  rw [List.head_eq_of_cons_eq h] at hp
  exact Option.some.inj (hp.symm.trans hq)

/-- The test is told, but for its values, from lexemes that start with its own. -/
def SelfDelimiting (d : Driver) (p : Predicate) : Prop :=
  ∀ {q : Predicate} {r r' : List Lexeme}, q.Single → p.lexemes d ++ r = q.lexemes d ++ r' →
    p.shape = q.shape ∧ r = r'

end Predicate

/-! ### Lists of conditions -/

namespace Condition

/-- What is found of a condition. -/
def lexemes (d : Driver) (c : Condition) : List Lexeme := c.tokens.flatMap (Token.lexemes d)

/-- The condition without its values. -/
def shape (c : Condition) : Condition := c.subst fun _ => .null

theorem shape_mk (k : Option Connector) (p : Predicate) : shape ⟨k, p⟩ = ⟨k, p.shape⟩ := rfl

/-- What is found of a connector. -/
def connectorLexemes : Option Connector → List Lexeme
  | none => []
  | some k => (k.word.text.toList ++ [' ']).map .plain

variable {d : Driver} {c c' : Condition}

theorem lexemes_mk {k : Option Connector} {p : Predicate} (hp : p.Single) :
    lexemes d ⟨k, p⟩ = connectorLexemes k ++ p.lexemes d := by
  cases k with
  | none => rfl
  | some k =>
    cases p with
    | raw f => exact (hp (.fragment f) List.mem_cons_self).elim
    | _ => simp [lexemes, tokens, Predicate.afterConnector, after, connectorLexemes,
        Predicate.lexemes, Word.text]

/-- A condition starts with a connector or as its test does, and so neither with a space nor with a
    closing parenthesis. -/
theorem lexemes_eq_cons (hd : d ≠ .postgres) (hc : c.predicate.Single) :
    ∃ x xs, c.lexemes d = x :: xs ∧ x ≠ .plain ' ' ∧ x ≠ .plain ')' := by
  obtain ⟨k, p⟩ := c
  rw [lexemes_mk hc]
  cases k with
  | none =>
    obtain ⟨x, xs, hx, hstart⟩ := Predicate.lexemes_eq_cons hd hc
    refine ⟨x, xs, hx, ?_, ?_⟩
    · rintro rfl
      cases hstart
    · rintro rfl
      cases hstart
  | some k => cases k <;> exact ⟨_, _, rfl, by decide, by decide⟩

/-- The connector is told from a test, and from the other connector. -/
theorem connectorLexemes_append (hd : d ≠ .postgres) {k k' : Option Connector} {p q : Predicate}
    (hp : p.Single) (hq : q.Single) {r r' : List Lexeme}
    (h : connectorLexemes k ++ (p.lexemes d ++ r) = connectorLexemes k' ++ (q.lexemes d ++ r')) :
    k = k' ∧ p.lexemes d ++ r = q.lexemes d ++ r' := by
  obtain ⟨x, xs, hx, hstart⟩ := Predicate.lexemes_eq_cons hd hp
  obtain ⟨y, ys, hy, hstart'⟩ := Predicate.lexemes_eq_cons hd hq
  -- No test starts with a letter, and the connectors start with different ones.
  cases k with
  | none =>
    cases k' with
    | none => exact ⟨rfl, h⟩
    | some k' =>
      rw [hx] at h
      cases k' <;>
      · obtain rfl := List.head_eq_of_cons_eq h
        cases hstart
  | some k =>
    cases k' with
    | none =>
      rw [hy] at h
      cases k <;>
      · obtain rfl := List.head_eq_of_cons_eq h
        cases hstart'
    | some k' =>
      have hk : k = k' := by
        cases k <;> cases k' <;> first | rfl | cases List.head_eq_of_cons_eq h
      subst hk
      exact ⟨rfl, List.append_cancel_left h⟩

/-- A condition is told from lexemes that start with its own, if its test is. -/
theorem eq_of_append_eq (hd : d ≠ .postgres) (h : c.predicate.SelfDelimiting d)
    (hc : c.predicate.Single) (hc' : c'.predicate.Single) {r r' : List Lexeme}
    (heq : c.lexemes d ++ r = c'.lexemes d ++ r') : c.shape = c'.shape ∧ r = r' := by
  obtain ⟨k, p⟩ := c
  obtain ⟨k', q⟩ := c'
  rw [lexemes_mk hc, lexemes_mk hc', List.append_assoc, List.append_assoc] at heq
  obtain ⟨rfl, htests⟩ := connectorLexemes_append hd hc hc' heq
  obtain ⟨hshape, hrest⟩ := h hc' htests
  exact ⟨by rw [shape_mk, shape_mk, hshape], hrest⟩

end Condition

/-- All names in the conditions are single words and all values are scalars. -/
def AllSingle (cs : List Condition) : Prop := ∀ c ∈ cs, c.predicate.Single

/-- What is found of a list of conditions. -/
def conditionLexemes (d : Driver) (cs : List Condition) : List Lexeme :=
  (spaced (cs.map Condition.tokens)).flatMap (Token.lexemes d)

/-- What follows a list of conditions: nothing, or the end of the group that it is in. -/
def EndsConditions (r : List Lexeme) : Prop := r = [] ∨ ∃ r', r = .plain ' ' :: .plain ')' :: r'

section

variable {d : Driver}

theorem conditionLexemes_cons (c : Condition) (cs : List Condition) :
    conditionLexemes d (c :: cs) =
      c.lexemes d ++ cs.flatMap fun c => .plain ' ' :: c.lexemes d := by
  have hspace : [Token.word .space].flatMap (Token.lexemes d) = [.plain ' '] := by
    simp [Word.text]
  induction cs generalizing c with
  | nil => simp [conditionLexemes, spaced, Condition.lexemes]
  | cons c' cs ih =>
    have ih := ih c'
    rw [conditionLexemes, spaced] at ih ⊢
    rw [List.map_cons, List.map_cons, List.intercalate_cons_cons, List.flatMap_append,
      List.flatMap_append, hspace, ← List.map_cons, ih]
    simp [Condition.lexemes]

/-- No condition follows where a list of conditions ends. -/
theorem EndsConditions.ne (hd : d ≠ .postgres) {r : List Lexeme} (hr : EndsConditions r)
    {c : Condition} (hc : c.predicate.Single) (xs : List Lexeme) :
    r ≠ .plain ' ' :: (c.lexemes d ++ xs) := by
  rintro rfl
  obtain ⟨x, ys, hx, _, hclosing⟩ := c.lexemes_eq_cons hd hc
  rcases hr with h | ⟨r', h⟩
  · cases h
  · rw [hx] at h
    exact hclosing (List.head_eq_of_cons_eq (List.tail_eq_of_cons_eq h))

/-- A list of conditions does not start where another one ends. -/
theorem EndsConditions.ne_start (hd : d ≠ .postgres) {r : List Lexeme} (hr : EndsConditions r)
    {c : Condition} (hc : c.predicate.Single) (xs : List Lexeme) : r ≠ c.lexemes d ++ xs := by
  rintro rfl
  obtain ⟨x, ys, hx, hspace, _⟩ := c.lexemes_eq_cons hd hc
  rw [hx] at hr
  rcases hr with h | ⟨r', h⟩
  · cases h
  · exact hspace (List.head_eq_of_cons_eq h)

/-- Conditions with a space in front of each are told as far as the list goes. -/
theorem shape_eq_of_flatMap_append_eq (hd : d ≠ .postgres) {cs ds : List Condition}
    (h : ∀ c ∈ cs, c.predicate.SelfDelimiting d) (hcs : AllSingle cs) (hds : AllSingle ds)
    {r r' : List Lexeme} (hr : EndsConditions r) (hr' : EndsConditions r')
    (heq : (cs.flatMap fun c => .plain ' ' :: c.lexemes d) ++ r =
      (ds.flatMap fun c => .plain ' ' :: c.lexemes d) ++ r') :
    cs.map Condition.shape = ds.map Condition.shape ∧ r = r' := by
  -- Both lists are taken apart together: where one of them ends, the other cannot go on.
  induction cs generalizing ds with
  | nil =>
    cases ds with
    | nil => exact ⟨rfl, heq⟩
    | cons c' ds =>
      rw [List.flatMap_cons, List.append_assoc] at heq
      exact absurd heq (hr.ne hd (hds c' List.mem_cons_self) _)
  | cons c cs ih =>
    obtain ⟨hc, h⟩ := List.forall_mem_cons.1 h
    obtain ⟨hsingle, hcs⟩ := List.forall_mem_cons.1 hcs
    rw [List.flatMap_cons, List.append_assoc] at heq
    cases ds with
    | nil => exact absurd heq.symm (hr'.ne hd hsingle _)
    | cons c' ds =>
      obtain ⟨hsingle', hds⟩ := List.forall_mem_cons.1 hds
      rw [List.flatMap_cons, List.append_assoc] at heq
      obtain ⟨hshape, hrest⟩ :=
        Condition.eq_of_append_eq hd hc hsingle hsingle' (List.tail_eq_of_cons_eq heq)
      obtain ⟨hshapes, hr⟩ := ih h hcs hds hrest
      exact ⟨by rw [List.map_cons, List.map_cons, hshape, hshapes], hr⟩

/-- A list of conditions is told from lexemes that start with its own and then end the list. -/
theorem shape_eq_of_conditionLexemes_append_eq (hd : d ≠ .postgres) {cs ds : List Condition}
    (h : ∀ c ∈ cs, c.predicate.SelfDelimiting d) (hcs : AllSingle cs) (hds : AllSingle ds)
    {r r' : List Lexeme} (hr : EndsConditions r) (hr' : EndsConditions r')
    (heq : conditionLexemes d cs ++ r = conditionLexemes d ds ++ r') :
    cs.map Condition.shape = ds.map Condition.shape ∧ r = r' := by
  cases cs with
  | nil =>
    cases ds with
    | nil => exact ⟨rfl, heq⟩
    | cons c' ds =>
      rw [conditionLexemes_cons, List.append_assoc] at heq
      exact absurd heq (hr.ne_start hd (hds c' List.mem_cons_self) _)
  | cons c cs =>
    cases ds with
    | nil =>
      rw [conditionLexemes_cons, List.append_assoc] at heq
      exact absurd heq.symm (hr'.ne_start hd (hcs c List.mem_cons_self) _)
    | cons c' ds =>
      -- With a space in front as well, all conditions are alike.
      have hspaced : ∀ (c : Condition) cs r, .plain ' ' :: (conditionLexemes d (c :: cs) ++ r) =
          ((c :: cs).flatMap fun c => .plain ' ' :: c.lexemes d) ++ r := by
        intro c cs r
        rw [conditionLexemes_cons, List.flatMap_cons, List.cons_append, List.cons_append]
      refine shape_eq_of_flatMap_append_eq hd h hcs hds hr hr' ?_
      rw [← hspaced, ← hspaced, heq]

end

theorem allSingle_of_leaves {cs : List Condition} (h : ∀ x ∈ conditionLeaves cs, x.Single) :
    AllSingle cs := by
  rw [conditionLeaves_eq_flatMap] at h
  exact fun c hc x hx => h x (List.mem_flatMap.2 ⟨c, hc, hx⟩)

/-- **Delimitation.**  A test with groups in it, at any depth, is told, but for its values, from
    lexemes that start with its own. -/
theorem Predicate.selfDelimiting {d : Driver} (hd : d ≠ .postgres) {p : Predicate}
    (hp : p.Single) : p.SelfDelimiting d := by
  induction p using Predicate.groupInduction with
  | h p ih =>
    -- `q` may be any test, so the induction is on `p` alone.
    intro q r r' hq heq
    have hstart : p.start = q.start := start_eq hd hp hq heq
    match hkind : p.start with
    | .constant =>
      obtain ⟨a, rfl⟩ := eq_constant hkind
      obtain ⟨b, rfl⟩ := eq_constant (hstart.symm.trans hkind)
      have hab : a = b := by
        rw [lexemes_constant, lexemes_constant] at heq
        cases a <;> cases b <;> first | rfl | cases List.head_eq_of_cons_eq heq
      subst hab
      exact ⟨rfl, List.append_cancel_left heq⟩
    | .group =>
      obtain ⟨cs, rfl⟩ := eq_group hkind
      obtain ⟨ds, rfl⟩ := eq_group (hstart.symm.trans hkind)
      have hgroup : ∀ (cs : List Condition) r, (group cs).lexemes d ++ r = .plain '(' ::
          .plain ' ' :: (conditionLexemes d cs ++ .plain ' ' :: .plain ')' :: r) := by
        intro cs r
        simp [lexemes, tokens, enclosed, Word.text, conditionLexemes]
      rw [hgroup, hgroup] at heq
      have hcs : AllSingle cs := allSingle_of_leaves hp
      obtain ⟨hshape, hrest⟩ := shape_eq_of_conditionLexemes_append_eq hd
        (fun c hc => ih cs rfl c hc (hcs c hc)) hcs (allSingle_of_leaves hq) (.inr ⟨r, rfl⟩)
        (.inr ⟨r', rfl⟩) (List.tail_eq_of_cons_eq (List.tail_eq_of_cons_eq heq))
      refine ⟨?_, List.tail_eq_of_cons_eq (List.tail_eq_of_cons_eq hrest)⟩
      rw [shape, shape, subst, subst, substConditions_eq_map, substConditions_eq_map]
      exact congrArg group hshape
    | .column =>
      obtain ⟨s, t, n, hlexemes, hshape⟩ := lexemes_column hd hp hkind
      obtain ⟨s', t', n', hlexemes', hshape'⟩ :=
        lexemes_column hd hq (hstart.symm.trans hkind)
      simp only [hlexemes, hlexemes', List.append_assoc, List.cons_append] at heq
      -- The column, the test and the members are told one after another.
      obtain ⟨rfl, htests⟩ := pathLexemes_append_space heq
      obtain ⟨rfl, hmembers⟩ := Test.eq_of_append_eq htests
      obtain ⟨hmembers, hrest⟩ := Test.members_append hmembers s
      exact ⟨by rw [hshape, hshape', hmembers], hrest⟩

/-! ### Filters -/

section

variable {d : Driver} (hd : d ≠ .postgres)

include hd

/-- The text of a filter is read as its word, a space and its conditions. -/
theorem scan_filterTokens (w : Word) {cs : List Condition}
    (hcs : ∀ x ∈ conditionLeaves cs, x.Single) (n : Nat) :
    scan d.quoteMark .outside (Token.render d.dialect n (filterTokens w cs)).toList =
      some ((filterTokens w cs).flatMap (Token.lexemes d)) := by
  have hneat : Neat d (filterTokens w cs) := by
    refine fits_filterTokens (Neat.closed d) w fun x hx => Leaf.Neat.fits ?_
    have hsingle := hcs x hx
    cases x with
    | name s => exact fun h => absurd h hd
    | bind b => trivial
    | _ => exact hsingle.elim
  rw [hneat.scan_render, Token.flatMap_allPhrases hd]

end

/-- Other values do not change the text of a filter. -/
theorem render_filterTokens_subst (σ : Bind → Bind) (d : Dialect) (n : Nat) (w : Word)
    (cs : List Condition) :
    Token.render d n (filterTokens w (cs.map (Condition.subst σ))) =
      Token.render d n (filterTokens w cs) := by
  have htokens : filterTokens w (cs.map (Condition.subst σ)) =
      (filterTokens w cs).map (Token.subst σ) := by
    have hitems := conditionItems_subst σ cs
    rw [substConditions_eq_map, conditionItems_eq_map, conditionItems_eq_map] at hitems
    have hfilter := map_subst_filter σ w (cs.map Condition.tokens)
    rw [← hitems] at hfilter
    rw [filterTokens, filterTokens]
    simpa using hfilter.symm
  rw [htokens, Token.render, Token.allPieces_subst, Token.render]

/-- **Reading.**  In MySQL and in SQLite, two filters whose names are single words and whose values
    are scalars have the same text exactly if they are the same but for the values: connectors,
    groups, columns, operators, negations and lengths of lists. -/
theorem reading {d : Driver} (hd : d ≠ .postgres) (w : Word) {cs ds : List Condition}
    (hcs : ∀ x ∈ conditionLeaves cs, x.Single) (hds : ∀ x ∈ conditionLeaves ds, x.Single)
    (n m : Nat) :
    Token.render d.dialect n (filterTokens w cs) = Token.render d.dialect m (filterTokens w ds) ↔
      cs.map Condition.shape = ds.map Condition.shape := by
  constructor
  · -- The scanner finds the same in one text, and the conditions are told from what it finds.
    intro htext
    have hscan := scan_filterTokens hd w hcs n
    rw [htext, scan_filterTokens hd w hds m, Option.some.injEq] at hscan
    have hlexemes : ∀ (c : Condition) cs, (filterTokens w (c :: cs)).flatMap (Token.lexemes d) =
        (w.text.toList ++ [' ']).map .plain ++ conditionLexemes d (c :: cs) := by
      intro c cs
      simp [filterTokens, after, conditionLexemes, Word.text]
    cases cs with
    | nil =>
      cases ds with
      | nil => rfl
      | cons c' ds =>
        rw [hlexemes] at hscan
        simp [filterTokens] at hscan
    | cons c cs =>
      cases ds with
      | nil =>
        rw [hlexemes] at hscan
        simp [filterTokens] at hscan
      | cons c' ds =>
        rw [hlexemes, hlexemes] at hscan
        have hconditions := List.append_cancel_left hscan.symm
        have hsingle := allSingle_of_leaves hcs
        refine (shape_eq_of_conditionLexemes_append_eq hd
          (fun c hc => Predicate.selfDelimiting hd (hsingle c hc)) hsingle
          (allSingle_of_leaves hds) (.inl rfl) (.inl rfl) ?_).1
        rw [hconditions]
  · -- Without their values, both filters are one.
    intro hshape
    rw [render_eq hd n, render_eq hd m,
      ← render_filterTokens_subst (fun _ => .null) _ _ w cs,
      ← render_filterTokens_subst (fun _ => .null) _ _ w ds]
    exact congrArg (fun cs => Token.render d.dialect 0 (filterTokens w cs)) hshape

/-- Names with quotes, points and stars, and the two uses of `AND` next to each other. -/
def thornyFilter : List Condition :=
  [⟨none, .between (.name "a`.*.") (.bind (.int64 1)) (.bind (.int64 2)) true⟩,
   ⟨some .and, .group
    [⟨none, .compare (.name "`AND`") .notLike (.bind (.text "x"))⟩,
     ⟨some .or, .group [⟨none, .constant false⟩, ⟨some .and, .isNull (.name "*") true⟩]⟩]⟩,
   ⟨some .or, .among (.name "b") [.bind (.int64 3), .bind .null] false⟩]

/-- The same without the inner parentheses. -/
def flatFilter : List Condition :=
  [⟨none, .between (.name "a`.*.") (.bind (.int64 1)) (.bind (.int64 2)) true⟩,
   ⟨some .and, .group
    [⟨none, .compare (.name "`AND`") .notLike (.bind (.text "x"))⟩,
     ⟨some .or, .constant false⟩, ⟨some .and, .isNull (.name "*") true⟩]⟩,
   ⟨some .or, .among (.name "b") [.bind (.int64 3), .bind .null] false⟩]

theorem reading_thornyFilter :
    (∀ x ∈ conditionLeaves thornyFilter, x.Single) ∧ (∀ x ∈ conditionLeaves flatFilter, x.Single) ∧
      Token.render .mysql 0 (filterTokens .WHERE thornyFilter) ≠
        Token.render .mysql 7 (filterTokens .WHERE flatFilter) := by
  have hwords : ∀ s ∈ ["a`.*.", "`AND`", "*", "b"], Text.words s = [s] := by decide +kernel
  simp only [List.forall_mem_cons] at hwords
  have hthorny : ∀ x ∈ conditionLeaves thornyFilter, x.Single := by
    simp [thornyFilter, Predicate.leaves, Value.leaf, Leaf.Single, hwords]
  have hflat : ∀ x ∈ conditionLeaves flatFilter, x.Single := by
    simp [flatFilter, Predicate.leaves, Value.leaf, Leaf.Single, hwords]
  refine ⟨hthorny, hflat, fun h => ?_⟩
  have hmysql : Driver.mysql ≠ .postgres := by decide
  have hshape := (reading hmysql .WHERE hthorny hflat 0 7).1 h
  simp [thornyFilter, flatFilter, Condition.shape, Condition.subst, Predicate.subst] at hshape

end SqlBuilder

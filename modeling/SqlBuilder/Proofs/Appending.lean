import SqlBuilder.Proofs.Bookkeeping
import SqlBuilder.Proofs.Parts
import SqlBuilder.Proofs.Rendering

namespace SqlBuilder

open Token (after spaced clauses listedAfter)

/-!
# Conditions are only appended

No call takes a condition away, moves one or changes one: it adds at most one behind those that are
there.  So a filter on an update or a deletion is there to stay.

* `Statement.Linked` — in all lists of conditions, also in groups, the words stand where they
  should, and no group is empty;
* `invariant_linked` — every call keeps this;
* `Edit.Appends`, `appends_run` — what a call adds to the conditions and to the joins;
* `Statement.Extends`, `extends_runEdits` — so after any calls the old lists stand in front of the
  new;
* `Statement.whereText`, `compile_eq_whereText` — the text of the `WHERE` clause and its place;
* `Extends.whereText_grows` — in MySQL and in SQLite it is a prefix of that after the calls.
-/

/-! ### Words between conditions -/

/-- In a group, and in the groups in it, the words stand where they should, and none is empty. -/
inductive Predicate.Linked : Predicate → Prop
  | test {p : Predicate} : p.isGroup = false → Linked p
  | group {cs : List Condition} : cs ≠ [] → Connected (cs.map (·.connector)) →
      (∀ c ∈ cs, Linked c.predicate) → Linked (.group cs)

/-- In all lists of conditions the words stand where they should, and no group is empty. -/
structure Statement.Linked (s : Statement) : Prop where
  connected : ∀ f, Connected ((s.conditions f).map (·.connector))
  tests : ∀ f, ∀ c ∈ s.conditions f, c.predicate.Linked
  joins : ∀ j ∈ s.joins, Connected (j.conditions.map (·.connector))

namespace Statement.Linked

variable {s t : Statement}

theorem new : Statement.new.Linked where
  connected f := by cases f <;> trivial
  tests f c hc := by cases f <;> cases hc
  joins j hj := by cases hj

/-- Only the conditions and the joins matter. -/
theorem congr (h : s.Linked) (hwheres : t.wheres = s.wheres) (hhavings : t.havings = s.havings)
    (hjoins : t.joins = s.joins) : t.Linked := by
  have hconditions : ∀ f, t.conditions f = s.conditions f := by
    intro f
    cases f
    · exact hwheres
    · exact hhavings
  refine ⟨fun f => ?_, fun f => ?_, ?_⟩
  · rw [hconditions]
    exact h.connected f
  · rw [hconditions]
    exact h.tests f
  · rw [hjoins]
    exact h.joins

/-- One more test at the end of a filter. -/
theorem addCondition (h : s.Linked) (f : Filter) (c : Connector) {p : Predicate} (hp : p.Linked)
    (bs : List Bind) : (s.addCondition f c p bs).Linked := by
  refine ⟨fun g => ?_, fun g d hd => ?_, fun j hj => ?_⟩
  · rw [conditions_addCondition]
    split
    · have hconnected := (h.connected f).concat c
      rw [List.isEmpty_map] at hconnected
      rwa [List.map_append]
    · exact h.connected g
  · rw [conditions_addCondition] at hd
    split at hd
    · rcases List.mem_append.1 hd with hd | hd
      · exact h.tests f d hd
      · obtain rfl := List.mem_singleton.1 hd
        exact hp
    · exact h.tests g d hd
  · have hjoins : (s.addCondition f c p bs).joins = s.joins := by cases f <;> rfl
    rw [hjoins] at hj
    exact h.joins j hj

/-- A group takes over conditions that are linked already. -/
theorem addGroup {inner : Statement} (h : s.Linked) (f : Filter) (c : Connector)
    (hinner : inner.Linked) : (s.addGroup f c inner).Linked := by
  rw [Statement.addGroup]
  split
  · exact h
  · rename_i hne
    have hne : inner.conditions f ≠ [] := by simpa using hne
    exact h.addCondition f c (.group hne (hinner.connected f) (hinner.tests f)) _

/-- A finished join. -/
theorem addJoin (h : s.Linked) {j : JoinDraft}
    (hj : Connected (j.join.conditions.map (·.connector))) : (s.addJoin j).Linked := by
  refine ⟨h.connected, h.tests, fun k hk => ?_⟩
  rcases List.mem_append.1 hk with hk | hk
  · exact h.joins k hk
  · obtain rfl := List.mem_singleton.1 hk
    exact hj

end Statement.Linked

/-- Every call keeps the conditions linked. -/
theorem invariant_linked (P : Leaf → Prop) : Invariant P Statement.Linked where
  new := .new
  scope _ := Statement.Linked.new.congr rfl rfl rfl
  fromSource {_ v} h _ := by cases v <;> exact h.congr rfl rfl rfl
  withDialect _ h := h.congr rfl rfl rfl
  select ha h _ := by
    rw [Statement.select, if_pos ha]
    exact h.congr rfl rfl rfl
  aggregate ha h _ := by
    rw [Statement.aggregate, if_pos ha]
    exact h.congr rfl rfl rfl
  groupBy h _ := h.congr rfl rfl rfl
  orderBy h _ ht := by
    obtain ⟨_, _, rfl⟩ := Statement.orderBy_eq_ok ht
    exact h.congr rfl rfl rfl
  limitTo h _ := h.congr rfl rfl rfl
  offsetBy h _ := h.congr rfl rfl rfl
  startInsert _ h := h.congr rfl rfl rfl
  addRow h _ ht := by
    obtain ⟨_, rfl⟩ := Statement.addRow_eq_ok ht
    exact h.congr rfl rfl rfl
  skippingConflicts h := h.congr rfl rfl rfl
  returningColumns h _ := h.congr rfl rfl rfl
  update ha h _ := by
    rw [Statement.update, if_pos ha]
    exact h.congr rfl rfl rfl
  delete {s} h := by
    rw [Statement.delete]
    split
    · exact h.congr rfl rfl rfl
    · exact h
  addCondition f c _ hp h _ := h.addCondition f c (.test hp) _
  addGroup f c h hinner := h.addGroup f c hinner
  addJoin hj h _ := h.addJoin hj

/-! ### What a call adds -/

namespace Edit

/-- A test that a call can put behind the conditions of a filter.  A group takes over all conditions
    of the statement that its body ends with. -/
def Tests (e : Edit) (s : Statement) (f : Filter) (p : Predicate) : Prop :=
  match e with
  | .group g _ body => g = f ∧ ∃ inner, body s.scope = .ok inner ∧ p = .group (inner.conditions f)
  | _ => e.test? = some f

/-- A join that a call can put behind the joins: the one that its body ends with, if it has one. -/
def Joins (e : Edit) (j : Join) : Prop :=
  match e with
  | .joinWith kind table body => ∃ draft, body (.start kind table) = .ok draft ∧ j = draft.join
  | _ => e.joins = true

/-- A call leads from `s` to `t`, and adds at most one condition to a filter, with its own word in
    front unless it is the first, and at most one join. -/
structure Appends (e : Edit) (s t : Statement) : Prop where
  conditions : ∀ f, t.conditions f = s.conditions f ∨
    ∃ c p, e.connector? = some c ∧ e.Tests s f p ∧
      t.conditions f =
        s.conditions f ++ [⟨if (s.conditions f).isEmpty then none else some c, p⟩]
  joins : t.joins = s.joins ∨ ∃ j, e.Joins j ∧ t.joins = s.joins ++ [j]

/-- The calls that write a filter add a single test to it, or a group. -/
theorem test?_or_group {e : Edit} {f : Filter} (h : e.part? = some f.part) :
    e.test? = some f ∨ ∃ c body, e = .group f c body := by
  have hpart : ∀ g : Filter, some g.part = some f.part → g = f := by
    intro g
    cases f <;> cases g <;> decide
  cases e with
  | compare g _ _ _ _ | compareRaw g _ _ => exact .inl (congrArg some (hpart g h))
  | group g c body =>
    obtain rfl := hpart g h
    exact .inr ⟨c, body, rfl⟩
  | among _ _ _ _ | amongQuery _ _ _ _ | amongWith _ _ _ _ | between _ _ _ _ _ | isNull _ _ _ =>
    exact .inl (congrArg some (hpart .wheres h))
  | _ => cases f <;> cases h

/-- The calls that write the joins add one. -/
theorem joins_of_part? {e : Edit} (h : e.part? = some .joins) : e.joins = true := by
  cases e with
  | compare f _ _ _ _ | compareRaw f _ _ | group f _ _ => cases f <;> cases h
  | join _ _ _ _ _ | joinWith _ _ _ => rfl
  | _ => cases h

variable {e : Edit} {s t : Statement}

/-- The conditions of a filter after a call. -/
theorem conditions_run (ht : e.run s = .ok t) (f : Filter) :
    t.conditions f = s.conditions f ∨
      ∃ c p, e.connector? = some c ∧ e.Tests s f p ∧
        t.conditions f =
          s.conditions f ++ [⟨if (s.conditions f).isEmpty then none else some c, p⟩] := by
  by_cases hpart : e.part? = some f.part
  · rcases test?_or_group hpart with htest | ⟨c, body, rfl⟩
    · obtain ⟨c, p, bs, hc, rfl⟩ := eq_addCondition htest ht
      have hp : e.Tests s f p := by
        cases e with
        | group _ _ _ => cases htest
        | _ => exact htest
      refine .inr ⟨c, p, hc, hp, ?_⟩
      rw [Statement.conditions_addCondition, if_pos rfl]
    · rw [run, Statement.group] at ht
      obtain ⟨inner, hbody, ht⟩ := bind_eq_ok ht
      cases ht
      rw [Statement.addGroup]
      split
      · exact .inl rfl
      · refine .inr ⟨c, .group (inner.conditions f), rfl, ⟨rfl, inner, hbody, rfl⟩, ?_⟩
        rw [Statement.conditions_addCondition, if_pos rfl]
  · have honly : t.only f.part = s.only f.part := only_run_of_ne hpart ht
    rw [← t.conditions_only, honly, s.conditions_only]
    exact .inl rfl

/-- The joins after a call. -/
theorem joins_run (ht : e.run s = .ok t) :
    t.joins = s.joins ∨ ∃ j, e.Joins j ∧ t.joins = s.joins ++ [j] := by
  by_cases hpart : e.part? = some .joins
  · have hjoins := joins_of_part? hpart
    cases e with
    | joinWith kind table body =>
      rw [run] at ht
      obtain ⟨draft, hdraft, ht⟩ := bind_eq_ok ht
      cases ht
      exact .inr ⟨draft.join, ⟨draft, hdraft, rfl⟩, rfl⟩
    | _ =>
      obtain ⟨draft, rfl⟩ := eq_addJoin hjoins ht
      exact .inr ⟨draft.join, hjoins, rfl⟩
  · have honly : t.only .joins = s.only .joins := only_run_of_ne hpart ht
    have hjoins : (t.only .joins).joins = (s.only .joins).joins := by rw [honly]
    exact .inl hjoins

/-- **Step.**  What a call adds. -/
theorem appends_run (ht : e.run s = .ok t) : e.Appends s t := ⟨conditions_run ht, joins_run ht⟩

end Edit

/-- The connector that a call on a join gives to the test it adds. -/
def JoinStep.connector : JoinStep → Connector
  | .on c _ _ _ | .compare c _ _ _ => c

/-- A call on a join adds one test, with its own word in front unless it is the first. -/
theorem JoinStep.conditions_run {step : JoinStep} {s : Statement} {j k : JoinDraft}
    (h : step.run s j = .ok k) :
    ∃ test, k.join = { j.join with conditions := j.join.conditions ++
      [⟨if j.join.conditions.isEmpty then none else some step.connector, test⟩] } := by
  cases step with
  | on c first operator second =>
    rw [run] at h
    obtain ⟨o, _, h⟩ := bind_eq_ok (mapError_eq_ok h)
    cases h
    exact ⟨.columns first o second, rfl⟩
  | compare c column operator value =>
    rw [run] at h
    obtain ⟨v, _, h⟩ := bind_eq_ok h
    obtain ⟨o, _, h⟩ := bind_eq_ok (mapError_eq_ok h)
    cases h
    exact ⟨.value column o v, rfl⟩

/-! ### Any number of calls -/

/-- The conditions and the joins of `s` stand in front of all others in `t`. -/
structure Statement.Extends (s t : Statement) : Prop where
  conditions : ∀ f, s.conditions f <+: t.conditions f
  joins : s.joins <+: t.joins

namespace Statement.Extends

variable {s t u : Statement}

theorem refl (s : Statement) : s.Extends s := ⟨fun _ => List.prefix_refl _, List.prefix_refl _⟩

theorem trans (h : s.Extends t) (h' : t.Extends u) : s.Extends u :=
  ⟨fun f => (h.conditions f).trans (h'.conditions f), h.joins.trans h'.joins⟩

end Statement.Extends

theorem Edit.Appends.extends {e : Edit} {s t : Statement} (h : e.Appends s t) : s.Extends t := by
  refine ⟨fun f => ?_, ?_⟩
  · rcases h.conditions f with hsame | ⟨_, _, _, _, hmore⟩
    · exact hsame ▸ List.prefix_refl _
    · rw [hmore]
      exact List.prefix_append _ _
  · rcases h.joins with hsame | ⟨_, _, hmore⟩
    · exact hsame ▸ List.prefix_refl _
    · rw [hmore]
      exact List.prefix_append _ _

/-- **Run.**  After any calls the conditions and the joins from before stand in front of the new
    ones. -/
theorem extends_runEdits {es : List Edit} {s t : Statement} (h : runEdits es s = .ok t) :
    s.Extends t := by
  induction es generalizing s with
  | nil =>
    cases h
    exact .refl _
  | cons e es ih =>
    obtain ⟨u, hu, h⟩ := bind_eq_ok h
    exact (Edit.appends_run hu).extends.trans (ih h)

/-! ### The text of a filter -/

namespace Statement

/-- The text of the `WHERE` clause, with the space in front of it; nothing without conditions. -/
def whereText (d : Dialect) (s : Statement) : String :=
  if s.wheres.isEmpty then ""
  else " WHERE " ++ " ".intercalate (s.wheres.map fun c => Token.render d 0 c.tokens)

/-- The clauses in front of the `WHERE` clause. -/
def clausesBefore (s : Statement) : List (List Token) :=
  match s.kind with
  | some .update =>
    [after .UPDATE (targetTokens s.table s.source),
     listedAfter .SET (s.assignments.map Assignment.tokens)]
  | some .delete => [[.word .DELETE], fromTokens s.source]
  | _ => [selectTokens s, fromTokens s.source, spaced (s.joins.map Join.tokens)]

/-- The clauses behind the `WHERE` clause: an update and a deletion end with it. -/
def clausesBehind (s : Statement) : List (List Token) :=
  match s.kind with
  | some .update | some .delete => []
  | _ =>
    [listedAfter .GROUP_BY (s.groups.map Column.tokens), filterTokens .HAVING s.havings,
     listedAfter .ORDER_BY (s.orders.map Order.tokens), boundTokens .LIMIT s.limit,
     boundTokens .OFFSET s.offset]

/-- The text in front of the `WHERE` clause. -/
def textBefore (d : Dialect) (s : Statement) : String := Token.render d 0 (clauses s.clausesBefore)

/-- The text behind the `WHERE` clause. -/
def textBehind (d : Dialect) (s : Statement) : String :=
  Token.render d 0 (s.clausesBehind.flatMap Token.following)

variable {s : Statement}

/-- Every statement but an insertion has the `WHERE` clause between these. -/
theorem tokens_eq_clauses (h : s.kind ≠ some .insert) :
    s.tokens =
      clauses (s.clausesBefore ++ filterTokens .WHERE s.wheres :: s.clausesBehind) := by
  rw [clausesBefore, clausesBehind]
  cases hkind : s.kind with
  | none => exact tokens_select (.inl hkind)
  | some k =>
    cases k with
    | select => exact tokens_select (.inr hkind)
    | insert => exact absurd hkind h
    | update => exact tokens_update hkind
    | delete => exact tokens_delete hkind

/-- The first clause is always there. -/
theorem clausesBefore_eq_cons (s : Statement) :
    ∃ first rest, first ≠ [] ∧ s.clausesBefore = first :: rest := by
  rw [clausesBefore]
  split
  · exact ⟨_, _, Token.after_ne_nil _ _, rfl⟩
  · exact ⟨_, _, List.cons_ne_nil _ _, rfl⟩
  · exact ⟨_, _, Token.after_ne_nil _ _, rfl⟩

/-- An update and a deletion end with the `WHERE` clause. -/
theorem textBehind_eq_empty {d : Dialect} {k : Kind} (hs : s.kind = some k) (hinsert : k ≠ .insert)
    (hselect : k ≠ .select) : s.textBehind d = "" := by
  rw [textBehind, clausesBehind, hs]
  cases k with
  | select => exact absurd rfl hselect
  | insert => exact absurd rfl hinsert
  | _ => rfl

section

variable {driver : Driver} (hd : driver ≠ .postgres)

include hd

theorem render_where (s : Statement) (n : Nat) :
    Token.render driver.dialect n (Token.following (filterTokens .WHERE s.wheres)) =
      s.whereText driver.dialect := by
  rw [filterTokens, whereText]
  split
  · rfl
  · have hword : " WHERE " = " " ++ ("WHERE" ++ " ") := rfl
    rw [render_following _ _ (Token.after_ne_nil _ _), Token.render_after,
      Token.render_spaced, renderEach_eq_map hd, List.map_map, hword]
    simp only [String.append_assoc]
    rfl

/-- Where the text of the `WHERE` clause stands in that of the statement. -/
theorem compile_eq_whereText (h : s.kind ≠ some .insert) {text : String}
    (htext : s.compile driver.dialect = .ok text) :
    text = s.textBefore driver.dialect ++ s.whereText driver.dialect ++
      s.textBehind driver.dialect := by
  obtain ⟨_, rfl⟩ := compile_eq_ok htext
  obtain ⟨first, rest, hfirst, hbefore⟩ := s.clausesBefore_eq_cons
  have htokens : s.tokens = clauses s.clausesBefore ++
      Token.following (filterTokens .WHERE s.wheres) ++
      s.clausesBehind.flatMap Token.following := by
    rw [tokens_eq_clauses h, hbefore, Token.clauses_append hfirst, List.flatMap_cons,
      List.append_assoc]
  rw [htokens, Token.render_append, Token.render_append, render_where hd, render_eq hd (_ + _),
    textBefore, textBehind]

end

/-- Conditions behind those that are there add to the text of the `WHERE` clause. -/
theorem Extends.whereText_grows {t : Statement} (h : s.Extends t) (d : Dialect) :
    ∃ more, t.whereText d = s.whereText d ++ more := by
  obtain ⟨added, hadded⟩ := h.conditions .wheres
  have hwheres : t.wheres = s.wheres ++ added := hadded.symm
  by_cases hs : s.wheres = []
  · refine ⟨t.whereText d, ?_⟩
    rw [whereText, whereText, hs]
    exact String.empty_append.symm
  by_cases hmore : added = []
  · refine ⟨"", ?_⟩
    rw [whereText, whereText, hwheres, hmore, List.append_nil, String.append_empty]
  · -- The text of a condition is the same wherever it stands.
    refine ⟨" " ++ " ".intercalate (added.map fun c => Token.render d 0 c.tokens), ?_⟩
    rw [whereText, whereText, hwheres, if_neg (by simp [hs]), if_neg (by simp [hs]),
      List.map_append, String.intercalate_append_of_ne_nil (by simpa using hs)
        (by simpa using hmore)]
    simp only [String.append_assoc]

end Statement

/-- **Appending.**  Wherever calls lead, the words between the conditions stand where they should,
    in every list of the statement, of its groups, joins and sub-queries, and no group is empty.  A
    call adds at most one condition or join, behind the others and with its own word; a call on a
    join does so for the tests of the join.  So nothing that is there is ever dropped, moved or
    changed, and in MySQL and in SQLite the text of the filter of a query, an update or a deletion
    only grows at its end. -/
theorem appending {s : Statement} (hs : s.Reachable) :
    s.Throughout Statement.Linked ∧
    (∀ (e : Edit) (t : Statement), e.run s = .ok t → e.Appends s t) ∧
    (∀ (step : JoinStep) (j k : JoinDraft), step.run s j = .ok k → ∃ test,
      k.join = { j.join with conditions := j.join.conditions ++
        [⟨if j.join.conditions.isEmpty then none else some step.connector, test⟩] }) ∧
    ∀ (es : List Edit) (t : Statement), runEdits es s = .ok t → s.Extends t ∧
      ∀ kind, s.kind = some kind → kind ≠ .insert → t.kind = some kind ∧
        ∀ driver : Driver, driver ≠ .postgres →
          (∃ more, t.whereText driver.dialect = s.whereText driver.dialect ++ more) ∧
          ∀ u ∈ [s, t], (kind ≠ .select → u.textBehind driver.dialect = "") ∧
            ∀ text, u.compile driver.dialect = .ok text →
              text = u.textBefore driver.dialect ++ u.whereText driver.dialect ++
                u.textBehind driver.dialect := by
  refine ⟨throughout_of_reachable (invariant_linked _) hs, fun e t => Edit.appends_run,
    fun step j k => JoinStep.conditions_run, fun es t ht => ?_⟩
  have hextends := extends_runEdits ht
  refine ⟨hextends, fun kind hkind hne => ?_⟩
  have htkind : t.kind = some kind := by rw [Edit.kind_runEdits ht, hkind, Option.some_or]
  refine ⟨htkind, fun driver hd => ⟨hextends.whereText_grows driver.dialect, fun u hu => ?_⟩⟩
  have hukind : u.kind = some kind := by
    rcases List.mem_cons.1 hu with rfl | hu
    · exact hkind
    · obtain rfl := List.mem_singleton.1 hu
      exact htkind
  refine ⟨Statement.textBehind_eq_empty hukind hne, fun text htext => ?_⟩
  exact Statement.compile_eq_whereText hd (by simpa [hukind] using hne) htext

/-- A deletion with a group in a group, with calls that it does not write, and a join. -/
def guardedScript : Script :=
  [.table (.table "t"),
   .delete,
   .group .wheres .or
    [.compare .wheres .or (.name "a") "=" (.bind (.int64 1)),
     .group .wheres .or
      [.isNull .and (.name "b") false, .isNull .or (.name "c") true],
     .group .wheres .and []],
   .compare .havings .and (.name "d") ">" (.bind (.int64 2)),
   .joinWith .left (.name "u")
    [.on .or (.name "e") "=" (.name "f"), .compare .or (.name "g") "<" (.bind (.int64 3))]]

/-- Calls that come after the filter. -/
def lateEdits : List Edit :=
  [.update (.ofList [("h", .bind (.int64 4))]),
   .fromSource (.table "v"),
   .amongWith .and (.name "i") (runAll [.table (.table "w")]) true,
   .group .wheres .or (runAll [.new]),
   .compareRaw .wheres .or ⟨"j = ?", [.int64 5]⟩]

theorem appending_guardedScript :
    ∃ s t, guardedScript.build = .ok s ∧ runEdits lateEdits s = .ok t ∧ s.Reachable ∧
      s.Throughout Statement.Linked ∧ s.Extends t ∧
      s.whereText .mysql = " WHERE ( `a` = ? OR ( `b` IS NULL OR `c` IS NOT NULL ) )" ∧
      (∃ more, t.whereText .mysql = s.whereText .mysql ++ more) ∧
      t.compile .mysql = .ok ("DELETE FROM `v`" ++ t.whereText .mysql) := by
  obtain ⟨s, t, hs, ht, hkind, hwhere, htext, hbefore⟩ : ∃ s t, guardedScript.build = .ok s ∧
      runEdits lateEdits s = .ok t ∧ s.kind = some .delete ∧
      s.whereText .mysql = " WHERE ( `a` = ? OR ( `b` IS NULL OR `c` IS NOT NULL ) )" ∧
      (t.compile .mysql).isOk = true ∧ t.textBefore .mysql = "DELETE FROM `v`" :=
    ⟨_, _, rfl, rfl, rfl, by decide +kernel, by decide +kernel, by decide +kernel⟩
  have hreachable : s.Reachable := .run .new hs
  obtain ⟨hlinked, _, _, hruns⟩ := appending hreachable
  obtain ⟨hextends, hfilter⟩ := hruns lateEdits t ht
  obtain ⟨_, htexts⟩ := hfilter .delete hkind (by decide)
  obtain ⟨hmore, hplace⟩ := htexts .mysql (by decide)
  refine ⟨s, t, hs, ht, hreachable, hlinked, hextends, hwhere, hmore, ?_⟩
  obtain ⟨hbehind, hcompile⟩ := hplace t (by simp)
  cases hc : t.compile .mysql with
  | error e => rw [hc] at htext; cases htext
  | ok text =>
    rw [hcompile text hc, hbehind (by decide), String.append_empty]
    exact congrArg (fun front => Except.ok (front ++ t.whereText .mysql)) hbefore

end SqlBuilder

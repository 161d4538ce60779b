import SqlBuilder.Proofs.Bookkeeping
import SqlBuilder.Proofs.Edits

namespace SqlBuilder

/-!
# The scope of a group

The body of a group is any program: it may fill all clauses of the statement that it is given, in
any order, and may even end with another statement.  Only one list of conditions crosses over.

* `Statement.withGroup` — a statement with one more group, and nothing else changed;
* `addGroup_eq_withGroup` — a group takes over the values of its own conditions and no others;
* `scoping` — so this is all that a group does, and a group without conditions does nothing.
-/

namespace Statement

/-- The conditions `cs` as one group behind the conditions of a filter, and the values that stand in
    them behind the values of that clause. -/
def withGroup (s : Statement) (c : Connector) (cs : List Condition) : Filter → Statement
  | .wheres =>
    { s with
      wheres := s.wheres ++ [⟨if s.wheres.isEmpty then none else some c, .group cs⟩]
      ledger :=
        { s.ledger with
          wheres := s.ledger.wheres ++ (conditionLeaves cs).flatMap Leaf.binds } }
  | .havings =>
    { s with
      havings := s.havings ++ [⟨if s.havings.isEmpty then none else some c, .group cs⟩]
      ledger :=
        { s.ledger with
          havings := s.ledger.havings ++ (conditionLeaves cs).flatMap Leaf.binds } }

/-- A statement that calls lead to has in the ledger of a filter the values of its conditions, so
    these are the values that a group takes over. -/
theorem addGroup_eq_withGroup {inner : Statement} (hinner : inner.Reachable) (s : Statement)
    {f : Filter} (c : Connector) (hne : inner.conditions f ≠ []) :
    s.addGroup f c inner = s.withGroup c (inner.conditions f) f := by
  have hbinds : inner.ledger.get f.clause =
      (conditionLeaves (inner.conditions f)).flatMap Leaf.binds := by
    rw [hinner.regular.balanced f.clause, leaves_clause]
  rw [addGroup, if_neg (by simpa using hne), hbinds]
  cases f <;> rfl

end Statement

/-- **Scoping.**  Whatever the body of a group does, and whatever statement it ends with: if that
    statement has a condition in the filter of the group, the statement outside gets its conditions
    as one group, with the values that stand in them; if not, it gets nothing.  All else that the
    body has done is lost, the conditions of the other filter and their values among it. -/
theorem scoping {s inner : Statement} {body : Statement → Except Error Statement} (f : Filter)
    (c : Connector) (hbody : body s.scope = .ok inner) (hinner : inner.Reachable) :
    ∃ t, (Edit.group f c body).run s = .ok t ∧
      (inner.conditions f = [] → t = s) ∧
      (inner.conditions f ≠ [] → t = s.withGroup c (inner.conditions f) f) := by
  refine ⟨s.addGroup f c inner, ?_, fun hempty => ?_, Statement.addGroup_eq_withGroup hinner s c⟩
  · rw [Edit.run, Statement.group, hbody]
    rfl
  · rw [Statement.addGroup, if_pos (List.isEmpty_iff.2 hempty)]

/-- The body of a group that fills other clauses, starts again, and has groups of both filters. -/
def wildBody : Script :=
  [.select [.name "lost"],
   .compare .wheres .and (.name "lost") "=" (.bind (.int64 1)),
   .table (.table "elsewhere"),
   .insert [.columns [("lost", .bind (.int64 2))]],
   .limit (.bind (.int64 3)),
   .joinWith .left (.name "lost") [.compare .and (.name "lost") "=" (.bind (.int64 4))],
   .compare .wheres .or (.name "a") "=" (.query
     [.table (.table "t"), .limit (.bind (.int64 5))]),
   .group .havings .or
    [.compare .havings .and (.raw ⟨"SUM(?)", [.int64 6]⟩) ">" (.bind (.int64 7))],
   .group .wheres .or
    [.isNull .and (.name "b") false, .group .wheres .and [.compare .havings .and (.name "lost") "="
      (.bind (.int64 8))]]]

/-- A statement with a test in each filter. -/
def outerScript : Script :=
  [.delete,
   .compare .wheres .and (.name "c") "=" (.bind (.int64 9)),
   .compareRaw .havings .and ⟨"?", [.int64 10]⟩]

theorem scoping_wildBody :
    ∃ s inner, outerScript.build = .ok s ∧ runAll wildBody s.scope = .ok inner ∧
      inner.Reachable ∧ inner.conditions .havings ≠ [] ∧
      ∃ t, (Edit.group .havings .or (runAll wildBody)).run s = .ok t ∧
        t = s.withGroup .or (inner.conditions .havings) .havings ∧
        t.ledger.havings = [.int64 10, .int64 6, .int64 7] ∧ t.ledger.wheres = [.int64 9] := by
  obtain ⟨s, hbuild, hscope, hhavings, hwheres⟩ : ∃ s, outerScript.build = .ok s ∧
      s.scope = .new ∧ s.ledger.havings = [.int64 10] ∧ s.ledger.wheres = [.int64 9] :=
    ⟨_, rfl, rfl, rfl, rfl⟩
  obtain ⟨inner, hbody, hne, hbinds⟩ : ∃ inner, runAll wildBody .new = .ok inner ∧
      inner.havings ≠ [] ∧
      (conditionLeaves inner.havings).flatMap Leaf.binds = [.int64 6, .int64 7] :=
    ⟨_, rfl, List.cons_ne_nil _ _, rfl⟩
  rw [← hscope] at hbody
  have hinner : inner.Reachable := .run (.scope (.run .new hbuild)) hbody
  obtain ⟨t, ht, _, hgroup⟩ := scoping .havings .or hbody hinner
  obtain rfl := hgroup hne
  refine ⟨s, inner, hbuild, hbody, hinner, hne, _, ht, rfl, ?_, hwheres⟩
  show s.ledger.havings ++ (conditionLeaves inner.havings).flatMap Leaf.binds = _
  rw [hhavings, hbinds]
  rfl

end SqlBuilder

import SqlBuilder.Proofs.Embedding

namespace SqlBuilder

/-!
# The ledger in every state

A call changes the clauses of a statement and its ledger side by side.  They stay in step wherever
calls can lead: in the clauses that the kind does not write, in the sub-queries of a statement, and
in the statements on which groups are built.

* `Statement.Reachable` — a statement that calls can lead to;
* `Reachable.regular` — it is regular;
* `bookkeeping` — so the ledger of each clause holds the values of the leaves of the clause;
* `Statement.Throughout`, `throughout_of_reachable` — what a statement and all its sub-queries have;
* `Statement.Within` — a statement or one of the sub-queries in it, at any depth and in any clause.
-/

namespace Statement

/-- A statement that calls can lead to. -/
inductive Reachable : Statement → Prop
  | new : Reachable .new
  | run {script : Script} {s t : Statement} : Reachable s → script.run s = .ok t → Reachable t
  /-- The body of a group starts here. -/
  | scope {s : Statement} : Reachable s → Reachable s.scope
  /-- It may end with a statement that comes from elsewhere. -/
  | group {s t : Statement} (f : Filter) (c : Connector) : Reachable s → Reachable t →
      Reachable (s.addGroup f c t)
  /-- The clause of the sub-query need not be written. -/
  | query {s q : Statement} (e : Clause) : Reachable s → .query q ∈ s.leaves e → Reachable q

/-- The statement itself, or a sub-query in one of its clauses, written or not, and so on. -/
inductive Within : Statement → Statement → Prop
  | refl (s : Statement) : Within s s
  | query {s q t : Statement} (e : Clause) : .query q ∈ s.leaves e → Within t q → Within t s

/-- The body of a group starts with a regular statement. -/
theorem Regular.scope {s : Statement} (h : s.Regular) : s.scope.Regular :=
  regular_iff.2 (invariant_regular.scope (regular_iff.1 h))

/-- A group made of the conditions of a regular statement keeps regularity. -/
theorem Regular.addGroup {s t : Statement} (hs : s.Regular) (ht : t.Regular) (f : Filter)
    (c : Connector) : (s.addGroup f c t).Regular :=
  regular_iff.2 (invariant_regular.addGroup f c (regular_iff.1 hs) (regular_iff.1 ht))

/-- A sub-query of a regular statement is regular. -/
theorem Regular.of_mem_leaves {s q : Statement} {e : Clause} (h : s.Regular)
    (hq : .query q ∈ s.leaves e) : q.Regular := by
  obtain ⟨_, _, hqueries⟩ := h
  exact hqueries e q hq

theorem Regular.balanced {s : Statement} (h : s.Regular) : s.Balanced := by
  obtain ⟨hbalanced, _, _⟩ := h
  exact hbalanced

/-- Calls lead to regular statements only. -/
theorem Reachable.regular {s : Statement} (h : s.Reachable) : s.Regular := by
  -- A balanced ledger alone would not carry over to sub-queries; regularity asks it of them too.
  induction h with
  | new => exact regular_new
  | run _ ht ih => exact ih.of_run ht
  | scope _ ih => exact ih.scope
  | group f c _ _ hs ht => exact hs.addGroup ht f c
  | query e _ hq ih => exact ih.of_mem_leaves hq

end Statement

/-! ### All sub-queries -/

/-- A statement has `J`, and so has every sub-query in it, at any depth. -/
inductive Statement.Throughout (J : Statement → Prop) : Statement → Prop
  | intro {s : Statement} : J s → (∀ e q, .query q ∈ s.leaves e → Throughout J q) → Throughout J s

/-- A sub-query as a leaf has `J`, and so has every sub-query in it. -/
def Leaf.Throughout (J : Statement → Prop) : Leaf → Prop
  | .query q => q.Throughout J
  | _ => True

theorem Statement.throughout_iff {J : Statement → Prop} {s : Statement} :
    s.Throughout J ↔ s.LeavesHave (Leaf.Throughout J) ∧ J s := by
  constructor
  · rintro ⟨hs, hqueries⟩
    refine ⟨fun e x hx => ?_, hs⟩
    cases x with
    | query q => exact hqueries e q hx
    | _ => trivial
  · rintro ⟨hleaves, hs⟩
    exact .intro hs fun e q hq => hleaves e (.query q) hq

/-- What every call keeps, the statements have that calls lead to, and all sub-queries in them. -/
theorem throughout_of_reachable {J : Statement → Prop} (hJ : Invariant (Leaf.Throughout J) J)
    {s : Statement} (h : s.Reachable) : s.Throughout J := by
  have hinvariant := (invariant_leaves (Leaf.Throughout J)).and hJ
  induction h with
  | new => exact Statement.throughout_iff.2 hinvariant.new
  | @run script s t _ ht ih =>
    -- A script spells out no sub-query as a leaf: it has a script for each.
    have hinputs : ∀ x ∈ script.inputs, x.leaf.Throughout J := by
      intro x _
      cases x <;> trivial
    exact Statement.throughout_iff.2 (hinvariant.of_run
      (fun _ h => Statement.throughout_iff.2 h) (Statement.throughout_iff.1 ih) hinputs ht)
  | scope _ ih =>
    exact Statement.throughout_iff.2 (hinvariant.scope (Statement.throughout_iff.1 ih))
  | group f c _ _ hs ht =>
    exact Statement.throughout_iff.2 (hinvariant.addGroup f c (Statement.throughout_iff.1 hs)
      (Statement.throughout_iff.1 ht))
  | query e _ hq ih =>
    obtain ⟨_, hqueries⟩ := ih
    exact hqueries e _ hq

/-- The statements that a script builds are among them. -/
theorem throughout_of_build {J : Statement → Prop} (hJ : Invariant (Leaf.Throughout J) J)
    {script : Script} {s : Statement} (hs : script.build = .ok s) : s.Throughout J :=
  throughout_of_reachable hJ (.run .new hs)

/-- **Bookkeeping.**  Wherever calls lead, the ledger of every clause holds the values of the leaves
    of that clause, in their order, whether the kind writes the clause or not. -/
theorem bookkeeping {s : Statement} (h : s.Reachable) (e : Clause) :
    s.ledger.get e = (s.leaves e).flatMap Leaf.binds :=
  h.regular.balanced e

/-- Calls that replace what is there, that the kind does not admit, or that bring along a statement
    with a past of its own. -/
def tangledScript : Script :=
  [.limit (.bind (.int64 1)),
   .fromSource (.query [.table (.table "a"), .limit (.bind (.int64 2))]),
   .update (.columns [("b", .bind (.int64 3)), ("c", .raw ⟨"? + ?", [.int64 4, .int64 5]⟩)]),
   .select [.raw ⟨"?", [.int64 6]⟩],
   .group .wheres .or
    [.compare .wheres .and (.name "lost") "=" (.bind (.int64 7)),
     .new,
     .among .or (.name "d") (.values [.bind (.int64 8), .query [.limit (.bind (.int64 9))]]) true,
     .compare .havings .and (.name "lost") "=" (.bind (.int64 10))],
   .joinWith .left (.raw ⟨"f(?)", [.int64 11]⟩)
    [.on .and (.name "e") "=" (.name "f"),
     .compare .or (.name "g") "<" (.query [.offset (.bind (.int64 12))])],
   .fromSource (.raw ⟨"g(?)", [.int64 13]⟩),
   .limit (.query [.limit (.bind (.int64 14))])]

theorem bookkeeping_tangledScript :
    ∃ s, tangledScript.build = .ok s ∧ s.Reachable ∧
      (∀ e, s.ledger.get e = (s.leaves e).flatMap Leaf.binds) ∧
      s.ledger.get .limit = [.int64 14] ∧ s.ledger.get .wheres = [.int64 8, .int64 9] := by
  have hbuild : tangledScript.build = .ok _ := rfl
  exact ⟨_, hbuild, .run .new hbuild, bookkeeping (.run .new hbuild), rfl, rfl⟩

end SqlBuilder

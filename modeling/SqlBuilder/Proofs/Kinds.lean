import SqlBuilder.Proofs.Edits

namespace SqlBuilder

/-!
# The first kind counts

The first call that is for a kind of statement settles the kind.  Every later call for another kind
is passed over, so it can be left out, on the statement itself and in the bodies that build the
conditions of a group or a sub-query.

* `Edit.heeded` — the calls without those that are passed over;
* `Edit.Trimmed` — two lists of calls, the second without some or all of those, at any depth;
* `Trimmed.runEdits_eq` — both have the same effect;
* `settling` — the kind after some calls, and what the calls for other kinds do.
-/

namespace Edit

/-- The calls that a statement of this kind heeds. A call that settles the kind is heeded, and the
    calls after it are read with that kind. -/
def heeded : Option Kind → List Edit → List Edit
  | _, [] => []
  | none, e :: es => e :: heeded e.kind? es
  | some k, e :: es =>
    if ∃ l, e.kind? = some l ∧ l ≠ k then heeded (some k) es else e :: heeded (some k) es

/-- The second list is the first without calls that a statement of this kind passes over. -/
inductive Trimmed : Option Kind → List Edit → List Edit → Prop
  | nil (k : Option Kind) : Trimmed k [] []
  | drop {k l : Kind} {e : Edit} {es fs : List Edit} : e.kind? = some l → l ≠ k →
      Trimmed (some k) es fs → Trimmed (some k) (e :: es) fs
  | keep {k : Option Kind} {es fs : List Edit} (e : Edit) :
      Trimmed (k.or e.kind?) es fs → Trimmed k (e :: es) (e :: fs)
  /-- The conditions of a group are built on a statement without a kind. -/
  | group {k : Option Kind} {body body' es fs : List Edit} (f : Filter) (c : Connector) :
      Trimmed none body body' → Trimmed k es fs →
      Trimmed k (.group f c (runEdits body) :: es) (.group f c (runEdits body') :: fs)
  /-- So is a sub-query. -/
  | amongWith {k : Option Kind} {body body' es fs : List Edit} (c : Connector) (column : Column)
      (negated : Bool) : Trimmed none body body' → Trimmed k es fs →
      Trimmed k (.amongWith c column (runEdits body) negated :: es)
        (.amongWith c column (runEdits body') negated :: fs)

/-- The calls that are heeded are the calls without all those that are passed over. -/
theorem trimmed_heeded (k : Option Kind) (es : List Edit) : Trimmed k es (heeded k es) := by
  induction es generalizing k with
  | nil => exact .nil k
  | cons e es ih =>
    cases k with
    | none => exact .keep e (ih _)
    | some k =>
      rw [heeded]
      split
      · rename_i h
        obtain ⟨l, hl, hne⟩ := h
        exact .drop hl hne (ih _)
      · exact .keep e (ih _)

/-- Two calls with the same effect, and then lists of calls with the same effect after them. -/
theorem runEdits_cons_congr {e e' : Edit} {es fs : List Edit} {s : Statement}
    (he : e.run s = e'.run s) (h : ∀ t, e.run s = .ok t → runEdits es t = runEdits fs t) :
    runEdits (e :: es) s = runEdits (e' :: fs) s := by
  rw [runEdits, runEdits, ← he]
  cases ht : e.run s with
  | error _ => rfl
  | ok t => exact h t ht

/-- Calls that a statement passes over can be left out. -/
theorem Trimmed.runEdits_eq {k : Option Kind} {es fs : List Edit} (h : Trimmed k es fs)
    {s : Statement} (hs : s.kind = k) : runEdits es s = runEdits fs s := by
  -- The kind that the two lists are compared with goes along with the kind of the statement.
  induction h generalizing s with
  | nil => rfl
  | drop hl hne _ ih =>
    rw [runEdits, run_of_kind?_ne hs hl hne]
    exact ih hs
  | keep e _ ih =>
    refine runEdits_cons_congr rfl fun t ht => ih ?_
    rw [kind_run ht, hs]
  | group f c _ _ hbody ih =>
    refine runEdits_cons_congr ?_ fun t ht => ih ?_
    · rw [run, run, Statement.group, Statement.group, hbody (s := s.scope) rfl]
    · rw [kind_run ht, hs]
      exact Option.or_none
  | amongWith c column negated _ _ hbody ih =>
    refine runEdits_cons_congr ?_ fun t ht => ih ?_
    · rw [run, run, hbody (s := .new) rfl]
    · rw [kind_run ht, hs]
      exact Option.or_none

end Edit

open Edit

/-- **Settling.**  After any calls a statement has the kind that it had before, or else that of the
    first call that is for a kind.  A call for another kind than the one that is settled does
    nothing and does not fail, whatever its arguments.  So without such calls, on the statement and
    in the bodies of groups and sub-queries at any depth, everything that comes after is as it is
    with them: a statement, or an error. -/
theorem settling (s : Statement) :
    (∀ es t, runEdits es s = .ok t → t.kind = s.kind.or (es.findSome? kind?)) ∧
    (∀ (e : Edit) k l, s.kind = some k → e.kind? = some l → l ≠ k → e.run s = .ok s) ∧
    (∀ es more, runEdits (heeded s.kind es ++ more) s = runEdits (es ++ more) s) ∧
    (∀ es fs more, Trimmed s.kind es fs → runEdits (fs ++ more) s = runEdits (es ++ more) s) := by
  have htrimmed : ∀ es fs more, Trimmed s.kind es fs →
      runEdits (fs ++ more) s = runEdits (es ++ more) s := by
    intro es fs more h
    rw [runEdits_append, runEdits_append, h.runEdits_eq rfl]
  refine ⟨fun es t => kind_runEdits, fun e k l => run_of_kind?_ne, fun es more => ?_, htrimmed⟩
  exact htrimmed es _ more (trimmed_heeded s.kind es)

/-- An update, with calls for other kinds behind it and in its sub-queries, and with rows that could
    not be inserted. -/
def lateCalls : List Edit :=
  let rows : List Payload := [.ofList [("a", .bind .null)], .ofList [("b", .bind .null)]]
  [.update (.ofList [("c", .bind (.int64 1))]),
   .insert rows,
   .select [],
   .group .wheres .or (runEdits
    [.delete, .insert rows, .compare .wheres .and (.name "d") "=" (.bind (.int64 2))]),
   .amongWith .or (.name "e") (runEdits
    [.select [.name "f"], .update (.ofList []), .limit (.bind (.int64 3))]) false,
   .delete]

/-- The same without those calls. -/
def plainCalls : List Edit :=
  [.update (.ofList [("c", .bind (.int64 1))]),
   .group .wheres .or (runEdits
    [.delete, .compare .wheres .and (.name "d") "=" (.bind (.int64 2))]),
   .amongWith .or (.name "e") (runEdits [.select [.name "f"], .limit (.bind (.int64 3))]) false]

theorem trimmed_lateCalls : Trimmed none lateCalls plainCalls := by
  have hbody : Trimmed none
      [.delete,
       .insert [.ofList [("a", .bind .null)], .ofList [("b", .bind .null)]],
       .compare .wheres .and (.name "d") "=" (.bind (.int64 2))]
      [.delete, .compare .wheres .and (.name "d") "=" (.bind (.int64 2))] :=
    .keep _ (.drop rfl (by decide) (.keep _ (.nil _)))
  have hquery : Trimmed none
      [.select [.name "f"], .update (.ofList []), .limit (.bind (.int64 3))]
      [.select [.name "f"], .limit (.bind (.int64 3))] :=
    .keep _ (.drop rfl (by decide) (.keep _ (.nil _)))
  refine .keep _ (.drop rfl (by decide) (.drop rfl (by decide) ?_))
  exact .group _ _ hbody (.amongWith _ _ _ hquery (.drop rfl (by decide) (.nil _)))

theorem settling_lateCalls :
    ∃ t, runEdits lateCalls .new = .ok t ∧ t.kind = some .update ∧
      (Edit.insert [.ofList [("a", .bind .null)], .ofList [("b", .bind .null)]]).run t = .ok t ∧
      (heeded none lateCalls).length = 3 ∧ runEdits (heeded none lateCalls) .new = .ok t ∧
      runEdits plainCalls .new = .ok t ∧ t.data = [.int64 1, .int64 2, .int64 3] := by
  obtain ⟨hkind, _, hheeded, htrimmed⟩ := settling .new
  have hrun : runEdits lateCalls .new = .ok _ := rfl
  have hupdate := hkind _ _ hrun
  have hlate := hheeded lateCalls []
  have hplain := htrimmed _ _ [] trimmed_lateCalls
  rw [List.append_nil, List.append_nil, hrun] at hlate hplain
  refine ⟨_, hrun, hupdate, ?_, rfl, hlate, hplain, rfl⟩
  exact (settling _).2.1 _ .update .insert hupdate rfl (by decide)

end SqlBuilder

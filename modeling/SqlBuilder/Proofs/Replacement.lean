import SqlBuilder.Proofs.Embedding
import SqlBuilder.Proofs.Filling
import SqlBuilder.Proofs.Naturality

namespace SqlBuilder

/-!
# Replaced scalars

Two scripts that differ in their scalars only build statements with the same text, and each scalar
turns up in the values of one where its counterpart turns up in those of the other.

* `Supplies` — a list starts with the images of the scalars of given inputs;
* `Step.run_fill`, `runAll_fill`, … — a call with the images of its scalars, on a statement with
  such values, gives what the call gives, with such values in it;
* `label`, `Bind.place` — scalars that stand for their own places in a script;
* `replacement` — errors, text and the places of the scalars do not depend on the scalars.
-/

/-! ### Lists of scalars for inputs -/

/-- A list of scalars starts with the images of those of inputs. -/
def Supplies (σ : Bind → Bind) (xs : List Input) (bs : List Bind) : Prop :=
  (scalarsOf xs).map σ <+: bs

namespace Supplies

variable {σ : Bind → Bind} {xs ys : List Input} {bs : List Bind}

theorem left (h : Supplies σ (xs ++ ys) bs) : Supplies σ xs bs := by
  rw [Supplies, scalarsOf_append, List.map_append] at h
  exact (List.prefix_append _ _).trans h

theorem right (h : Supplies σ (xs ++ ys) bs) :
    Supplies σ ys (bs.drop (scalarsOf xs).length) := by
  obtain ⟨rest, rfl⟩ := h
  exact ⟨rest, by simp [List.append_assoc]⟩

/-- A fragment gets the images of its scalars. -/
theorem fragment {f : Fragment} (h : Supplies σ [.fragment f] bs) : f.fill bs = f.subst σ := by
  obtain ⟨rest, rfl⟩ := h
  have hbinds : (scalarsOf [.fragment f]).map σ = f.binds.map σ := by simp
  rw [Fragment.fill, hbinds, List.takeD_left' (by simp)]
  rfl

/-- A column in front gets the images of its scalars. -/
theorem head {c : Column} (h : Supplies σ (c.input :: xs) bs) : c.fill bs = c.subst σ := by
  cases c with
  | name s => rfl
  | raw f => exact congrArg Column.raw (fragment (left h))

theorem tail {c : Column} (h : Supplies σ (c.input :: xs) bs) :
    Supplies σ xs (bs.drop c.binds.length) := by
  have hc : (scalarsOf [c.input]).length = c.binds.length := by simp
  rw [← hc]
  exact right h

theorem columns {cs : List Column} (h : Supplies σ (cs.map Column.input) bs) :
    fillColumns bs cs = cs.map (Column.subst σ) := by
  induction cs generalizing bs with
  | nil => rfl
  | cons c cs ih => rw [fillColumns, List.map_cons, head h, ih (tail h)]

/-- The members of a JSON object get the images of their scalars. -/
theorem members {members : List (String × Json)} (h : Supplies σ (Json.object members).inputs bs)
    (s : Statement) :
    evalEntries (fillMembers bs members) s =
      .ok (members.map fun m => (m.1, .bind (σ (m.2.toBind Json.display)))) := by
  induction members generalizing bs with
  | nil => rfl
  | cons m members ih =>
    obtain ⟨rest, rfl⟩ := h
    have htail : Supplies σ (Json.object members).inputs
        ((scalarsOf (Json.object members).inputs).map σ ++ rest) := ⟨rest, rfl⟩
    have hm : (scalarsOf (Json.object (m :: members)).inputs).map σ ++ rest =
        σ (m.2.toBind Json.display) :: ((scalarsOf (Json.object members).inputs).map σ ++ rest) := by
      simp [Json.inputs]
    rw [hm, fillMembers, evalEntries, List.tail_cons, ih htail]
    rfl

end Supplies

/-! ### Running a filled script -/

section

variable {σ : Bind → Bind}

mutual

theorem Step.run_fill {bs : List Bind} (s : Statement) : (step : Step) →
    Supplies σ step.inputs bs →
    (step.fill bs).run (s.subst σ) = (step.run s).map (Statement.subst σ)
  | .new, _ => rfl
  | .table source, h => by
    rw [Step.fill, Step.run, Step.run, source.eval_fill s h]
    exact map_bind fun v => congrArg Except.ok (Statement.new.fromSource_subst σ v)
  | .fromSource source, h => by
    rw [Step.fill, Step.run, Step.run, source.eval_fill s h]
    exact map_bind fun v => congrArg Except.ok (s.fromSource_subst σ v)
  | .withDialect d, _ => congrArg Except.ok (s.withDialect_subst σ d)
  | .select columns, h => by
    rw [Step.fill, Step.run, Step.run, h.columns, s.select_subst]
    rfl
  | .aggregate a, h => by
    rw [Step.fill, Step.run, Step.run, h.head]
    exact congrArg Except.ok (s.aggregate_subst σ a)
  | .groupBy columns, h => by
    rw [Step.fill, Step.run, Step.run, h.columns, s.groupBy_subst]
    rfl
  | .orderBy column direction, h => by
    rw [Step.fill, Step.run, Step.run, h.head, s.orderBy_subst, map_mapError]
  | .limit value, h => by
    rw [Step.fill, Step.run, Step.run, value.eval_fill s h]
    exact map_bind fun v => congrArg Except.ok (s.limitTo_subst σ v)
  | .offset value, h => by
    rw [Step.fill, Step.run, Step.run, value.eval_fill s h]
    exact map_bind fun v => congrArg Except.ok (s.offsetBy_subst σ v)
  | .insert rows, h => by
    rw [Step.fill, Step.run, Step.run, evalRows_fill s rows h]
    refine map_bind fun ps => ?_
    rw [s.insert_subst, map_mapError]
  | .update payload, h => by
    rw [Step.fill, Step.run, Step.run, payload.eval_fill s h]
    exact map_bind fun p => congrArg Except.ok (s.update_subst σ p)
  | .delete, _ => congrArg Except.ok (s.delete_subst σ)
  | .skipConflicts, _ => congrArg Except.ok (s.skippingConflicts_subst σ)
  | .returning columns, _ => congrArg Except.ok (s.returningColumns_subst σ columns)
  | .compare f c column operator value, h => by
    rw [Step.fill, Step.run, Step.run, h.head, value.eval_fill s h.tail]
    refine map_bind fun v => ?_
    rw [s.compare_subst, map_mapError]
  | .compareRaw f c fragment, h => by
    rw [Step.fill, Step.run, Step.run, h.fragment, s.compareRaw_subst]
    rfl
  | .group f c body, h => by
    rw [Step.fill, Step.run, Step.run, Statement.group, Statement.group, s.scope_subst,
      runAll_fill s.scope body h]
    exact map_bind fun inner => congrArg Except.ok (s.addGroup_subst σ f c inner)
  | .among c column (.values vs) negated, h => by
    rw [Step.fill, Members.fill, Step.run, Step.run, h.head, evalValues_fill s vs h.tail]
    exact map_bind fun ws => congrArg Except.ok (s.among_subst σ c column ws negated)
  | .among c column (.query body) negated, h => by
    have hbody := runAll_fill .new body h.tail
    rw [Step.fill, Members.fill, Step.run, Step.run, h.head]
    rw [Statement.subst_new] at hbody
    rw [hbody]
    exact map_bind fun q => congrArg Except.ok (s.amongQuery_subst σ c column q negated)
  | .among c column (.self body) negated, h => by
    rw [Step.fill, Members.fill, Step.run, Step.run, h.head, runAll_fill s body h.tail]
    exact map_bind fun q => congrArg Except.ok (s.amongQuery_subst σ c column q negated)
  | .between c column low high negated, h => by
    rw [Step.fill, Step.run, Step.run, h.head, low.eval_fill s h.tail.left,
      high.eval_fill s h.tail.right]
    refine map_bind fun v => map_bind fun w => ?_
    exact congrArg Except.ok (s.between_subst σ c column v w negated)
  | .isNull c column negated, h => by
    rw [Step.fill, Step.run, Step.run, h.head, s.isNull_subst]
    rfl
  | .join kind table first operator second, h => by
    rw [Step.fill, Step.run, Step.run, h.head, s.join_subst, map_mapError]
  | .joinWith kind table body, h => by
    rw [Step.fill, Step.run, Step.run, h.head, JoinDraft.start_subst,
      runJoin_fill s _ body h.tail]
    exact map_bind fun j => congrArg Except.ok (s.addJoin_subst σ j)
  | .times n body, h => by
    rw [Step.fill, Step.run, Step.run]
    exact map_iterate (fun t => runAll_fill t body h) n s

theorem runAll_fill {bs : List Bind} (s : Statement) : (steps : List Step) →
    Supplies σ (stepInputs steps) bs →
    runAll (fillSteps bs steps) (s.subst σ) = (runAll steps s).map (Statement.subst σ)
  | [], _ => rfl
  | step :: steps, h => by
    rw [fillSteps, runAll, runAll, step.run_fill s h.left]
    exact map_bind fun t => runAll_fill t steps h.right

theorem Operand.eval_fill {bs : List Bind} (s : Statement) : (v : Operand) →
    Supplies σ v.inputs bs → (v.fill bs).eval (s.subst σ) = (v.eval s).map (Value.subst σ)
  | .bind b, h => by
    obtain ⟨rest, rfl⟩ := h
    rfl
  | .raw f, h => by
    rw [Operand.fill, Operand.eval, h.fragment]
    rfl
  | .query body, h => by
    have hbody := runAll_fill .new body h
    rw [Statement.subst_new] at hbody
    rw [Operand.fill, Operand.eval, Operand.eval, hbody]
    exact map_bind fun q => rfl
  | .self body, h => by
    rw [Operand.fill, Operand.eval, Operand.eval, runAll_fill s body h]
    exact map_bind fun q => rfl

theorem Origin.eval_fill {bs : List Bind} (s : Statement) : (v : Origin) →
    Supplies σ v.inputs bs → (v.fill bs).eval (s.subst σ) = (v.eval s).map (Source.subst σ)
  | .table _, _ => rfl
  | .raw f, h => by
    rw [Origin.fill, Origin.eval, h.fragment]
    rfl
  | .query body, h => by
    have hbody := runAll_fill .new body h
    rw [Statement.subst_new] at hbody
    rw [Origin.fill, Origin.eval, Origin.eval, hbody]
    exact map_bind fun q => rfl
  | .self body, h => by
    rw [Origin.fill, Origin.eval, Origin.eval, runAll_fill s body h]
    exact map_bind fun q => rfl

theorem evalValues_fill {bs : List Bind} (s : Statement) : (vs : List Operand) →
    Supplies σ (operandInputs vs) bs →
    evalValues (fillOperands bs vs) (s.subst σ) =
      (evalValues vs s).map (List.map (Value.subst σ))
  | [], _ => rfl
  | v :: vs, h => by
    rw [fillOperands, evalValues, evalValues, v.eval_fill s h.left, evalValues_fill s vs h.right]
    exact map_bind fun w => map_bind fun ws => rfl

theorem evalEntries_fill {bs : List Bind} (s : Statement) : (entries : List (String × Operand)) →
    Supplies σ (entryInputs entries) bs →
    evalEntries (fillEntries bs entries) (s.subst σ) =
      (evalEntries entries s).map (List.map fun e => (e.1, e.2.subst σ))
  | [], _ => rfl
  | (column, v) :: entries, h => by
    have hv : Supplies σ (v.inputs ++ entryInputs entries) bs := h
    rw [fillEntries, evalEntries, evalEntries, v.eval_fill s hv.left,
      evalEntries_fill s entries hv.right]
    exact map_bind fun w => map_bind fun ws => rfl

theorem PayloadTerm.eval_fill {bs : List Bind} (s : Statement) : (p : PayloadTerm) →
    Supplies σ p.inputs bs → (p.fill bs).eval (s.subst σ) = (p.eval s).map (Payload.subst σ)
  | .columns entries, h => by
    rw [PayloadTerm.fill, PayloadTerm.eval, PayloadTerm.eval, evalEntries_fill s entries h]
    exact map_bind fun es => congrArg Except.ok (Payload.ofList_subst σ es)
  | .json value, h => by
    cases value with
    | object members =>
      -- The columns that stand for the object set what the object sets.
      have hmembers := Payload.ofList_subst σ
        (members.map fun m => (m.1, .bind (m.2.toBind Json.display)))
      rw [List.map_map] at hmembers
      rw [PayloadTerm.fill, PayloadTerm.eval, PayloadTerm.eval, Payload.ofJson_object, h.members]
      exact congrArg Except.ok hmembers
    | _ => rfl

theorem evalRows_fill {bs : List Bind} (s : Statement) : (ps : List PayloadTerm) →
    Supplies σ (rowInputs ps) bs →
    evalRows (fillRows bs ps) (s.subst σ) = (evalRows ps s).map (List.map (Payload.subst σ))
  | [], _ => rfl
  | p :: ps, h => by
    rw [fillRows, evalRows, evalRows, p.eval_fill s h.left, evalRows_fill s ps h.right]
    exact map_bind fun q => map_bind fun qs => rfl

theorem JoinStep.run_fill {bs : List Bind} (s : Statement) (j : JoinDraft) : (step : JoinStep) →
    Supplies σ step.inputs bs →
    (step.fill bs).run (s.subst σ) (j.subst σ) = (step.run s j).map (JoinDraft.subst σ)
  | .on c first operator second, h => by
    rw [JoinStep.fill, JoinStep.run, JoinStep.run, h.head, h.tail.head, j.on_subst, map_mapError]
  | .compare c column operator value, h => by
    rw [JoinStep.fill, JoinStep.run, JoinStep.run, h.head, value.eval_fill s h.tail]
    refine map_bind fun v => ?_
    rw [j.compare_subst, map_mapError]

theorem runJoin_fill {bs : List Bind} (s : Statement) (j : JoinDraft) : (steps : List JoinStep) →
    Supplies σ (joinStepInputs steps) bs →
    runJoin (fillJoinSteps bs steps) (s.subst σ) (j.subst σ) =
      (runJoin steps s j).map (JoinDraft.subst σ)
  | [], _ => rfl
  | step :: steps, h => by
    rw [fillJoinSteps, runJoin, runJoin, step.run_fill s j h.left]
    exact map_bind fun k => runJoin_fill s k steps h.right

end

end

namespace Script

/-- Images for all scalars of a script give their images in the statement. -/
theorem build_fill (σ : Bind → Bind) (script : Script) :
    (script.fill (script.scalars.map σ)).build = script.build.map (Statement.subst σ) :=
  runAll_fill .new script (List.prefix_refl _)

/-- Its own scalars do not change what a script builds. -/
theorem build_fill_scalars (script : Script) :
    (script.fill script.scalars).build = script.build := by
  have h := script.build_fill id
  rw [List.map_id] at h
  rw [h]
  cases script.build with
  | error e => rfl
  | ok s => exact congrArg Except.ok s.subst_id

end Script

/-! ### Scalars that stand for their places -/

/-- The scalar for a place. -/
def label (i : Nat) : Bind := .bytes (List.replicate i 0)

/-- The place for which a scalar stands. -/
def Bind.place : Bind → Nat
  | .bytes bs => bs.length
  | _ => 0

@[simp] theorem place_label (i : Nat) : (label i).place = i := List.length_replicate

namespace Script

/-- A script with the scalars for their places. -/
def labelled (script : Script) : Script :=
  script.fill ((List.range script.scalars.length).map label)

theorem scalars_labelled (script : Script) :
    script.labelled.scalars = (List.range script.scalars.length).map label := by
  rw [labelled, scalars_fill, List.takeD_eq_take _ (by simp), List.take_of_length_le (by simp)]

/-- The scalar of a script at the place for which a scalar stands. -/
def atPlace (script : Script) (b : Bind) : Bind := script.scalars.getD b.place .null

/-- The scalars of a script are those at the places of its labels. -/
theorem map_atPlace_labels (script : Script) :
    ((List.range script.scalars.length).map label).map script.atPlace = script.scalars := by
  refine List.ext_getElem (by simp) fun i hi _ => ?_
  have hi : i < script.scalars.length := by simpa using hi
  simp [atPlace, hi]

/-- Scripts that differ in their scalars only build what one script of labels builds, each with its
    own scalars in it. -/
theorem build_eq_labelled {p q : Script} (h : q.blank = p.blank) :
    q.build = p.labelled.build.map (Statement.subst q.atPlace) := by
  have hscalars : p.labelled.scalars.map q.atPlace = q.scalars := by
    rw [scalars_labelled, ← length_scalars_congr h, map_atPlace_labels]
  calc q.build
      = (q.fill q.scalars).build := q.build_fill_scalars.symm
    _ = (p.fill q.scalars).build := by rw [fill_congr h]
    _ = (p.labelled.fill q.scalars).build := by rw [labelled, fill_fill]
    _ = p.labelled.build.map (Statement.subst q.atPlace) := by rw [← hscalars, build_fill]

/-- A statement has no values but scalars of its script. -/
theorem mem_scalars_of_mem_data {script : Script} {s : Statement} (h : script.build = .ok s)
    {b : Bind} (hb : b ∈ s.data) : b ∈ script.scalars := by
  have hinvariant : Invariant (fun x => ∀ b ∈ x.binds, b ∈ script.scalars) _ :=
    (invariant_leaves _).and (invariant_balanced _)
  -- A sub-query has only such values if its leaves have, since its ledger is in step with them.
  have hdata : ∀ t : Statement,
      t.LeavesHave (fun x => ∀ b ∈ x.binds, b ∈ script.scalars) ∧ t.Balanced →
        ∀ b ∈ t.data, b ∈ script.scalars := by
    rintro t ⟨hleaves, hbalanced⟩ b hb
    rw [hbalanced.data_eq] at hb
    obtain ⟨x, hx, hb⟩ := List.mem_flatMap.1 hb
    obtain ⟨e, _, hx⟩ := List.mem_flatMap.1 hx
    exact hleaves e x hx b hb
  refine hdata s (hinvariant.of_build hdata (fun x hx b hb => ?_) h) b hb
  exact List.mem_flatMap.2 ⟨x, hx, hb⟩

/-- The values of a statement of labels, read as places in a script with as many scalars. -/
theorem data_subst_atPlace {p q : Script} (h : q.blank = p.blank) {r : Statement}
    (hr : p.labelled.build = .ok r) :
    (r.subst q.atPlace).data.map some = (r.data.map Bind.place).map (q.scalars[·]?) := by
  rw [Statement.data_subst, List.map_map, List.map_map]
  refine List.map_congr_left fun b hb => ?_
  -- A value of the statement is a label, and so its place is one in the script.
  have hb := mem_scalars_of_mem_data hr hb
  rw [scalars_labelled, ← length_scalars_congr h] at hb
  obtain ⟨i, hi, rfl⟩ := List.mem_map.1 hb
  have hi : i < q.scalars.length := List.mem_range.1 hi
  simp [atPlace, hi]

end Script

/-! ### Replacement -/

/-- **Replacement.**  There are places among the scalars of a script such that each script that
    differs from it in its scalars only ends with the same error, or builds a statement with the
    same text in every dialect and with its own scalars at these places as values. -/
theorem replacement (p : Script) :
    ∃ places : List Nat, ∀ q : Script, q.blank = p.blank →
      q.scalars.length = p.scalars.length ∧
      ((∃ e, p.build = .error e ∧ q.build = .error e) ∨
        ∃ s t, p.build = .ok s ∧ q.build = .ok t ∧
          (∀ d, t.compile d = s.compile d) ∧
          s.data.map some = places.map (p.scalars[·]?) ∧
          t.data.map some = places.map (q.scalars[·]?)) := by
  -- All scripts of the kind build what the script of labels builds, with other scalars.
  cases hr : p.labelled.build with
  | error e =>
    refine ⟨[], fun q h => ⟨Script.length_scalars_congr h, .inl ⟨e, ?_, ?_⟩⟩⟩
    · rw [Script.build_eq_labelled rfl, hr]
      rfl
    · rw [Script.build_eq_labelled h, hr]
      rfl
  | ok r =>
    refine ⟨r.data.map Bind.place, fun q h => ⟨Script.length_scalars_congr h, .inr ?_⟩⟩
    refine ⟨r.subst p.atPlace, r.subst q.atPlace, ?_, ?_, fun d => ?_,
      Script.data_subst_atPlace rfl hr, Script.data_subst_atPlace h hr⟩
    · rw [Script.build_eq_labelled rfl, hr]
      rfl
    · rw [Script.build_eq_labelled h, hr]
      rfl
    · rw [Statement.compile_subst, Statement.compile_subst]

/-- An update with scalars in JSON, in a sub-query, in a fragment and in a list. -/
def updateScript (payload : Json) (count name first second : Bind) : Script :=
  [.table (.table "t"),
   .update (.json (.object [("a", payload)])),
   .compare .wheres .and (.name "b") ">"
    (.query [.compareRaw .wheres .and ⟨"f(?) = ?", [count, name]⟩]),
   .among .or (.name "c") (.values [.bind first, .bind second]) true]

/-- The update with harmless scalars. -/
def harmlessUpdate : Script :=
  updateScript (.string "x") (.int64 1) (.text "y") (.bool true) (.bool false)

/-- The update with scalars that look like SQL, and some of another kind. -/
def hostileUpdate : Script :=
  updateScript .null (.text "' OR 1 = 1 --") (.bytes [36, 49]) .null (.text "?")

theorem replacement_hostileUpdate :
    ∃ places : List Nat, hostileUpdate.blank = harmlessUpdate.blank ∧
      ∃ s t, harmlessUpdate.build = .ok s ∧ hostileUpdate.build = .ok t ∧
        (∀ d, t.compile d = s.compile d) ∧
        s.data.map some = places.map (harmlessUpdate.scalars[·]?) ∧
        t.data.map some = places.map (hostileUpdate.scalars[·]?) := by
  have hblank : hostileUpdate.blank = harmlessUpdate.blank := rfl
  obtain ⟨places, h⟩ := replacement harmlessUpdate
  obtain ⟨-, ⟨e, he, -⟩ | h⟩ := h hostileUpdate hblank
  · cases he
  · exact ⟨places, hblank, h⟩

end SqlBuilder

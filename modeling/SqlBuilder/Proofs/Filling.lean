import Mathlib.Data.List.TakeDrop
import SqlBuilder.Proofs.Leaf

namespace SqlBuilder

/-!
# Scripts with other scalars

The scalars of a script can be replaced by those of a list, in the order in which the script spells
them out, sub-queries included.

* `Step.fill`, `Operand.fill`, …, `Script.fill` — a script with the scalars of a list;
* `Script.blank` — a script without its scalars: what two scripts have in common that differ in
  their scalars only;
* `Script.scalars_fill` — a filled script has the scalars of the list;
* `Script.fill_fill`, `Script.fill_congr` — the scalars that it had before do not matter any more.
-/

/-! ### Filling in scalars -/

/-- A fragment with the first scalars of a list; `NULL` where there are too few. -/
def Fragment.fill (bs : List Bind) (f : Fragment) : Fragment :=
  ⟨f.text, bs.takeD f.binds.length .null⟩

/-- A column with the first scalars of a list. -/
def Column.fill (bs : List Bind) : Column → Column
  | .name s => .name s
  | .raw f => .raw (f.fill bs)

/-- Columns with the first scalars of a list. -/
def fillColumns (bs : List Bind) : List Column → List Column
  | [] => []
  | c :: cs => c.fill bs :: fillColumns (bs.drop c.binds.length) cs

/-- The members of a JSON object as columns, with the first scalars of a list. -/
def fillMembers (bs : List Bind) : List (String × Json) → List (String × Operand)
  | [] => []
  | (key, _) :: members => (key, .bind (bs.headD .null)) :: fillMembers bs.tail members

mutual

/-- A call with the first scalars of a list. -/
def Step.fill (bs : List Bind) : Step → Step
  | .new => .new
  | .table source => .table (source.fill bs)
  | .fromSource source => .fromSource (source.fill bs)
  | .withDialect d => .withDialect d
  | .select columns => .select (fillColumns bs columns)
  | .aggregate a => .aggregate { a with column := a.column.fill bs }
  | .groupBy columns => .groupBy (fillColumns bs columns)
  | .orderBy column direction => .orderBy (column.fill bs) direction
  | .limit value => .limit (value.fill bs)
  | .offset value => .offset (value.fill bs)
  | .insert rows => .insert (fillRows bs rows)
  | .update payload => .update (payload.fill bs)
  | .delete => .delete
  | .skipConflicts => .skipConflicts
  | .returning columns => .returning columns
  | .compare f c column operator value =>
    .compare f c (column.fill bs) operator (value.fill (bs.drop column.binds.length))
  | .compareRaw f c fragment => .compareRaw f c (fragment.fill bs)
  | .group f c body => .group f c (fillSteps bs body)
  | .among c column members negated =>
    .among c (column.fill bs) (members.fill (bs.drop column.binds.length)) negated
  | .between c column low high negated =>
    .between c (column.fill bs) (low.fill (bs.drop column.binds.length))
      (high.fill ((bs.drop column.binds.length).drop (scalarsOf low.inputs).length)) negated
  | .isNull c column negated => .isNull c (column.fill bs) negated
  | .join kind table first operator second => .join kind (table.fill bs) first operator second
  | .joinWith kind table body =>
    .joinWith kind (table.fill bs) (fillJoinSteps (bs.drop table.binds.length) body)
  | .times n body => .times n (fillSteps bs body)

/-- Calls with the first scalars of a list. -/
def fillSteps (bs : List Bind) : List Step → List Step
  | [] => []
  | step :: steps => step.fill bs :: fillSteps (bs.drop (scalarsOf step.inputs).length) steps

/-- An operand with the first scalars of a list. -/
def Operand.fill (bs : List Bind) : Operand → Operand
  | .bind _ => .bind (bs.headD .null)
  | .raw f => .raw (f.fill bs)
  | .query body => .query (fillSteps bs body)
  | .self body => .self (fillSteps bs body)

/-- A source with the first scalars of a list. -/
def Origin.fill (bs : List Bind) : Origin → Origin
  | .table name => .table name
  | .raw f => .raw (f.fill bs)
  | .query body => .query (fillSteps bs body)
  | .self body => .self (fillSteps bs body)

/-- The members of a test with the first scalars of a list. -/
def Members.fill (bs : List Bind) : Members → Members
  | .values vs => .values (fillOperands bs vs)
  | .query body => .query (fillSteps bs body)
  | .self body => .self (fillSteps bs body)

/-- Operands with the first scalars of a list. -/
def fillOperands (bs : List Bind) : List Operand → List Operand
  | [] => []
  | v :: vs => v.fill bs :: fillOperands (bs.drop (scalarsOf v.inputs).length) vs

/-- The entries of a payload with the first scalars of a list. -/
def fillEntries (bs : List Bind) : List (String × Operand) → List (String × Operand)
  | [] => []
  | (column, v) :: entries =>
    (column, v.fill bs) :: fillEntries (bs.drop (scalarsOf v.inputs).length) entries

/-- A payload with the first scalars of a list.  A JSON object becomes columns, since not every
    scalar has a JSON value. -/
def PayloadTerm.fill (bs : List Bind) : PayloadTerm → PayloadTerm
  | .columns entries => .columns (fillEntries bs entries)
  | .json (.object members) => .columns (fillMembers bs members)
  | .json value => .json value

/-- Payloads with the first scalars of a list. -/
def fillRows (bs : List Bind) : List PayloadTerm → List PayloadTerm
  | [] => []
  | p :: ps => p.fill bs :: fillRows (bs.drop (scalarsOf p.inputs).length) ps

/-- A call on a join with the first scalars of a list. -/
def JoinStep.fill (bs : List Bind) : JoinStep → JoinStep
  | .on c first operator second =>
    .on c (first.fill bs) operator (second.fill (bs.drop first.binds.length))
  | .compare c column operator value =>
    .compare c (column.fill bs) operator (value.fill (bs.drop column.binds.length))

/-- Calls on a join with the first scalars of a list. -/
def fillJoinSteps (bs : List Bind) : List JoinStep → List JoinStep
  | [] => []
  | step :: steps => step.fill bs :: fillJoinSteps (bs.drop (scalarsOf step.inputs).length) steps

end

namespace Script

/-- A script with its scalars replaced by those of a list, in order. -/
def fill (bs : List Bind) (script : Script) : Script := fillSteps bs script

/-- A script without its scalars. -/
def blank (script : Script) : Script := script.fill []

end Script

/-! ### The scalars of a filled script -/

@[simp] theorem scalarsOf_nil : scalarsOf [] = [] := rfl

@[simp] theorem scalarsOf_cons (x : Input) (xs : List Input) :
    scalarsOf (x :: xs) = x.leaf.binds ++ scalarsOf xs := rfl

@[simp] theorem scalarsOf_append (xs ys : List Input) :
    scalarsOf (xs ++ ys) = scalarsOf xs ++ scalarsOf ys :=
  List.flatMap_append

@[simp] theorem Column.binds_input (c : Column) : c.input.leaf.binds = c.binds := c.binds_leaf

@[simp] theorem Input.binds_name (s : String) : (Input.name s).leaf.binds = [] := rfl

@[simp] theorem Input.binds_fragment (f : Fragment) : (Input.fragment f).leaf.binds = f.binds := rfl

@[simp] theorem Input.binds_bind (b : Bind) : (Input.bind b).leaf.binds = [b] := rfl

/-- The first scalars of a list, in two parts. -/
theorem takeD_add (m n : Nat) (bs : List Bind) :
    bs.takeD (m + n) .null = bs.takeD m .null ++ (bs.drop m).takeD n .null := by
  induction m generalizing bs with
  | zero => simp
  | succ m ih =>
    have hsum : m + 1 + n = (m + n) + 1 := by omega
    rw [hsum, List.takeD, List.takeD, ih, List.cons_append]
    cases bs <;> simp

section

variable (bs : List Bind)

@[simp] theorem Fragment.binds_fill (f : Fragment) :
    (f.fill bs).binds = bs.takeD f.binds.length .null := rfl

@[simp] theorem Column.binds_fill (c : Column) :
    (c.fill bs).binds = bs.takeD c.binds.length .null := by
  cases c <;> rfl

theorem scalars_fillColumns (cs : List Column) :
    scalarsOf ((fillColumns bs cs).map Column.input) =
      bs.takeD (scalarsOf (cs.map Column.input)).length .null := by
  induction cs generalizing bs with
  | nil => rfl
  | cons c cs ih => simp [fillColumns, ih, takeD_add]

theorem scalars_fillMembers (members : List (String × Json)) :
    scalarsOf (entryInputs (fillMembers bs members)) =
      bs.takeD (scalarsOf (Json.object members).inputs).length .null := by
  induction members generalizing bs with
  | nil => rfl
  | cons m members ih =>
    -- Each member has one scalar, whatever its value is.
    have hsum : (scalarsOf (Json.object (m :: members)).inputs).length =
        (scalarsOf (Json.object members).inputs).length + 1 := by
      simp [Json.inputs]
    rw [hsum, List.takeD, ← ih]
    rfl

mutual

theorem Step.scalars_fill (bs : List Bind) : (step : Step) →
    scalarsOf (step.fill bs).inputs = bs.takeD (scalarsOf step.inputs).length .null
  | .new | .withDialect _ | .delete | .skipConflicts => rfl
  | .table source | .fromSource source => source.scalars_fill bs
  | .select columns | .groupBy columns => scalars_fillColumns bs columns
  | .aggregate a => by simp [Step.fill, Step.inputs]
  | .orderBy column _ => by simp [Step.fill, Step.inputs]
  | .limit value | .offset value => value.scalars_fill bs
  | .insert rows => scalars_fillRows bs rows
  | .update payload => payload.scalars_fill bs
  | .returning columns => by
    have hnone : scalarsOf (columns.map Input.name) = [] := by
      simp [scalarsOf, List.flatMap_map]
    rw [Step.fill, Step.inputs, hnone]
    rfl
  | .compare _ _ column _ value => by
    simp [Step.fill, Step.inputs, value.scalars_fill, takeD_add]
  | .compareRaw _ _ fragment => by simp [Step.fill, Step.inputs]
  | .group _ _ body => scalars_fillSteps bs body
  | .among _ column members _ => by
    simp [Step.fill, Step.inputs, members.scalars_fill, takeD_add]
  | .between _ column low high _ => by
    simp [Step.fill, Step.inputs, low.scalars_fill, high.scalars_fill, takeD_add]
  | .isNull _ column _ => by simp [Step.fill, Step.inputs]
  | .join _ table first _ second => by simp [Step.fill, Step.inputs]
  | .joinWith _ table body => by
    simp [Step.fill, Step.inputs, scalars_fillJoinSteps _ body, takeD_add]
  | .times _ body => scalars_fillSteps bs body

theorem scalars_fillSteps (bs : List Bind) : (steps : List Step) →
    scalarsOf (stepInputs (fillSteps bs steps)) =
      bs.takeD (scalarsOf (stepInputs steps)).length .null
  | [] => rfl
  | step :: steps => by
    simp [fillSteps, stepInputs, step.scalars_fill, scalars_fillSteps _ steps, takeD_add]

theorem Operand.scalars_fill (bs : List Bind) : (v : Operand) →
    scalarsOf (v.fill bs).inputs = bs.takeD (scalarsOf v.inputs).length .null
  | .bind _ => rfl
  | .raw f => by simp [Operand.fill, Operand.inputs]
  | .query body | .self body => scalars_fillSteps bs body

theorem Origin.scalars_fill (bs : List Bind) : (v : Origin) →
    scalarsOf (v.fill bs).inputs = bs.takeD (scalarsOf v.inputs).length .null
  | .table _ => rfl
  | .raw f => by simp [Origin.fill, Origin.inputs]
  | .query body | .self body => scalars_fillSteps bs body

theorem Members.scalars_fill (bs : List Bind) : (v : Members) →
    scalarsOf (v.fill bs).inputs = bs.takeD (scalarsOf v.inputs).length .null
  | .values vs => scalars_fillOperands bs vs
  | .query body | .self body => scalars_fillSteps bs body

theorem scalars_fillOperands (bs : List Bind) : (vs : List Operand) →
    scalarsOf (operandInputs (fillOperands bs vs)) =
      bs.takeD (scalarsOf (operandInputs vs)).length .null
  | [] => rfl
  | v :: vs => by
    simp [fillOperands, operandInputs, v.scalars_fill, scalars_fillOperands _ vs, takeD_add]

theorem scalars_fillEntries (bs : List Bind) : (entries : List (String × Operand)) →
    scalarsOf (entryInputs (fillEntries bs entries)) =
      bs.takeD (scalarsOf (entryInputs entries)).length .null
  | [] => rfl
  | (column, v) :: entries => by
    simp [fillEntries, entryInputs, v.scalars_fill, scalars_fillEntries _ entries, takeD_add]

theorem PayloadTerm.scalars_fill (bs : List Bind) : (p : PayloadTerm) →
    scalarsOf (p.fill bs).inputs = bs.takeD (scalarsOf p.inputs).length .null
  | .columns entries => scalars_fillEntries bs entries
  | .json value => by
    cases value with
    | object members => exact scalars_fillMembers bs members
    | _ => rfl

theorem scalars_fillRows (bs : List Bind) : (ps : List PayloadTerm) →
    scalarsOf (rowInputs (fillRows bs ps)) = bs.takeD (scalarsOf (rowInputs ps)).length .null
  | [] => rfl
  | p :: ps => by
    simp [fillRows, rowInputs, p.scalars_fill, scalars_fillRows _ ps, takeD_add]

theorem JoinStep.scalars_fill (bs : List Bind) : (step : JoinStep) →
    scalarsOf (step.fill bs).inputs = bs.takeD (scalarsOf step.inputs).length .null
  | .on _ first _ second => by simp [JoinStep.fill, JoinStep.inputs, takeD_add]
  | .compare _ column _ value => by
    simp [JoinStep.fill, JoinStep.inputs, value.scalars_fill, takeD_add]

theorem scalars_fillJoinSteps (bs : List Bind) : (steps : List JoinStep) →
    scalarsOf (joinStepInputs (fillJoinSteps bs steps)) =
      bs.takeD (scalarsOf (joinStepInputs steps)).length .null
  | [] => rfl
  | step :: steps => by
    simp [fillJoinSteps, joinStepInputs, step.scalars_fill, scalars_fillJoinSteps _ steps,
      takeD_add]

end

end

/-! ### Filling in twice -/

section

variable (as bs : List Bind)

@[simp] theorem Fragment.fill_fill (f : Fragment) : (f.fill as).fill bs = f.fill bs := by
  simp [Fragment.fill]

@[simp] theorem Column.fill_fill (c : Column) : (c.fill as).fill bs = c.fill bs := by
  cases c <;> simp [Column.fill]

@[simp] theorem fillColumns_fillColumns (cs : List Column) :
    fillColumns bs (fillColumns as cs) = fillColumns bs cs := by
  induction cs generalizing as bs with
  | nil => rfl
  | cons c cs ih => simp [fillColumns, ih]

@[simp] theorem fillEntries_fillMembers (members : List (String × Json)) :
    fillEntries bs (fillMembers as members) = fillMembers bs members := by
  induction members generalizing as bs with
  | nil => rfl
  | cons m members ih => simp [fillMembers, fillEntries, Operand.fill, Operand.inputs, ih]

end

mutual

theorem Step.fill_fill (as bs : List Bind) : (step : Step) →
    (step.fill as).fill bs = step.fill bs
  | .new | .withDialect _ | .delete | .skipConflicts | .returning _ => rfl
  | .table source | .fromSource source => by simp [Step.fill, source.fill_fill]
  | .select columns | .groupBy columns => by simp [Step.fill]
  | .aggregate a => by simp [Step.fill]
  | .orderBy column _ => by simp [Step.fill]
  | .limit value | .offset value => by simp [Step.fill, value.fill_fill]
  | .insert rows => by simp [Step.fill, fillRows_fillRows _ _ rows]
  | .update payload => by simp [Step.fill, payload.fill_fill]
  | .compare _ _ column _ value => by simp [Step.fill, value.fill_fill]
  | .compareRaw _ _ fragment => by simp [Step.fill]
  | .group _ _ body => by simp [Step.fill, fillSteps_fillSteps _ _ body]
  | .among _ column members _ => by simp [Step.fill, members.fill_fill]
  | .between _ column low high _ => by
    -- The upper bound starts behind the scalars of the lower one, and there are as many as before.
    simp [Step.fill, low.fill_fill, high.fill_fill, low.scalars_fill]
  | .isNull _ column _ => by simp [Step.fill]
  | .join _ table _ _ _ => by simp [Step.fill]
  | .joinWith _ table body => by simp [Step.fill, fillJoinSteps_fillJoinSteps _ _ body]
  | .times _ body => by simp [Step.fill, fillSteps_fillSteps _ _ body]

theorem fillSteps_fillSteps (as bs : List Bind) : (steps : List Step) →
    fillSteps bs (fillSteps as steps) = fillSteps bs steps
  | [] => rfl
  | step :: steps => by
    simp [fillSteps, step.fill_fill, step.scalars_fill, fillSteps_fillSteps _ _ steps]

theorem Operand.fill_fill (as bs : List Bind) : (v : Operand) →
    (v.fill as).fill bs = v.fill bs
  | .bind _ => rfl
  | .raw f => by simp [Operand.fill]
  | .query body | .self body => by simp [Operand.fill, fillSteps_fillSteps _ _ body]

theorem Origin.fill_fill (as bs : List Bind) : (v : Origin) →
    (v.fill as).fill bs = v.fill bs
  | .table _ => rfl
  | .raw f => by simp [Origin.fill]
  | .query body | .self body => by simp [Origin.fill, fillSteps_fillSteps _ _ body]

theorem Members.fill_fill (as bs : List Bind) : (v : Members) →
    (v.fill as).fill bs = v.fill bs
  | .values vs => by simp [Members.fill, fillOperands_fillOperands _ _ vs]
  | .query body | .self body => by simp [Members.fill, fillSteps_fillSteps _ _ body]

theorem fillOperands_fillOperands (as bs : List Bind) : (vs : List Operand) →
    fillOperands bs (fillOperands as vs) = fillOperands bs vs
  | [] => rfl
  | v :: vs => by
    simp [fillOperands, v.fill_fill, v.scalars_fill, fillOperands_fillOperands _ _ vs]

theorem fillEntries_fillEntries (as bs : List Bind) : (entries : List (String × Operand)) →
    fillEntries bs (fillEntries as entries) = fillEntries bs entries
  | [] => rfl
  | (_, v) :: entries => by
    simp [fillEntries, v.fill_fill, v.scalars_fill, fillEntries_fillEntries _ _ entries]

theorem PayloadTerm.fill_fill (as bs : List Bind) : (p : PayloadTerm) →
    (p.fill as).fill bs = p.fill bs
  | .columns entries => by simp [PayloadTerm.fill, fillEntries_fillEntries _ _ entries]
  | .json value => by
    cases value with
    | object members => simp [PayloadTerm.fill]
    | _ => rfl

theorem fillRows_fillRows (as bs : List Bind) : (ps : List PayloadTerm) →
    fillRows bs (fillRows as ps) = fillRows bs ps
  | [] => rfl
  | p :: ps => by simp [fillRows, p.fill_fill, p.scalars_fill, fillRows_fillRows _ _ ps]

theorem JoinStep.fill_fill (as bs : List Bind) : (step : JoinStep) →
    (step.fill as).fill bs = step.fill bs
  | .on _ first _ second => by simp [JoinStep.fill]
  | .compare _ column _ value => by simp [JoinStep.fill, value.fill_fill]

theorem fillJoinSteps_fillJoinSteps (as bs : List Bind) : (steps : List JoinStep) →
    fillJoinSteps bs (fillJoinSteps as steps) = fillJoinSteps bs steps
  | [] => rfl
  | step :: steps => by
    simp [fillJoinSteps, step.fill_fill, step.scalars_fill, fillJoinSteps_fillJoinSteps _ _ steps]

end

/-! ### Scripts -/

namespace Script

/-- A filled script has the scalars of the list: as many as it had before. -/
theorem scalars_fill (bs : List Bind) (script : Script) :
    (script.fill bs).scalars = bs.takeD script.scalars.length .null :=
  scalars_fillSteps bs script

/-- The scalars that a script had before it was filled do not matter any more. -/
theorem fill_fill (as bs : List Bind) (script : Script) :
    (script.fill as).fill bs = script.fill bs :=
  fillSteps_fillSteps as bs script

/-- Scripts that differ in their scalars only are the same once they are filled. -/
theorem fill_congr {p q : Script} (h : q.blank = p.blank) (bs : List Bind) :
    q.fill bs = p.fill bs := by
  rw [← fill_fill [] bs q, ← fill_fill [] bs p]
  exact congrArg (fill bs) h

/-- Scripts that differ in their scalars only have equally many of them. -/
theorem length_scalars_congr {p q : Script} (h : q.blank = p.blank) :
    q.scalars.length = p.scalars.length := by
  have hq : q.blank.scalars.length = q.scalars.length := by simp [blank, scalars_fill]
  have hp : p.blank.scalars.length = p.scalars.length := by simp [blank, scalars_fill]
  rw [← hq, ← hp, h]

end Script

end SqlBuilder

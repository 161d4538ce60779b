import SqlBuilder.Proofs.Invariant

namespace SqlBuilder

/-!
# Calls with their arguments

A call on a statement whose arguments are there already: values, payloads and sub-queries have been
built, and the bodies of groups, joins and sub-queries are functions.

* `Edit`, `Edit.run`, `runEdits` — such a call, and its effect on a statement;
* `Step.edit?`, `Step.run_eq_of_edit?` — a step of a script evaluates its arguments and then makes
  a call;
* `made_of_build` — so calls lead to every statement that a script builds;
* `Edit.test?`, `Edit.connector?`, `Edit.exists_test` — the filter that a call adds a test to, the
  word in front of it, and that the test does not depend on the statement;
* `Edit.kind?`, `Edit.kind_run` — the kind that a call is for, and the kind of a statement after it;
* `Edit.run_of_kind?_ne` — a call for another kind than the one that is settled does nothing.
-/

/-- A call on a statement, with its arguments. -/
inductive Edit where
  | fromSource (source : Source)
  | withDialect (d : Dialect)
  | select (columns : List Column)
  | aggregate (a : Aggregate)
  | groupBy (columns : List Column)
  | orderBy (column : Column) (direction : String)
  | limit (value : Value)
  | offset (value : Value)
  | insert (rows : List Payload)
  | update (payload : Payload)
  | delete
  | skipConflicts
  | returning (columns : List String)
  | compare (f : Filter) (c : Connector) (column : Column) (operator : String) (value : Value)
  | compareRaw (f : Filter) (c : Connector) (fragment : Fragment)
  /-- The body is given the statement on which the conditions of a group are built. -/
  | group (f : Filter) (c : Connector) (body : Statement → Except Error Statement)
  | among (c : Connector) (column : Column) (values : List Value) (negated : Bool)
  | amongQuery (c : Connector) (column : Column) (query : Statement) (negated : Bool)
  /-- The body is given an empty statement. -/
  | amongWith (c : Connector) (column : Column) (body : Statement → Except Error Statement)
      (negated : Bool)
  | between (c : Connector) (column : Column) (low high : Value) (negated : Bool)
  | isNull (c : Connector) (column : Column) (negated : Bool)
  | join (kind : JoinKind) (table : Column) (first operator second : String)
  /-- The body is given the join without tests. -/
  | joinWith (kind : JoinKind) (table : Column) (body : JoinDraft → Except Error JoinDraft)

namespace Edit

/-- The effect of a call on a statement. -/
def run : Edit → Statement → Except Error Statement
  | .fromSource source, s => .ok (s.fromSource source)
  | .withDialect d, s => .ok (s.withDialect d)
  | .select columns, s => .ok (s.select columns)
  | .aggregate a, s => .ok (s.aggregate a)
  | .groupBy columns, s => .ok (s.groupBy columns)
  | .orderBy column direction, s => (s.orderBy column direction).mapError .misuse
  | .limit value, s => .ok (s.limitTo value)
  | .offset value, s => .ok (s.offsetBy value)
  | .insert rows, s => (s.insert rows).mapError .misuse
  | .update payload, s => .ok (s.update payload)
  | .delete, s => .ok s.delete
  | .skipConflicts, s => .ok s.skippingConflicts
  | .returning columns, s => .ok (s.returningColumns columns)
  | .compare f c column operator value, s =>
    (s.compare f c column operator value).mapError .misuse
  | .compareRaw f c fragment, s => .ok (s.compareRaw f c fragment)
  | .group f c body, s => s.group f c body
  | .among c column values negated, s => .ok (s.among c column values negated)
  | .amongQuery c column query negated, s => .ok (s.amongQuery c column query negated)
  | .amongWith c column body negated, s => do
    return s.amongQuery c column (← body .new) negated
  | .between c column low high negated, s => .ok (s.between c column low high negated)
  | .isNull c column negated, s => .ok (s.isNull c column negated)
  | .join kind table first operator second, s =>
    (s.join kind table first operator second).mapError .misuse
  | .joinWith kind table body, s => do return s.addJoin (← body (.start kind table))

end Edit

/-- The effect of calls that are made one after another. -/
def runEdits : List Edit → Statement → Except Error Statement
  | [], s => .ok s
  | e :: es, s => do runEdits es (← e.run s)

/-- Calls after others start where those have ended. -/
theorem runEdits_append (es fs : List Edit) (s : Statement) :
    runEdits (es ++ fs) s = runEdits es s >>= runEdits fs := by
  induction es generalizing s with
  | nil => rfl
  | cons e es ih =>
    rw [List.cons_append, runEdits, runEdits]
    cases e.run s with
    | error _ => rfl
    | ok t => exact ih t

/-! ### The calls of a script -/

/-- The call that a step makes on a statement, as soon as its arguments are evaluated there. Steps
    that start again or repeat other steps are no calls. -/
def Step.edit? : Step → Option (Statement → Except Error Edit)
  | .new | .table _ | .times _ _ => none
  | .fromSource source => some fun s => do return .fromSource (← source.eval s)
  | .withDialect d => some fun _ => .ok (.withDialect d)
  | .select columns => some fun _ => .ok (.select columns)
  | .aggregate a => some fun _ => .ok (.aggregate a)
  | .groupBy columns => some fun _ => .ok (.groupBy columns)
  | .orderBy column direction => some fun _ => .ok (.orderBy column direction)
  | .limit value => some fun s => do return .limit (← value.eval s)
  | .offset value => some fun s => do return .offset (← value.eval s)
  | .insert rows => some fun s => do return .insert (← evalRows rows s)
  | .update payload => some fun s => do return .update (← payload.eval s)
  | .delete => some fun _ => .ok .delete
  | .skipConflicts => some fun _ => .ok .skipConflicts
  | .returning columns => some fun _ => .ok (.returning columns)
  | .compare f c column operator value => some fun s => do
    return .compare f c column operator (← value.eval s)
  | .compareRaw f c fragment => some fun _ => .ok (.compareRaw f c fragment)
  | .group f c body => some fun _ => .ok (.group f c (runAll body))
  | .among c column (.values vs) negated => some fun s => do
    return .among c column (← evalValues vs s) negated
  | .among c column (.query body) negated => some fun _ =>
    .ok (.amongWith c column (runAll body) negated)
  | .among c column (.self body) negated => some fun s => do
    return .amongQuery c column (← runAll body s) negated
  | .between c column low high negated => some fun s => do
    return .between c column (← low.eval s) (← high.eval s) negated
  | .isNull c column negated => some fun _ => .ok (.isNull c column negated)
  | .join kind joined first operator second => some fun _ =>
    .ok (.join kind joined first operator second)
  | .joinWith kind joined body => some fun s => .ok (.joinWith kind joined (runJoin body s))

/-- A step evaluates its arguments, and then its call is made. -/
theorem Step.run_eq_of_edit? {step : Step} {arguments : Statement → Except Error Edit}
    (h : step.edit? = some arguments) (s : Statement) :
    step.run s = arguments s >>= (·.run s) := by
  cases step with
  | new => cases h
  | table source => cases h
  | times n body => cases h
  | among c column members negated =>
    cases members with
    | values vs => cases h; simp only [Step.run, bind_assoc, pure_bind]; rfl
    | query body => cases h; rw [Step.run]; rfl
    | self body => cases h; simp only [Step.run, bind_assoc, pure_bind]; rfl
  -- Here an argument is evaluated first.
  | fromSource _ | limit _ | offset _ | insert _ | update _ | compare _ _ _ _ _
  | between _ _ _ _ _ =>
    cases h
    simp only [Step.run, bind_assoc, pure_bind]
    rfl
  | _ =>
    cases h
    simp only [Step.run, bind, Except.bind, Edit.run]

/-- Calls lead from a new statement to this one. -/
def Statement.Made (s : Statement) : Prop := ∃ es, runEdits es .new = .ok s

/-- One more call leads on from there. -/
theorem Statement.Made.run {e : Edit} {s t : Statement} (hs : s.Made) (ht : e.run s = .ok t) :
    t.Made := by
  obtain ⟨es, hes⟩ := hs
  refine ⟨es ++ [e], ?_⟩
  rw [runEdits_append, hes]
  show runEdits [e] s = .ok t
  rw [runEdits, ht]
  rfl

mutual

theorem Step.made {s t : Statement} (hs : s.Made) (step : Step) (ht : step.run s = .ok t) :
    t.Made := by
  have hcall : ∀ arguments, step.edit? = some arguments → t.Made := by
    intro arguments h
    rw [step.run_eq_of_edit? h] at ht
    obtain ⟨e, _, ht⟩ := bind_eq_ok ht
    exact hs.run ht
  cases step with
  | new =>
    rw [Step.run] at ht
    cases ht
    exact ⟨[], rfl⟩
  | table source =>
    -- What the statement was before is forgotten.
    rw [Step.run] at ht
    obtain ⟨v, _, ht⟩ := bind_eq_ok ht
    cases ht
    exact ⟨[.fromSource v], rfl⟩
  | times n body =>
    rw [Step.run] at ht
    exact iterate_keeps (fun hs hb => made_runAll hs body hb) hs ht
  | among c column members negated => cases members <;> exact hcall _ rfl
  | _ => exact hcall _ rfl

theorem made_runAll {s t : Statement} (hs : s.Made) :
    (steps : List Step) → runAll steps s = .ok t → t.Made
  | [], ht => by
    cases ht
    exact hs
  | step :: steps, ht => by
    rw [runAll] at ht
    obtain ⟨u, hu, ht⟩ := bind_eq_ok ht
    exact made_runAll (step.made hs hu) steps ht

end

/-- Every statement that a script builds is made by calls. -/
theorem made_of_build {script : Script} {s : Statement} (h : script.build = .ok s) : s.Made :=
  made_runAll ⟨[], rfl⟩ script h

/-! ### What a call does -/

namespace Edit

/-- The filter that a call adds a single test to. -/
def test? : Edit → Option Filter
  | .compare f .. | .compareRaw f .. => some f
  | .among .. | .amongQuery .. | .amongWith .. | .between .. | .isNull .. => some .wheres
  | _ => none

/-- The connector that a call gives to the condition it adds. -/
def connector? : Edit → Option Connector
  | .compare _ c .. | .compareRaw _ c _ | .group _ c _ => some c
  | .among c .. | .amongQuery c .. | .amongWith c .. | .between c .. | .isNull c .. => some c
  | _ => none

/-- A call that adds a single test adds the same one to every statement, or fails on all. -/
theorem exists_test {e : Edit} {f : Filter} (h : e.test? = some f) :
    ∃ c, e.connector? = some c ∧ ∃ r : Except Error (Predicate × List Bind),
      ∀ s, e.run s = r.map fun a => s.addCondition f c a.1 a.2 := by
  cases e <;> cases h
  case compare c column operator value =>
    refine ⟨c, rfl, ((Operator.check operator).mapError .misuse).map fun o =>
      (.compare column o value, column.binds ++ value.binds), fun s => ?_⟩
    rw [run, Statement.compare]
    cases Operator.check operator <;> rfl
  case compareRaw c fragment => exact ⟨c, rfl, .ok (.raw fragment, fragment.binds), fun s => rfl⟩
  case among c column values negated =>
    by_cases hvs : values.isEmpty = true
    · -- Without a value the test is a constant, and the column is left out.
      refine ⟨c, rfl, .ok (.constant negated, []), fun s => ?_⟩
      rw [run, Statement.among, if_pos hvs]
      rfl
    · refine ⟨c, rfl, .ok (.among column values negated,
        column.binds ++ values.flatMap Value.binds), fun s => ?_⟩
      rw [run, Statement.among, if_neg hvs]
      rfl
  case amongQuery c column query negated =>
    exact ⟨c, rfl, .ok (.amongQuery column query negated, column.binds ++ query.data), fun s => rfl⟩
  case amongWith c column body negated =>
    refine ⟨c, rfl, (body .new).map fun q =>
      (.amongQuery column q negated, column.binds ++ q.data), fun s => ?_⟩
    rw [run]
    cases body .new <;> rfl
  case between c column low high negated =>
    exact ⟨c, rfl, .ok (.between column low high negated,
      column.binds ++ low.binds ++ high.binds), fun s => rfl⟩
  case isNull c column negated =>
    exact ⟨c, rfl, .ok (.isNull column negated, column.binds), fun s => rfl⟩

/-- The call adds a join. -/
def joins : Edit → Bool
  | .join .. | .joinWith .. => true
  | _ => false

/-- A call that adds a join adds the same one to every statement, or fails on all. -/
theorem exists_join {e : Edit} (h : e.joins = true) :
    ∃ r : Except Error JoinDraft, ∀ s, e.run s = r.map s.addJoin := by
  cases e <;> cases h
  case join kind table first operator second =>
    refine ⟨((JoinDraft.start kind table).on .and (.name first) operator
      (.name second)).mapError .misuse, fun s => ?_⟩
    rw [run, Statement.join]
    cases (JoinDraft.start kind table).on .and (.name first) operator (.name second) <;> rfl
  case joinWith kind table body =>
    refine ⟨body (.start kind table), fun s => ?_⟩
    rw [run]
    cases body (.start kind table) <;> rfl

/-- The result of a call that was mapped is that of the call, mapped. -/
theorem map_eq_ok {ε α β : Type} {x : Except ε α} {f : α → β} {b : β} (h : x.map f = .ok b) :
    ∃ a, x = .ok a ∧ f a = b := by
  cases x with
  | error e => cases h
  | ok a => exact ⟨a, rfl, Except.ok.inj h⟩

variable {e : Edit} {s t : Statement}

/-- A call that adds a single test adds a condition with the word of the call. -/
theorem eq_addCondition {f : Filter} (he : e.test? = some f) (ht : e.run s = .ok t) :
    ∃ c p bs, e.connector? = some c ∧ t = s.addCondition f c p bs := by
  obtain ⟨c, hc, r, hr⟩ := exists_test he
  obtain ⟨⟨p, bs⟩, _, rfl⟩ := map_eq_ok ((hr s).symm.trans ht)
  exact ⟨c, p, bs, hc, rfl⟩

theorem eq_addJoin (he : e.joins = true) (ht : e.run s = .ok t) : ∃ j, t = s.addJoin j := by
  obtain ⟨r, hr⟩ := exists_join he
  obtain ⟨j, _, rfl⟩ := map_eq_ok ((hr s).symm.trans ht)
  exact ⟨j, rfl⟩

end Edit

/-! ### Kinds -/

namespace Statement

@[simp] theorem kind_addCondition (s : Statement) (f : Filter) (c : Connector) (p : Predicate)
    (bs : List Bind) : (s.addCondition f c p bs).kind = s.kind := by
  cases f <;> rfl

@[simp] theorem kind_addGroup (s : Statement) (f : Filter) (c : Connector) (inner : Statement) :
    (s.addGroup f c inner).kind = s.kind := by
  rw [addGroup]
  split <;> simp

/-- Rows that are added change the rows, their columns and their place in the ledger. -/
theorem addRows_eq_ok {s t : Statement} {rows : List Payload} (h : rows.foldlM addRow s = .ok t) :
    ∃ columns values binds,
      t = { s with
        rowColumns := columns
        rows := values
        ledger := { s.ledger with rows := binds } } := by
  induction rows generalizing s with
  | nil => cases h; cases t; exact ⟨_, _, _, rfl⟩
  | cons row rows ih =>
    rw [List.foldlM_cons] at h
    obtain ⟨u, hu, h⟩ := bind_eq_ok h
    obtain ⟨_, rfl⟩ := addRow_eq_ok hu
    obtain ⟨columns, values, binds, rfl⟩ := ih h
    exact ⟨columns, values, binds, rfl⟩

/-- A statement admits the kind that it has, and every kind as long as it has none. -/
theorem admits_iff (s : Statement) (k : Kind) :
    s.admits k = true ↔ ∀ l, s.kind = some l → l = k := by
  rw [admits, Option.all_eq_true]
  simp only [beq_iff_eq]

/-- A call that is admitted settles its kind; one that is not meets a kind that is settled. -/
theorem kind_ite_admits {s t : Statement} {k : Kind} (ht : t.kind = some k) :
    (if s.admits k = true then t else s).kind = s.kind.or (some k) := by
  split
  · rename_i h
    rw [admits_iff] at h
    cases hs : s.kind with
    | none => exact ht
    | some l => rw [ht, ← h l hs, Option.some_or]
  · rename_i h
    cases hs : s.kind with
    | none => simp [admits, hs] at h
    | some l => rfl

end Statement

namespace Edit

/-- The kind of statement that a call is for. -/
def kind? : Edit → Option Kind
  | .select _ | .aggregate _ => some .select
  | .insert _ => some .insert
  | .update _ => some .update
  | .delete => some .delete
  | _ => none

/-- A call for a kind that the statement does not admit does nothing, whatever its arguments. -/
theorem run_of_not_admits {e : Edit} {s : Statement} {l : Kind} (he : e.kind? = some l)
    (h : s.admits l = false) : e.run s = .ok s := by
  cases e <;> cases he
  case select cs => simp [run, Statement.select, h]
  case aggregate a => simp [run, Statement.aggregate, h]
  case update payload => simp [run, Statement.update, h]
  case delete => simp [run, Statement.delete, h]
  case insert rows =>
    have hrows : s.insert rows = .ok s := by simp [Statement.insert, h]
    rw [run, hrows]
    rfl

/-- So does a call for another kind than that of the statement. -/
theorem run_of_kind?_ne {e : Edit} {s : Statement} {k l : Kind} (hs : s.kind = some k)
    (he : e.kind? = some l) (h : l ≠ k) : e.run s = .ok s :=
  run_of_not_admits he (by simp [Statement.admits, hs, Ne.symm h])

theorem kind_of_test {e : Edit} {f : Filter} {s t : Statement} (h : e.run s = .ok t)
    (he : e.test? = some f) : t.kind = s.kind := by
  obtain ⟨c, p, bs, _, rfl⟩ := eq_addCondition he h
  exact s.kind_addCondition f c p bs

theorem kind_of_joins {e : Edit} {s t : Statement} (h : e.run s = .ok t) (he : e.joins = true) :
    t.kind = s.kind := by
  obtain ⟨j, rfl⟩ := eq_addJoin he h
  rfl

/-- A call leaves the kind of a statement as it is; where there is none yet, the call may settle
    it. -/
theorem kind_run {e : Edit} {s t : Statement} (h : e.run s = .ok t) :
    t.kind = s.kind.or e.kind? := by
  cases e with
  | select columns => cases h; exact Statement.kind_ite_admits rfl
  | aggregate a => cases h; exact Statement.kind_ite_admits rfl
  | update payload => cases h; exact Statement.kind_ite_admits rfl
  | delete => cases h; exact Statement.kind_ite_admits rfl
  | insert rows =>
    rw [run] at h
    have hrows := mapError_eq_ok h
    rw [Statement.insert] at hrows
    have hkind := Statement.kind_ite_admits (s := s) (t := { s with kind := some .insert }) rfl
    split at hrows
    · rename_i ha
      rw [if_pos ha] at hkind
      obtain ⟨_, _, _, rfl⟩ := Statement.addRows_eq_ok hrows
      exact hkind
    · rename_i ha
      cases hrows
      rwa [if_neg ha] at hkind
  | compare _ _ _ _ _ | compareRaw _ _ _ | among _ _ _ _ | amongQuery _ _ _ _
  | amongWith _ _ _ _ | between _ _ _ _ _ | isNull _ _ _ =>
    exact (kind_of_test h rfl).trans Option.or_none.symm
  | group f c body =>
    rw [run, Statement.group] at h
    obtain ⟨inner, _, h⟩ := bind_eq_ok h
    cases h
    exact (s.kind_addGroup f c inner).trans Option.or_none.symm
  | join _ _ _ _ _ | joinWith _ _ _ =>
    exact (kind_of_joins h rfl).trans Option.or_none.symm
  | orderBy column direction =>
    rw [run] at h
    obtain ⟨_, _, rfl⟩ := Statement.orderBy_eq_ok (mapError_eq_ok h)
    exact Option.or_none.symm
  | _ =>
    cases h
    exact Option.or_none.symm

/-- The kind that a statement has after some calls is the one it had, or else that of the first call
    that is for a kind. -/
theorem kind_runEdits {es : List Edit} {s t : Statement} (h : runEdits es s = .ok t) :
    t.kind = s.kind.or (es.findSome? kind?) := by
  induction es generalizing s with
  | nil => cases h; exact Option.or_none.symm
  | cons e es ih =>
    obtain ⟨u, hu, h⟩ := bind_eq_ok h
    rw [ih h, kind_run hu, Option.or_assoc, List.findSome?_cons]
    cases e.kind? <;> rfl

end Edit

end SqlBuilder

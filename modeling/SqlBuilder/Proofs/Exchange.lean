import Mathlib.Data.List.Forall2
import SqlBuilder.Proofs.Clauses
import SqlBuilder.Proofs.Edits

namespace SqlBuilder

open Token (after enclosed listed spaced clauses listedAfter)

/-!
# Sub-queries that are exchanged

All that a statement takes over from a sub-query is its tokens, its values and its label.  If a
program is run twice, with two sub-queries that have these in common, both runs fail with the same
error or both end with statements that have them in common again.

* `Both` — two runs that fail alike or end with related results;
* `Edit.Exchanged` — a call with other sub-queries among its arguments;
* `Statement.Alike` — statements with the same tokens, values and label;
* `Statement.Twins` — statements that have all in common that is not inside a sub-query;
* `Twins.tokens_eq` — so the tokens are the same;
* `both_runEdits` — calls with sub-queries that are alike lead to twins;
* `Statement.Around` — statements built by the same program around two others;
* `Statement.Interchangeable`, `Alike.interchangeable` — no program around them can tell statements
  apart that are alike.
-/

/-! ### Runs -/

/-- Two runs that fail with the same error, or end with related results. -/
inductive Both {ε α : Type} (R : α → α → Prop) : Except ε α → Except ε α → Prop
  | error (m : ε) : Both R (.error m) (.error m)
  | ok {a b : α} : R a b → Both R (.ok a) (.ok b)

namespace Both

variable {ε δ α β : Type} {R : α → α → Prop} {S : β → β → Prop} {x y : Except ε α}

theorem bind {f g : α → Except ε β} (h : Both R x y) (hfg : ∀ a b, R a b → Both S (f a) (g b)) :
    Both S (x >>= f) (y >>= g) := by
  cases h with
  | error m => exact .error m
  | ok hab => exact hfg _ _ hab

theorem mapError (h : Both R x y) (f : ε → δ) : Both R (x.mapError f) (y.mapError f) := by
  cases h with
  | error m => exact .error _
  | ok hab => exact .ok hab

theorem imp {R' : α → α → Prop} (h : Both R x y) (hR : ∀ a b, R a b → R' a b) : Both R' x y := by
  cases h with
  | error m => exact .error m
  | ok hab => exact .ok (hR _ _ hab)

/-- The same is evaluated first, and then something that does not fail. -/
theorem map (r : Except ε α) {f g : α → β} (h : ∀ a, S (f a) (g a)) :
    Both S (r.map f) (r.map g) := by
  cases r with
  | error m => exact .error m
  | ok a => exact .ok (h a)

end Both

/-! ### Calls with other sub-queries -/

section

variable (Q B : Statement → Statement → Prop)

/-- The same value, or two sub-queries that are related. -/
inductive Value.Exchanged : Value → Value → Prop
  | same (v : Value) : Exchanged v v
  | query {q q' : Statement} : Q q q' → Exchanged (.query q) (.query q')

/-- The same source, or two sub-queries that are related. -/
inductive Source.Exchanged : Source → Source → Prop
  | same (v : Source) : Exchanged v v
  | query {q q' : Statement} : Q q q' → Exchanged (.query q) (.query q')

/-- The same columns, each with a value that may be exchanged. -/
def Payload.Exchanged (p p' : Payload) : Prop :=
  List.Forall₂ (fun a a' => a.column = a'.column ∧ a.value.Exchanged Q a'.value)
    p.assignments p'.assignments

/-- Joins built by the same calls, with values that may be exchanged. -/
inductive JoinDraft.Exchanged : JoinDraft → JoinDraft → Prop
  | same (j : JoinDraft) : Exchanged j j
  | on {j j' k k' : JoinDraft} {c : Connector} {first second : Column} {operator : String} :
      Exchanged j j' → j.on c first operator second = .ok k →
      j'.on c first operator second = .ok k' → Exchanged k k'
  | compare {j j' k k' : JoinDraft} {c : Connector} {column : Column} {operator : String}
      {v v' : Value} : Exchanged j j' → v.Exchanged Q v' → j.compare c column operator v = .ok k →
      j'.compare c column operator v' = .ok k' → Exchanged k k'

/-- The same call, with sub-queries that are related by `Q`.  The bodies of groups end with
    statements that are related by `B`. -/
inductive Edit.Exchanged : Edit → Edit → Prop
  | same (e : Edit) : Exchanged e e
  | fromSource {v v' : Source} : v.Exchanged Q v' → Exchanged (.fromSource v) (.fromSource v')
  | limit {v v' : Value} : v.Exchanged Q v' → Exchanged (.limit v) (.limit v')
  | offset {v v' : Value} : v.Exchanged Q v' → Exchanged (.offset v) (.offset v')
  | insert {rows rows' : List Payload} : List.Forall₂ (Payload.Exchanged Q) rows rows' →
      Exchanged (.insert rows) (.insert rows')
  | update {p p' : Payload} : p.Exchanged Q p' → Exchanged (.update p) (.update p')
  | compare {f : Filter} {c : Connector} {column : Column} {operator : String} {v v' : Value} :
      v.Exchanged Q v' →
      Exchanged (.compare f c column operator v) (.compare f c column operator v')
  | group {f : Filter} {c : Connector} {body body' : Statement → Except Error Statement} :
      (∀ table, Both B (body { table }) (body' { table })) →
      Exchanged (.group f c body) (.group f c body')
  | among {c : Connector} {column : Column} {vs vs' : List Value} {negated : Bool} :
      List.Forall₂ (Value.Exchanged Q) vs vs' →
      Exchanged (.among c column vs negated) (.among c column vs' negated)
  | amongQuery {c : Connector} {column : Column} {q q' : Statement} {negated : Bool} : Q q q' →
      Exchanged (.amongQuery c column q negated) (.amongQuery c column q' negated)
  | amongWith {c : Connector} {column : Column} {body body' : Statement → Except Error Statement}
      {negated : Bool} : Both Q (body .new) (body' .new) →
      Exchanged (.amongWith c column body negated) (.amongWith c column body' negated)
  | between {c : Connector} {column : Column} {low low' high high' : Value} {negated : Bool} :
      low.Exchanged Q low' → high.Exchanged Q high' →
      Exchanged (.between c column low high negated) (.between c column low' high' negated)
  | joinWith {kind : JoinKind} {table : Column}
      {body body' : JoinDraft → Except Error JoinDraft} :
      Both (JoinDraft.Exchanged Q) (body (.start kind table)) (body' (.start kind table)) →
      Exchanged (.joinWith kind table body) (.joinWith kind table body')

end

/-! ### What is seen of a sub-query -/

/-- Two statements with the same tokens, values and label. -/
structure Statement.Alike (q q' : Statement) : Prop where
  tokens : q.tokens = q'.tokens
  data : q.data = q'.data
  label : q.label? = q'.label?

/-- Two values with the same tokens and values. -/
structure Value.Alike (v v' : Value) : Prop where
  tokens : v.tokens = v'.tokens
  binds : v.binds = v'.binds

/-- Two payloads with the same columns and with values that are alike. -/
def Payload.Alike (p p' : Payload) : Prop :=
  List.Forall₂ (fun a a' => a.column = a'.column ∧ a.value.Alike a'.value)
    p.assignments p'.assignments

/-- Two joins with the same tokens, also after more tests. -/
structure JoinDraft.Alike (j j' : JoinDraft) : Prop where
  kind : j.join.kind = j'.join.kind
  table : j.join.table = j'.join.table
  conditions : j.join.conditions.map JoinCondition.tokens =
    j'.join.conditions.map JoinCondition.tokens
  binds : j.binds = j'.binds

/-- Two statements that have all in common that is not inside a sub-query, and the tokens and values
    of their sub-queries. -/
structure Statement.Twins (s t : Statement) : Prop where
  kind : s.kind = t.kind
  table : s.table = t.table
  columns : s.columns = t.columns
  aggregates : s.aggregates = t.aggregates
  source : fromTokens s.source = fromTokens t.source
  target : targetTokens s.table s.source = targetTokens t.table t.source
  joins : s.joins.map Join.tokens = t.joins.map Join.tokens
  conditions : ∀ f, (s.conditions f).map Condition.tokens = (t.conditions f).map Condition.tokens
  groups : s.groups = t.groups
  orders : s.orders = t.orders
  limit : boundTokens .LIMIT s.limit = boundTokens .LIMIT t.limit
  offset : boundTokens .OFFSET s.offset = boundTokens .OFFSET t.offset
  assignments : s.assignments.map Assignment.tokens = t.assignments.map Assignment.tokens
  rowColumns : s.rowColumns = t.rowColumns
  rows : s.rows.map (·.map Value.tokens) = t.rows.map (·.map Value.tokens)
  skipConflicts : s.skipConflicts = t.skipConflicts
  returning : s.returning = t.returning
  ledger : s.ledger = t.ledger

/-- Items that are related, read off in the same way. -/
theorem map_eq_of_forall₂ {α β : Type} {R : α → α → Prop} {xs ys : List α} {f : α → β}
    (h : List.Forall₂ R xs ys) (hf : ∀ x y, R x y → f x = f y) : xs.map f = ys.map f := by
  induction h with
  | nil => rfl
  | cons hxy _ ih => rw [List.map_cons, List.map_cons, hf _ _ hxy, ih]

/-- Lists with the same tokens are both empty or both not. -/
theorem isEmpty_eq_of_map_eq {α β : Type} {xs ys : List α} {f : α → β} (h : xs.map f = ys.map f) :
    xs.isEmpty = ys.isEmpty := by
  simpa using congrArg List.isEmpty h

theorem Value.Alike.refl (v : Value) : v.Alike v := ⟨rfl, rfl⟩

theorem Value.Exchanged.alike {Q : Statement → Statement → Prop} {v v' : Value}
    (h : v.Exchanged Q v') (hQ : ∀ q q', Q q q' → q.Alike q') : v.Alike v' := by
  cases h with
  | same v => exact .refl v
  | query hq =>
    have hqq := hQ _ _ hq
    exact ⟨congrArg enclosed hqq.tokens, hqq.data⟩

theorem forall₂_alike {Q : Statement → Statement → Prop} {vs vs' : List Value}
    (h : List.Forall₂ (Value.Exchanged Q) vs vs') (hQ : ∀ q q', Q q q' → q.Alike q') :
    vs.map Value.tokens = vs'.map Value.tokens ∧
      vs.flatMap Value.binds = vs'.flatMap Value.binds := by
  have halike := h.imp fun v v' hv => hv.alike hQ
  refine ⟨map_eq_of_forall₂ halike fun v v' => Value.Alike.tokens, ?_⟩
  rw [List.flatMap_def, List.flatMap_def,
    map_eq_of_forall₂ halike fun v v' => Value.Alike.binds]

namespace Payload

variable {p p' : Payload}

theorem Alike.refl (p : Payload) : p.Alike p := List.forall₂_same.2 fun _ _ => ⟨rfl, .refl _⟩

theorem Exchanged.alike {Q : Statement → Statement → Prop} (h : p.Exchanged Q p')
    (hQ : ∀ q q', Q q q' → q.Alike q') : p.Alike p' :=
  List.Forall₂.imp (fun _ _ ha => ⟨ha.1, ha.2.alike hQ⟩) h

theorem Alike.columns (h : p.Alike p') : p.columns = p'.columns :=
  map_eq_of_forall₂ h fun _ _ ha => ha.1

theorem Alike.values (h : p.Alike p') : p.values.map Value.tokens = p'.values.map Value.tokens := by
  rw [Payload.values, Payload.values, List.map_map, List.map_map]
  exact map_eq_of_forall₂ h fun _ _ ha => ha.2.tokens

theorem Alike.assignments (h : p.Alike p') :
    p.assignments.map Assignment.tokens = p'.assignments.map Assignment.tokens := by
  refine map_eq_of_forall₂ h fun a a' ha => ?_
  obtain ⟨column, value⟩ := a
  obtain ⟨column', value'⟩ := a'
  obtain ⟨rfl, hvalue⟩ := ha
  rw [Assignment.tokens, Assignment.tokens, hvalue.tokens]

theorem Alike.binds (h : p.Alike p') : p.binds = p'.binds := by
  have hbinds : p.values.map Value.binds = p'.values.map Value.binds := by
    rw [Payload.values, Payload.values, List.map_map, List.map_map]
    exact map_eq_of_forall₂ h fun _ _ ha => ha.2.binds
  rw [Payload.binds, Payload.binds, List.flatMap_def, List.flatMap_def, hbinds]

end Payload

/-! ### Joins -/

namespace JoinDraft

variable {j j' : JoinDraft}

theorem Alike.refl (j : JoinDraft) : j.Alike j := ⟨rfl, rfl, rfl, rfl⟩

/-- A test with the same tokens and values keeps joins alike. -/
theorem Alike.addTest (h : j.Alike j') (c : Connector) {test test' : JoinTest} (bs : List Bind)
    (htest : test.tokens = test'.tokens) : (j.addTest c test bs).Alike (j'.addTest c test' bs) where
  kind := h.kind
  table := h.table
  conditions := by
    have hitem : ∀ k, JoinCondition.tokens ⟨k, test⟩ = JoinCondition.tokens ⟨k, test'⟩ := by
      intro k
      cases k <;> simp [JoinCondition.tokens, htest]
    simp only [JoinDraft.addTest, List.map_append, h.conditions, List.map_cons, List.map_nil,
      isEmpty_eq_of_map_eq h.conditions, hitem]
  binds := congrArg (· ++ bs) h.binds

theorem Exchanged.alike {Q : Statement → Statement → Prop} (h : j.Exchanged Q j')
    (hQ : ∀ q q', Q q q' → q.Alike q') : j.Alike j' := by
  induction h with
  | same j => exact .refl j
  | on _ hk hk' ih =>
    obtain ⟨o, ho, hk⟩ := bind_eq_ok hk
    obtain ⟨o', ho', hk'⟩ := bind_eq_ok hk'
    cases ho.symm.trans ho'
    cases hk
    cases hk'
    exact ih.addTest _ _ rfl
  | compare _ hv hk hk' ih =>
    obtain ⟨o, ho, hk⟩ := bind_eq_ok hk
    obtain ⟨o', ho', hk'⟩ := bind_eq_ok hk'
    cases ho.symm.trans ho'
    cases hk
    cases hk'
    have hvalue := hv.alike hQ
    rw [hvalue.binds]
    exact ih.addTest _ _ (by rw [JoinTest.tokens, JoinTest.tokens, hvalue.tokens])

theorem Alike.tokens (h : j.Alike j') : j.join.tokens = j'.join.tokens := by
  obtain ⟨⟨kind, table, cs⟩, bs⟩ := j
  obtain ⟨⟨kind', table', cs'⟩, bs'⟩ := j'
  obtain ⟨hkind, htable, hconditions, _⟩ := h
  cases hkind
  cases htable
  simp only [Join.tokens, joinConditionItems_eq_map]
  rw [hconditions, isEmpty_eq_of_map_eq hconditions]

end JoinDraft

/-! ### Twins -/

/-- Two tests with the same tokens that are no fragments have the same tokens behind a connector. -/
theorem Predicate.tokens_condition_congr {p p' : Predicate} (hp : ∀ f, p ≠ .raw f)
    (hp' : ∀ f, p' ≠ .raw f) (h : p.tokens = p'.tokens) (k : Option Connector) :
    Condition.tokens ⟨k, p⟩ = Condition.tokens ⟨k, p'⟩ := by
  have hafter : ∀ {q : Predicate} {c : Connector}, (∀ f, q ≠ .raw f) →
      Condition.tokens ⟨some c, q⟩ = after c.word q.tokens := by
    intro q c hq
    cases q with
    | raw f => exact absurd rfl (hq f)
    | _ => rfl
  cases k with
  | none => exact h
  | some c => rw [hafter hp, hafter hp', h]

namespace Statement

variable {s t : Statement}

theorem Twins.refl (s : Statement) : s.Twins s := by
  constructor <;> intros <;> rfl

/-- What twins have in common is all that goes into their tokens. -/
theorem Twins.tokens_eq (h : s.Twins t) : s.tokens = t.tokens := by
  have hfilter : ∀ w f, filterTokens w (s.conditions f) = filterTokens w (t.conditions f) := by
    intro w f
    rw [filterTokens, filterTokens, h.conditions, isEmpty_eq_of_map_eq (h.conditions f)]
  have hselect : selectTokens s = selectTokens t := by
    rw [selectTokens, selectTokens, h.columns, h.aggregates]
  have hrowColumns : rowColumnTokens s = rowColumnTokens t := by
    rw [rowColumnTokens, rowColumnTokens, h.rowColumns]
  have hrows : s.rows.map rowTokens = t.rows.map rowTokens := by
    have hmap := congrArg (List.map fun items => enclosed (listed items)) h.rows
    rwa [List.map_map, List.map_map] at hmap
  have hvalues : valuesTokens s = valuesTokens t := by
    rw [valuesTokens, valuesTokens, h.rowColumns, hrows]
  have hwheres : filterTokens .WHERE s.wheres = filterTokens .WHERE t.wheres :=
    hfilter .WHERE .wheres
  have hhavings : filterTokens .HAVING s.havings = filterTokens .HAVING t.havings :=
    hfilter .HAVING .havings
  have htokens : s.kind = none ∨ s.kind = some .select → s.tokens = t.tokens := by
    intro hs
    rw [tokens_select hs, tokens_select (h.kind ▸ hs), hselect, h.source, h.joins, hwheres, h.groups,
      hhavings, h.orders, h.limit, h.offset]
  cases hkind : s.kind with
  | none => exact htokens (.inl hkind)
  | some k =>
    cases k with
    | select => exact htokens (.inr hkind)
    | insert =>
      rw [tokens_insert hkind, tokens_insert (h.kind ▸ hkind), h.target, hrowColumns, hvalues,
        h.skipConflicts, h.returning]
    | update =>
      rw [tokens_update hkind, tokens_update (h.kind ▸ hkind), h.target, h.assignments, hwheres]
    | delete =>
      rw [tokens_delete hkind, tokens_delete (h.kind ▸ hkind), h.source, hwheres]

theorem Twins.data_eq (h : s.Twins t) : s.data = t.data := by
  rw [data, data, h.kind, h.ledger]

theorem Twins.alike (h : s.Twins t) : s.Alike t :=
  ⟨h.tokens_eq, h.data_eq, by rw [label?, label?, h.table]⟩

/-- Twins admit the same kinds. -/
theorem Twins.admits (h : s.Twins t) (k : Kind) : s.admits k = t.admits k := by
  rw [Statement.admits, Statement.admits, h.kind]

/-! ### Calls on twins -/

theorem Twins.fromSource {Q : Statement → Statement → Prop} (h : s.Twins t) {v v' : Source}
    (hv : v.Exchanged Q v') (hQ : ∀ q q', Q q q' → q.Alike q') :
    (s.fromSource v).Twins (t.fromSource v') := by
  cases hv with
  | same v =>
    have hledger : s.ledger.put .source v.binds = t.ledger.put .source v.binds := by rw [h.ledger]
    cases v with
    | table name => exact { h with table := rfl, source := rfl, target := rfl, ledger := hledger }
    | raw f => exact { h with source := rfl, target := rfl, ledger := hledger }
    | query q => exact { h with source := rfl, target := rfl, ledger := hledger }
  | @query q q' hq =>
    have hqq := hQ _ _ hq
    have hsource : (Source.query q).tokens = (Source.query q').tokens := by
      rw [Source.tokens, Source.tokens, hqq.tokens, hqq.label]
    have hledger : s.ledger.put .source q.data = t.ledger.put .source q'.data := by
      rw [h.ledger, hqq.data]
    exact { h with source := congrArg (after .FROM) hsource, target := rfl, ledger := hledger }

theorem Twins.limitTo (h : s.Twins t) {v v' : Value} (hv : v.Alike v') :
    (s.limitTo v).Twins (t.limitTo v') :=
  { h with
    limit := congrArg (after .LIMIT) hv.tokens
    ledger := congrArg₂ (·.put .limit ·) h.ledger hv.binds }

theorem Twins.offsetBy (h : s.Twins t) {v v' : Value} (hv : v.Alike v') :
    (s.offsetBy v).Twins (t.offsetBy v') :=
  { h with
    offset := congrArg (after .OFFSET) hv.tokens
    ledger := congrArg₂ (·.put .offset ·) h.ledger hv.binds }

theorem Twins.addCondition (h : s.Twins t) (f : Filter) (c : Connector) {p p' : Predicate}
    (bs : List Bind) (hp : ∀ k, Condition.tokens ⟨k, p⟩ = Condition.tokens ⟨k, p'⟩) :
    (s.addCondition f c p bs).Twins (t.addCondition f c p' bs) := by
  have hconditions : ∀ g, ((s.addCondition f c p bs).conditions g).map Condition.tokens =
      ((t.addCondition f c p' bs).conditions g).map Condition.tokens := by
    intro g
    rw [conditions_addCondition, conditions_addCondition]
    split
    · rw [List.map_append, List.map_append, h.conditions, isEmpty_eq_of_map_eq (h.conditions f),
        List.map_singleton, List.map_singleton, hp]
    · exact h.conditions g
  have hledger : s.ledger.add f.clause bs = t.ledger.add f.clause bs := by rw [h.ledger]
  cases f <;> exact { h with conditions := hconditions, ledger := hledger }

/-- So does a test that is no fragment, with other sub-queries in it. -/
theorem Twins.addTest (h : s.Twins t) (f : Filter) (c : Connector) {p p' : Predicate}
    {bs bs' : List Bind} (hp : ∀ f, p ≠ .raw f) (hp' : ∀ f, p' ≠ .raw f)
    (htokens : p.tokens = p'.tokens) (hbs : bs = bs') :
    (s.addCondition f c p bs).Twins (t.addCondition f c p' bs') :=
  hbs ▸ h.addCondition f c bs (Predicate.tokens_condition_congr hp hp' htokens)

theorem Twins.addGroup (h : s.Twins t) (f : Filter) (c : Connector) {i i' : Statement}
    (hi : i.Twins i') : (s.addGroup f c i).Twins (t.addGroup f c i') := by
  have htokens : (Predicate.group (i.conditions f)).tokens =
      (Predicate.group (i'.conditions f)).tokens := by
    rw [Predicate.tokens, Predicate.tokens, conditionItems_eq_map, conditionItems_eq_map,
      hi.conditions]
  rw [Statement.addGroup, Statement.addGroup, isEmpty_eq_of_map_eq (hi.conditions f)]
  split
  · exact h
  · exact h.addTest f c (by simp) (by simp) htokens (by rw [hi.ledger])

theorem Twins.amongQuery (h : s.Twins t) (c : Connector) (column : Column) {q q' : Statement}
    (hq : q.Alike q') (negated : Bool) :
    (s.amongQuery c column q negated).Twins (t.amongQuery c column q' negated) := by
  refine h.addTest .wheres c (by simp) (by simp) ?_ (by rw [hq.data])
  rw [Predicate.tokens, Predicate.tokens, hq.tokens]

theorem Twins.among (h : s.Twins t) (c : Connector) (column : Column) {vs vs' : List Value}
    (htokens : vs.map Value.tokens = vs'.map Value.tokens)
    (hbinds : vs.flatMap Value.binds = vs'.flatMap Value.binds) (negated : Bool) :
    (s.among c column vs negated).Twins (t.among c column vs' negated) := by
  rw [Statement.among, Statement.among, isEmpty_eq_of_map_eq htokens]
  split
  · exact h.addCondition _ _ _ fun _ => rfl
  · refine h.addTest .wheres c (by simp) (by simp) ?_ (by rw [hbinds])
    rw [Predicate.tokens, Predicate.tokens, valueItems_eq_map, valueItems_eq_map, htokens]

theorem Twins.between (h : s.Twins t) (c : Connector) (column : Column)
    {low low' high high' : Value} (hlow : low.Alike low') (hhigh : high.Alike high')
    (negated : Bool) :
    (s.between c column low high negated).Twins (t.between c column low' high' negated) := by
  refine h.addTest .wheres c (by simp) (by simp) ?_ (by rw [hlow.binds, hhigh.binds])
  rw [Predicate.tokens, Predicate.tokens, hlow.tokens, hhigh.tokens]

theorem Twins.addJoin (h : s.Twins t) {j j' : JoinDraft} (hj : j.Alike j') :
    (s.addJoin j).Twins (t.addJoin j') :=
  { h with
    joins := by
      rw [Statement.addJoin, Statement.addJoin, List.map_append, List.map_append, h.joins,
        List.map_singleton, List.map_singleton, hj.tokens]
    ledger := congrArg₂ (·.add .joins ·) h.ledger hj.binds }

theorem Twins.addRow (h : s.Twins t) {p p' : Payload} (hp : p.Alike p') :
    Both Twins (s.addRow p) (t.addRow p') := by
  have hrows : s.rows.isEmpty = t.rows.isEmpty := isEmpty_eq_of_map_eq h.rows
  rw [Statement.addRow, Statement.addRow, hrows, h.rowColumns, hp.columns]
  split
  · have hvalues : (s.rows ++ [p.values]).map (·.map Value.tokens) =
        (t.rows ++ [p'.values]).map (·.map Value.tokens) := by
      rw [List.map_append, List.map_append, h.rows, List.map_singleton, List.map_singleton,
        hp.values]
    refine .ok ?_
    exact { h with
      rowColumns := rfl
      rows := hvalues
      ledger := congrArg₂ (·.add .rows ·) h.ledger hp.binds }
  · exact .error _

theorem Twins.insert (h : s.Twins t) {rows rows' : List Payload}
    (hrows : List.Forall₂ Payload.Alike rows rows') :
    Both Twins (s.insert rows) (t.insert rows') := by
  rw [Statement.insert, Statement.insert, h.admits]
  split
  · have hstart : { s with kind := some .insert }.Twins { t with kind := some .insert } :=
      { h with kind := rfl }
    -- The induction is on the rows; the twins that they are added to change with each of them.
    revert hstart
    generalize { s with kind := some .insert } = u
    generalize { t with kind := some .insert } = u'
    intro hu
    induction hrows generalizing u u' with
    | nil => exact .ok hu
    | cons hp _ ih => exact (hu.addRow hp).bind fun a b hab => ih a b hab
  · exact .ok h

theorem Twins.update (h : s.Twins t) {p p' : Payload} (hp : p.Alike p') :
    (s.update p).Twins (t.update p') := by
  rw [Statement.update, Statement.update, h.admits]
  split
  · exact { h with
      kind := rfl
      assignments := hp.assignments
      ledger := congrArg₂ (·.put .assignments ·) h.ledger hp.binds }
  · exact h

theorem Twins.orderBy (h : s.Twins t) (column : Column) (direction : String) :
    Both Twins (s.orderBy column direction) (t.orderBy column direction) := by
  rw [Statement.orderBy, Statement.orderBy]
  cases Direction.check direction with
  | error m => exact .error m
  | ok d =>
    exact .ok { h with
      orders := congrArg (· ++ [⟨column, d⟩]) h.orders
      ledger := congrArg (·.add .orders column.binds) h.ledger }

theorem Twins.compare (h : s.Twins t) (f : Filter) (c : Connector) (column : Column)
    (operator : String) {v v' : Value} (hv : v.Alike v') :
    Both Twins (s.compare f c column operator v) (t.compare f c column operator v') := by
  rw [Statement.compare, Statement.compare]
  cases Operator.check operator with
  | error m => exact .error m
  | ok o =>
    refine .ok (h.addTest f c (by simp) (by simp) ?_ (by rw [hv.binds]))
    rw [Predicate.tokens, Predicate.tokens, hv.tokens]

/-- The same call keeps twins. -/
theorem Twins.run (h : s.Twins t) (e : Edit) : Both Twins (e.run s) (e.run t) := by
  have htest : ∀ f, e.test? = some f → Both Twins (e.run s) (e.run t) := by
    intro f he
    obtain ⟨c, _, r, hr⟩ := Edit.exists_test he
    rw [hr, hr]
    exact .map r fun a => h.addCondition f c a.2 fun _ => rfl
  have hjoin : e.joins = true → Both Twins (e.run s) (e.run t) := by
    intro he
    obtain ⟨r, hr⟩ := Edit.exists_join he
    rw [hr, hr]
    exact .map r fun j => h.addJoin (.refl j)
  have hsame : ∀ q q' : Statement, q = q' → q.Alike q' := by
    rintro q _ rfl
    exact ⟨rfl, rfl, rfl⟩
  cases e with
  | fromSource v => exact .ok (h.fromSource (.same v) hsame)
  | withDialect d => exact .ok { h with }
  | select columns =>
    refine .ok ?_
    rw [Statement.select, Statement.select, h.admits]
    split
    · exact { h with kind := rfl, columns := by rw [h.columns], ledger := by rw [h.ledger] }
    · exact h
  | aggregate a =>
    refine .ok ?_
    rw [Statement.aggregate, Statement.aggregate, h.admits]
    split
    · exact { h with kind := rfl, aggregates := by rw [h.aggregates], ledger := by rw [h.ledger] }
    · exact h
  | groupBy columns =>
    exact .ok { h with
      groups := congrArg (· ++ columns) h.groups
      ledger := congrArg (·.add .groups (columns.flatMap Column.binds)) h.ledger }
  | orderBy column direction =>
    rw [Edit.run, Edit.run]
    exact (h.orderBy column direction).mapError Error.misuse
  | limit v => exact .ok (h.limitTo (.refl v))
  | offset v => exact .ok (h.offsetBy (.refl v))
  | insert rows =>
    rw [Edit.run, Edit.run]
    exact (h.insert (List.forall₂_same.2 fun p _ => .refl p)).mapError Error.misuse
  | update payload => exact .ok (h.update (.refl payload))
  | delete =>
    refine .ok ?_
    rw [Statement.delete, Statement.delete, h.admits]
    split
    · exact { h with kind := rfl }
    · exact h
  | skipConflicts => exact .ok { h with skipConflicts := rfl }
  | returning columns =>
    exact .ok { h with returning := congrArg (· ++ columns) h.returning }
  | group f c body =>
    have hscope : s.scope = t.scope := by rw [scope, scope, h.table]
    rw [Edit.run, Edit.run, group, group, hscope]
    exact .map (body t.scope) fun i => h.addGroup f c (.refl i)
  | join | joinWith => exact hjoin rfl
  | compare f _ _ _ _ => exact htest f rfl
  | compareRaw f _ _ => exact htest f rfl
  | _ => exact htest .wheres rfl

end Statement

/-! ### Programs -/

section

open Statement

variable {Q B : Statement → Statement → Prop} {s t : Statement}

/-- A call with sub-queries that are alike keeps twins. -/
theorem Edit.Exchanged.both_run {e e' : Edit} (he : e.Exchanged Q B e')
    (hQ : ∀ q q', Q q q' → q.Alike q') (hB : ∀ p p', B p p' → p.Twins p') (h : s.Twins t) :
    Both Twins (e.run s) (e'.run t) := by
  cases he with
  | same e => exact h.run e
  | fromSource hv => exact .ok (h.fromSource hv hQ)
  | limit hv => exact .ok (h.limitTo (hv.alike hQ))
  | offset hv => exact .ok (h.offsetBy (hv.alike hQ))
  | insert hrows =>
    rw [Edit.run, Edit.run]
    exact (h.insert (hrows.imp fun _ _ hp => hp.alike hQ)).mapError Error.misuse
  | update hp => exact .ok (h.update (hp.alike hQ))
  | compare hv =>
    rw [Edit.run, Edit.run]
    exact (h.compare _ _ _ _ (hv.alike hQ)).mapError Error.misuse
  | @group f c body body' hbody =>
    rw [Edit.run, Edit.run, Statement.group, Statement.group, scope, scope, h.table]
    exact (hbody t.table).bind fun i i' hi => .ok (h.addGroup f c (hB _ _ hi))
  | among hvs =>
    obtain ⟨htokens, hbinds⟩ := forall₂_alike hvs hQ
    exact .ok (h.among _ _ htokens hbinds _)
  | amongQuery hq => exact .ok (h.amongQuery _ _ (hQ _ _ hq) _)
  | amongWith hbody =>
    exact hbody.bind fun q q' hq => .ok (h.amongQuery _ _ (hQ _ _ hq) _)
  | between hlow hhigh => exact .ok (h.between _ _ (hlow.alike hQ) (hhigh.alike hQ) _)
  | joinWith hbody =>
    exact hbody.bind fun j j' hj => .ok (h.addJoin (hj.alike hQ))

/-- Calls with sub-queries that are alike lead from twins to twins, or fail alike. -/
theorem both_runEdits {es es' : List Edit} (hes : List.Forall₂ (Edit.Exchanged Q B) es es')
    (hQ : ∀ q q', Q q q' → q.Alike q') (hB : ∀ p p', B p p' → p.Twins p') (h : s.Twins t) :
    Both Twins (runEdits es s) (runEdits es' t) := by
  induction hes generalizing s t with
  | nil => exact .ok h
  | cons he _ ih => exact (he.both_run hQ hB h).bind fun u u' hu => ih hu

end

namespace Statement

/-- Two statements built by the same calls on the same statement, the one with `s` and the other one
    with `t` as a sub-query, or with such statements as sub-queries, up to `n` levels deep. -/
def Around (s t : Statement) : Nat → Statement → Statement → Prop
  | 0, p, p' => p = p'
  | n + 1, p, p' => ∃ u es es',
    List.Forall₂
      (Edit.Exchanged (fun q q' => Around s t n q q' ∨ q = s ∧ q' = t) (Around s t n)) es es' ∧
    runEdits es u = .ok p ∧ runEdits es' u = .ok p'

/-- No program can tell two statements apart that are given to it as sub-queries: both runs fail
    with the same error, or end with the same text and the same values. -/
structure Interchangeable (s t : Statement) : Prop where
  text : ∀ d, s.compile d = t.compile d
  data : s.data = t.data
  around : ∀ n u es es', List.Forall₂
      (Edit.Exchanged (fun q q' => Around s t n q q' ∨ q = s ∧ q' = t) (Around s t n)) es es' →
    Both (fun p p' => (∀ d, p.compile d = p'.compile d) ∧ p.data = p'.data)
      (runEdits es u) (runEdits es' u)

variable {s t : Statement}

theorem Alike.compile_eq (h : s.Alike t) (d : Dialect) : s.compile d = t.compile d := by
  rw [compile, compile, h.tokens]

/-- A sub-query in the two programs is alike, be it built around the two statements or one of them. -/
theorem Alike.of_around (h : s.Alike t) {n : Nat}
    (htwins : ∀ {p p'}, Around s t n p p' → p.Twins p') :
    ∀ q q', Around s t n q q' ∨ q = s ∧ q' = t → q.Alike q' := by
  rintro q q' (hq | ⟨rfl, rfl⟩)
  · exact (htwins hq).alike
  · exact h

/-- What is built around statements that are alike are twins. -/
theorem Around.twins (h : s.Alike t) {n : Nat} {p p' : Statement} (hp : Around s t n p p') :
    p.Twins p' := by
  induction n generalizing p p' with
  | zero =>
    cases hp
    exact .refl p
  | succ n ih =>
    obtain ⟨u, es, es', hes, hrun, hrun'⟩ := hp
    have hboth := both_runEdits hes (h.of_around ih) (fun _ _ => ih) (Twins.refl u)
    rw [hrun, hrun'] at hboth
    cases hboth with
    | ok htwins => exact htwins

/-- **Exchange.**  Statements with the same tokens, values and label can stand for each other
    everywhere. -/
theorem Alike.interchangeable (h : s.Alike t) : s.Interchangeable t where
  text := h.compile_eq
  data := h.data
  around n u es es' hes := by
    have hboth := both_runEdits hes (h.of_around (Around.twins h)) (fun _ _ => Around.twins h)
      (Twins.refl u)
    exact hboth.imp fun p p' hp => ⟨hp.alike.compile_eq, hp.data_eq⟩

end Statement

end SqlBuilder

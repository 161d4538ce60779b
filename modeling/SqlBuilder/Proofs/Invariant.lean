import SqlBuilder.Proofs.Leaf

namespace SqlBuilder

/-!
# Invariants of statements

A property that a new statement has and that every call keeps holds of every statement that a
script builds.  The induction over scripts, with the scripts of groups, joins and sub-queries inside
them, is done here once.

* `Connected` — the words in front of the conditions of a list are where they should be;
* `Invariant P I` — a new statement has `I`, and every call keeps it as long as the leaves that it
  adds have `P`;
* `Invariant.and` — two invariants together are one;
* `Invariant.of_run` — a script that spells out leaves with `P` only keeps `I`, provided that a
  sub-query with `I` is a leaf with `P`;
* `invariant_leaves` — all leaves of a statement have `P`: this is an invariant itself.
-/

/-- The words in front of the conditions of a list: the first one has none, and all others have. -/
def Connected : List (Option Connector) → Prop
  | [] => True
  | first :: later => first = none ∧ none ∉ later

/-- A condition more keeps them so, if it has a word exactly when it is not the first. -/
theorem Connected.concat {cs : List (Option Connector)} (h : Connected cs) (c : Connector) :
    Connected (cs ++ [if cs.isEmpty then none else some c]) := by
  cases cs with
  | nil => exact ⟨rfl, List.not_mem_nil⟩
  | cons first later =>
    obtain ⟨hfirst, hlater⟩ := h
    refine ⟨hfirst, ?_⟩
    simp [hlater]

/-- The test is a group. -/
def Predicate.isGroup : Predicate → Bool
  | .group _ => true
  | _ => false

/-- A new statement has `I`, and every call keeps it as long as the leaves it adds have `P`. -/
structure Invariant (P : Leaf → Prop) (I : Statement → Prop) : Prop where
  new : I .new
  scope : ∀ {s}, I s → I s.scope
  fromSource : ∀ {s} {v : Source}, I s → P v.leaf → I (s.fromSource v)
  withDialect : ∀ {s} (d : Dialect), I s → I (s.withDialect d)
  select : ∀ {s} {cs : List Column}, s.admits .select = true → I s → (∀ c ∈ cs, P c.leaf) →
    I (s.select cs)
  aggregate : ∀ {s} {a : Aggregate}, s.admits .select = true → I s → P a.column.leaf →
    I (s.aggregate a)
  groupBy : ∀ {s} {cs : List Column}, I s → (∀ c ∈ cs, P c.leaf) → I (s.groupBy cs)
  orderBy : ∀ {s t} {c : Column} {w : String}, I s → P c.leaf → s.orderBy c w = .ok t → I t
  limitTo : ∀ {s} {v : Value}, I s → P v.leaf → I (s.limitTo v)
  offsetBy : ∀ {s} {v : Value}, I s → P v.leaf → I (s.offsetBy v)
  /-- The first call of `insert` settles the kind, also without a row. -/
  startInsert : ∀ {s}, s.admits .insert = true → I s → I { s with kind := some .insert }
  addRow : ∀ {s t} {p : Payload}, I s → (∀ x ∈ p.leaves, P x) → s.addRow p = .ok t → I t
  skippingConflicts : ∀ {s}, I s → I s.skippingConflicts
  returningColumns : ∀ {s} {cs : List String}, I s → (∀ c ∈ cs, P (.name c)) →
    I (s.returningColumns cs)
  update : ∀ {s} {p : Payload}, s.admits .update = true → I s → (∀ x ∈ p.leaves, P x) →
    I (s.update p)
  delete : ∀ {s}, I s → I s.delete
  /-- Every test but a group comes with the values of its leaves. -/
  addCondition : ∀ {s} (f : Filter) (c : Connector) {p : Predicate}, p.isGroup = false → I s →
    (∀ x ∈ p.leaves, P x) → I (s.addCondition f c p (p.leaves.flatMap Leaf.binds))
  addGroup : ∀ {s inner} (f : Filter) (c : Connector), I s → I inner → I (s.addGroup f c inner)
  addJoin : ∀ {s} {j : Join}, Connected (j.conditions.map (·.connector)) → I s →
    (∀ x ∈ j.leaves, P x) → I (s.addJoin ⟨j, j.leaves.flatMap Leaf.binds⟩)

/-- Two invariants together are one. -/
theorem Invariant.and {P : Leaf → Prop} {I J : Statement → Prop} (hI : Invariant P I)
    (hJ : Invariant P J) : Invariant P fun s => I s ∧ J s where
  new := ⟨hI.new, hJ.new⟩
  scope h := ⟨hI.scope h.1, hJ.scope h.2⟩
  fromSource h hv := ⟨hI.fromSource h.1 hv, hJ.fromSource h.2 hv⟩
  withDialect d h := ⟨hI.withDialect d h.1, hJ.withDialect d h.2⟩
  select ha h hc := ⟨hI.select ha h.1 hc, hJ.select ha h.2 hc⟩
  aggregate ha h hc := ⟨hI.aggregate ha h.1 hc, hJ.aggregate ha h.2 hc⟩
  groupBy h hc := ⟨hI.groupBy h.1 hc, hJ.groupBy h.2 hc⟩
  orderBy h hc ht := ⟨hI.orderBy h.1 hc ht, hJ.orderBy h.2 hc ht⟩
  limitTo h hv := ⟨hI.limitTo h.1 hv, hJ.limitTo h.2 hv⟩
  offsetBy h hv := ⟨hI.offsetBy h.1 hv, hJ.offsetBy h.2 hv⟩
  startInsert ha h := ⟨hI.startInsert ha h.1, hJ.startInsert ha h.2⟩
  addRow h hp ht := ⟨hI.addRow h.1 hp ht, hJ.addRow h.2 hp ht⟩
  skippingConflicts h := ⟨hI.skippingConflicts h.1, hJ.skippingConflicts h.2⟩
  returningColumns h hc := ⟨hI.returningColumns h.1 hc, hJ.returningColumns h.2 hc⟩
  update ha h hp := ⟨hI.update ha h.1 hp, hJ.update ha h.2 hp⟩
  delete h := ⟨hI.delete h.1, hJ.delete h.2⟩
  addCondition f c _ hg h hp := ⟨hI.addCondition f c hg h.1 hp, hJ.addCondition f c hg h.2 hp⟩
  addGroup f c h hi := ⟨hI.addGroup f c h.1 hi.1, hJ.addGroup f c h.2 hi.2⟩
  addJoin hc h hj := ⟨hI.addJoin hc h.1 hj, hJ.addJoin hc h.2 hj⟩

/-! ### All leaves -/

/-- All leaves of a statement have `P`, in the clauses that are not written as well. -/
def Statement.LeavesHave (P : Leaf → Prop) (s : Statement) : Prop := ∀ e, ∀ x ∈ s.leaves e, P x

/-- A call that changes one clause keeps a property of all leaves, if the clause has it after. -/
theorem Statement.LeavesHave.of_clause {P : Leaf → Prop} {s t : Statement} {c : Clause}
    {xs : List Leaf} (h : s.LeavesHave P) (hxs : ∀ x ∈ xs, P x)
    (ht : ∀ e, t.leaves e = if e = c then xs else s.leaves e) : t.LeavesHave P := by
  intro e x hx
  rw [ht] at hx
  split at hx
  · exact hxs x hx
  · exact h e x hx

/-- A call that appends to one clause keeps a property of all leaves, if the new ones have it. -/
theorem Statement.LeavesHave.of_append {P : Leaf → Prop} {s t : Statement} {c : Clause}
    {xs : List Leaf} (h : s.LeavesHave P) (hxs : ∀ x ∈ xs, P x)
    (ht : ∀ e, t.leaves e = if e = c then s.leaves e ++ xs else s.leaves e) :
    t.LeavesHave P := by
  intro e x hx
  rw [ht] at hx
  split at hx
  · exact (List.mem_append.1 hx).elim (h e x) (hxs x)
  · exact h e x hx

/-- Columns as leaves have what each column has. -/
theorem forall_mem_map_leaf {P : Leaf → Prop} {cs : List Column} (h : ∀ c ∈ cs, P c.leaf) :
    ∀ x ∈ cs.map Column.leaf, P x := by
  intro x hx
  obtain ⟨c, hc, rfl⟩ := List.mem_map.1 hx
  exact h c hc

/-- The values of a payload are among its leaves. -/
theorem Payload.leaf_mem_leaves {p : Payload} {v : Value} (h : v ∈ p.values) :
    v.leaf ∈ p.leaves := by
  obtain ⟨a, ha, rfl⟩ := List.mem_map.1 h
  exact List.mem_flatMap.2 ⟨a, ha, by simp [Assignment.leaves]⟩

/-- All leaves of a statement have `P`: this is an invariant. -/
theorem invariant_leaves (P : Leaf → Prop) : Invariant P (Statement.LeavesHave P) where
  new e x hx := by simp at hx
  scope _ e x hx := by simp at hx
  fromSource {s v} h hv := h.of_clause (by simpa using hv) (s.leaves_fromSource · v)
  withDialect {s} d h e x hx := h e x (by simpa using hx)
  select {s cs} ha h hc := h.of_append (forall_mem_map_leaf hc) (s.leaves_select · cs ha)
  aggregate {s a} ha h hc := h.of_append (by simpa using hc) (s.leaves_aggregate · a ha)
  groupBy {s cs} h hc := h.of_append (forall_mem_map_leaf hc) (s.leaves_groupBy · cs)
  orderBy {s t c w} h hc ht := h.of_append (by simpa using hc) fun e => s.leaves_orderBy e ht
  limitTo {s v} h hv := h.of_clause (by simpa using hv) (s.leaves_limitTo · v)
  offsetBy {s v} h hv := h.of_clause (by simpa using hv) (s.leaves_offsetBy · v)
  startInsert {s} _ h e x hx := h e x (by simpa using hx)
  addRow {s t p} h hp ht := by
    have hv : ∀ x ∈ p.values.map Value.leaf, P x := by
      intro x hx
      obtain ⟨v, hv, rfl⟩ := List.mem_map.1 hx
      exact hp _ (Payload.leaf_mem_leaves hv)
    exact h.of_append hv fun e => s.leaves_addRow e ht
  skippingConflicts {s} h e x hx := h e x (by simpa using hx)
  returningColumns {s cs} h _ e x hx := h e x (by simpa using hx)
  update {s p} ha h hp := h.of_clause hp (s.leaves_update · p ha)
  delete {s} h e x hx := h e x (by simpa using hx)
  addCondition {s} f c p _ h hp := h.of_append hp (s.leaves_addCondition · f c p _)
  addGroup {s inner} f c h hi := by
    rw [Statement.addGroup]
    split
    · exact h
    · have hx : ∀ x ∈ conditionLeaves (inner.conditions f), P x := by
        rw [← Statement.leaves_clause]
        exact hi f.clause
      exact h.of_append hx (s.leaves_addCondition · f c (.group (inner.conditions f)) _)
  addJoin {s j} _ h hj := h.of_append hj (s.leaves_addJoin · _)

/-- The leaves of a payload made of pairs have what the pairs have. -/
theorem Payload.leaves_ofList {P : Leaf → Prop} {entries : List (String × Value)}
    (h : ∀ e ∈ entries, P (.name e.1) ∧ P e.2.leaf) : ∀ x ∈ (ofList entries).leaves, P x := by
  intro x hx
  obtain ⟨a, ha, hx⟩ := List.mem_flatMap.1 hx
  obtain ⟨hname, hvalue⟩ := h _ (mem_ofList ha)
  obtain rfl | rfl : x = .name a.column ∨ x = a.value.leaf := by
    simpa [Assignment.leaves] using hx
  · exact hname
  · exact hvalue

/-- Only an object makes a payload. -/
theorem Payload.ofJson_eq_ok {j : Json} {p : Payload} (h : ofJson j = .ok p) :
    ∃ members, j = .object members ∧ p = ofMembers Json.display members := by
  cases j with
  | object members =>
    rw [ofJson_object] at h
    cases h
    exact ⟨members, rfl, rfl⟩
  | _ => cases h

/-! ### The induction over scripts -/

/-- A call in two parts ends well only if both parts do. -/
theorem bind_eq_ok {ε α β : Type} {x : Except ε α} {f : α → Except ε β} {b : β}
    (h : (x >>= f) = .ok b) : ∃ a, x = .ok a ∧ f a = .ok b := by
  cases x with
  | error e => cases h
  | ok a => exact ⟨a, rfl, h⟩

/-- Another error type does not make a call end well. -/
theorem mapError_eq_ok {ε δ α : Type} {x : Except ε α} {f : ε → δ} {a : α}
    (h : x.mapError f = .ok a) : x = .ok a := by
  cases x with
  | error e => cases h
  | ok b => exact congrArg Except.ok (Except.ok.inj h)

/-- What one round keeps, several rounds keep. -/
theorem iterate_keeps {ε α : Type} {I : α → Prop} {f : α → Except ε α}
    (hf : ∀ {a b}, I a → f a = .ok b → I b) {n : Nat} {a b : α} (ha : I a)
    (h : iterate f n a = .ok b) : I b := by
  induction n generalizing a with
  | zero => cases h; exact ha
  | succ n ih =>
    obtain ⟨c, hc, h⟩ := bind_eq_ok h
    exact ih (hf ha hc) h

/-- A join under construction comes with the values of its leaves, these have `P`, and its tests are
    connected. -/
structure JoinDraft.Sound (P : Leaf → Prop) (j : JoinDraft) : Prop where
  connected : Connected (j.join.conditions.map (·.connector))
  binds : j.binds = j.join.leaves.flatMap Leaf.binds
  leaves : ∀ x ∈ j.join.leaves, P x

theorem JoinDraft.Sound.start {P : Leaf → Prop} {kind : JoinKind} {table : Column}
    (h : P table.leaf) : (JoinDraft.start kind table).Sound P where
  connected := trivial
  binds := by simp [JoinDraft.start, Join.leaves]
  leaves x hx := by
    obtain rfl : x = table.leaf := by simpa [JoinDraft.start, Join.leaves] using hx
    exact h

theorem JoinDraft.Sound.addTest {P : Leaf → Prop} {j : JoinDraft} (h : j.Sound P) (c : Connector)
    {test : JoinTest} {bs : List Bind} (hbs : bs = test.leaves.flatMap Leaf.binds)
    (hP : ∀ x ∈ test.leaves, P x) : (j.addTest c test bs).Sound P where
  connected := by
    have hconnected := h.connected.concat c
    rw [List.isEmpty_map] at hconnected
    rwa [JoinDraft.addTest, List.map_append]
  binds := by simp [JoinDraft.addTest, Join.leaves, h.binds, hbs]
  leaves x hx := by
    have hx : x ∈ j.join.leaves ∨ x ∈ test.leaves := by
      simpa [JoinDraft.addTest, Join.leaves, or_assoc] using hx
    exact hx.elim (h.leaves x) (hP x)

theorem JoinDraft.Sound.on {P : Leaf → Prop} {j k : JoinDraft} (h : j.Sound P) {c : Connector}
    {first second : Column} {o : String} (h₁ : P first.leaf) (h₂ : P second.leaf)
    (hk : j.on c first o second = .ok k) : k.Sound P := by
  obtain ⟨o, _, hk⟩ := bind_eq_ok hk
  cases hk
  refine h.addTest c (by simp [JoinTest.leaves]) fun x hx => ?_
  obtain rfl | rfl : x = first.leaf ∨ x = second.leaf := by simpa [JoinTest.leaves] using hx
  · exact h₁
  · exact h₂

theorem JoinDraft.Sound.compare {P : Leaf → Prop} {j k : JoinDraft} (h : j.Sound P) {c : Connector}
    {column : Column} {v : Value} {o : String} (h₁ : P column.leaf) (h₂ : P v.leaf)
    (hk : j.compare c column o v = .ok k) : k.Sound P := by
  obtain ⟨o, _, hk⟩ := bind_eq_ok hk
  cases hk
  refine h.addTest c (by simp [JoinTest.leaves]) fun x hx => ?_
  obtain rfl | rfl : x = column.leaf ∨ x = v.leaf := by simpa [JoinTest.leaves] using hx
  · exact h₁
  · exact h₂

namespace Invariant

variable {P : Leaf → Prop} {I : Statement → Prop}

/-- Rows that are added one after another keep an invariant. -/
theorem insert (h : Invariant P I) {s t : Statement} {rows : List Payload} (hs : I s)
    (hrows : ∀ p ∈ rows, ∀ x ∈ p.leaves, P x) (ht : s.insert rows = .ok t) : I t := by
  rw [Statement.insert] at ht
  split at ht
  · rename_i ha
    have hs := h.startInsert ha hs
    -- The induction is on the rows; the statement that they are added to changes with each of them.
    revert hs ht
    generalize { s with kind := some .insert } = u
    intro ht hs
    induction rows generalizing u with
    | nil => cases ht; exact hs
    | cons p ps ih =>
      rw [List.foldlM_cons] at ht
      obtain ⟨v, hv, ht⟩ := bind_eq_ok ht
      have hp := hrows p List.mem_cons_self
      exact ih (fun q hq => hrows q (List.mem_cons_of_mem _ hq)) v ht (h.addRow hs hp hv)
  · cases ht
    exact hs

/-- A finished join keeps an invariant. -/
theorem of_draft (h : Invariant P I) {s : Statement} {j : JoinDraft} (hs : I s)
    (hj : j.Sound P) : I (s.addJoin j) := by
  obtain ⟨join, binds⟩ := j
  obtain rfl : binds = join.leaves.flatMap Leaf.binds := hj.binds
  exact h.addJoin hj.connected hs hj.leaves

/-- A test that is no group keeps an invariant, however the values of its leaves are listed. -/
theorem condition (h : Invariant P I) {s : Statement} {f : Filter} {c : Connector} {p : Predicate}
    {bs : List Bind} (hs : I s) (hg : p.isGroup = false) (hbs : bs = p.leaves.flatMap Leaf.binds)
    (hp : ∀ x ∈ p.leaves, P x) : I (s.addCondition f c p bs) :=
  hbs ▸ h.addCondition f c hg hs hp

mutual

theorem of_step (h : Invariant P I) (hq : ∀ s, I s → P (.query s)) {s t : Statement} (hs : I s)
    (step : Step) (hx : ∀ x ∈ step.inputs, P x.leaf) (ht : step.run s = .ok t) : I t := by
  cases step with
  | new =>
    -- What the statement was before is forgotten.
    rw [Step.run] at ht
    cases ht
    exact h.new
  | table source =>
    rw [Step.run] at ht
    obtain ⟨v, hv, ht⟩ := bind_eq_ok ht
    cases ht
    exact h.fromSource h.new (of_origin h hq hs source hx hv)
  | fromSource source =>
    rw [Step.run] at ht
    obtain ⟨v, hv, ht⟩ := bind_eq_ok ht
    cases ht
    exact h.fromSource hs (of_origin h hq hs source hx hv)
  | withDialect d =>
    rw [Step.run] at ht
    cases ht
    exact h.withDialect d hs
  | select columns =>
    rw [Step.run] at ht
    cases ht
    -- A statement of another kind ignores the call.
    by_cases ha : s.admits .select = true
    · exact h.select ha hs fun c hc => hx _ (List.mem_map_of_mem hc)
    · rwa [Statement.select, if_neg ha]
  | aggregate a =>
    rw [Step.run] at ht
    cases ht
    by_cases ha : s.admits .select = true
    · exact h.aggregate ha hs (hx _ List.mem_cons_self)
    · rwa [Statement.aggregate, if_neg ha]
  | groupBy columns =>
    rw [Step.run] at ht
    cases ht
    exact h.groupBy hs fun c hc => hx _ (List.mem_map_of_mem hc)
  | orderBy column direction =>
    rw [Step.run] at ht
    have ht := mapError_eq_ok ht
    exact h.orderBy hs (hx _ List.mem_cons_self) ht
  | limit value =>
    rw [Step.run] at ht
    obtain ⟨v, hv, ht⟩ := bind_eq_ok ht
    cases ht
    exact h.limitTo hs (of_operand h hq hs value hx hv)
  | offset value =>
    rw [Step.run] at ht
    obtain ⟨v, hv, ht⟩ := bind_eq_ok ht
    cases ht
    exact h.offsetBy hs (of_operand h hq hs value hx hv)
  | insert rows =>
    rw [Step.run] at ht
    obtain ⟨ps, hps, ht⟩ := bind_eq_ok ht
    exact h.insert hs (of_rows h hq hs rows hx hps) (mapError_eq_ok ht)
  | update payload =>
    rw [Step.run] at ht
    obtain ⟨p, hp, ht⟩ := bind_eq_ok ht
    cases ht
    by_cases ha : s.admits .update = true
    · exact h.update ha hs (of_payload h hq hs payload hx hp)
    · rwa [Statement.update, if_neg ha]
  | delete =>
    rw [Step.run] at ht
    cases ht
    exact h.delete hs
  | skipConflicts =>
    rw [Step.run] at ht
    cases ht
    exact h.skippingConflicts hs
  | returning columns =>
    rw [Step.run] at ht
    cases ht
    exact h.returningColumns hs fun c hc => hx _ (List.mem_map_of_mem hc)
  | compare f c column operator value =>
    rw [Step.run] at ht
    obtain ⟨v, hv, ht⟩ := bind_eq_ok ht
    obtain ⟨o, _, ht⟩ := bind_eq_ok (mapError_eq_ok ht)
    cases ht
    obtain ⟨hc, hx⟩ : P column.leaf ∧ ∀ x ∈ value.inputs, P x.leaf := List.forall_mem_cons.1 hx
    have hv := of_operand h hq hs value hx hv
    exact h.condition hs rfl (by simp [Predicate.leaves]) (by simp [Predicate.leaves, hc, hv])
  | compareRaw f c fragment =>
    rw [Step.run] at ht
    cases ht
    have hf : P (.fragment fragment) := hx _ List.mem_cons_self
    exact h.condition hs rfl (by simp [Predicate.leaves]) (by simp [Predicate.leaves, hf])
  | group f c body =>
    rw [Step.run] at ht
    obtain ⟨inner, hi, ht⟩ := bind_eq_ok ht
    cases ht
    -- The body of a group starts from an empty statement of its own.
    exact h.addGroup f c hs (of_steps h hq (h.scope hs) body hx hi)
  | among c column members negated =>
    obtain ⟨hc, hx⟩ : P column.leaf ∧ ∀ x ∈ members.inputs, P x.leaf := List.forall_mem_cons.1 hx
    cases members with
    | values vs =>
      rw [Step.run] at ht
      obtain ⟨ws, hws, ht⟩ := bind_eq_ok ht
      cases ht
      have hws := of_operands h hq hs vs hx hws
      rw [Statement.among]
      split
      · -- Without a value the test is a constant, and the column is left out.
        exact h.condition hs rfl (by simp [Predicate.leaves]) (by simp [Predicate.leaves])
      · refine h.condition hs rfl (by simp [Predicate.leaves]) fun x hm => ?_
        rcases List.mem_cons.1 hm with rfl | hm
        · exact hc
        · obtain ⟨w, hw, rfl⟩ := List.mem_map.1 hm
          exact hws w hw
    | query body =>
      rw [Step.run] at ht
      obtain ⟨q, hq', ht⟩ := bind_eq_ok ht
      cases ht
      have hi := of_steps h hq h.new body hx hq'
      exact h.condition hs rfl (by simp [Predicate.leaves])
        (by simp [Predicate.leaves, hc, hq q hi])
    | self body =>
      rw [Step.run] at ht
      obtain ⟨q, hq', ht⟩ := bind_eq_ok ht
      cases ht
      have hi := of_steps h hq hs body hx hq'
      exact h.condition hs rfl (by simp [Predicate.leaves])
        (by simp [Predicate.leaves, hc, hq q hi])
  | between c column low high negated =>
    rw [Step.run] at ht
    obtain ⟨l, hl, ht⟩ := bind_eq_ok ht
    obtain ⟨u, hu, ht⟩ := bind_eq_ok ht
    cases ht
    obtain ⟨hc, hx⟩ : P column.leaf ∧ ∀ x ∈ low.inputs ++ high.inputs, P x.leaf :=
      List.forall_mem_cons.1 hx
    obtain ⟨hlow, hhigh⟩ := List.forall_mem_append.1 hx
    have hl := of_operand h hq hs low hlow hl
    have hu := of_operand h hq hs high hhigh hu
    exact h.condition hs rfl (by simp [Predicate.leaves]) (by simp [Predicate.leaves, hc, hl, hu])
  | isNull c column negated =>
    rw [Step.run] at ht
    cases ht
    have hc : P column.leaf := hx _ List.mem_cons_self
    exact h.condition hs rfl (by simp [Predicate.leaves]) (by simp [Predicate.leaves, hc])
  | join kind table first operator second =>
    rw [Step.run] at ht
    obtain ⟨j, hj, ht⟩ := bind_eq_ok (mapError_eq_ok ht)
    cases ht
    have htable : P table.leaf := hx table.input (by simp [Step.inputs])
    have h₁ : P (Column.name first).leaf := hx (.name first) (by simp [Step.inputs])
    have h₂ : P (Column.name second).leaf := hx (.name second) (by simp [Step.inputs])
    have hj : j.Sound P := JoinDraft.Sound.on (.start htable) h₁ h₂ hj
    exact of_draft h hs hj
  | joinWith kind table body =>
    rw [Step.run] at ht
    obtain ⟨j, hj, ht⟩ := bind_eq_ok ht
    cases ht
    obtain ⟨htable, hx⟩ : P table.leaf ∧ ∀ x ∈ joinStepInputs body, P x.leaf :=
      List.forall_mem_cons.1 hx
    exact of_draft h hs (of_joinSteps h hq hs (.start htable) body hx hj)
  | times n body =>
    rw [Step.run] at ht
    exact iterate_keeps (fun hs hb => of_steps h hq hs body hx hb) hs ht

theorem of_steps (h : Invariant P I) (hq : ∀ s, I s → P (.query s)) {s t : Statement} (hs : I s) :
    (steps : List Step) → (∀ x ∈ stepInputs steps, P x.leaf) → runAll steps s = .ok t → I t
  | [], _, ht => by
    cases ht
    exact hs
  | step :: steps, hx, ht => by
    rw [runAll] at ht
    obtain ⟨u, hu, ht⟩ := bind_eq_ok ht
    obtain ⟨hstep, hsteps⟩ := List.forall_mem_append.1 hx
    exact of_steps h hq (of_step h hq hs step hstep hu) steps hsteps ht

theorem of_operand (h : Invariant P I) (hq : ∀ s, I s → P (.query s)) {s : Statement} {w : Value}
    (hs : I s) : (v : Operand) → (∀ x ∈ v.inputs, P x.leaf) → v.eval s = .ok w → P w.leaf
  | .bind b, hx, hw => by
    cases hw
    exact hx _ List.mem_cons_self
  | .raw f, hx, hw => by
    cases hw
    exact hx _ List.mem_cons_self
  | .query body, hx, hw => by
    obtain ⟨q, hb, hw⟩ := bind_eq_ok hw
    cases hw
    exact hq q (of_steps h hq h.new body hx hb)
  | .self body, hx, hw => by
    obtain ⟨q, hb, hw⟩ := bind_eq_ok hw
    cases hw
    exact hq q (of_steps h hq hs body hx hb)

theorem of_origin (h : Invariant P I) (hq : ∀ s, I s → P (.query s)) {s : Statement} {w : Source}
    (hs : I s) : (v : Origin) → (∀ x ∈ v.inputs, P x.leaf) → v.eval s = .ok w → P w.leaf
  | .table name, hx, hw => by
    cases hw
    exact hx _ List.mem_cons_self
  | .raw f, hx, hw => by
    cases hw
    exact hx _ List.mem_cons_self
  | .query body, hx, hw => by
    obtain ⟨q, hb, hw⟩ := bind_eq_ok hw
    cases hw
    exact hq q (of_steps h hq h.new body hx hb)
  | .self body, hx, hw => by
    obtain ⟨q, hb, hw⟩ := bind_eq_ok hw
    cases hw
    exact hq q (of_steps h hq hs body hx hb)

theorem of_operands (h : Invariant P I) (hq : ∀ s, I s → P (.query s)) {s : Statement}
    {ws : List Value} (hs : I s) : (vs : List Operand) → (∀ x ∈ operandInputs vs, P x.leaf) →
      evalValues vs s = .ok ws → ∀ w ∈ ws, P w.leaf
  | [], _, hw => by
    cases hw
    simp
  | v :: vs, hx, hw => by
    rw [evalValues] at hw
    obtain ⟨u, hu, hw⟩ := bind_eq_ok hw
    obtain ⟨us, hus, hw⟩ := bind_eq_ok hw
    cases hw
    obtain ⟨hv, hvs⟩ := List.forall_mem_append.1 hx
    have hu := of_operand h hq hs v hv hu
    have hus := of_operands h hq hs vs hvs hus
    exact List.forall_mem_cons.2 ⟨hu, hus⟩

theorem of_entries (h : Invariant P I) (hq : ∀ s, I s → P (.query s)) {s : Statement}
    {es : List (String × Value)} (hs : I s) : (entries : List (String × Operand)) →
      (∀ x ∈ entryInputs entries, P x.leaf) → evalEntries entries s = .ok es →
      ∀ e ∈ es, P (.name e.1) ∧ P e.2.leaf
  | [], _, he => by
    cases he
    simp
  | (column, v) :: entries, hx, he => by
    rw [evalEntries] at he
    obtain ⟨u, hu, he⟩ := bind_eq_ok he
    obtain ⟨us, hus, he⟩ := bind_eq_ok he
    cases he
    obtain ⟨hcolumn, hx⟩ : P (.name column) ∧ ∀ x ∈ v.inputs ++ entryInputs entries, P x.leaf :=
      List.forall_mem_cons.1 hx
    obtain ⟨hv, hentries⟩ := List.forall_mem_append.1 hx
    have hu := of_operand h hq hs v hv hu
    have hus := of_entries h hq hs entries hentries hus
    exact List.forall_mem_cons.2 ⟨⟨hcolumn, hu⟩, hus⟩

theorem of_payload (h : Invariant P I) (hq : ∀ s, I s → P (.query s)) {s : Statement}
    {p : Payload} (hs : I s) : (term : PayloadTerm) → (∀ x ∈ term.inputs, P x.leaf) →
      term.eval s = .ok p → ∀ x ∈ p.leaves, P x
  | .columns entries, hx, hp => by
    rw [PayloadTerm.eval] at hp
    obtain ⟨es, hes, hp⟩ := bind_eq_ok hp
    cases hp
    exact Payload.leaves_ofList (of_entries h hq hs entries hx hes)
  | .json value, hx, hp => by
    rw [PayloadTerm.eval] at hp
    obtain ⟨members, rfl, rfl⟩ := Payload.ofJson_eq_ok (mapError_eq_ok hp)
    refine Payload.leaves_ofList fun e he => ?_
    obtain ⟨m, hm, rfl⟩ := List.mem_map.1 he
    have hx' : ∀ x ∈ [Input.name m.1, .bind (m.2.toBind Json.display)], P x.leaf :=
      fun x hmem => hx x (List.mem_flatMap.2 ⟨m, hm, hmem⟩)
    exact ⟨hx' (.name m.1) (by simp), hx' (.bind (m.2.toBind Json.display)) (by simp)⟩

theorem of_rows (h : Invariant P I) (hq : ∀ s, I s → P (.query s)) {s : Statement}
    {ps : List Payload} (hs : I s) : (rows : List PayloadTerm) → (∀ x ∈ rowInputs rows, P x.leaf) →
      evalRows rows s = .ok ps → ∀ p ∈ ps, ∀ x ∈ p.leaves, P x
  | [], _, hp => by
    cases hp
    simp
  | row :: rows, hx, hp => by
    rw [evalRows] at hp
    obtain ⟨u, hu, hp⟩ := bind_eq_ok hp
    obtain ⟨us, hus, hp⟩ := bind_eq_ok hp
    cases hp
    obtain ⟨hrow, hrows⟩ := List.forall_mem_append.1 hx
    have hu := of_payload h hq hs row hrow hu
    have hus := of_rows h hq hs rows hrows hus
    exact List.forall_mem_cons.2 ⟨hu, hus⟩

theorem of_joinStep (h : Invariant P I) (hq : ∀ s, I s → P (.query s)) {s : Statement}
    {j k : JoinDraft} (hs : I s) (hj : j.Sound P) : (step : JoinStep) →
      (∀ x ∈ step.inputs, P x.leaf) → step.run s j = .ok k → k.Sound P
  | .on c first operator second, hx, hk => by
    rw [JoinStep.run] at hk
    exact hj.on (hx _ (by simp [JoinStep.inputs])) (hx _ (by simp [JoinStep.inputs]))
      (mapError_eq_ok hk)
  | .compare c column operator value, hx, hk => by
    rw [JoinStep.run] at hk
    obtain ⟨v, hv, hk⟩ := bind_eq_ok hk
    obtain ⟨hcolumn, hx⟩ : P column.leaf ∧ ∀ x ∈ value.inputs, P x.leaf :=
      List.forall_mem_cons.1 hx
    exact hj.compare hcolumn (of_operand h hq hs value hx hv) (mapError_eq_ok hk)

theorem of_joinSteps (h : Invariant P I) (hq : ∀ s, I s → P (.query s)) {s : Statement}
    {j k : JoinDraft} (hs : I s) (hj : j.Sound P) : (steps : List JoinStep) →
      (∀ x ∈ joinStepInputs steps, P x.leaf) → runJoin steps s j = .ok k → k.Sound P
  | [], _, hk => by
    cases hk
    exact hj
  | step :: steps, hx, hk => by
    rw [runJoin] at hk
    obtain ⟨l, hl, hk⟩ := bind_eq_ok hk
    obtain ⟨hstep, hsteps⟩ := List.forall_mem_append.1 hx
    exact of_joinSteps h hq hs (of_joinStep h hq hs hj step hstep hl) steps hsteps hk

end

/-- **Runs.**  A script that spells out only leaves with `P` keeps an invariant. -/
theorem of_run (h : Invariant P I) (hq : ∀ s, I s → P (.query s)) {script : Script}
    {s t : Statement} (hs : I s) (hx : ∀ x ∈ script.inputs, P x.leaf) (ht : script.run s = .ok t) :
    I t :=
  of_steps h hq hs script hx ht

/-- **Builds.**  What a script builds from an empty statement has every invariant. -/
theorem of_build (h : Invariant P I) (hq : ∀ s, I s → P (.query s)) {script : Script}
    {t : Statement} (hx : ∀ x ∈ script.inputs, P x.leaf) (ht : script.build = .ok t) : I t :=
  h.of_run hq h.new hx ht

end Invariant

end SqlBuilder

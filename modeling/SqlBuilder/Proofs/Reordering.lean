import SqlBuilder.Proofs.Naturality
import SqlBuilder.Proofs.Parts

namespace SqlBuilder

/-!
# Calls in another order

A statement consists of parts that do not know of each other: every call writes one part, and what
it writes there depends on that part only.  So the order of calls counts only among the calls for
one part, and where a call replaces what is there, only the last one counts.

* `Edit.TableBlind` — what is asked of the bodies of groups;
* `WritesAt`, `Edit.writesAt` — what a call does to its part depends on this part only;
* `only_runEdits` — the calls for a part do to it what all the calls do;
* `reordering` — calls with the same order in each part lead to the same text and values.
-/

namespace Part

/-- A call for the part replaces what the calls before it have written. -/
def replaced : Part → Bool
  | .limit | .offset | .assignments => true
  | _ => false

/-- The kind of statement that the part belongs to alone. -/
def kind? : Part → Option Kind
  | .columns | .aggregates => some .select
  | .rows => some .insert
  | .assignments => some .update
  | .deletion => some .delete
  | _ => none

end Part

namespace Edit

/-- The conditions that the body of a group builds, with their values, do not depend on the table of
    the statement around the group. -/
def TableBlind : Edit → Prop
  | .group f _ body => ∀ table table' : String,
    (body { table }).map (fun inner => (inner.conditions f, inner.ledger.get f.clause)) =
      (body { table := table' }).map fun inner => (inner.conditions f, inner.ledger.get f.clause)
  | _ => True

/-- The calls that count for a part. -/
def counted (p : Part) (es : List Edit) : List Edit :=
  let calls := es.filter (·.part? = some p)
  if p.replaced then calls.getLast?.toList else calls

end Edit

/-! ### A statement and its parts -/

namespace Statement

variable (s : Statement)

/-- The statement of this kind with these parts, which asks for no dialect. -/
def assemble (kind : Option Kind) (part : Part → Statement) : Statement where
  kind := kind
  table := (part .source).table
  columns := (part .columns).columns
  aggregates := (part .aggregates).aggregates
  source := (part .source).source
  joins := (part .joins).joins
  wheres := (part .wheres).wheres
  groups := (part .groups).groups
  havings := (part .havings).havings
  orders := (part .orders).orders
  limit := (part .limit).limit
  offset := (part .offset).offset
  assignments := (part .assignments).assignments
  rowColumns := (part .rows).rowColumns
  rows := (part .rows).rows
  skipConflicts := (part .conflicts).skipConflicts
  returning := (part .returning).returning
  ledger :=
    { columns := (part .columns).ledger.columns
      aggregates := (part .aggregates).ledger.aggregates
      source := (part .source).ledger.source
      joins := (part .joins).ledger.joins
      assignments := (part .assignments).ledger.assignments
      rows := (part .rows).ledger.rows
      wheres := (part .wheres).ledger.wheres
      groups := (part .groups).ledger.groups
      havings := (part .havings).ledger.havings
      orders := (part .orders).ledger.orders
      limit := (part .limit).ledger.limit
      offset := (part .offset).ledger.offset }

/-- A statement is put together again from its parts. -/
theorem assemble_only : assemble s.kind s.only = { s with dialect := none } := rfl

variable {s}

/-- A statement that asks for no dialect is known from its kind and its parts. -/
theorem eq_of_only {t : Statement} (hkind : s.kind = t.kind) (h : ∀ p, s.only p = t.only p) :
    { s with dialect := none } = { t with dialect := none } := by
  rw [← assemble_only, ← assemble_only, hkind, funext h]

/-- Whether a row is added, and what is there then, depends on the rows so far only. -/
theorem map_only_addRow {t : Statement} (h : s.only .rows = t.only .rows) (row : Payload) :
    (s.addRow row).map (·.only .rows) = (t.addRow row).map (·.only .rows) := by
  have hcolumns : s.rowColumns = t.rowColumns := congrArg (·.rowColumns) h
  have hrows : s.rows = t.rows := congrArg (·.rows) h
  have hledger : s.ledger.rows = t.ledger.rows := congrArg (·.ledger.rows) h
  rw [addRow, addRow, hcolumns, hrows]
  split
  · simp [Except.map, only, Ledger.add, Ledger.get, Ledger.put, hledger]
  · rfl

theorem map_only_addRows {t : Statement} (h : s.only .rows = t.only .rows) (rows : List Payload) :
    (rows.foldlM addRow s).map (·.only .rows) = (rows.foldlM addRow t).map (·.only .rows) := by
  induction rows generalizing s t with
  | nil => exact congrArg Except.ok h
  | cons row rows ih =>
    have hrow := map_only_addRow h row
    rw [List.foldlM_cons, List.foldlM_cons]
    -- Either both statements refuse the row, or both take it.
    cases hs : s.addRow row <;> cases ht : t.addRow row <;> rw [hs, ht] at hrow
    · exact congrArg Except.error (Except.error.inj hrow)
    · cases hrow
    · cases hrow
    · exact ih (Except.ok.inj hrow)

end Statement

/-! ### What a call writes -/

/-- A call writes one part of a statement, and does so as if there were no other part. -/
structure WritesAt (p : Part) (s : Statement) (f : Statement → Except Error Statement) : Prop where
  others : ∀ q ≠ p, ∀ t, f s = .ok t → t.only q = s.only q
  itself : (f (s.only p)).map (·.only p) = (f s).map (·.only p)

namespace WritesAt

variable {p : Part} {s : Statement} {f : Statement → Except Error Statement}

/-- Something that does not depend on the statement is evaluated, and then the part is written. -/
theorem of_write {α : Type} {r : Except Error α} {g : Statement → α → Statement}
    (hf : ∀ s, f s = r.map (g s))
    (h : ∀ a q, (g s a).only q = if q = p then (g (s.only p) a).only p else s.only q) :
    WritesAt p s f where
  others q hq t ht := by
    obtain ⟨a, _, rfl⟩ := Edit.map_eq_ok ((hf s).symm.trans ht)
    rw [h, if_neg hq]
  itself := by
    rw [hf, hf]
    cases r with
    | error _ => rfl
    | ok a =>
      have ha := h a p
      rw [if_pos rfl] at ha
      exact congrArg Except.ok ha.symm

/-- Nothing is evaluated before the part is written. -/
theorem of_total {g : Statement → Statement} (hf : ∀ s, f s = .ok (g s))
    (h : ∀ q, (g s).only q = if q = p then (g (s.only p)).only p else s.only q) :
    WritesAt p s f :=
  of_write (r := .ok ()) (g := fun s _ => g s) hf fun _ => h

end WritesAt

namespace Edit

variable {e : Edit} {s : Statement}

theorem writesAt_of_test {f : Filter} (h : e.test? = some f) : WritesAt f.part s e.run := by
  obtain ⟨c, _, r, hr⟩ := exists_test h
  exact .of_write hr fun a q => s.only_addCondition q f c a.1 a.2

theorem writesAt_of_joins (h : e.joins = true) : WritesAt .joins s e.run := by
  obtain ⟨r, hr⟩ := exists_join h
  exact .of_write hr fun j q => s.only_addJoin q j

theorem writesAt_insert {rows : List Payload} (h : s.admits .insert = true) :
    WritesAt .rows s (Edit.insert rows).run where
  others q hq t ht := by
    have hpart : (Edit.insert rows).part? ≠ some q := fun h => hq (by cases h; rfl)
    exact only_run_of_ne hpart ht
  itself := by
    have hadmits : (s.only .rows).admits .insert = true := rfl
    rw [run, run, Statement.insert, Statement.insert, if_pos h, if_pos hadmits]
    rw [← map_mapError, ← map_mapError]
    have hsame : { s.only .rows with kind := some .insert }.only .rows =
        { s with kind := some .insert }.only .rows := rfl
    rw [Statement.map_only_addRows hsame]

/-- A group whose body does not depend on the table is built from one body for all statements. -/
theorem run_group {f : Filter} {c : Connector} {body : Statement → Except Error Statement}
    (h : (Edit.group f c body).TableBlind) (s : Statement) :
    (Edit.group f c body).run s = (body {}).map (s.addGroup f c) := by
  have hbody := h s.table ""
  rw [run, Statement.group, Statement.scope]
  cases hs : body { table := s.table } <;> cases ht : body {} <;> rw [hs, ht] at hbody
  · exact congrArg Except.error (Except.error.inj hbody)
  · cases hbody
  · cases hbody
  · obtain ⟨hconditions, hbinds⟩ := Prod.mk.inj (Except.ok.inj hbody)
    refine congrArg Except.ok ?_
    rw [Statement.addGroup, Statement.addGroup, hconditions, hbinds]

/-- A call that is admitted writes its part. -/
theorem writesAt {p : Part} (hp : e.part? = some p) (hblind : e.TableBlind)
    (hkind : ∀ k, e.kind? = some k → s.admits k = true) : WritesAt p s e.run := by
  cases e <;> cases hp
  case fromSource v => exact .of_total (fun _ => rfl) (s.only_fromSource · v)
  case select cs => exact .of_total (fun _ => rfl) (s.only_select · cs (hkind _ rfl))
  case aggregate a => exact .of_total (fun _ => rfl) (s.only_aggregate · a (hkind _ rfl))
  case groupBy cs => exact .of_total (fun _ => rfl) (s.only_groupBy · cs)
  case orderBy column direction =>
    refine .of_write (r := (Direction.check direction).mapError .misuse) (g := fun s d =>
      { s with
        orders := s.orders ++ [⟨column, d⟩]
        ledger := s.ledger.add .orders column.binds }) (fun s => ?_)
      fun d q => s.only_addOrder q _ _
    rw [run, Statement.orderBy]
    cases Direction.check direction <;> rfl
  case limit v => exact .of_total (fun _ => rfl) (s.only_limitTo · v)
  case offset v => exact .of_total (fun _ => rfl) (s.only_offsetBy · v)
  case insert rows => exact writesAt_insert (hkind _ rfl)
  case update payload => exact .of_total (fun _ => rfl) (s.only_update · payload (hkind _ rfl))
  case delete => exact .of_total (fun _ => rfl) (s.only_delete · (hkind _ rfl))
  case skipConflicts => exact .of_total (fun _ => rfl) s.only_skippingConflicts
  case returning cs => exact .of_total (fun _ => rfl) (s.only_returningColumns · cs)
  case group f c body =>
    exact .of_write (run_group hblind) fun inner q => s.only_addGroup q f c inner
  case join | joinWith => exact writesAt_of_joins rfl
  case compare f _ _ _ _ => exact writesAt_of_test (f := f) rfl
  case compareRaw f _ _ => exact writesAt_of_test (f := f) rfl
  all_goals exact writesAt_of_test (f := .wheres) rfl

/-- A call does the same to a part of two statements that have this part in common. -/
theorem exists_run_of_only_eq {p : Part} {s' t : Statement} (hp : e.part? = some p)
    (hblind : e.TableBlind) (hkind : ∀ k, e.kind? = some k → s.admits k = true)
    (hkind' : ∀ k, e.kind? = some k → s'.admits k = true) (hs : s'.only p = s.only p)
    (ht : e.run s = .ok t) : ∃ t', e.run s' = .ok t' ∧ t'.only p = t.only p := by
  have h := (writesAt hp hblind hkind).itself
  have h' := (writesAt hp hblind hkind').itself
  rw [hs, h, ht] at h'
  exact map_eq_ok h'.symm

/-- A call that replaces a part leaves nothing of what was there. -/
theorem only_run_of_replaced {p : Part} {s' t t' : Statement} (hp : e.part? = some p)
    (hreplaced : p.replaced = true) (hkind : ∀ k, e.kind? = some k → s.admits k = true)
    (hkind' : ∀ k, e.kind? = some k → s'.admits k = true) (ht : e.run s = .ok t)
    (ht' : e.run s' = .ok t') : t.only p = t'.only p := by
  cases e with
  | limit v => cases hp; cases ht; cases ht'; rfl
  | offset v => cases hp; cases ht; cases ht'; rfl
  | update payload =>
    cases hp
    cases ht
    cases ht'
    rw [Statement.update, Statement.update, if_pos (hkind _ rfl), if_pos (hkind' _ rfl)]
    rfl
  | compare f _ _ _ _ | compareRaw f _ _ | group f _ _ => cases hp; cases f <;> cases hreplaced
  | withDialect _ => cases hp
  | _ => cases hp; cases hreplaced

end Edit

/-! ### Many calls and the parts -/

namespace Edit

/-- What is asked of calls: they are for one kind of statement, if for any, and the bodies of their
    groups do not heed the table. -/
def Orderly (k : Kind) (e : Edit) : Prop := (∀ l, e.kind? = some l → l = k) ∧ e.TableBlind

variable {k : Kind} {e : Edit} {es : List Edit} {s t : Statement}

theorem Orderly.admits (h : e.Orderly k) (hs : s.admits k = true) :
    ∀ l, e.kind? = some l → s.admits l = true := by
  intro l hl
  rwa [h.1 l hl]

/-- Calls for one kind keep this kind admitted. -/
theorem Orderly.admits_run (h : e.Orderly k) (hs : s.admits k = true) (ht : e.run s = .ok t) :
    t.admits k = true := by
  rw [Statement.admits_iff] at hs ⊢
  intro l hl
  rw [kind_run ht, Option.or_eq_some_iff] at hl
  rcases hl with hl | ⟨_, hl⟩
  · exact hs l hl
  · exact h.1 l hl

theorem admits_runEdits (hes : ∀ e ∈ es, e.Orderly k) (hs : s.admits k = true)
    (ht : runEdits es s = .ok t) : t.admits k = true := by
  induction es generalizing s with
  | nil => cases ht; exact hs
  | cons e es ih =>
    obtain ⟨he, hes⟩ := List.forall_mem_cons.1 hes
    obtain ⟨u, hu, ht⟩ := bind_eq_ok ht
    exact ih hes (he.admits_run hs hu) ht

/-- The calls for a part do to it what all the calls do. -/
theorem only_runEdits {p : Part} {s' : Statement} (hes : ∀ e ∈ es, e.Orderly k)
    (hs : s.admits k = true) (hs' : s'.admits k = true) (hp : s'.only p = s.only p)
    (ht : runEdits es s = .ok t) :
    ∃ t', runEdits (es.filter (·.part? = some p)) s' = .ok t' ∧ t'.only p = t.only p := by
  -- The second run leaves out the calls for other parts, so only the part stays in common.
  induction es generalizing s s' with
  | nil => cases ht; exact ⟨s', rfl, hp⟩
  | cons e es ih =>
    obtain ⟨he, hes⟩ := List.forall_mem_cons.1 hes
    obtain ⟨u, hu, ht⟩ := bind_eq_ok ht
    have hadmits := he.admits_run hs hu
    by_cases hpart : e.part? = some p
    · obtain ⟨u', hu', hup⟩ :=
        exists_run_of_only_eq hpart he.2 (he.admits hs) (he.admits hs') hp hu
      obtain ⟨t', ht', htp⟩ := ih hes hadmits (he.admits_run hs' hu') hup ht
      refine ⟨t', ?_, htp⟩
      rw [List.filter_cons_of_pos (by simpa using hpart), runEdits, hu']
      exact ht'
    · have hup := only_run_of_ne hpart hu
      rw [List.filter_cons_of_neg (by simpa using hpart)]
      exact ih hes hadmits hs' (hp.trans hup.symm) ht

/-- Some call counts for a part exactly if some call writes it. -/
theorem counted_ne_nil_iff {p : Part} : counted p es ≠ [] ↔ ∃ e ∈ es, e.part? = some p := by
  have hfilter : es.filter (·.part? = some p) ≠ [] ↔ ∃ e ∈ es, e.part? = some p := by
    simp [List.filter_eq_nil_iff]
  rw [← hfilter, counted]
  split
  · rw [Ne, Option.toList_eq_nil_iff, List.getLast?_eq_none_iff]
  · rfl

theorem kind?_eq_of_part? {p : Part} (h : e.part? = some p) : e.kind? = p.kind? := by
  cases e with
  | compare f _ _ _ _ | compareRaw f _ _ | group f _ _ => cases h; cases f <;> rfl
  | withDialect _ => cases h
  | _ => cases h; rfl

/-- A call that is for a kind writes a part. -/
theorem exists_part (h : e.kind? ≠ none) : ∃ p, e.part? = some p := by
  cases e with
  | withDialect _ => exact absurd rfl h
  | _ => exact ⟨_, rfl⟩

variable {fs : List Edit}

/-- If the same calls count for each part, the same kind is settled, if any. -/
theorem findSome?_kind?_of_counted (hes : ∀ e ∈ es, e.Orderly k) (hfs : ∀ e ∈ fs, e.Orderly k)
    (h : ∀ p, counted p es = counted p fs) {l : Kind} (hl : es.findSome? kind? = some l) :
    fs.findSome? kind? = some l := by
  obtain ⟨e, he, hkind⟩ := List.exists_of_findSome?_eq_some hl
  obtain ⟨p, hp⟩ := exists_part (e := e) (by simp [hkind])
  obtain ⟨e', he', hp'⟩ := counted_ne_nil_iff.1 (h p ▸ counted_ne_nil_iff.2 ⟨e, he, hp⟩)
  have hkind' : e'.kind? = some l := by
    rw [kind?_eq_of_part? hp', ← kind?_eq_of_part? hp, hkind]
  -- Some call settles the kind, and no call is for another one.
  cases hm : fs.findSome? kind? with
  | none => exact absurd (List.findSome?_eq_none_iff.1 hm e' he') (by simp [hkind'])
  | some m =>
    obtain ⟨e'', he'', hkind''⟩ := List.exists_of_findSome?_eq_some hm
    rw [(hfs e'' he'').1 m hkind'', (hes e he).1 l hkind]

/-- After calls that replace a part, the part is what the last of them has written. -/
theorem only_eq_of_getLast? {p : Part} (hreplaced : p.replaced = true) {s₀ : Statement}
    (h₀ : s₀.admits k = true) (hes : ∀ e ∈ es, e.Orderly k ∧ e.part? = some p)
    (hfs : ∀ e ∈ fs, e.Orderly k ∧ e.part? = some p) (hs : runEdits es s₀ = .ok s)
    (ht : runEdits fs s₀ = .ok t) (h : es.getLast? = fs.getLast?) : s.only p = t.only p := by
  rcases List.eq_nil_or_concat es with rfl | ⟨es, e, rfl⟩
  · obtain rfl : fs = [] := by simpa using h.symm
    rw [hs] at ht
    rw [Except.ok.inj ht]
  · rcases List.eq_nil_or_concat fs with rfl | ⟨fs, e', rfl⟩
    · simp at h
    · obtain rfl : e = e' := by simpa using h
      rw [List.concat_eq_append, runEdits_append] at hs ht
      obtain ⟨u, hu, hs⟩ := bind_eq_ok hs
      obtain ⟨v, hv, ht⟩ := bind_eq_ok ht
      obtain ⟨_, hs, hs'⟩ := bind_eq_ok hs
      obtain ⟨_, ht, ht'⟩ := bind_eq_ok ht
      cases hs'
      cases ht'
      -- The calls before the last one lead to statements that admit it.
      have hu := admits_runEdits (fun e he => (hes e (by simp [he])).1) h₀ hu
      have hv := admits_runEdits (fun e he => (hfs e (by simp [he])).1) h₀ hv
      obtain ⟨horderly, hpart⟩ := hes e (by simp)
      exact only_run_of_replaced hpart hreplaced (horderly.admits hu) (horderly.admits hv) hs ht

/-- Two lists of calls lead to the same part if the same calls count for it. -/
theorem only_eq_of_counted {p : Part} {s₀ : Statement} (h₀ : s₀.admits k = true)
    (hes : ∀ e ∈ es, e.Orderly k) (hfs : ∀ e ∈ fs, e.Orderly k) (hs : runEdits es s₀ = .ok s)
    (ht : runEdits fs s₀ = .ok t) (h : counted p es = counted p fs) : s.only p = t.only p := by
  obtain ⟨s', hs', hsp⟩ := only_runEdits (p := p) hes h₀ h₀ rfl hs
  obtain ⟨t', ht', htp⟩ := only_runEdits (p := p) hfs h₀ h₀ rfl ht
  rw [← hsp, ← htp]
  rw [counted, counted] at h
  split at h
  · rename_i hreplaced
    have hfilter : ∀ {gs : List Edit}, (∀ e ∈ gs, e.Orderly k) →
        ∀ e ∈ gs.filter (·.part? = some p), e.Orderly k ∧ e.part? = some p := by
      intro gs hgs e he
      obtain ⟨he, hpart⟩ := List.mem_filter.1 he
      exact ⟨hgs e he, by simpa using hpart⟩
    have hlast := congrArg List.head? h
    rw [Option.head?_toList, Option.head?_toList] at hlast
    exact only_eq_of_getLast? hreplaced h₀ (hfilter hes) (hfilter hfs) hs' ht' hlast
  · rw [h, ht'] at hs'
    rw [Except.ok.inj hs']

end Edit

/-- What dialect is asked for is not seen in the text. -/
theorem Statement.compile_setDialect (s : Statement) (d : Dialect) (pin : Option Dialect) :
    { s with dialect := pin }.compile d = s.compile d := by
  have htokens : { s with dialect := pin }.tokens = s.tokens := by
    cases s
    simp only [tokens]
  rw [compile, compile, htokens]

open Edit

/-- **Reordering.**  Take two lists of calls on a new statement that both come to an end, with all
    calls that are for a kind for the same one, and with groups whose bodies do not heed the table.
    If they have the same calls in the same order in each part, or the same last call where a call
    replaces what is there, the statements have the same text in every dialect, the same values and
    the same table.  Calls that ask for a dialect may differ. -/
theorem reordering {k : Kind} {es fs : List Edit} {s t : Statement}
    (hs : runEdits es .new = .ok s) (ht : runEdits fs .new = .ok t)
    (hkind : ∀ e ∈ es ++ fs, ∀ l, e.kind? = some l → l = k)
    (hgroups : ∀ e ∈ es ++ fs, e.TableBlind) (h : ∀ p, counted p es = counted p fs) :
    (∀ d, s.compile d = t.compile d) ∧ s.data = t.data ∧ s.table = t.table := by
  have hes : ∀ e ∈ es, e.Orderly k := fun e he =>
    ⟨hkind e (List.mem_append_left _ he), hgroups e (List.mem_append_left _ he)⟩
  have hfs : ∀ e ∈ fs, e.Orderly k := fun e he =>
    ⟨hkind e (List.mem_append_right _ he), hgroups e (List.mem_append_right _ he)⟩
  have hsettled : s.kind = t.kind := by
    rw [kind_runEdits hs, kind_runEdits ht]
    refine congrArg _ (Option.ext fun l => ⟨findSome?_kind?_of_counted hes hfs h, ?_⟩)
    exact findSome?_kind?_of_counted hfs hes fun p => (h p).symm
  have hsame : { s with dialect := none } = { t with dialect := none } :=
    Statement.eq_of_only hsettled fun p => only_eq_of_counted rfl hes hfs hs ht (h p)
  refine ⟨fun d => ?_, ?_, ?_⟩
  · rw [← s.compile_setDialect d none, hsame, t.compile_setDialect]
  · have hdata : { s with dialect := none }.data = { t with dialect := none }.data := by rw [hsame]
    exact hdata
  · have htable : { s with dialect := none }.table = { t with dialect := none }.table := by
      rw [hsame]
    exact htable

/-- The conditions of a group, built without a look at the table. -/
def shuffledGroup : Statement → Except Error Statement := runEdits
  [.compareRaw .havings .and ⟨"a > ?", [.int64 1]⟩, .fromSource (.table "elsewhere"),
   .isNull .or (.name "lost") false, .compare .havings .or (.name "b") "like" (.bind (.int64 2))]

/-- A query in some order, with limits that are replaced. -/
def shuffledCalls : List Edit :=
  [.limit (.bind (.int64 3)), .compare .wheres .or (.name "c") "=" (.bind (.int64 4)),
   .fromSource (.raw ⟨"f(?)", [.int64 5]⟩), .group .havings .and shuffledGroup,
   .select [.raw ⟨"?", [.int64 6]⟩], .withDialect .postgres, .isNull .or (.name "d") true,
   .limit (.bind (.int64 7)), .fromSource (.table "g h"), .orderBy (.name "i") "asc",
   .join .left (.name "j") "j.k" "<>" "g.k", .select [.name "l"]]

/-- The same query part by part. -/
def sortedCalls : List Edit :=
  [.select [.raw ⟨"?", [.int64 6]⟩], .select [.name "l"],
   .fromSource (.raw ⟨"f(?)", [.int64 5]⟩), .fromSource (.table "g h"),
   .join .left (.name "j") "j.k" "<>" "g.k",
   .compare .wheres .or (.name "c") "=" (.bind (.int64 4)), .isNull .or (.name "d") true,
   .group .havings .and shuffledGroup, .orderBy (.name "i") "asc", .limit (.bind (.int64 7))]

theorem reordering_shuffledCalls :
    ∃ s t, runEdits shuffledCalls .new = .ok s ∧ runEdits sortedCalls .new = .ok t ∧
      (∀ p, counted p shuffledCalls = counted p sortedCalls) ∧
      (∀ d, s.compile d = t.compile d) ∧ s.data = t.data ∧ s.table = t.table ∧
      t.table = "g h" ∧ t.data = [.int64 6, .int64 4, .int64 1, .int64 2, .int64 7] := by
  have hs : runEdits shuffledCalls .new = .ok _ := rfl
  have ht : runEdits sortedCalls .new = .ok _ := rfl
  have hkind : ∀ e ∈ shuffledCalls ++ sortedCalls, ∀ l, e.kind? = some l → l = .select := by
    simp [shuffledCalls, sortedCalls, kind?]
  have hgroup : (Edit.group .havings .and shuffledGroup).TableBlind := fun _ _ => rfl
  have hgroups : ∀ e ∈ shuffledCalls ++ sortedCalls, e.TableBlind := by
    simpa [shuffledCalls, sortedCalls, TableBlind] using hgroup
  have hcounted : ∀ p, counted p shuffledCalls = counted p sortedCalls := by
    intro p
    cases p <;> rfl
  obtain ⟨htext, hdata, htable⟩ := reordering hs ht hkind hgroups hcounted
  exact ⟨_, _, hs, ht, hcounted, htext, hdata, htable, rfl, rfl⟩

end SqlBuilder

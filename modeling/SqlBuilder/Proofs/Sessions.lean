import Mathlib.Data.List.Induction
import SqlBuilder.Dialect.Registry
import SqlBuilder.Statement.Build

namespace SqlBuilder

/-!
# What a session remembers

A program registers dialects, looks them up, selects the default one and writes statements, in any
order.  What it meets is told here by the calls that it has made, without a registry.

* `Action`, `Command`, `Command.perform` — the calls, step by step;
* `Command.run_select`, `Command.run_write` — the two calls that can fail, in one piece;
* `known?` — the dialect of a name after some calls;
* `Chosen` — the dialect that was selected last, as its name stood at that moment;
* `find?_after`, `default_after_eq_some_iff` — this is what the session holds;
* `selection` — what a call gives back after any others, and the session that it leaves behind.
-/

/-- A computation on a session. What it has done before it fails stays done. -/
abbrev Action (α : Type) := ExceptT Misuse (StateM Session) α

namespace Action

/-- Reports an event. -/
def report (e : Event) : Action Unit := modify fun s => { s with events := s.events ++ [e] }

/-- Makes a dialect the default one. -/
def setDefault (d : Dialect) : Action Unit := modify fun s => { s with default := some d }

/-- What a computation gives back, and the session that it leaves behind. -/
def exec {α : Type} (x : Action α) (s : Session) : Except Misuse α × Session := x.run.run s

variable {α β : Type} (s : Session)

theorem exec_get_bind (f : Session → Action α) : exec (get >>= f) s = exec (f s) s := rfl

/-- A computation without a session comes first; if it fails, the session stays. -/
theorem exec_lift_bind (x : Except Misuse α) (f : α → Action β) :
    exec (liftM x >>= f) s =
      match x with
      | .ok a => exec (f a) s
      | .error m => (.error m, s) := by
  cases x <;> rfl

end Action

/-! ### Calls -/

/-- A call on a session. -/
inductive Command where
  | register (name : String) (d : Dialect)
  | find (name : String)
  | select (name : String)
  | write (s : Statement)

/-- What a call gives back. -/
inductive Answer where
  | done
  | found (d : Option Dialect)
  | text (sql : String)

namespace Command

/-- The steps of a call. A selection is reported before it is made. -/
def perform : Command → Action Answer
  | register name d => do
    modify (·.register name d)
    return .done
  | find name => return .found ((← get).registry.find? name)
  | select name => do
    let some d := (← get).registry.find? name | throw (.unknownDialect name)
    Action.report (.selected name)
    Action.setDefault d
    return .done
  | write st => do
    let d ← (← get).dialectFor st
    let sql ← st.compile d
    Action.report (.compiled d.name sql)
    return .text sql

/-- What a call gives back, and the session that it leaves behind. -/
def run (c : Command) (s : Session) : Except Misuse Answer × Session := c.perform.exec s

variable (s : Session)

/-- A selection takes place in whole or not at all. -/
theorem run_select (name : String) :
    run (.select name) s =
      match s.selectDialect name with
      | .ok t => (.ok .done, t)
      | .error m => (.error m, s) := by
  rw [run, perform, Action.exec_get_bind, Session.selectDialect]
  cases s.registry.find? name <;> rfl

/-- A statement is written and reported, or nothing happens. -/
theorem run_write (st : Statement) :
    run (.write st) s =
      match s.dialectFor st with
      | .error m => (.error m, s)
      | .ok d =>
        match st.compile d with
        | .error m => (.error m, s)
        | .ok sql =>
          (.ok (.text sql), { s with events := s.events ++ [.compiled d.name sql] }) := by
  rw [run, perform, Action.exec_get_bind, Action.exec_lift_bind]
  cases s.dialectFor st with
  | error m => rfl
  | ok d =>
    dsimp only
    rw [Action.exec_lift_bind]
    cases st.compile d <;> rfl

/-- The text that is given back is that of the statement in the session. -/
theorem fst_run_write (st : Statement) : (run (.write st) s).1 = (s.compile st).map .text := by
  rw [run_write, Session.compile]
  cases s.dialectFor st with
  | error m => rfl
  | ok d =>
    have hcompile : (Except.ok d >>= fun d => st.compile d) = st.compile d := rfl
    dsimp only
    rw [hcompile]
    cases st.compile d <;> rfl

/-- Nothing but the events changes when a statement is written. -/
theorem snd_run_write (st : Statement) :
    ∃ es, (run (.write st) s).2 = { s with events := s.events ++ es } := by
  have hnothing : s = { s with events := s.events ++ [] } := by rw [List.append_nil]
  rw [run_write]
  cases s.dialectFor st with
  | error m => exact ⟨[], hnothing⟩
  | ok d =>
    dsimp only
    cases st.compile d with
    | error m => exact ⟨[], hnothing⟩
    | ok sql => exact ⟨_, rfl⟩

/-- The dialect that a call registers under a name. -/
def registers? (name : String) : Command → Option Dialect
  | register n d => if name = n then some d else none
  | _ => none

/-- The dialect that a call makes the default one of a session. -/
def selects? (s : Session) : Command → Option Dialect
  | select name => s.registry.find? name
  | _ => none

/-- A registration is found under its name; all other calls leave the registry as it is. -/
theorem find?_run (c : Command) (name : String) :
    (c.run s).2.registry.find? name = (c.registers? name).or (s.registry.find? name) := by
  cases c with
  | register n d =>
    refine (Registry.find?_register s.registry n name d).trans ?_
    rw [registers?]
    split <;> rfl
  | find name => rfl
  | select n =>
    rw [run_select, Session.selectDialect]
    cases s.registry.find? n <;> rfl
  | write st =>
    obtain ⟨es, hes⟩ := snd_run_write s st
    rw [hes]
    rfl

/-- A selection settles the default dialect; all other calls leave it as it is. -/
theorem default_run (c : Command) : (c.run s).2.default = (c.selects? s).or s.default := by
  cases c with
  | register name d => rfl
  | find name => rfl
  | select name =>
    rw [run_select, Session.selectDialect, selects?]
    cases s.registry.find? name <;> rfl
  | write st =>
    obtain ⟨es, hes⟩ := snd_run_write s st
    rw [hes]
    rfl

end Command

/-! ### Many calls -/

open Command

/-- The session after some calls. -/
def Session.after (cs : List Command) : Session := cs.foldl (fun s c => (c.run s).2) {}

/-- The names that need no registration. -/
def builtIn? : String → Option Dialect
  | "mysql" => some .mysql
  | "postgres" | "pgsql" => some .postgres
  | "sqlite3" | "sqlite" => some .sqlite
  | _ => none

/-- The dialect of a name after some calls: the one that was last registered under it, else the one
    that is built in. -/
def known? (cs : List Command) (name : String) : Option Dialect :=
  (cs.filterMap (registers? name)).getLast?.or (builtIn? name)

/-- The dialect that a call selects after some other calls. -/
def selected? (cs : List Command) : Command → Option Dialect
  | .select name => known? cs name
  | _ => none

/-- The dialect was selected, and none was selected after it. Calls that fail select none. -/
def Chosen (cs : List Command) (d : Dialect) : Prop :=
  ∃ before c later, cs = before ++ c :: later ∧ selected? before c = some d ∧
    ∀ middle c' rest, later = middle ++ c' :: rest → selected? (before ++ c :: middle) c' = none

theorem find?_builtIn (name : String) : Registry.builtIn.find? name = builtIn? name := by
  unfold builtIn?
  split
  case h_6 hmysql hpostgres hpgsql hsqlite3 hsqlite =>
    simpa [Registry.builtIn, Registry.find?] using
      ⟨hmysql, hpostgres, hpgsql, hsqlite3, hsqlite⟩
  all_goals rfl

theorem known?_concat (cs : List Command) (c : Command) (name : String) :
    known? (cs ++ [c]) name = (c.registers? name).or (known? cs name) := by
  rw [known?, known?, List.filterMap_append, List.getLast?_append]
  cases h : c.registers? name <;> simp [h]

theorem after_concat (cs : List Command) (c : Command) :
    Session.after (cs ++ [c]) = (c.run (Session.after cs)).2 := by
  simp [Session.after]

/-- A list that ends in an item, taken apart at one of its items. -/
theorem concat_eq_append_cons {α : Type} {xs before later : List α} {x y : α}
    (h : xs ++ [x] = before ++ y :: later) :
    (xs = before ∧ x = y ∧ later = []) ∨
      ∃ later', later = later' ++ [x] ∧ xs = before ++ y :: later' := by
  rcases List.eq_nil_or_concat later with rfl | ⟨later, z, rfl⟩
  · obtain ⟨hxs, hx⟩ := List.append_inj' h rfl
    exact .inl ⟨hxs, by simpa using hx, rfl⟩
  · rw [List.concat_eq_append, ← List.cons_append, ← List.append_assoc] at h
    obtain ⟨hxs, hx⟩ := List.append_inj' h rfl
    obtain rfl : x = z := by simpa using hx
    exact .inr ⟨later, by simp, hxs⟩

theorem chosen_concat (cs : List Command) (c : Command) (d : Dialect) :
    Chosen (cs ++ [c]) d ↔ selected? cs c = some d ∨ selected? cs c = none ∧ Chosen cs d := by
  constructor
  · rintro ⟨before, c', later, h, hselected, hlater⟩
    rcases concat_eq_append_cons h with ⟨rfl, rfl, -⟩ | ⟨later, rfl, rfl⟩
    · exact .inl hselected
    · refine .inr ⟨hlater later c [] rfl, before, c', later, rfl, hselected, ?_⟩
      intro middle c'' rest hmiddle
      exact hlater middle c'' (rest ++ [c]) (by simp [hmiddle])
  · rintro (hselected | ⟨hnone, before, c', later, rfl, hselected, hlater⟩)
    · exact ⟨cs, c, [], rfl, hselected, by simp⟩
    · refine ⟨before, c', later ++ [c], by simp, hselected, ?_⟩
      intro middle c'' rest h
      rcases concat_eq_append_cons h with ⟨rfl, rfl, -⟩ | ⟨rest, rfl, hlater'⟩
      · exact hnone
      · exact hlater middle c'' rest hlater'

/-- The registry holds what the calls before have registered, and what is built in. -/
theorem find?_after (cs : List Command) (name : String) :
    (Session.after cs).registry.find? name = known? cs name := by
  induction cs using List.reverseRecOn with
  | nil => exact find?_builtIn name
  | append_singleton cs c ih => rw [after_concat, find?_run, ih, known?_concat]

/-- The default dialect is the one that was selected last. -/
theorem default_after_eq_some_iff (cs : List Command) (d : Dialect) :
    (Session.after cs).default = some d ↔ Chosen cs d := by
  induction cs using List.reverseRecOn with
  | nil => simp [Session.after, Chosen]
  | append_singleton cs c ih =>
    have hselects : c.selects? (Session.after cs) = selected? cs c := by
      cases c with
      | select name => exact find?_after cs name
      | _ => rfl
    rw [after_concat, default_run, hselects, chosen_concat, Option.or_eq_some_iff, ih]

/-- The dialect of a statement is the one that it asks for, else the default one. -/
theorem Session.dialectFor_eq (s : Session) (st : Statement) :
    s.dialectFor st = (st.dialect.or s.default).elim (.error .noDialect) .ok := by
  rw [dialectFor, Option.orElse_eq_orElse, Option.orElse_eq_or]
  cases st.dialect.or s.default <;> rfl

open Session

/-- **Selection.**  After any calls, a name has the dialect that was last registered under it, or
    else the built-in one.  The default dialect is the one that was selected last, as its name stood
    at that moment; registering the name again does not change it.  Selecting a name without a
    dialect fails and does nothing.  Any other selection makes the dialect of the name the default
    one, and is reported once.  The text of a statement is the one in the dialect that it asks for,
    else in the default one; without either there is none. -/
theorem selection (cs : List Command) :
    (∀ name, run (.find name) (after cs) = (.ok (.found (known? cs name)), after cs)) ∧
    (∀ d, (after cs).default = some d ↔ Chosen cs d) ∧
    (∀ name d, (after (cs ++ [.register name d])).default = (after cs).default) ∧
    (∀ name, known? cs name = none →
      run (.select name) (after cs) = (.error (.unknownDialect name), after cs)) ∧
    (∀ name d, known? cs name = some d →
      run (.select name) (after cs) =
        (.ok .done,
          { after cs with
            default := some d
            events := (after cs).events ++ [.selected name] })) ∧
    (∀ st d, st.dialect = some d ∨ st.dialect = none ∧ Chosen cs d →
      (run (.write st) (after cs)).1 = (st.compile d).map .text) ∧
    (∀ st, st.dialect = none → (∀ d, ¬ Chosen cs d) →
      (run (.write st) (after cs)).1 = .error .noDialect) := by
  have hdefault := default_after_eq_some_iff cs
  refine ⟨fun name => ?_, hdefault, fun name d => ?_, fun name h => ?_, fun name d h => ?_,
    fun st d h => ?_, fun st h hnone => ?_⟩
  · rw [← find?_after]
    rfl
  · rw [after_concat]
    rfl
  · rw [run_select, selectDialect, find?_after, h]
  · rw [run_select, selectDialect, find?_after, h]
  · have hd : st.dialect.or (after cs).default = some d := by
      rwa [Option.or_eq_some_iff, hdefault]
    rw [fst_run_write, Session.compile, dialectFor_eq, hd]
    rfl
  · have hopen : (after cs).default = none :=
      Option.eq_none_iff_forall_ne_some.2 fun d hd => hnone d ((hdefault d).1 hd)
    have hd : st.dialect.or (after cs).default = none := Option.or_eq_none_iff.2 ⟨h, hopen⟩
    rw [fst_run_write, Session.compile, dialectFor_eq, hd]
    rfl

/-- Calls that give a built-in name another dialect, before and after it is selected, and that
    select a name without a dialect. -/
def overriddenNames : List Command :=
  [.register "mysql" .postgres, .select "mysql", .register "mysql" .sqlite, .select "oracle",
   .find "mysql"]

/-- A query with a value, for the dialect of the session. -/
def boundedQuery : Statement := Statement.new.limitTo (.bind (.int64 1))

theorem selection_overriddenNames :
    Chosen overriddenNames .postgres ∧
      (run (.find "mysql") (after overriddenNames)).1 = .ok (.found (some .sqlite)) ∧
      run (.select "oracle") (after overriddenNames) =
        (.error (.unknownDialect "oracle"), after overriddenNames) ∧
      (run (.select "mysql") (after overriddenNames)).2.default = some .sqlite ∧
      (run (.select "mysql") (after overriddenNames)).2.events =
        [.selected "mysql", .selected "mysql"] ∧
      (run (.write boundedQuery) (after overriddenNames)).1 = .ok (.text "SELECT * LIMIT $1") ∧
      (run (.write (boundedQuery.withDialect .mysql)) (after overriddenNames)).1 =
        .ok (.text "SELECT * LIMIT ?") ∧
      (run (.write boundedQuery) (after [])).1 = .error .noDialect := by
  obtain ⟨hfind, hdefault, _, hunknown, hselect, hwrite, _⟩ := selection overriddenNames
  have hchosen : Chosen overriddenNames .postgres := (hdefault _).1 rfl
  have hmysql : known? overriddenNames "mysql" = some .sqlite := rfl
  have hnone : ∀ d, ¬ Chosen [] d := by
    rintro d ⟨_, _, _, h, _⟩
    simp at h
  have hpostgres : boundedQuery.compile .postgres = .ok "SELECT * LIMIT $1" := rfl
  have hpinned : (boundedQuery.withDialect .mysql).compile .mysql = .ok "SELECT * LIMIT ?" := rfl
  refine ⟨hchosen, ?_, hunknown "oracle" rfl, ?_, ?_, ?_, ?_, ?_⟩
  · rw [hfind, hmysql]
  · rw [hselect _ _ hmysql]
  · rw [hselect _ _ hmysql]
    rfl
  · rw [hwrite _ _ (.inr ⟨rfl, hchosen⟩), hpostgres]
    rfl
  · rw [hwrite _ _ (.inl rfl), hpinned]
    rfl
  · exact (selection []).2.2.2.2.2.2 _ rfl hnone

end SqlBuilder

import SqlBuilder.Event
import SqlBuilder.Statement.Tokens

namespace SqlBuilder

/-!
# Dialects by name

* `Registry` — dialects under their names; a later registration of a name hides the earlier ones;
* `Registry.builtIn` — five names for the three built-in dialects;
* `Session` — a registry, the default dialect and the events so far;
* `Session.selectDialect` — makes a registered dialect the default one;
* `Session.compile` — the text of a statement in the dialect that it asks for, else in the default.
-/

/-- Dialects under their names, the latest registration first. -/
structure Registry where
  entries : List (String × Dialect)

namespace Registry

/-- The names that are always known. -/
def builtIn : Registry where
  entries :=
    [("mysql", .mysql), ("postgres", .postgres), ("pgsql", .postgres), ("sqlite3", .sqlite),
     ("sqlite", .sqlite)]

/-- The registry with a dialect under a name. -/
def register (r : Registry) (name : String) (d : Dialect) : Registry :=
  ⟨(name, d) :: r.entries⟩

/-- The dialect of a name. -/
def find? (r : Registry) (name : String) : Option Dialect := r.entries.lookup name

/-- A registration is found under its name and changes no other. -/
theorem find?_register (r : Registry) (name other : String) (d : Dialect) :
    (r.register name d).find? other = if other = name then some d else r.find? other := by
  by_cases h : other = name
  · simp [register, find?, h]
  · simp [register, find?, h, List.lookup_cons, beq_eq_false_iff_ne.2 h]

end Registry

/-- What a program has set up so far. -/
structure Session where
  registry : Registry := .builtIn
  default : Option Dialect := none
  events : List Event := []

namespace Session

/-- Registers a dialect. The default one stays what it was. -/
def register (s : Session) (name : String) (d : Dialect) : Session :=
  { s with registry := s.registry.register name d }

/-- Makes a registered dialect the default one and reports it. -/
def selectDialect (s : Session) (name : String) : Except Misuse Session :=
  match s.registry.find? name with
  | some d => .ok { s with default := some d, events := s.events ++ [.selected name] }
  | none => .error (.unknownDialect name)

/-- The dialect of a statement: the one it asks for, else the default one. -/
def dialectFor (s : Session) (st : Statement) : Except Misuse Dialect :=
  match st.dialect <|> s.default with
  | some d => .ok d
  | none => .error .noDialect

/-- The text of a statement in its dialect. -/
def compile (s : Session) (st : Statement) : Except Misuse String := do
  st.compile (← s.dialectFor st)

/-- The text of a statement and its values. -/
def build (s : Session) (st : Statement) : Except Misuse (String × List Bind) := do
  return (← s.compile st, st.data)

end Session

end SqlBuilder

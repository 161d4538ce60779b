import SqlBuilder.Bind.Display

namespace SqlBuilder

/-!
# Events

* `Event` — what the library reports while it works;
* `Event.level`, `Event.target`, `Event.fields` — its form in a log.
-/

/-- How much an event matters. -/
inductive Level where
  | trace
  | debug
  | info
  deriving DecidableEq, Repr

/-- The name of a level. -/
def Level.text : Level → String
  | .trace => "TRACE"
  | .debug => "DEBUG"
  | .info => "INFO"

/-- What the library reports. -/
inductive Event where
  /-- A statement was written in a dialect. -/
  | compiled (dialect sql : String)
  /-- A statement is about to be executed. -/
  | executing (sql : String) (binds : List Bind)
  /-- A default dialect was selected by name. -/
  | selected (name : String)
  deriving DecidableEq

namespace Event

/-- How much the event matters. -/
def level : Event → Level
  | compiled .. => .trace
  | executing .. => .debug
  | selected .. => .info

/-- The part of the library that reports. -/
def target : Event → String
  | compiled .. => "sqlxfluent::compile"
  | executing .. => "sqlxfluent::sql"
  | selected .. => "sqlxfluent::registry"

/-- The fields of the record. -/
def fields : Event → List (String × String)
  | compiled dialect sql =>
    [("dialect", dialect), ("message", "compiled statement"), ("sql", sql)]
  | executing sql binds =>
    [("binds", Bind.displayAll binds), ("message", "executing statement"), ("sql", sql)]
  | selected name => [("grammar", name), ("message", "default grammar selected")]

end Event

end SqlBuilder

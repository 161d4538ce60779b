import SqlBuilder.Dialect.Identifier

namespace SqlBuilder

/-!
# Dialects

* `Dialect` — all that differs from one database's SQL to another's;
* `Dialect.mysql`, `Dialect.postgres`, `Dialect.sqlite` — the three that are built in.
-/

/-- How one database writes SQL. The defaults are those of the standard. -/
structure Dialect where
  /-- The name under which the dialect reports itself. -/
  name : String
  /-- A quoted identifier. -/
  quote : String → String
  /-- The place for the value of this number, counted from 1. -/
  placeholder : Nat → String
  /-- A path such as `users.id`, quoted part by part. -/
  wrapName : String → String := Identifier.dotted quote
  /-- The verb of an `INSERT`; the flag asks to pass over rows in conflict. -/
  insertVerb : Bool → String := fun _ => "INSERT"
  /-- What follows the rows of an `INSERT`; the flag as before. -/
  onConflict : Bool → String := fun _ => ""
  /-- Whether an `INSERT` can end in `RETURNING`. -/
  supportsReturning : Bool := true

namespace Dialect

/-- MySQL quotes with backquotes and cannot return columns of an inserted row. -/
def mysql : Dialect where
  name := "mysql"
  quote := Identifier.quoteWith '`'
  placeholder _ := "?"
  insertVerb skip := if skip then "INSERT IGNORE" else "INSERT"
  supportsReturning := false

/-- PostgreSQL numbers its places and has casts in names. -/
def postgres : Dialect where
  name := "postgres"
  quote := Identifier.quoteWith '"'
  placeholder n := "$" ++ toString n
  wrapName := Identifier.dottedWithCast (Identifier.quoteWith '"')
  onConflict skip := if skip then "ON CONFLICT DO NOTHING" else ""

/-- SQLite. -/
def sqlite : Dialect where
  name := "sqlite3"
  quote := Identifier.quoteWith '"'
  placeholder _ := "?"
  insertVerb skip := if skip then "INSERT OR IGNORE" else "INSERT"

end Dialect

end SqlBuilder

import SqlBuilder.Dialect.Basic
import SqlBuilder.Error

namespace SqlBuilder

/-!
# Drivers

* `Driver` — the kinds of database that can be reached;
* `Driver.ofUrl`, `Driver.ofSetting` — the driver that a URL asks for;
* `Driver.dialect` — the dialect that it understands.
-/

/-- A kind of database. -/
inductive Driver where
  | mysql
  | postgres
  | sqlite
  deriving DecidableEq, Repr

namespace Driver

/-- How the URLs of a driver start. -/
def schemes : Driver → List String
  | mysql => ["mysql://", "mariadb://"]
  | postgres => ["postgres://", "postgresql://"]
  | sqlite => ["sqlite://", "sqlite:"]

/-- The URL starts with one of the schemes of the driver. -/
def serves (d : Driver) (url : String) : Bool :=
  d.schemes.any fun scheme => scheme.toList.isPrefixOf url.toList

/-- The driver of a URL. -/
def ofUrl (url : String) : Except Failure Driver :=
  match [mysql, postgres, sqlite].find? (·.serves url) with
  | some d => .ok d
  | none => .error (.unsupportedDatabase url)

/-- The driver of the URL in the setting `DATABASE_URL`. -/
def ofSetting : Option String → Except Failure Driver
  | some url => ofUrl url
  | none => .error (.configuration "DATABASE_URL is not set")

/-- The name of the driver. -/
def name : Driver → String
  | mysql => "mysql"
  | postgres => "postgres"
  | sqlite => "sqlite3"

/-- The dialect that the driver understands. -/
def dialect : Driver → Dialect
  | mysql => .mysql
  | postgres => .postgres
  | sqlite => .sqlite

end Driver

end SqlBuilder

import SqlBuilder.Database.Backend

namespace SqlBuilder

/-!
# Connection pools

What a pool does before it reaches a database. Only pools that are closed are described to the end:
they hand out no connection.

* `Pool` — a driver and the pools that are there, of which only its own is used;
* `Pool.closed` — a pool of one driver after it was closed;
* `Pool.acquire` — the failure to get a connection;
* `Pool.backend` — the pool as a connection: it reports the statement and then fails;
* `Pool.beginTransaction`, `Pool.chunk` — a transaction, and a query read in portions.
-/

/-- A closed pool of connections. -/
structure Pool where
  driver : Driver
  /-- The drivers for which a pool is there. -/
  opened : List Driver

namespace Pool

/-- The closed pool of one driver. -/
def closed (d : Driver) : Pool := ⟨d, [d]⟩

/-- There is a pool for the driver. -/
def has (p : Pool) (d : Driver) : Bool := p.opened.contains d

/-- Why no connection is handed out. -/
def acquire (p : Pool) : Failure := if p.has p.driver then .database .poolClosed else .noPool

/-- The answer to a statement: it is reported before a connection is asked for. -/
def refuse {α : Type} (p : Pool) (sql : String) (binds : List Bind) : Response α where
  result := .error p.acquire
  events := [.executing sql binds]

/-- The pool as a connection. -/
def backend (p : Pool) (ρ : Type) : Backend ρ where
  driver := p.driver
  exec := p.refuse
  fetchAll := p.refuse
  fetchOptional := p.refuse

/-- Begins a transaction; nothing is written for it. -/
def beginTransaction (p : Pool) : Report Unit := { result := .error (.failure p.acquire) }

/-- Runs a query for its rows in portions. -/
def chunk (p : Pool) (s : Statement) : Report Unit :=
  .ofStatement p.driver s .stream p.refuse .ok

end Pool

end SqlBuilder

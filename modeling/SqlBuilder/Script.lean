import SqlBuilder.Json.Parser
import SqlBuilder.Payload.OfJson
import SqlBuilder.Statement.Build
import SqlBuilder.Statement.Filters
import SqlBuilder.Statement.Joins

namespace SqlBuilder

/-!
# Scripts

A script is a list of calls on a statement, kept as data. The bodies of groups and sub-queries are
scripts themselves.

* `Step` — one call with its arguments;
* `Operand`, `Origin`, `Members`, `JoinStep`, `PayloadTerm` — arguments that may need a statement of
  their own;
* `Step.run`, `Script.run` — the effect on a statement. The arguments of a call are evaluated from
  left to right before the call itself; the first error ends the script.
-/

mutual

/-- One call. -/
inductive Step where
  /-- Starts again with an empty statement. -/
  | new
  /-- Starts again with a source. -/
  | table (source : Origin)
  | fromSource (source : Origin)
  | withDialect (d : Dialect)
  | select (columns : List Column)
  | aggregate (a : Aggregate)
  | groupBy (columns : List Column)
  | orderBy (column : Column) (direction : String)
  | limit (value : Operand)
  | offset (value : Operand)
  | insert (rows : List PayloadTerm)
  | update (payload : PayloadTerm)
  | delete
  | skipConflicts
  | returning (columns : List String)
  | compare (f : Filter) (c : Connector) (column : Column) (operator : String) (value : Operand)
  | compareRaw (f : Filter) (c : Connector) (fragment : Fragment)
  | group (f : Filter) (c : Connector) (body : List Step)
  | among (c : Connector) (column : Column) (members : Members) (negated : Bool)
  | between (c : Connector) (column : Column) (low high : Operand) (negated : Bool)
  | isNull (c : Connector) (column : Column) (negated : Bool)
  | join (kind : JoinKind) (table : Column) (first operator second : String)
  | joinWith (kind : JoinKind) (table : Column) (body : List JoinStep)
  /-- The steps several times over. -/
  | times (n : Nat) (body : List Step)

/-- A value, or the script of a sub-query. -/
inductive Operand where
  | bind (b : Bind)
  | raw (f : Fragment)
  /-- The script starts with an empty statement. -/
  | query (body : List Step)
  /-- The script starts with the statement on which the call is made. -/
  | self (body : List Step)

/-- A source, or the script of a sub-query. -/
inductive Origin where
  | table (name : String)
  | raw (f : Fragment)
  | query (body : List Step)
  | self (body : List Step)

/-- The members for a test of membership: values, or the script of a sub-query. -/
inductive Members where
  | values (vs : List Operand)
  | query (body : List Step)
  | self (body : List Step)

/-- A call on a join under construction. -/
inductive JoinStep where
  | on (c : Connector) (first : Column) (operator : String) (second : Column)
  | compare (c : Connector) (column : Column) (operator : String) (value : Operand)

/-- A payload: columns with values, or JSON. -/
inductive PayloadTerm where
  | columns (entries : List (String × Operand))
  | json (value : Json)

end

/-- A list of calls, in order. -/
abbrev Script := List Step

/-- `f` applied `n` times, as far as it succeeds. -/
def iterate {ε α : Type} (f : α → Except ε α) : Nat → α → Except ε α
  | 0, a => .ok a
  | n + 1, a => do iterate f n (← f a)

mutual

/-- The effect of a call on a statement. -/
def Step.run : Step → Statement → Except Error Statement
  | .new, _ => .ok .new
  | .table source, s => do return .ofSource (← source.eval s)
  | .fromSource source, s => do return s.fromSource (← source.eval s)
  | .withDialect d, s => .ok (s.withDialect d)
  | .select columns, s => .ok (s.select columns)
  | .aggregate a, s => .ok (s.aggregate a)
  | .groupBy columns, s => .ok (s.groupBy columns)
  | .orderBy column direction, s => (s.orderBy column direction).mapError .misuse
  | .limit value, s => do return s.limitTo (← value.eval s)
  | .offset value, s => do return s.offsetBy (← value.eval s)
  | .insert rows, s => do (s.insert (← evalRows rows s)).mapError .misuse
  | .update payload, s => do return s.update (← payload.eval s)
  | .delete, s => .ok s.delete
  | .skipConflicts, s => .ok s.skippingConflicts
  | .returning columns, s => .ok (s.returningColumns columns)
  | .compare f c column operator value, s => do
    (s.compare f c column operator (← value.eval s)).mapError .misuse
  | .compareRaw f c fragment, s => .ok (s.compareRaw f c fragment)
  | .group f c body, s => s.group f c (runAll body)
  | .among c column (.values vs) negated, s => do
    return s.among c column (← evalValues vs s) negated
  | .among c column (.query body) negated, s => do
    return s.amongQuery c column (← runAll body .new) negated
  | .among c column (.self body) negated, s => do
    return s.amongQuery c column (← runAll body s) negated
  | .between c column low high negated, s => do
    return s.between c column (← low.eval s) (← high.eval s) negated
  | .isNull c column negated, s => .ok (s.isNull c column negated)
  | .join kind table first operator second, s =>
    (s.join kind table first operator second).mapError .misuse
  | .joinWith kind table body, s => do
    return s.addJoin (← runJoin body s (JoinDraft.start kind table))
  | .times n body, s => iterate (runAll body) n s

/-- The effect of a script on a statement. -/
def runAll : List Step → Statement → Except Error Statement
  | [], s => .ok s
  | step :: steps, s => do runAll steps (← step.run s)

/-- The value of an operand of a call on `s`. -/
def Operand.eval : Operand → Statement → Except Error Value
  | .bind b, _ => .ok (.bind b)
  | .raw f, _ => .ok (.raw f)
  | .query body, _ => do return .query (← runAll body .new)
  | .self body, s => do return .query (← runAll body s)

/-- The source for a call on `s`. -/
def Origin.eval : Origin → Statement → Except Error Source
  | .table name, _ => .ok (.table name)
  | .raw f, _ => .ok (.raw f)
  | .query body, _ => do return .query (← runAll body .new)
  | .self body, s => do return .query (← runAll body s)

/-- The values of the operands of a call on `s`. -/
def evalValues : List Operand → Statement → Except Error (List Value)
  | [], _ => .ok []
  | v :: vs, s => do return (← v.eval s) :: (← evalValues vs s)

/-- The columns and values of a payload for a call on `s`. -/
def evalEntries : List (String × Operand) → Statement → Except Error (List (String × Value))
  | [], _ => .ok []
  | (column, v) :: entries, s => do return (column, ← v.eval s) :: (← evalEntries entries s)

/-- The payload for a call on `s`. -/
def PayloadTerm.eval : PayloadTerm → Statement → Except Error Payload
  | .columns entries, s => do return .ofList (← evalEntries entries s)
  | .json value, _ => (Payload.ofJson value).mapError .failure

/-- The rows for a call on `s`. -/
def evalRows : List PayloadTerm → Statement → Except Error (List Payload)
  | [], _ => .ok []
  | p :: ps, s => do return (← p.eval s) :: (← evalRows ps s)

/-- The effect of a call on a join that is made for `s`. -/
def JoinStep.run : JoinStep → Statement → JoinDraft → Except Error JoinDraft
  | .on c first operator second, _, j => (j.on c first operator second).mapError .misuse
  | .compare c column operator value, s, j => do
    (j.compare c column operator (← value.eval s)).mapError .misuse

/-- The effect of a list of calls on a join that is made for `s`. -/
def runJoin : List JoinStep → Statement → JoinDraft → Except Error JoinDraft
  | [], _, j => .ok j
  | step :: steps, s, j => do runJoin steps s (← step.run s j)

end

/-- The effect of a script on a statement. -/
def Script.run (script : Script) (s : Statement) : Except Error Statement := runAll script s

/-- The statement that a script builds from an empty one. -/
def Script.build (script : Script) : Except Error Statement := script.run .new

end SqlBuilder

import TypedSql.Proofs.Connection.Run

/-!
# Recorded connections

A connection can be watched without changing what it does: every request is
kept with its answer, in the order in which they were made.
-/

namespace TypedSql

/-- A request with its answer. -/
inductive Exchange where
  | query (sql : String) (parameters : List Datum)
      (answer : Except String (List Row))
  | exec (sql : String) (parameters : List Datum) (answer : Except String Nat)
  | commit (answer : Except String Unit)
  | tableExists (name : String) (answer : Except String Bool)

def Exchange.request : Exchange → Request
  | .query sql parameters _ => .query sql parameters
  | .exec sql parameters _ => .exec sql parameters
  | .commit _ => .commit
  | .tableExists name _ => .tableExists name

namespace Connection

variable {σ α : Type}

/-- Performs an action, and keeps it with its answer. -/
def record (exchange : Except String α → Exchange)
    (action : EngineM σ String α) :
    EngineM (σ × List Exchange) String α :=
  ExceptT.mk fun (state, exchanges) =>
    let (answer, after) := action.run.run state
    (answer, after, exchanges ++ [exchange answer])

def recorded (connection : Connection σ) :
    Connection (σ × List Exchange) where
  query sql parameters :=
    record (.query sql parameters) (connection.query sql parameters)
  exec sql parameters :=
    record (.exec sql parameters) (connection.exec sql parameters)
  commit := record .commit connection.commit
  tableExists name := record (.tableExists name) (connection.tableExists name)

theorem record_run {exchange : Except String α → Exchange}
    {action : EngineM σ String α} {state after : σ}
    {answer : Except String α}
    (answered : action.run.run state = (answer, after))
    (exchanges : List Exchange) :
    (record exchange action).run.run (state, exchanges) =
      (answer, after, exchanges ++ [exchange answer]) := by
  have unfolded :
      (record exchange action).run.run (state, exchanges) =
        ((action.run.run state).1, (action.run.run state).2,
          exchanges ++ [exchange (action.run.run state).1]) := rfl
  rw [unfolded, answered]

end Connection

end TypedSql

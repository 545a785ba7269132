/-!
# Connection options

A connection is described by the path of its database and by whether foreign
keys are enforced.  Both may come from the environment, under the names
`SQL_DATABASE` and `SQL_FOREIGN_KEYS`.
-/

namespace TypedSql

structure ConnectionOptions where
  /-- Path of the database file, or `:memory:`. -/
  database : String
  /-- `on` or `off`, or a synonym. -/
  foreignKeys : String
deriving DecidableEq, Repr

namespace ConnectionOptions

/-- A database with foreign keys enforced. -/
def ofDatabase (database : String) : ConnectionOptions :=
  { database := database, foreignKeys := "on" }

/-- The options given by environment variables: a private database in memory
with foreign keys enforced, unless they say otherwise. -/
def ofEnvironment (lookup : String → Option String) : ConnectionOptions :=
  { database := (lookup "SQL_DATABASE").getD ":memory:"
    foreignKeys := (lookup "SQL_FOREIGN_KEYS").getD "on" }

/-- Why a connection cannot be made. -/
inductive Fault where
  | unopenable
  | invalidForeignKeys (lowered : String)
deriving DecidableEq, Repr

def Fault.message : Fault → String
  | .unopenable => "failed to open SQLite database"
  | .invalidForeignKeys lowered =>
      "invalid SQL_FOREIGN_KEYS value '" ++ lowered ++ "'; expected on or off"

/-- Whether foreign keys are enforced.  ASCII letters count in either case. -/
def enforcesForeignKeys (options : ConnectionOptions) : Except Fault Bool :=
  let lowered := options.foreignKeys.map Char.toLower
  if ["on", "true", "1"].contains lowered then .ok true
  else if ["off", "false", "0"].contains lowered then .ok false
  else .error (.invalidForeignKeys lowered)

/-- Opens the database, and only then looks at the foreign keys.  Whether they
are enforced is the result. -/
def connect (options : ConnectionOptions) (canOpen : String → Bool) :
    Except Fault Bool :=
  if canOpen options.database then options.enforcesForeignKeys
  else .error .unopenable

end ConnectionOptions

end TypedSql

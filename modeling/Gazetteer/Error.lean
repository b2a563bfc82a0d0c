/-
Gazetteer.Error — what can go wrong, as causes, and the wording of each.

Three kinds of failure are kept apart. A `ConfigError` stops a resolver from
starting. A `PoolError` is the failure to get a connection. A `StoreError` is
the failure of one operation on a database; a lookup never returns one, it can
only carry one beside the location it found.
-/
namespace Gazetteer

/-- Why a resolver cannot be built. -/
inductive ConfigError where
  | missingDatasource
  | invalidCacheSize (given : Int)
  | invalidPoolSize (given : Int)
  | invalidWorkers (given : Int)
  /-- The name is kept as it was given, white space included. -/
  | unknownResolver (name : String)
  | cannotOpen (path : String)
  | missingTable (path table : String)
  deriving DecidableEq, Repr

/-- Why a pool hands out no connection. -/
inductive PoolError where
  | timeout
  | cannotOpen
  deriving DecidableEq, Repr

/-- Why an operation on a database failed. -/
inductive StoreError where
  | pool (cause : PoolError)
  | query
  | invalidBlock (text : String)
  deriving DecidableEq, Repr

/-- The wording of a configuration error. -/
def ConfigError.message : ConfigError → String
  | missingDatasource => "datasource is required"
  | invalidCacheSize given => "cache size must be positive, got " ++ toString given
  | invalidPoolSize given => "pool size must be positive, got " ++ toString given
  | invalidWorkers given => "worker count must be positive, got " ++ toString given
  | unknownResolver name => "unknown resolver: " ++ name
  | cannotOpen path => "cannot open datasource " ++ path
  | missingTable path table => "datasource " ++ path ++ " is missing table " ++ table

def PoolError.message : PoolError → String
  | timeout => "timed out waiting for a pooled connection"
  | cannotOpen => "cannot open connection"

/-- The wording of a store error; that of a pool error passes through unchanged. -/
def StoreError.message : StoreError → String
  | pool cause => cause.message
  | query => "query failed"
  | invalidBlock text => "invalid CIDR block: " ++ text

end Gazetteer

/-
Gazetteer.Configuration — the settings of the command line, from the environment.

Six variables stand for the six settings of a resolver and are read in a fixed
order, whatever order the environment has them in. Then the number of workers
is read. The name of the address field is taken as it is, and the presence of
`DEBUG` alone asks for more detail in the log.
-/
import Gazetteer.Settings

namespace Gazetteer

/-- The settings of the command line. -/
structure Configuration where
  settings : Settings
  /-- How many lines are looked up at once. -/
  workers : Nat
  /-- The field of an event that holds its address. -/
  addressField : String
  debug : Bool
  deriving DecidableEq, Repr

namespace Configuration

def defaultWorkers : Nat := 8

/-- The variables of the settings, in the order in which they are read. -/
def settingVariables : List (String × Settings.Key) := [
  ("GEOENRICH_RESOLVER", .resolver),
  ("GEOENRICH_DATASOURCE", .datasource),
  ("GEOENRICH_CACHE_SIZE", .cacheSize),
  ("GEOENRICH_CACHE_ENABLED", .cacheEnabled),
  ("GEOENRICH_PERSIST_RESULTS", .persists),
  ("GEOENRICH_POOL_SIZE", .poolSize)]

def workersVariable : String := "GEOENRICH_WORKERS"

def addressFieldVariable : String := "GEOENRICH_IP_FIELD"

/-- The variable that asks for detail. -/
def debugVariable : String := "DEBUG"

/-- The pairs of the variables that are set. -/
def pairs (environment : String → Option String) : List (String × String) :=
  settingVariables.filterMap fun (name, key) =>
    (environment name).map fun value => (key.name, value)

def readWorkers (value? : Option String) : Except ConfigError Nat × List Notice :=
  match value? with
  | none => (.ok defaultWorkers, [])
  | some value => Settings.readSize workersVariable value defaultWorkers .invalidWorkers

def load (environment : String → Option String) : Except ConfigError Configuration × List Notice :=
  match Settings.ofPairs (pairs environment) with
  | (.error cause, notices) => (.error cause, notices)
  | (.ok settings, notices) =>
    match readWorkers (environment workersVariable) with
    | (.error cause, more) => (.error cause, notices ++ more)
    | (.ok workers, more) =>
      (.ok {
        settings
        workers
        addressField := (environment addressFieldVariable).getD "ip"
        debug := (environment debugVariable).isSome }, notices ++ more)

end Configuration

end Gazetteer

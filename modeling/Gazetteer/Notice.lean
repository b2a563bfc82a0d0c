/-
Gazetteer.Notice — what is reported while the program goes on.

A notice is a warning or an error that stops nothing: a setting that fell back
to its default, an address that could not be read, a database that failed a
lookup. `line` is its wording behind its severity.
-/
namespace Gazetteer

/-- A report that stops nothing. -/
inductive Notice where
  /-- A setting is not an integer; `fallback` is used. The value is kept untrimmed. -/
  | notInteger (value key : String) (fallback : Nat)
  /-- A setting is not a boolean; `true` is used. -/
  | notBoolean (value key : String)
  /-- A location was found but not written back. -/
  | notSaved
  /-- A connection came back to its pool inside a transaction. -/
  | leakedTransaction
  | unreadableAddress
  | noConnection
  | unreadableDatabase
  deriving DecidableEq, Repr

/-- How grave a notice is. -/
inductive Severity where
  | warning
  | error
  deriving DecidableEq, Repr

namespace Notice

/-- How grave a notice is. -/
def severity : Notice → Severity
  | notInteger .. | notBoolean .. | notSaved | leakedTransaction => .warning
  | unreadableAddress | noConnection | unreadableDatabase => .error

/-- The wording of a notice. -/
def text : Notice → String
  | notInteger value key fallback =>
      "the config '" ++ value ++ "' provided in '" ++ key
        ++ "' is not a valid integer, using the default '" ++ toString fallback ++ "'"
  | notBoolean value key =>
      "the config '" ++ value ++ "' provided in '" ++ key
        ++ "' is not a valid boolean, using the default 'true'"
  | notSaved => "cannot save the location to database"
  | leakedTransaction => "discarding connection left inside a transaction"
  | unreadableAddress => "cannot parse the IP address"
  | noConnection => "cannot get a database connection"
  | unreadableDatabase => "cannot retrieve the location from database"

/-- The wording of a notice behind its severity. -/
def line (notice : Notice) : String :=
  (match notice.severity with
    | .warning => "WARN "
    | .error => "ERROR ") ++ notice.text

end Notice

end Gazetteer

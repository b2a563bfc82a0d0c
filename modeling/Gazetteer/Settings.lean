/-
Gazetteer.Settings — the settings of a resolver, from pairs of keys and values.

Pairs are read one by one; a later pair of a key overrides an earlier one, and
unknown keys mean nothing. A size that is no integer and a switch that is no
boolean fall back to the default with a notice. A size that is an integer but
not positive, and a resolver with an unknown name, are errors, and nothing is
read after the first error.
-/
import Gazetteer.Notice
import Gazetteer.Error
import Gazetteer.Text.Blank
import Gazetteer.Text.Numeral

namespace Gazetteer

/-- What kind of store a resolver looks addresses up in. -/
inductive ResolverKind where
  /-- Tables of address ranges. -/
  | relational
  /-- A MaxMind database file. -/
  | maxMind
  deriving DecidableEq, Repr

namespace ResolverKind

def name : ResolverKind → String
  | relational => "rdbms"
  | maxMind => "maxmind"

/-- The kind that a name stands for, in any case and with white space around it. -/
def ofName (name : String) : Except ConfigError ResolverKind :=
  let word := (Text.trim name).toLower
  if word = "rdbms" ∨ word = "sqlite" then .ok relational
  else if word = "maxmind" ∨ word = "mmdb" then .ok maxMind
  else .error (.unknownResolver name)

end ResolverKind

/-- The settings of a resolver. -/
structure Settings where
  resolver : ResolverKind
  cacheSize : Nat
  cacheEnabled : Bool
  persists : Bool
  datasource : Option String
  poolSize : Nat
  deriving DecidableEq, Repr

namespace Settings

def defaultCacheSize : Nat := 10000

def defaultPoolSize : Nat := 8

/-- The settings that no pair changed. -/
def standard : Settings where
  resolver := .relational
  cacheSize := defaultCacheSize
  cacheEnabled := true
  persists := true
  datasource := none
  poolSize := defaultPoolSize

/-- The names of the settings. -/
inductive Key where
  | resolver
  | datasource
  | cacheSize
  | cacheEnabled
  | persists
  | poolSize
  deriving DecidableEq, Repr

def Key.name : Key → String
  | resolver => "resolver"
  | datasource => "datasource"
  | cacheSize => "cacheSize"
  | cacheEnabled => "isCacheEnabled"
  | persists => "isPersistInDatabase"
  | poolSize => "poolSize"

def Key.all : List Key := [resolver, datasource, cacheSize, cacheEnabled, persists, poolSize]

def Key.ofName? (name : String) : Option Key := all.find? fun key => key.name == name

/-- Read a size: the number written, if it is positive; the error of the setting with the number
written, if it is not; the default with a notice, if no number is written. -/
def readSize (key value : String) (fallback : Nat) (invalid : Int → ConfigError) :
    Except ConfigError Nat × List Notice :=
  match Text.int64? (Text.trimChars value.toList) with
  | some n => if 0 < n then (.ok n.toNat, []) else (.error (invalid n), [])
  | none => (.ok fallback, [.notInteger value key fallback])

/-- Read a switch; anything but a boolean counts as on, with a notice. -/
def readSwitch (key value : String) : Bool × List Notice :=
  let word := (Text.trim value).toLower
  if word = "true" ∨ word = "1" then (true, [])
  else if word = "false" ∨ word = "0" then (false, [])
  else (true, [.notBoolean value key])

/-- Read a datasource; a blank one is none. -/
def readDatasource (value : String) : Option String :=
  let path := Text.trim value
  if path.isEmpty then none else some path

/-- The settings after one pair. -/
def set (s : Settings) (key value : String) : Except ConfigError Settings × List Notice :=
  match Key.ofName? key with
  | none => (.ok s, [])
  | some .resolver => ((ResolverKind.ofName value).map fun resolver => { s with resolver }, [])
  | some .datasource => (.ok { s with datasource := readDatasource value }, [])
  | some .cacheSize =>
    let (size, notices) := readSize key value defaultCacheSize .invalidCacheSize
    (size.map fun cacheSize => { s with cacheSize }, notices)
  | some .poolSize =>
    let (size, notices) := readSize key value defaultPoolSize .invalidPoolSize
    (size.map fun poolSize => { s with poolSize }, notices)
  | some .cacheEnabled =>
    let (cacheEnabled, notices) := readSwitch key value
    (.ok { s with cacheEnabled }, notices)
  | some .persists =>
    let (persists, notices) := readSwitch key value
    (.ok { s with persists }, notices)

/-- The settings after some pairs, up to the first error. -/
def setAll (s : Settings) : List (String × String) → Except ConfigError Settings × List Notice
  | [] => (.ok s, [])
  | (key, value) :: pairs =>
    match s.set key value with
    | (.error cause, notices) => (.error cause, notices)
    | (.ok s, notices) =>
      let (result, more) := s.setAll pairs
      (result, notices ++ more)

def ofPairs (pairs : List (String × String)) : Except ConfigError Settings × List Notice :=
  standard.setAll pairs

end Settings

end Gazetteer

/-
Gazetteer.Store.Operation — what a store on a location database can be asked to do.

A store performs an operation in one piece, and reports. Between two operations
anything may happen to the world.
-/
import Gazetteer.Store.Relational

namespace Gazetteer.Store

/-- What a store can be asked to do. -/
inductive Operation where
  | createTables
  | putPlace (place : Database.Place)
  | addBlock (block : String) (place : Int)
  | resolve (address : String)

/-- What a store reports. -/
inductive Report where
  | written (result : Except StoreError Unit)
  | found (answer : Option Resolved)

/-- A location was found and could not be written back. -/
def Report.isUnsaved : Report → Bool
  | written _ => false
  | found answer => answer.any (·.writeBack.isFailed)

namespace Relational

/-- Perform an operation. -/
def operate (s : Relational) (w : World) : Operation → Report × Relational × World
  | .createTables => let (result, s, w) := s.createTables w; (.written result, s, w)
  | .putPlace place => let (result, s, w) := s.putPlace w place; (.written result, s, w)
  | .addBlock block place => let (result, s, w) := s.addBlock w block place; (.written result, s, w)
  | .resolve address => let (answer, s, w) := s.resolve w address; (.found answer, s, w)

/-- Perform some operations, each after something has happened to the world. -/
def operateAll (s : Relational) (w : World) : List ((World → World) × Operation) → Relational × World
  | [] => (s, w)
  | (change, operation) :: rest =>
    let (_, s, w) := s.operate (change w) operation
    s.operateAll w rest

end Relational

end Gazetteer.Store

/-
Gazetteer.Session — stores, services and pipelines by name, in one working folder.

An action works on a session and may fail: because a name leads to nothing of
the kind it needs, because a store or service cannot be built, or because a
store fails. A failed action still leaves behind what it did on the way, such
as a file that came into being. A name that an action was to give is given only
if the action succeeds. A store that neither a name nor a service in use leads to
any more is closed. `perform` takes one action and hands out the notices given
during it.
-/
import Gazetteer.CommandLine
import Gazetteer.Database.Edit
import Gazetteer.Disk.Edit
import Gazetteer.Pipeline
import Gazetteer.Session.Shelf

namespace Gazetteer

/-- A service and the number of the store behind it. -/
structure Session.Front where
  service : Service
  store : Nat

/-- Named stores, services and pipelines in one working folder. -/
structure Session where
  world : World
  stores : Session.Shelf Store
  services : Session.Shelf Session.Front
  /-- The pipelines; an instance is the number of a service. -/
  pipelines : Session.Shelf (Pipeline Nat)
  /-- The services that pipelines have given out, in the order of their first time. -/
  instances : List Nat

namespace Session

/-- Why an action fails. -/
inductive Failure where
  /-- No store, service or pipeline of the kind needed has the name. -/
  | unknownName
  | configuration (cause : ConfigError)
  | store (cause : StoreError)
  deriving DecidableEq, Repr

/-- A session in which nothing has been made. -/
def start : Session := ⟨.start, .empty, .empty, .empty, []⟩

/-- Something done in a session. -/
abbrev Action (α : Type) := ExceptT Failure (StateM Session) α

/-- The services in use: those with a name, those that pipelines run, and those that pipelines have
given out. -/
def servicesInUse (s : Session) : List Nat :=
  s.services.namedNumbers ++ s.pipelines.named.filterMap (·.running) ++ s.instances

/-- The stores in use: those with a name, and those behind services in use. -/
def storesInUse (s : Session) : List Nat :=
  s.stores.namedNumbers ++ (s.servicesInUse.filterMap s.services.get?).map (·.store)

/-- The session with a store closed. -/
def closeStore (s : Session) (number : Nat) : Session :=
  match s.stores.get? number with
  | none => s
  | some store =>
    let (store, world) := store.close s.world
    { s with world, stores := s.stores.set number store }

/-- The session with all stores closed that are not in use. -/
def sweep (s : Session) : Session :=
  let inUse := s.storesInUse
  ((List.range s.stores.things.length).filter (· ∉ inUse)).foldl closeStore s

/-- Do something; the result, the notices given meanwhile, and the session after it. -/
def perform {α : Type} (action : Action α) (s : Session) :
    Except Failure α × List Notice × Session :=
  let (result, s) := action.run { s with world := { s.world with notices := [] } }
  (result, s.world.notices, s.sweep)

/-- A step on the world. -/
def inWorld {α : Type} (step : World → α × World) : Action α := do
  let s ← get
  let (result, world) := step s.world
  set { s with world }
  return result

/-- A result, or its error. -/
def orFail {ε α : Type} (failure : ε → Failure) : Except ε α → Action α
  | .error cause => throw (failure cause)
  | .ok result => return result

/-- What a name led to, if it led to anything. -/
def orUnknown {α : Type} : Option α → Action α
  | none => throw .unknownName
  | some result => return result

/-! ## Names -/

/-- Put a store on the shelf under a name. -/
def addStore (name : String) (store : Store) : Action Unit :=
  modify fun s =>
    let (number, stores) := s.stores.add store
    { s with stores := stores.name name number }

def storeNumber (name : String) : Action Nat := do orUnknown ((← get).stores.number? name)

def withStore {α : Type} (number : Nat) (step : Store → World → α × Store × World) : Action α := do
  let s ← get
  let (result, store, world) := step (← orUnknown (s.stores.get? number)) s.world
  set { s with world, stores := s.stores.set number store }
  return result

/-- Put a service on the shelf under a name. -/
def addService (name : String) (service : Service) (store : Nat) : Action Unit :=
  modify fun s =>
    let (number, services) := s.services.add ⟨service, store⟩
    { s with services := services.name name number }

def nameService (name : String) (number : Nat) : Action Unit :=
  modify fun s => { s with services := s.services.name name number }

def serviceNumber (name : String) : Action Nat := do orUnknown ((← get).services.number? name)

def serviceAt (number : Nat) : Action Front := do orUnknown ((← get).services.get? number)

/-! ## Stores -/

/-- Open a location database under a name. -/
def openStore (name path : String) (options : Store.Options) : Action Unit := do
  let result ← inWorld fun w => Store.Relational.openExisting w path options
  addStore name (.relational (← orFail .configuration result))

/-- Open a location database under a name and make the tables that it lacks. -/
def createStore (name path : String) (options : Store.Options) : Action Unit := do
  let result ← inWorld fun w => Store.Relational.create w path options
  addStore name (.relational (← orFail .configuration result))

def openMaxMind (name path : String) : Action Unit := do
  let result ← inWorld fun w => (Store.openFile w path, w)
  addStore name (← orFail .configuration result)

def loadMaxMind (name : String) (bytes : ByteArray) : Action Unit := do
  addStore name (← orFail .configuration (Store.openBytes "<memory>" (some bytes)))

def fixStore (name : String) (answers : List (String × Resolved)) : Action Unit :=
  addStore name (.fixed (.ofAnswers answers))

def buildStore (name : String) (settings : Settings) : Action Unit := do
  addStore name (← orFail .configuration (← inWorld (Store.ofSettings settings)))

/-- An operation on the location database under a name. -/
def onTables {α : Type} (name : String)
    (operate : Store.Relational → World → Except StoreError α × Store.Relational × World) :
    Action α := do
  let result ← withStore (← storeNumber name) fun store w =>
    match store with
    | .relational tables =>
      let (result, tables, w) := operate tables w
      (some result, .relational tables, w)
    | other => (none, other, w)
  orFail .store (← orUnknown result)

/-- Make the tables that a location database lacks. -/
def createTables (store : String) : Action Unit := onTables store fun s w => s.createTables w

/-- Write the record of a place. -/
def putPlace (store : String) (place : Database.Place) : Action Unit :=
  onTables store fun s w => s.putPlace w place

def addBlock (store block : String) (place : Int) : Action Unit :=
  onTables store fun s w => s.addBlock w block place

/-- Look an address up in the store of a number. -/
def lookupAt (store : Nat) (address : String) : Action (Option Resolved) :=
  withStore store fun s w => s.resolve w address

/-- Look an address up in a store. -/
def lookup (store address : String) : Action (Option Resolved) := do
  lookupAt (← storeNumber store) address

/-- What several lookups of one address found. -/
structure Together where
  /-- What the first of them found. -/
  location : Option Location
  /-- All of them found the same. -/
  areSame : Bool
  persisted : Nat
  failed : Nat
  deriving DecidableEq, Repr

/-- What some answers have found. -/
def Together.ofAnswers (answers : List (Option Resolved)) : Together :=
  let locations := answers.map fun answer => answer.map (·.location)
  let location := locations.head?.join
  { location
    areSame := locations.all (· == location)
    persisted := answers.countP (·.any (·.writeBack == .persisted))
    failed := answers.countP (·.any (·.writeBack.isFailed)) }

/-- Look an address up several times in a store. -/
def lookupTogether (store address : String) (count : Nat) : Action Together := do
  let number ← storeNumber store
  return .ofAnswers (← (List.replicate count address).mapM (lookupAt number))

/-- The texts that a store with fixed answers has been asked for, in order. -/
def asked (store : String) : Action (List String) := do
  match (← get).stores.get? (← storeNumber store) with
  | some (.fixed answers) => return answers.asked
  | _ => throw .unknownName

/-! ## Services -/

/-- Put a service in front of a store, under a name. -/
def createService (name store : String) (cacheSize : Nat) (cacheEnabled : Bool) : Action Unit := do
  let number ← storeNumber store
  let service ← orFail .configuration (Service.create cacheSize cacheEnabled)
  addService name service number

/-- A new service in front of the store of a number, as settings ask for; the service's number. -/
def buildInFront (store : Nat) (settings : Settings) (s : Session) :
    Except ConfigError Nat × Session :=
  match Service.create settings.cacheSize settings.cacheEnabled with
  | .error cause => (.error cause, s)
  | .ok service =>
    let (number, services) := s.services.add ⟨service, store⟩
    (.ok number, { s with services })

/-- A new store as settings ask for, and a service in front of it; the service's number. -/
def build (settings : Settings) (s : Session) : Except ConfigError Nat × Session :=
  match Store.ofSettings settings s.world with
  | (.error cause, world) => (.error cause, { s with world })
  | (.ok store, world) =>
    let (number, stores) := s.stores.add store
    buildInFront number settings { s with world, stores }

/-- Build a service with the store that settings ask for, under a name. -/
def buildService (name : String) (settings : Settings) : Action Unit := do
  let (result, s) := build settings (← get)
  set s
  nameService name (← orFail .configuration result)

def resolve (service address : String) : Action Location := do
  let number ← serviceNumber service
  let front ← serviceAt number
  let (location, service) ← withStore front.store fun store w =>
    let (location, service, store, w) := front.service.resolve Store.ask address (store, w)
    ((location, service), store, w)
  modify fun s => { s with services := s.services.set number { front with service } }
  return location

def serviceOf (name : String) : Action Service := do
  return (← serviceAt (← serviceNumber name)).service

/-! ## Pipelines -/

def createPipeline (name : String) (settings : Settings) : Action Unit :=
  modify fun s =>
    let (number, pipelines) := s.pipelines.add (.create settings)
    { s with pipelines := pipelines.name name number }

def pipelineOf (name : String) : Action (Nat × Pipeline Nat) := do
  let s ← get
  let number ← orUnknown (s.pipelines.number? name)
  return (number, ← orUnknown (s.pipelines.get? number))

/-- The number of a service among those that pipelines have given out; it gets a name if one is
wanted. -/
def giveOut (name? : Option String) (service : Nat) : Action Nat := do
  if let some name := name? then nameService name service
  let s ← get
  match s.instances.idxOf? service with
  | some instanceNumber => return instanceNumber
  | none =>
    set { s with instances := s.instances ++ [service] }
    return s.instances.length

/-- Start a pipeline with a way to build its service. -/
def startWith (pipeline : String) (name? : Option String)
    (build : Settings → Session → Except ConfigError Nat × Session) : Action Nat := do
  let (number, p) ← pipelineOf pipeline
  let (result, p, s) := p.start build (← get)
  set { s with pipelines := s.pipelines.set number p }
  giveOut name? (← orFail .configuration result)

/-- Start a pipeline with the store that its settings ask for. -/
def startPipeline (pipeline : String) (name? : Option String) : Action Nat :=
  startWith pipeline name? build

/-- Start a pipeline in front of a store. -/
def startInFront (pipeline store : String) (name? : Option String) : Action Nat := do
  let number ← storeNumber store
  startWith pipeline name? (buildInFront number)

def runningService (pipeline : String) (name? : Option String) : Action (Option Nat) := do
  match (← pipelineOf pipeline).2.running with
  | none => return none
  | some service => return some (← giveOut name? service)

def isRunning (pipeline : String) : Action Bool := do return (← pipelineOf pipeline).2.isRunning

/-- Stop a pipeline; whether it was running. -/
def stop (pipeline : String) : Action Bool := do
  let (number, p) ← pipelineOf pipeline
  let (wasRunning, p) := p.stop
  modify fun s => { s with pipelines := s.pipelines.set number p }
  return wasRunning

/-! ## The working folder -/

/-- Change the working folder from outside. -/
def edit (change : Disk → Disk) : Action Unit :=
  modify fun s => { s with world := { s.world with disk := change s.world.disk } }

/-- Change a database file from outside. -/
def editDatabase (path : String) (change : Database → Database) : Action Unit :=
  edit fun disk => disk.editDatabase path change

/-- Put a trigger, or none, in the place of the one before in a database file. -/
def replaceTrigger (path : String) (trigger : Option Database.Trigger) : Action Unit := do
  editDatabase path (Database.setTrigger none)
  editDatabase path (Database.setTrigger trigger)

def rows (path name : String) : Action (List (List Database.Cell)) := do
  let db? ← inWorld fun w =>
    let (db?, disk) := w.disk.readDatabase path
    (db?, { w with disk })
  return db?.elim [] (·.listing name)

/-- Run the program in the working folder; its notices and its memory stay its own. -/
def runProgram (environment : String → Option String) (input : List UInt8) :
    Action CommandLine.Report :=
  inWorld fun w =>
    let (report, after) :=
      CommandLine.run environment input { w with disk := { w.disk with commons := [] } }
    (report,
      { after with disk := { after.disk with commons := w.disk.commons }, notices := w.notices })

end Session

end Gazetteer

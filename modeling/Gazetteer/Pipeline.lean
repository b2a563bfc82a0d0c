/-
Gazetteer.Pipeline — one resolver for each period between start and stop.

A pipeline holds at most one running instance. Starting builds one only while
none is running; otherwise the running one is given out, whatever the caller
had in mind. A build that fails leaves the pipeline stopped. Stopping lets go of
the instance, which goes on for whoever still holds it.
-/
import Gazetteer.Settings

namespace Gazetteer

/-- A pipeline whose instances are named by `ι`. -/
structure Pipeline (ι : Type) where
  settings : Settings
  running : Option ι

namespace Pipeline

variable {ι σ : Type}

/-- A pipeline that has not started. -/
def create (settings : Settings) : Pipeline ι := ⟨settings, none⟩

/-- Start the pipeline; `build` makes an instance, and is not asked while one is running. -/
def start (build : Settings → σ → Except ConfigError ι × σ) (p : Pipeline ι) (state : σ) :
    Except ConfigError ι × Pipeline ι × σ :=
  match p.running with
  | some instance_ => (.ok instance_, p, state)
  | none =>
    match build p.settings state with
    | (.error cause, state) => (.error cause, p, state)
    | (.ok instance_, state) => (.ok instance_, { p with running := some instance_ }, state)

/-- An instance is running. -/
def isRunning (p : Pipeline ι) : Bool := p.running.isSome

/-- Stop the pipeline; whether it was running. -/
def stop (p : Pipeline ι) : Bool × Pipeline ι := (p.isRunning, { p with running := none })

end Pipeline

end Gazetteer

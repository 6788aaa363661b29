/-
# The battery service

A service owns a snapshot and the source of its constants, and works with a
provider.  It goes through three stages: idle, bound to its constants, and started
with a configuration.  Starting binds and discovers; what was discovered is kept for
good, so a second start does nothing.  A start that fails can be repeated: after a
failed binding the service is at the stage where it was, after a failed discovery it
is bound.

Updating starts the service if need be and then refreshes the snapshot.  Closing
changes nothing in the service.
-/

import PowerSupply.Binding
import PowerSupply.Provider

namespace PowerSupply

/-- How far a service has come. -/
inductive Stage where
  | idle
  | bound (k : Constants)
  | started (k : Constants) (c : Configuration)

/-- A snapshot with its source of constants, and the stage of the service. -/
structure Service where
  source : ConstantSource
  snapshot : Snapshot
  stage : Stage := .idle

namespace Service

/-- The service before anything was done with it. -/
def idle (source : ConstantSource) (snapshot : Snapshot) : Service := ⟨source, snapshot, .idle⟩

/-- The constants that the service is bound to. -/
def constants? (s : Service) : Option Constants :=
  match s.stage with
  | .idle => none
  | .bound k => some k
  | .started k _ => some k

/-- The configuration that the service was started with. -/
def configuration? (s : Service) : Option Configuration :=
  match s.stage with
  | .started _ c => some c
  | _ => none

variable {ω : Type}

/-- Binds the service and discovers its configuration, unless it has one. -/
def start (p : Provider ω) (s : Service) (w : ω) : Service × ω × Logged Configuration :=
  match s.stage with
  | .started _ c => (s, w, pure c)
  | _ =>
    match Constants.bind s.source s.snapshot with
    | .error e => (s, w, .fail (.binding e))
    | .ok k =>
      let (w, found) := p.discover w
      match found.result with
      | .error _ => ({ s with stage := .bound k }, w, found)
      | .ok c =>
        let noted : Logged Configuration := do
          let c ← found
          .emit (.started p.name c.chargers.length c.paths.levelSource)
          return c
        ({ s with stage := .started k c }, w, noted)

/-- Refreshes the snapshot of a service that was started.  The writes before a fault
are made. -/
def refresh (p : Provider ω) (s : Service) (w : ω) : Service × ω × Logged Unit :=
  match s.stage with
  | .started k c =>
    let (w, done) := p.refresh c w
    ({ s with snapshot := s.snapshot.writeAll k (Action.writes done.events) }, w,
      ⟨Action.notes done.events, done.result⟩)
  | _ => (s, w, pure ())

/-- Refreshes the snapshot, after starting the service if it was not. -/
def update (p : Provider ω) (s : Service) (w : ω) : Service × ω × Logged Unit :=
  let (s, w, begun) := s.start p w
  match begun.result with
  | .error f => (s, w, ⟨begun.events, .error f⟩)
  | .ok _ =>
    let (s, w, done) := s.refresh p w
    (s, w, ⟨begun.events ++ done.events, done.result⟩)

/-- Closes the provider. -/
def close (p : Provider ω) (s : Service) (w : ω) : Service × ω := (s, p.close w)

/-- **Starting twice is starting once:** a started service keeps its configuration
and asks nothing of the provider. -/
theorem start_of_started (p : Provider ω) {s : Service} {k : Constants} {c : Configuration} (w : ω)
    (h : s.stage = .started k c) : s.start p w = (s, w, pure c) := by
  unfold start
  rw [h]

end Service
end PowerSupply

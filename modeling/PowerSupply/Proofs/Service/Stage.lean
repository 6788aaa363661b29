/-
# What one call does to a service

A service without a configuration binds and discovers when it is started
(`start_of_no_configuration`, and by outcome `start_unbound`, `start_failed` and
`start_found`), one with a configuration does
neither (`start_of_started`).  An update starts first; where that fails it ends
there (`update_failed`), and otherwise it refreshes (`update_started`,
`refresh_started`).

`apply` and `run` are single calls and any sequence of them.
-/

import PowerSupply.Service

namespace PowerSupply

/-- What can be asked of a service. -/
inductive Operation where
  | start
  | update
  | close
  deriving DecidableEq, Repr

namespace Service

variable {ω : Type} {p : Provider ω} {s : Service} {w : ω} {k : Constants} {c : Configuration}

/-- A service and its world after one operation. -/
def apply (p : Provider ω) (x : Service × ω) : Operation → Service × ω
  | .start => ((x.1.start p x.2).1, (x.1.start p x.2).2.1)
  | .update => ((x.1.update p x.2).1, (x.1.update p x.2).2.1)
  | .close => x.1.close p x.2

/-- A service and its world after several operations in order. -/
def run (p : Provider ω) (x : Service × ω) (ops : List Operation) : Service × ω :=
  ops.foldl (apply p) x

theorem run_append (p : Provider ω) (x : Service × ω) (xs ys : List Operation) :
    run p x (xs ++ ys) = run p (run p x xs) ys := List.foldl_append

theorem run_concat (p : Provider ω) (x : Service × ω) (ops : List Operation) (op : Operation) :
    run p x (ops ++ [op]) = apply p (run p x ops) op := run_append p x ops [op]

theorem configuration?_eq_some_iff :
    s.configuration? = some c ↔ ∃ k, s.stage = .started k c := by
  unfold configuration?
  cases s.stage <;> simp

/-- **Without a configuration** a start binds, and discovers if that succeeds. -/
theorem start_of_no_configuration (hs : s.configuration? = none) :
    s.start p w =
      match Constants.bind s.source s.snapshot with
      | .error e => (s, w, .fail (.binding e))
      | .ok k =>
        match (p.discover w).2.result with
        | .error _ => ({ s with stage := .bound k }, p.discover w)
        | .ok c =>
          ({ s with stage := .started k c }, (p.discover w).1, do
            let c ← (p.discover w).2
            .emit (.started p.name c.chargers.length c.paths.levelSource)
            return c) := by
  unfold configuration? at hs
  unfold start
  cases hst : s.stage with
  | started k c =>
    rw [hst] at hs
    cases hs
  | idle | bound => rfl

/-- **A service that cannot be bound** stays as it is and asks nothing of the
provider. -/
theorem start_unbound {e : BindingError} (hs : s.configuration? = none)
    (hb : Constants.bind s.source s.snapshot = .error e) :
    s.start p w = (s, w, .fail (.binding e)) := by
  rw [start_of_no_configuration hs, hb]

/-- **A discovery that fails** leaves the service bound. -/
theorem start_failed {f : Fault} (hs : s.configuration? = none)
    (hb : Constants.bind s.source s.snapshot = .ok k) (hd : (p.discover w).2.result = .error f) :
    s.start p w = ({ s with stage := .bound k }, p.discover w) := by
  simp only [start_of_no_configuration hs, hb, hd]

/-- **A discovery that succeeds** leaves the service started with what it found. -/
theorem start_found (hs : s.configuration? = none)
    (hb : Constants.bind s.source s.snapshot = .ok k) (hd : (p.discover w).2.result = .ok c) :
    ((s.start p w).1, (s.start p w).2.1) = ({ s with stage := .started k c }, (p.discover w).1) ∧
      (s.start p w).2.2.result = .ok c := by
  simp only [start_of_no_configuration hs, hb, hd, true_and]
  rw [Trace.result_bind_ok _ hd]
  exact Trace.result_bind_ok _ (Trace.result_emit _)

/-- The refresh of a started service makes the writes that the provider announces,
through the constants that the service is bound to. -/
theorem refresh_started (h : s.stage = .started k c) :
    s.refresh p w =
      ({ s with snapshot := s.snapshot.writeAll k (Action.writes (p.refresh c w).2.events) },
        (p.refresh c w).1,
        ⟨Action.notes (p.refresh c w).2.events, (p.refresh c w).2.result⟩) := by
  unfold refresh
  rw [h]

/-- **An update that cannot start** is a start and nothing more. -/
theorem update_failed {f : Fault} (h : (s.start p w).2.2.result = .error f) :
    s.update p w = ((s.start p w).1, (s.start p w).2.1,
      ⟨(s.start p w).2.2.events, .error f⟩) := by
  unfold update
  simp only [h]

/-- **An update that starts** refreshes what the start leaves. -/
theorem update_started (h : (s.start p w).2.2.result = .ok c) :
    apply p (s, w) .update =
      (((s.start p w).1.refresh p (s.start p w).2.1).1,
        ((s.start p w).1.refresh p (s.start p w).2.1).2.1) := by
  unfold apply update
  simp only [h]

/-- An update of a started service is a refresh. -/
theorem update_of_started (h : s.stage = .started k c) : s.update p w = s.refresh p w := by
  unfold update
  rw [start_of_started p w h]
  rfl

/-- A started service keeps its stage at every call. -/
theorem stage_apply (op : Operation) {x : Service × ω} (h : x.1.stage = .started k c) :
    (apply p x op).1.stage = .started k c := by
  cases op with
  | close => exact h
  | start =>
    show (x.1.start p x.2).1.stage = _
    rw [start_of_started p x.2 h]
    exact h
  | update =>
    show (x.1.update p x.2).1.stage = _
    rw [update_of_started h, refresh_started h]
    exact h

/-- **Once started, a service keeps its constants and its configuration** over every
sequence of calls.  To start it again returns the configuration and does nothing, and
to update it writes through the constants. -/
theorem run_started (p : Provider ω) {x : Service × ω} (h : x.1.stage = .started k c)
    (ops : List Operation) :
    let y := run p x ops
    y.1.configuration? = some c ∧ y.1.constants? = some k ∧
      y.1.start p y.2 = (y.1, y.2, pure c) ∧
      (y.1.update p y.2).1.snapshot =
        y.1.snapshot.writeAll k (Action.writes (p.refresh c y.2).2.events) := by
  intro y
  have hy : y.1.stage = .started k c := by
    show (run p x ops).1.stage = _
    clear y
    induction ops generalizing x with
    | nil => exact h
    | cons op ops ih => exact ih (stage_apply op h)
  refine ⟨configuration?_eq_some_iff.2 ⟨k, hy⟩, ?_, start_of_started p y.2 hy, ?_⟩
  · unfold constants?
    rw [hy]
  · rw [update_of_started hy, refresh_started hy]

end Service
end PowerSupply

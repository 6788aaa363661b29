/-
# Traces: what a computation announced, and how it ended

Reading an attribute, discovering devices and refreshing a snapshot all announce
things on the way (log notes, field writes) and may stop with a fault.  A
`Trace ε φ α` holds the announcements in order, and the value or the fault at the
end.  What was announced before a fault stays announced.

`Trace ε φ` is a lawful monad, so steps may be regrouped freely; the events of a
sequence are the events of its parts in order (`events_bind_ok`,
`events_bind_error`).
-/

namespace PowerSupply

/-- The events of type `ε` that a computation announced, in order, and the value
or the fault of type `φ` with which it ended. -/
structure Trace (ε φ α : Type) where
  events : List ε
  result : Except φ α

namespace Trace

variable {ε δ φ α β : Type}

@[ext]
theorem ext {x y : Trace ε φ α} (he : x.events = y.events) (hr : x.result = y.result) : x = y := by
  cases x; cases y; simp_all

/-- Runs `f` on the value of `x`; a fault of `x` ends the sequence. -/
def andThen (x : Trace ε φ α) (f : α → Trace ε φ β) : Trace ε φ β :=
  match x.result with
  | .ok a =>
    let y := f a
    ⟨x.events ++ y.events, y.result⟩
  | .error e => ⟨x.events, .error e⟩

instance : Monad (Trace ε φ) where
  pure a := ⟨[], .ok a⟩
  bind := andThen

/-- Announces one event. -/
def emit (e : ε) : Trace ε φ Unit := ⟨[e], .ok ()⟩

/-- Stops with a fault, announcing nothing. -/
def fail (e : φ) : Trace ε φ α := ⟨[], .error e⟩

/-- A result that was reached in silence. -/
def ofExcept (r : Except φ α) : Trace ε φ α := ⟨[], r⟩

/-- The same computation with each event renamed. -/
def mapEvents (f : ε → δ) (x : Trace ε φ α) : Trace δ φ α := ⟨x.events.map f, x.result⟩

@[simp] theorem events_pure (a : α) : (pure a : Trace ε φ α).events = [] := rfl
@[simp] theorem result_pure (a : α) : (pure a : Trace ε φ α).result = .ok a := rfl
@[simp] theorem events_emit (e : ε) : (emit e : Trace ε φ Unit).events = [e] := rfl
@[simp] theorem result_emit (e : ε) : (emit e : Trace ε φ Unit).result = .ok () := rfl
@[simp] theorem events_fail (e : φ) : (fail e : Trace ε φ α).events = [] := rfl
@[simp] theorem result_fail (e : φ) : (fail e : Trace ε φ α).result = .error e := rfl
@[simp] theorem events_ofExcept (r : Except φ α) : (ofExcept r : Trace ε φ α).events = [] := rfl
@[simp] theorem result_ofExcept (r : Except φ α) : (ofExcept r : Trace ε φ α).result = r := rfl
@[simp] theorem events_mapEvents (f : ε → δ) (x : Trace ε φ α) :
    (x.mapEvents f).events = x.events.map f := rfl
@[simp] theorem result_mapEvents (f : ε → δ) (x : Trace ε φ α) :
    (x.mapEvents f).result = x.result := rfl

theorem events_bind_ok {x : Trace ε φ α} {a : α} (f : α → Trace ε φ β) (h : x.result = .ok a) :
    (x >>= f).events = x.events ++ (f a).events := by
  simp [Bind.bind, andThen, h]

theorem result_bind_ok {x : Trace ε φ α} {a : α} (f : α → Trace ε φ β) (h : x.result = .ok a) :
    (x >>= f).result = (f a).result := by
  simp [Bind.bind, andThen, h]

theorem events_bind_error {x : Trace ε φ α} {e : φ} (f : α → Trace ε φ β)
    (h : x.result = .error e) : (x >>= f).events = x.events := by
  simp [Bind.bind, andThen, h]

theorem result_bind_error {x : Trace ε φ α} {e : φ} (f : α → Trace ε φ β)
    (h : x.result = .error e) : (x >>= f).result = .error e := by
  simp [Bind.bind, andThen, h]

@[simp] theorem pure_bind (a : α) (f : α → Trace ε φ β) : (pure a >>= f) = f a := by
  apply ext <;> simp [Bind.bind, andThen, Pure.pure]

@[simp] theorem fail_bind (e : φ) (f : α → Trace ε φ β) : (fail e >>= f) = fail e := by
  apply ext <;> simp [Bind.bind, andThen, fail]

@[simp] theorem mapEvents_pure (f : ε → δ) (a : α) :
    (pure a : Trace ε φ α).mapEvents f = pure a := rfl

/-- Renaming events commutes with sequencing. -/
theorem mapEvents_bind (g : ε → δ) (x : Trace ε φ α) (f : α → Trace ε φ β) :
    (x >>= f).mapEvents g = x.mapEvents g >>= fun a => (f a).mapEvents g := by
  cases x with
  | mk es r => cases r <;> apply ext <;> simp [Bind.bind, andThen, mapEvents]

instance : LawfulMonad (Trace ε φ) := LawfulMonad.mk' _
  (by
    intro α x; cases x with
    | mk es r => cases r <;> simp [Functor.map, andThen])
  (by intro α β a f; exact pure_bind a f)
  (by
    intro α β γ x f g; cases x with
    | mk es r =>
      cases r with
      | error e => simp [Bind.bind, andThen]
      | ok a =>
        cases h : (f a).result with
        | error e => simp [Bind.bind, andThen, h]
        | ok b => simp [Bind.bind, andThen, h])

end Trace
end PowerSupply

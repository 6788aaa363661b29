/-
# What one device offers

A device is of the kind that the text of its type says (`kind`), and it offers the
files that are readable in it: the first of each quantity (`file?`), a strategy for
the level as a whole (`strategy?`) and a voltage file with its divisor (`voltage?`).
These are plain functions of the tree, which cannot fail.

Probing a device asks for its files one after the other, and asks no further than it has
to (`askedOf`).  A file whose name, or the name of something on the way to it, is too
long is a fault, and the first such file ends the probing; without one, the probing gives
what the device offers (`asks_probe`).
-/

import Mathlib.Tactic.SplitIfs
import PowerSupply.Discovery
import PowerSupply.Proofs.Attribute

namespace PowerSupply
namespace Discovery

open Attribute (Readable text?)

/-- The kind of a device, by the text of its type. -/
def kind (t : FileTree) (device : Path) : SupplyType :=
  SupplyType.ofText (text? t (device / "type"))

/-- The first readable file of a device among the given names. -/
def file? (t : FileTree) (device : Path) (names : List String) : Option Path :=
  (names.map fun name : String => (device / name : Path)).find? fun p => Readable t p

/-- The strategy for the level that a device offers: its capacity, else its charge,
else its energy; the last two only as a pair. -/
def strategy? (t : FileTree) (device : Path) : Option LevelFiles :=
  if Readable t (device / "capacity") then some (.capacity (device / "capacity"))
  else if Readable t (device / "charge_now") ∧ Readable t (device / "charge_full") then
    some (.charge (device / "charge_now") (device / "charge_full"))
  else if Readable t (device / "energy_now") ∧ Readable t (device / "energy_full") then
    some (.energy (device / "energy_now") (device / "energy_full"))
  else none

/-- The voltage file that a device offers: one in microvolts, else one in
millivolts. -/
def voltage? (t : FileTree) (device : Path) : Option VoltageFile :=
  if Readable t (device / "voltage_now") then some ⟨device / "voltage_now", 1000⟩
  else if Readable t (device / "batt_vol") then some ⟨device / "batt_vol", 1⟩
  else none

/-- Everything that a device offers. -/
def offerOf (t : FileTree) (device : Path) : Offer where
  status := file? t device ["status"]
  health := file? t device ["health"]
  present := file? t device ["present"]
  technology := file? t device ["technology"]
  level := strategy? t device
  voltage := voltage? t device
  temperature := file? t device ["temp", "batt_temp"]

variable {t : FileTree} {device : Path}

@[simp] theorem file?_nil : file? t device [] = none := rfl

theorem file?_cons (name : String) (names : List String) :
    file? t device (name :: names) =
      if Readable t (device / name) then some (device / name : Path)
      else file? t device names := by
  unfold file?
  rw [List.map_cons, List.find?_cons]
  by_cases h : Readable t (device / name) <;> simp [h]

/-! ### Asking for files -/

/-- Whether the question for a file is a fault: its path can be asked for, but a name on
the way is too long. -/
def TooLong (t : FileTree) (p : Path) : Prop :=
  p.hasNul = false ∧ t.stat p = .error .nameTooLong

instance (t : FileTree) (p : Path) : Decidable (TooLong t p) :=
  decidable_of_iff (p.hasNul = false ∧ (t.stat p matches .error .nameTooLong) = true) <| by
    unfold TooLong
    cases t.stat p with
    | ok n => simp
    | error e => cases e <;> simp

/-- **Asking for files in order:** the first one whose name is too long is a fault, and
without one the answer is `a`. -/
def Asks {α : Type} (t : FileTree) (ps : List Path) (x : Except Fault α) (a : α) : Prop :=
  x =
    match ps.find? fun p => TooLong t p with
    | some p => .error (.file .nameTooLong p)
    | none => .ok a

namespace Asks

variable {α β σ : Type} {ps qs : List Path} {a : α} {b : β}

theorem pure (a : α) : Asks t [] (Pure.pure a) a := rfl

/-- What ends well has that answer. -/
theorem eq_of_ok {x : Except Fault α} (h : Asks t ps x a) {a' : α} (hx : x = .ok a') : a' = a := by
  unfold Asks at h
  rw [hx] at h
  cases hp : ps.find? fun p => TooLong t p with
  | none =>
    rw [hp] at h
    exact Except.ok.inj h
  | some p =>
    rw [hp] at h
    cases h

/-- **There is an answer** where no file has too long a name. -/
theorem exists_ok_iff {x : Except Fault α} (h : Asks t ps x a) :
    (∃ a, x = .ok a) ↔ ∀ p ∈ ps, ¬TooLong t p := by
  have none_iff : (ps.find? fun p => TooLong t p) = none ↔ ∀ p ∈ ps, ¬TooLong t p := by
    simp only [List.find?_eq_none, decide_eq_true_eq]
  rw [← none_iff, h]
  cases ps.find? fun p => TooLong t p <;> simp

/-- **The fault** is that of the first file with too long a name. -/
theorem eq_error_iff {x : Except Fault α} (h : Asks t ps x a) {f : Fault} :
    x = .error f ↔ ∃ before p after, ps = before ++ p :: after ∧ TooLong t p ∧
      (∀ q ∈ before, ¬TooLong t q) ∧ f = .file .nameTooLong p := by
  have some_iff (p : Path) : (ps.find? fun p => TooLong t p) = some p ↔ ∃ before after,
      ps = before ++ p :: after ∧ TooLong t p ∧ ∀ q ∈ before, ¬TooLong t q := by
    rw [List.find?_eq_some_iff_append]
    simp only [decide_eq_true_eq, Bool.not_eq_true', decide_eq_false_iff_not]
    constructor
    · rintro ⟨hp, before, after, hps, hb⟩
      exact ⟨before, after, hps, hp, hb⟩
    · rintro ⟨before, after, hps, hp, hb⟩
      exact ⟨hp, before, after, hps, hb⟩
  rw [h]
  constructor
  · intro hx
    cases hf : ps.find? fun p => TooLong t p with
    | none =>
      rw [hf] at hx
      cases hx
    | some p =>
      rw [hf] at hx
      obtain ⟨before, after, hps, hp, hb⟩ := (some_iff p).1 hf
      exact ⟨before, p, after, hps, hp, hb, (Except.error.inj hx).symm⟩
  · rintro ⟨before, p, after, hps, hp, hb, rfl⟩
    rw [(some_iff p).2 ⟨before, after, hps, hp, hb⟩]

/-- The files of a sequence are those of its parts. -/
theorem bind {x : Except Fault α} {f : α → Except Fault β} (hx : Asks t ps x a)
    (hf : Asks t qs (f a) b) : Asks t (ps ++ qs) (x >>= f) b := by
  unfold Asks at hx hf ⊢
  rw [hx, List.find?_append]
  cases ps.find? fun p => TooLong t p with
  | some p => rfl
  | none => exact hf

/-- What follows without another question. -/
theorem bind_ok {x : Except Fault α} {f : α → Except Fault β} (hx : Asks t ps x a)
    (hf : f a = .ok b) : Asks t ps (x >>= f) b := by
  rw [← List.append_nil ps]
  exact hx.bind hf

/-- A choice that asks on where the first answer is no. -/
theorem orElse {P : Prop} [Decidable P] {x : Except Fault (Option α)} {f : Option α → Except Fault β}
    {c : β} (hx : Asks t ps x (if P then some a else none)) (hyes : f (some a) = .ok b)
    (hno : Asks t qs (f none) c) :
    Asks t (ps ++ if P then [] else qs) (x >>= f) (if P then b else c) := by
  by_cases hP : P
  · rw [if_pos hP] at hx ⊢
    rw [if_pos hP, List.append_nil]
    exact hx.bind_ok hyes
  · rw [if_neg hP] at hx ⊢
    rw [if_neg hP]
    exact hx.bind hno

/-- A choice that asks nothing more. -/
theorem orNone {P : Prop} [Decidable P] {x : Except Fault (Option α)} {f : Option α → Except Fault β}
    {c : β} (hx : Asks t ps x (if P then some a else none)) (hyes : f (some a) = .ok b)
    (hno : f none = .ok c) : Asks t ps (x >>= f) (if P then b else c) := by
  have h := hx.orElse hyes (show Asks t [] (f none) c from hno)
  rwa [ite_self, List.append_nil] at h

/-- **The question whether one file is readable.** -/
theorem isReadable (t : FileTree) (p : Path) :
    Asks t [p] (Attribute.isReadable t p) (decide (Readable t p)) := by
  unfold Asks
  rw [List.find?_singleton]
  by_cases hl : TooLong t p
  · rw [decide_eq_true hl]
    unfold Attribute.isReadable
    rw [hl.1, hl.2]
    rfl
  · rw [decide_eq_false hl]
    cases h : Attribute.isReadable t p with
    | ok b => rw [Attribute.eq_decide_of_isReadable h]; rfl
    | error f =>
      unfold Attribute.isReadable at h
      split_ifs at h with hp
      split at h <;> cases h
      exact absurd ⟨Bool.eq_false_iff.2 hp, by assumption⟩ hl

end Asks

/-- The files that are asked for until one of the given names is readable. -/
def askedFirst (t : FileTree) (device : Path) : List String → List Path
  | [] => []
  | name :: names =>
    (device / name : Path) ::
      if Readable t (device / name) then [] else askedFirst t device names

theorem askedFirst_cons (t : FileTree) (device : Path) (name : String) (names : List String) :
    askedFirst t device (name :: names) =
      [(device / name : Path)] ++
        if Readable t (device / name) then [] else askedFirst t device names := rfl

theorem asks_firstReadable (t : FileTree) (device : Path) (names : List String) :
    Asks t (askedFirst t device names) (firstReadable t device names) (file? t device names) := by
  induction names with
  | nil => exact Asks.pure none
  | cons name names ih =>
    rw [askedFirst_cons, file?_cons]
    refine Asks.bind (Asks.isReadable t _) ?_
    by_cases hr : Readable t (device / name)
    · rw [decide_eq_true hr, if_pos hr, if_pos hr]
      exact Asks.pure _
    · rw [decide_eq_false hr, if_neg hr, if_neg hr]
      exact ih

theorem askedFirst_single (t : FileTree) (device : Path) (name : String) :
    askedFirst t device [name] = [(device / name : Path)] := by
  rw [askedFirst_cons]
  exact congrArg _ (ite_self _)

/-- The probing of one name tells whether the file is readable. -/
theorem asks_single (t : FileTree) (device : Path) (name : String) :
    Asks t [(device / name : Path)] (firstReadable t device [name])
      (if Readable t (device / name) then some (device / name : Path) else none) := by
  have h := asks_firstReadable t device [name]
  rwa [askedFirst_single, file?_cons, file?_nil] at h

/-- The probing for a pair finds it where both files are readable, and asks for both. -/
theorem asks_readablePair (t : FileTree) (device : Path) (now full : String) :
    Asks t [(device / now : Path), (device / full : Path)] (readablePair t device now full)
      (if Readable t (device / now) ∧ Readable t (device / full) then
        some ((device / now : Path), (device / full : Path)) else none) := by
  refine (asks_single t device now).bind ((asks_single t device full).bind_ok ?_)
  by_cases h₁ : Readable t (device / now) <;> by_cases h₂ : Readable t (device / full) <;>
    simp only [h₁, h₂, if_true, if_false, and_self, and_true, and_false] <;> rfl

/-- The files that are asked for to find a strategy for the level. -/
def askedLevel (t : FileTree) (device : Path) : List Path :=
  [(device / "capacity" : Path)] ++
    if Readable t (device / "capacity") then []
    else
      [(device / "charge_now" : Path), (device / "charge_full" : Path)] ++
        if Readable t (device / "charge_now") ∧ Readable t (device / "charge_full") then []
        else [(device / "energy_now" : Path), (device / "energy_full" : Path)]

theorem asks_probeLevel (t : FileTree) (device : Path) :
    Asks t (askedLevel t device) (probeLevel t device) (strategy? t device) := by
  refine (asks_single t device "capacity").orElse rfl ?_
  refine (asks_readablePair t device "charge_now" "charge_full").orElse rfl ?_
  exact (asks_readablePair t device "energy_now" "energy_full").orNone rfl rfl

theorem asks_probeVoltage (t : FileTree) (device : Path) :
    Asks t (askedFirst t device ["voltage_now", "batt_vol"]) (probeVoltage t device)
      (voltage? t device) := by
  rw [askedFirst_cons, askedFirst_single]
  refine (asks_single t device "voltage_now").orElse rfl ?_
  exact (asks_single t device "batt_vol").orNone rfl rfl

/-- The files that are asked for to find what a battery offers, in order. -/
def askedOf (t : FileTree) (device : Path) : List Path :=
  (device / "status") :: (device / "health") :: (device / "present") :: (device / "technology") ::
    (askedLevel t device ++ (askedFirst t device ["voltage_now", "batt_vol"] ++
      askedFirst t device ["temp", "batt_temp"]))

/-- **Probing a device** asks for its files and finds what it offers. -/
theorem asks_probe (t : FileTree) (device : Path) :
    Asks t (askedOf t device) (probe t device) (offerOf t device) := by
  have one (name : String) : Asks t [(device / name : Path)] (firstReadable t device [name])
      (file? t device [name]) := by
    rw [← askedFirst_single t]
    exact asks_firstReadable t device [name]
  refine (one "status").bind ((one "health").bind ((one "present").bind ?_))
  refine (one "technology").bind ((asks_probeLevel t device).bind ?_)
  refine (asks_probeVoltage t device).bind ?_
  exact (asks_firstReadable t device ["temp", "batt_temp"]).bind_ok rfl

/-- A device is a battery exactly where its type is that one word. -/
theorem kind_eq_battery_iff :
    kind t device = .battery ↔ text? t (device / "type") = some "Battery" := by
  unfold kind SupplyType.ofText
  cases text? t (device / "type") with
  | none => simp
  | some word =>
    simp only [Option.bind_some, Option.some.injEq]
    unfold SupplyType.ofWord?
    split_ifs <;> simp_all

end Discovery
end PowerSupply

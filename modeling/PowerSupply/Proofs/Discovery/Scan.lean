/-
# What the scan of a supply root gathers

A scan that ends well is a plain fold over the devices in ascending order: each adds
what its kind calls for (`after`, `eq_after_of_visit`), a charger its name and a
battery its offer.

The configuration keeps the offers of the batteries alone, later ones before earlier
ones (`gathered`, `configuration_of_run`).  So each quantity comes from the last
battery that offers it (`gathered_eq_last?`), and no other device has a part in it.
-/

import PowerSupply.Proofs.Discovery.Device
import PowerSupply.Proofs.Last

namespace PowerSupply
namespace Discovery

open Attribute (Readable text?)

/-- The names of the devices of a supply root, ascending. -/
def devices (t : FileTree) (root : Path) : List String := (t.list root).toOption.getD []

/-- The names of the batteries of a supply root, ascending: the devices whose type is
the word `Battery`. -/
def batteries (t : FileTree) (root : Path) : List String :=
  (devices t root).filter fun name => text? t (root / name / "type") = some "Battery"

/-- The findings after one more device, by its kind and what is readable in it. -/
def after (t : FileTree) (root : Path) (found : Findings) (name : String) : Findings :=
  match kind t (root / name) with
  | .battery => { found with offer := (offerOf t (root / name)).or found.offer }
  | .unknown => found
  | .ac | .usb | .wireless =>
    if Readable t (root / name / "online") then
      { found with chargers := found.chargers ++ [name] }
    else found

/-- What the batteries of a supply root offer together, later ones before earlier
ones. -/
def gathered (t : FileTree) (root : Path) : Offer :=
  (batteries t root).foldl (fun offer (name : String) => (offerOf t (root / name)).or offer) {}

variable {t : FileTree} {root : Path}

/-- The devices are in ascending order of name, each once. -/
theorem pairwise_devices (t : FileTree) (root : Path) : (devices t root).Pairwise (· < ·) := by
  unfold devices FileTree.list
  cases t.locate root with
  | error e => exact List.Pairwise.nil
  | ok l =>
    simp only [bind, Except.bind]
    split
    · exact t.pairwise_names l
    · exact List.Pairwise.nil
    · exact List.Pairwise.nil

/-- The files that are asked for at a device, by its kind. -/
def askedAt (t : FileTree) (device : Path) : List Path :=
  match kind t device with
  | .battery => askedOf t device
  | .unknown => []
  | .ac | .usb | .wireless => [(device / "online" : Path)]

/-- **A visit** asks for files of the device and adds what its kind calls for. -/
theorem asks_visit {name : String} (hn : (root / name / "type" : Path).hasNul = false)
    (found : Findings) :
    Asks t (askedAt t (root / name)) (visit t root found name).result (after t root found name) := by
  have answered {yes no : Findings} {p : Path} :
      Asks t [p] (Trace.ofExcept (Attribute.isReadable t p) >>= fun b =>
        if b = true then pure yes else (pure no : Logged Findings)).result
        (if Readable t p then yes else no) := by
    rw [Trace.result_bind]
    refine (Asks.isReadable t p).bind_ok ?_
    by_cases hr : Readable t p
    · rw [decide_eq_true hr, if_pos hr]
      rfl
    · rw [decide_eq_false hr, if_neg hr]
      rfl
  unfold visit
  rw [Trace.result_bind_ok _ (Attribute.result_read hn)]
  unfold askedAt after kind
  cases SupplyType.ofText (text? t (root / name / "type")) with
  | battery =>
    show Asks t _ (Trace.ofExcept (probe t (root / name)) >>= _).result _
    rw [Trace.result_bind]
    exact (asks_probe t (root / name)).bind_ok rfl
  | unknown => exact Trace.result_bind_ok _ (Trace.result_emit _)
  | ac | usb | wireless => exact answered

/-- A visit that ends well adds what the kind of the device calls for. -/
theorem eq_after_of_visit {found found' : Findings} {name : String}
    (h : (visit t root found name).result = .ok found') : found' = after t root found name := by
  obtain ⟨text, ht, -⟩ := Trace.result_bind_eq_ok.1 h
  exact (asks_visit (Attribute.result_read_eq_ok_iff.1 ht).1 found).eq_of_ok h

theorem result_report (c : Configuration) : (report c).result = .ok () := by
  unfold report
  have rest : ((c.paths.missing.forM fun q => Trace.emit (Note.missing q)) >>= fun _ =>
      (Trace.emit (Note.resolved c) : Logged Unit)).result = .ok () := by
    rw [Trace.result_bind_ok _ (Trace.result_forM_emit ..)]
    rfl
  cases c.chargers.isEmpty with
  | true => exact (Trace.result_bind_ok _ (Trace.result_emit _)).trans rest
  | false => exact rest

/-- The configuration is that of the findings after all devices; where the root cannot
be listed, there are no devices. -/
theorem eq_configuration_of_run {c : Configuration} (h : (run t root).result = .ok c) :
    c = configuration root ((devices t root).foldl (after t root) {}) := by
  unfold run at h
  split_ifs at h with hn
  · cases h
  unfold devices
  cases hl : t.list root with
  | error e =>
    simp only [hl] at h
    obtain ⟨_, -, h⟩ := Trace.result_bind_eq_ok.1 h
    obtain ⟨_, -, h⟩ := Trace.result_bind_eq_ok.1 h
    exact (Except.ok.inj h).symm
  | ok names =>
    simp only [hl] at h
    obtain ⟨found, hf, h⟩ := Trace.result_bind_eq_ok.1 h
    obtain ⟨_, -, h⟩ := Trace.result_bind_eq_ok.1 h
    obtain rfl := Except.ok.inj h
    rw [Trace.foldl_of_result_foldlM (fun name _ _ _ hv => eq_after_of_visit hv) hf]
    rfl

/-- One device changes the offers if it is a battery, and then it goes before them. -/
theorem offer_after (found : Findings) (name : String) :
    (after t root found name).offer =
      if text? t (root / name / "type") = some "Battery" then
        (offerOf t (root / name)).or found.offer
      else found.offer := by
  by_cases hb : text? t (root / name / "type") = some "Battery"
  · rw [if_pos hb]
    unfold after
    rw [kind_eq_battery_iff.2 hb]
  · rw [if_neg hb]
    have hk : kind t (root / name) ≠ .battery := fun h => hb (kind_eq_battery_iff.1 h)
    unfold after
    cases h : kind t (root / name) with
    | battery => exact absurd h hk
    | unknown => rfl
    | ac | usb | wireless => dsimp only; split <;> rfl

/-- **The offers after several devices** are those of the batteries among them. -/
theorem offer_foldl_after (names : List String) (found : Findings) :
    (names.foldl (after t root) found).offer =
      (names.filter fun name : String => text? t (root / name / "type") = some "Battery").foldl
        (fun offer (name : String) => (offerOf t (root / name)).or offer) found.offer := by
  induction names generalizing found with
  | nil => rfl
  | cons name names ih =>
    rw [List.foldl_cons, ih, offer_after, List.filter_cons]
    by_cases hb : text? t (root / name / "type") = some "Battery" <;> simp [hb]

/-- **A configuration has the paths and the divisor of what the batteries offer
together.** -/
theorem configuration_of_run {c : Configuration} (h : (run t root).result = .ok c) :
    c.root = root ∧ c.paths = (gathered t root).paths ∧
      c.voltageDivisor = .int (gathered t root).divisor := by
  obtain rfl := eq_configuration_of_run h
  unfold gathered batteries
  rw [← offer_foldl_after (devices t root) {}]
  exact ⟨rfl, rfl, rfl⟩

/-- A quantity that a later offer takes from an earlier one only where it has none comes
from the last device that offers it, or else from the offers before. -/
theorem quantity_foldl {α : Type} (quantity : Offer → Option α)
    (hor : ∀ later earlier : Offer, quantity (later.or earlier) =
      (quantity later).or (quantity earlier)) (names : List String) (offer : Offer) :
    quantity (names.foldl (fun offer (name : String) => (offerOf t (root / name)).or offer) offer) =
      (last? (fun name : String => quantity (offerOf t (root / name))) names).or
        (quantity offer) := by
  have fold : quantity
        (names.foldl (fun offer (name : String) => (offerOf t (root / name)).or offer) offer) =
      names.foldl (fun v (name : String) => (quantity (offerOf t (root / name))).or v)
        (quantity offer) := by
    induction names generalizing offer with
    | nil => rfl
    | cons name names ih => rw [List.foldl_cons, List.foldl_cons, ih, hor]
  rw [fold, Last.foldl_or]

/-- **Each quantity comes from the last battery that offers it.** -/
theorem gathered_eq_last? {α : Type} (quantity : Offer → Option α)
    (hor : ∀ later earlier : Offer, quantity (later.or earlier) =
      (quantity later).or (quantity earlier))
    (hnone : quantity {} = none) :
    quantity (gathered t root) =
      last? (fun name : String => quantity (offerOf t (root / name))) (batteries t root) := by
  unfold gathered
  rw [quantity_foldl quantity hor, hnone, Option.or_none]

end Discovery
end PowerSupply

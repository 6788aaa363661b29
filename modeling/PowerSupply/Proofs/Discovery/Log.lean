/-
# What discovery notes

Discovery notes at each device that the type cannot be read and that it is none of the
seven words (`typeNotes`), in ascending order of the devices.  Chargers and batteries are
passed in silence, with whatever is readable in them.  The report at the end says whether
there is no charger, which quantities have no file, and what the configuration is.

A battery offers a quantity if it has all files of one of the sets that make the quantity
up (`fileSets`, `Offers`).  A configuration has a file for a quantity exactly where some
battery offers it (`has_of_run`).  So the log can be told from the devices alone, without
the configuration that came of them (`log_of_listed_root`).
-/

import Mathlib.Logic.Basic
import PowerSupply.Proofs.Discovery.Chargers
import PowerSupply.Proofs.Discovery.Level
import PowerSupply.Proofs.Discovery.Quantities

namespace PowerSupply

/-- A note as it stands in the log: its level and its wording. -/
def Note.line (n : Note) : Level × String := (n.level, n.message)

namespace SupplyType

/-- The words that a device may have as its type. -/
def words : List String := "Battery" :: chargerWords

/-- **A text is of no type** exactly where it is none of the words. -/
theorem ofText_eq_unknown_iff {text : Option String} :
    ofText text = .unknown ↔ ¬∃ word ∈ words, text = some word := by
  cases text with
  | none => simp [ofText]
  | some word =>
    simp only [ofText, Option.bind_some, ofWord?, words, chargerWords]
    split_ifs <;> simp_all

end SupplyType

namespace AttributePaths.Quantity

/-- The files of a quantity in a battery: one of these sets is needed, and all files of
it. -/
def fileSets : Quantity → List (List String)
  | .status => [["status"]]
  | .health => [["health"]]
  | .present => [["present"]]
  | .level => [["capacity"], ["charge_now", "charge_full"], ["energy_now", "energy_full"]]
  | .voltage => [["voltage_now"], ["batt_vol"]]
  | .temperature => [["temp"], ["batt_temp"]]
  | .technology => [["technology"]]

end AttributePaths.Quantity

namespace Offer

open AttributePaths (Quantity)

/-- Whether there is an offer for a quantity. -/
def has (o : Offer) : Quantity → Bool
  | .status => o.status.isSome
  | .health => o.health.isSome
  | .present => o.present.isSome
  | .level => o.level.isSome
  | .voltage => o.voltage.isSome
  | .temperature => o.temperature.isSome
  | .technology => o.technology.isSome

theorem has_paths (o : Offer) (q : Quantity) : o.paths.has q = o.has q := by
  cases q with
  | level =>
    show o.paths.levelSource.isSome = o.level.isSome
    rw [levelSource_paths, Option.isSome_map]
  | voltage =>
    show o.paths.voltage.isSome = o.voltage.isSome
    unfold paths
    rcases o.level with _ | _ | _ | _ <;> exact Option.isSome_map
  | _ =>
    unfold paths
    rcases o.level with _ | _ | _ | _ <;> rfl

theorem has_or (later earlier : Offer) (q : Quantity) :
    (later.or earlier).has q = (later.has q || earlier.has q) := by
  cases q <;> exact Option.isSome_or

end Offer

namespace Attribute

variable {t : FileTree} {p : Path}

/-- The notes of a reading of a file. -/
def readNotes (t : FileTree) (p : Path) : List Note :=
  match t.read p with
  | .ok _ => []
  | .error e => [.unreadable p e]

/-- **A reading notes** that the file cannot be read, where it cannot, and nothing else. -/
theorem events_read (hp : p.hasNul = false) : (read t (some p)).events = readNotes t p := by
  unfold readNotes
  cases h : t.read p with
  | ok bytes => rw [read_of_content hp h]; rfl
  | error e => rw [read_of_error hp h]

end Attribute

namespace Discovery

open Attribute (Readable text? readNotes)
open AttributePaths (Quantity)

/-- The notes on the type of a device. -/
def typeNotes (t : FileTree) (device : Path) : List Note :=
  readNotes t (device / "type") ++
    if ∃ word ∈ SupplyType.words, text? t (device / "type") = some word then []
    else [.skipped device]

/-- Whether a device offers a quantity: all files of one set for it are readable. -/
def Offers (t : FileTree) (device : Path) (q : Quantity) : Prop :=
  ∃ files ∈ q.fileSets, ∀ file ∈ files, Readable t (device / (file : String))

instance (t : FileTree) (device : Path) (q : Quantity) : Decidable (Offers t device q) :=
  inferInstanceAs (Decidable (∃ files ∈ q.fileSets, _))

variable {t : FileTree} {root device : Path} {names : List String} {c : Configuration}

/-- There is a file exactly where one of the names is readable. -/
theorem isSome_file?_iff :
    (file? t device names).isSome ↔ ∃ name ∈ names, Readable t (device / (name : String)) := by
  rw [Option.isSome_iff_ne_none, ne_eq, file?_eq_none_iff]
  simp only [not_forall, not_not, exists_prop]

/-- **What a device offers** is there exactly where its files are readable. -/
theorem has_offerOf_iff {q : Quantity} : (offerOf t device).has q = true ↔ Offers t device q := by
  unfold Offers
  cases q with
  | level =>
    show (strategy? t device).isSome = true ↔ _
    unfold strategy?
    split_ifs <;> simp_all [Quantity.fileSets]
  | voltage =>
    show (voltage? t device).isSome = true ↔ _
    rw [Option.isSome_iff_ne_none, ne_eq, voltage?_eq_none_iff, not_not]
    simp [HasVoltage, Quantity.fileSets]
  | _ =>
    show (file? t device _).isSome = true ↔ _
    rw [isSome_file?_iff]
    simp [Quantity.fileSets]

/-- **A configuration has a file for a quantity** exactly where some battery offers the
quantity. -/
theorem has_of_run (h : (run t root).result = .ok c) (q : Quantity) :
    c.paths.has q = true ↔ ∃ name ∈ batteries t root, Offers t (root / (name : String)) q := by
  let offer (o : Offer) : Option Unit := if o.has q then some () else none
  have isSome_offer : ∀ o, (offer o).isSome ↔ o.has q = true := by
    intro o
    show (if o.has q then some () else none).isSome ↔ _
    cases o.has q <;> simp
  have offer_or : ∀ later earlier : Offer,
      offer (later.or earlier) = (offer later).or (offer earlier) := by
    intro later earlier
    show (if (later.or earlier).has q then some () else none) =
      (if later.has q then some () else none).or (if earlier.has q then some () else none)
    rw [Offer.has_or]
    cases later.has q <;> cases earlier.has q <;> rfl
  have offer_empty : offer {} = none := by cases q <;> rfl
  obtain ⟨-, hc, -⟩ := configuration_of_run h
  rw [hc, Offer.has_paths, ← isSome_offer, gathered_eq_last? offer offer_or offer_empty,
    Last.isSome_last?_iff]
  exact exists_congr fun name => and_congr_right fun _ => (isSome_offer _).trans has_offerOf_iff

/-! ### The notes in order -/

/-- **A visit that ends well notes** what there is to note on the type of the device. -/
theorem events_visit {found found' : Findings} {name : String}
    (h : (visit t root found name).result = .ok found') :
    (visit t root found name).events = typeNotes t (root / name) := by
  obtain ⟨text, ht, h⟩ := Trace.result_bind_eq_ok.1 h
  obtain ⟨hp, rfl⟩ := Attribute.result_read_eq_ok_iff.1 ht
  unfold visit typeNotes
  rw [Trace.events_bind_ok _ ht, Attribute.events_read hp]
  refine congrArg _ ?_
  have hunknown := @SupplyType.ofText_eq_unknown_iff (text? t (root / name / "type"))
  have hknown (hne : SupplyType.ofText (text? t (root / name / "type")) ≠ .unknown) :
      ∃ word ∈ SupplyType.words, text? t (root / name / "type") = some word :=
    Decidable.not_not.1 fun hw => hne (hunknown.2 hw)
  cases hk : SupplyType.ofText (text? t (root / name / "type")) with
  | unknown =>
    rw [if_neg (hunknown.1 hk)]
    exact Trace.events_bind_ok _ (Trace.result_emit _)
  | battery =>
    rw [if_pos (hknown (by rw [hk]; decide))]
    exact Trace.events_bind_eq_nil rfl fun _ => rfl
  | ac | usb | wireless =>
    rw [if_pos (hknown (by rw [hk]; decide))]
    refine Trace.events_bind_eq_nil rfl fun readable => ?_
    cases readable <;> rfl

/-- **The report** in order: chargers, quantities, the configuration. -/
theorem events_report (c : Configuration) :
    (report c).events = (if c.chargers = [] then [.noChargers] else []) ++
      (c.paths.missing.map .missing ++ [.resolved c]) := by
  have rest : ((c.paths.missing.forM fun q => Trace.emit (Note.missing q)) >>= fun _ =>
      (Trace.emit (Note.resolved c) : Logged Unit)).events =
        c.paths.missing.map .missing ++ [.resolved c] := by
    rw [Trace.events_bind_ok _ (Trace.result_forM_emit ..), Trace.events_forM_emit]
    rfl
  unfold report
  cases hc : c.chargers with
  | nil => exact (Trace.events_bind_ok _ (Trace.result_emit _)).trans (congrArg _ rest)
  | cons name names => exact rest

/-- The missing quantities are those that no battery offers. -/
theorem missing_of_run (h : (run t root).result = .ok c) :
    c.paths.missing =
      Quantity.all.filter fun q => ∀ name ∈ batteries t root, ¬Offers t (root / (name : String)) q := by
  refine List.filter_congr fun q _ => ?_
  rw [Bool.eq_iff_iff, Bool.not_eq_true', decide_eq_true_iff, ← Bool.not_eq_true, has_of_run h]
  simp only [not_exists, not_and]

/-- **Discovery notes** what there is to note at each device, and then reports. -/
theorem events_run (hl : t.list root = .ok names) (h : (run t root).result = .ok c) :
    (run t root).events =
      names.flatMap (fun name : String => typeNotes t (root / name)) ++ (report c).events := by
  have hnul : root.hasNul = false := by
    refine Bool.eq_false_iff.2 fun hn => ?_
    unfold run at h
    rw [if_pos hn] at h
    cases h
  have hrun : run t root = (do
      let found ← names.foldlM (visit t root) {}
      report (configuration root found)
      return configuration root found) := by
    unfold run
    rw [hnul, hl]
    rfl
  rw [hrun] at h ⊢
  obtain ⟨found, hf, h⟩ := Trace.result_bind_eq_ok.1 h
  obtain ⟨_, hr, h⟩ := Trace.result_bind_eq_ok.1 h
  have hc : configuration root found = c := Except.ok.inj h
  have hvisits : (names.foldlM (visit t root) {}).events =
      names.flatMap fun name : String => typeNotes t (root / name) :=
    Trace.events_foldlM (fun name _ _ _ hv => events_visit hv) hf
  rw [Trace.events_bind_ok _ hf, hvisits, Trace.events_bind_ok _ hr, hc, Trace.events_pure,
    List.append_nil]

/-- **The log of a discovery that ends well**, in a root that can be listed, is told by the
devices.

For each of them, in ascending order of name, it says that the type cannot be read, if it
cannot, and that the device is skipped, if the type is none of the words.  Then it says
that there is no charger, if there is none, and in a fixed order which quantities are
offered by no battery.  One note of the lowest level is the last; all others are
warnings. -/
theorem log_of_listed_root (hl : t.list root = .ok names) (h : (run t root).result = .ok c) :
    names.Pairwise (· < ·) ∧
      (run t root).events =
        names.flatMap (fun name : String => typeNotes t (root / name)) ++
          ((if c.chargers = [] then [.noChargers] else []) ++
            ((Quantity.all.filter fun q =>
                ∀ name ∈ batteries t root, ¬Offers t (root / (name : String)) q).map .missing ++
              [.resolved c])) ∧
      (∀ p e, (Note.unreadable p e).line =
        (.warning, "Could not open '" ++ p.text ++ "': " ++ e.message p)) ∧
      (∀ device : Path, (Note.skipped device).line =
        (.warning, device.text ++ "/type is unknown, skipping")) ∧
      Note.noChargers.line = (.warning, "No charger supplies found") ∧
      (∀ q, (Note.missing q).line = (.warning, "Battery " ++ q.name ++ " path not found")) ∧
      (Note.resolved c).level = .debug := by
  have hascending : names.Pairwise (· < ·) := by
    have hdevices : devices t root = names := by
      unfold devices
      rw [hl]
      rfl
    exact hdevices ▸ pairwise_devices t root
  refine ⟨hascending, ?_, fun _ _ => rfl, fun _ => rfl, rfl, fun _ => rfl, rfl⟩
  rw [events_run hl h, events_report, missing_of_run h]

/-- A charger without a state, a battery with half a pair and one with the other half, a
type behind a dangling link, a type that is no word, and a file in place of a device. -/
theorem log_of_untidy_root :
    let t := FileTree.empty.changes
      [.device "ps/AC" [("type", "Mains"), ("status", "Full")],
        .device "ps/BAT0" [("type", "Battery"), ("charge_now", "1"), ("batt_temp", "251")],
        .device "ps/BAT1" [("type", "Battery"), ("charge_full", "2"), ("status", "Full")],
        .link "ps/lost/type" (.ofText "gone"),
        .device "ps/spare" [("type", "mains"), ("online", "1")],
        .file "ps/stray" []]
    ∃ c, (run t "ps").result = .ok c ∧
      (run t "ps").events.map Note.line =
        [(.warning, "Could not open 'ps/lost/type': [Errno 2] No such file or directory: " ++
            "'ps/lost/type'"),
          (.warning, "ps/lost/type is unknown, skipping"),
          (.warning, "ps/spare/type is unknown, skipping"),
          (.warning, "Could not open 'ps/stray/type': [Errno 20] Not a directory: " ++
            "'ps/stray/type'"),
          (.warning, "ps/stray/type is unknown, skipping"),
          (.warning, "No charger supplies found"),
          (.warning, "Battery health path not found"),
          (.warning, "Battery present path not found"),
          (.warning, "Battery level path not found"),
          (.warning, "Battery voltage path not found"),
          (.warning, "Battery technology path not found"),
          (.debug, "Resolved ps: chargers=[] level=None divisor=1")] := by
  intro t
  let names := ["AC", "BAT0", "BAT1", "lost", "spare", "stray"]
  -- evaluated together, so that the tree is built once
  obtain ⟨hlist, hrun, htypes, hmissing⟩ :
      (t.list "ps").toOption = some names ∧
      (run t "ps").result.toOption.any (fun c => c.chargers = [] ∧
        (Note.resolved c).message = "Resolved ps: chargers=[] level=None divisor=1") = true ∧
      (names.flatMap fun name : String => typeNotes t ("ps" / name : Path)).map Note.line =
        [(.warning, "Could not open 'ps/lost/type': [Errno 2] No such file or directory: " ++
            "'ps/lost/type'"),
          (.warning, "ps/lost/type is unknown, skipping"),
          (.warning, "ps/spare/type is unknown, skipping"),
          (.warning, "Could not open 'ps/stray/type': [Errno 20] Not a directory: " ++
            "'ps/stray/type'"),
          (.warning, "ps/stray/type is unknown, skipping")] ∧
      (Quantity.all.filter fun q => ∀ name ∈ batteries t "ps",
        ¬Offers t ("ps" / (name : String) : Path) q) =
          [.health, .present, .level, .voltage, .technology] := by
    decide +kernel
  obtain ⟨c, hc, hp⟩ := exists_ok_of_any hrun
  obtain ⟨hchargers, hresolved⟩ := of_decide_eq_true hp
  obtain ⟨-, hevents, -, -, -, -, hlevel⟩ := log_of_listed_root (eq_ok_of_toOption hlist) hc
  have hlast : (Note.resolved c).line =
      (.debug, "Resolved ps: chargers=[] level=None divisor=1") := Prod.ext hlevel hresolved
  refine ⟨c, hc, ?_⟩
  rw [hevents, List.map_append, htypes, if_pos hchargers, hmissing, List.map_append, List.map_append,
    List.map_map, List.map_singleton, List.map_singleton, hlast]
  rfl

end Discovery
end PowerSupply

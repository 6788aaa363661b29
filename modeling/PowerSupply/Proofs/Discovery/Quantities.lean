/-
# Where the status, the health and the other plain quantities come from

Five quantities are plain (`PlainQuantity`): each is read from one file as it is.  A
battery may have this file under one of a few names (`spellings`), and offers it under
the first of them that is readable.

The batteries are asked in ascending order of name, and each quantity on its own comes
from the last battery that has its file under any name (`path_from_last_battery`).  A name
that goes first in a battery does not go before a later battery.  What else there is in
the root has no part in it: two trees in which the same batteries have the file, under the
same names, give the same path.
-/

import PowerSupply.FileTree.Change
import PowerSupply.Proofs.Discovery.Scan

namespace PowerSupply

/-- A quantity of the battery that is read from one file as it is. -/
inductive PlainQuantity where
  | status
  | health
  | present
  | technology
  | temperature
  deriving DecidableEq, Repr

namespace PlainQuantity

/-- The names that the file of a quantity may have in a battery, in order of
preference. -/
def spellings : PlainQuantity → List String
  | .status => ["status"]
  | .health => ["health"]
  | .present => ["present"]
  | .technology => ["technology"]
  | .temperature => ["temp", "batt_temp"]

/-- The path of a quantity. -/
def path (p : AttributePaths) : PlainQuantity → Option Path
  | .status => p.status
  | .health => p.health
  | .present => p.present
  | .technology => p.technology
  | .temperature => p.temperature

/-- The file that is offered for a quantity. -/
def offered (o : Offer) : PlainQuantity → Option Path
  | .status => o.status
  | .health => o.health
  | .present => o.present
  | .technology => o.technology
  | .temperature => o.temperature

theorem path_paths (o : Offer) (q : PlainQuantity) : q.path o.paths = q.offered o := by
  unfold Offer.paths
  rcases o.level with _ | _ | _ | _ <;> cases q <;> rfl

theorem offered_or (later earlier : Offer) (q : PlainQuantity) :
    q.offered (later.or earlier) = (q.offered later).or (q.offered earlier) := by
  cases q <;> rfl

end PlainQuantity

namespace Discovery

open Attribute (Readable text?)

/-- Whether a device has the file of a quantity under any of its names. -/
def HasFile (t : FileTree) (device : Path) (q : PlainQuantity) : Prop :=
  ∃ name ∈ q.spellings, Readable t (device / (name : String))

instance (t : FileTree) (device : Path) (q : PlainQuantity) : Decidable (HasFile t device q) :=
  inferInstanceAs (Decidable (∃ name ∈ q.spellings, _))

variable {t t' : FileTree} {root device : Path} {names : List String} {c c' : Configuration}

theorem offered_offerOf (t : FileTree) (device : Path) (q : PlainQuantity) :
    q.offered (offerOf t device) = file? t device q.spellings := by
  cases q <;> rfl

theorem file?_eq_none_iff :
    file? t device names = none ↔ ∀ name ∈ names, ¬Readable t (device / (name : String)) := by
  unfold file?
  simp

/-- **The first readable name** of several is the file of a device. -/
theorem file?_of_first {preferred others : List String} {name : String}
    (hp : ∀ other ∈ preferred, ¬Readable t (device / (other : String)))
    (hn : Readable t (device / name)) :
    file? t device (preferred ++ name :: others) = some (device / name : Path) := by
  induction preferred with
  | nil => rw [List.nil_append, file?_cons, if_pos hn]
  | cons other preferred ih =>
    rw [List.cons_append, file?_cons, if_neg (hp other (List.mem_cons_self ..))]
    exact ih fun o ho => hp o (List.mem_cons_of_mem _ ho)

/-- Two devices in which the same names are readable have the same file, if they are at
the same path. -/
theorem file?_congr
    (h : ∀ name ∈ names, (Readable t' (device / (name : String)) ↔
      Readable t (device / (name : String)))) :
    file? t' device names = file? t device names := by
  induction names with
  | nil => rfl
  | cons name names ih =>
    have hname := h name (List.mem_cons_self ..)
    rw [file?_cons, file?_cons, ih fun n hn => h n (List.mem_cons_of_mem _ hn)]
    by_cases hr : Readable t (device / name)
    · rw [if_pos hr, if_pos (hname.2 hr)]
    · rw [if_neg hr, if_neg fun hr' => hr (hname.1 hr')]

/-- A device without the file offers none. -/
theorem file?_eq_none_of_not_hasFile {q : PlainQuantity} (h : ¬HasFile t device q) :
    file? t device q.spellings = none :=
  file?_eq_none_iff.2 fun name hn hr => h ⟨name, hn, hr⟩

/-- The path of a plain quantity is what the last battery offers that offers anything. -/
theorem path_of_run (h : (run t root).result = .ok c) (q : PlainQuantity) :
    q.path c.paths =
      last? (fun name : String => file? t (root / name) q.spellings) (batteries t root) := by
  obtain ⟨-, hc, -⟩ := configuration_of_run h
  rw [hc, PlainQuantity.path_paths,
    gathered_eq_last? q.offered (fun _ _ => q.offered_or _ _) (by cases q <;> rfl)]
  exact Last.last?_congr fun name _ => offered_offerOf t (root / name) q

/-- **The path of a quantity depends** on the batteries that have its file, and on the names
under which they have it. -/
theorem path_of_same_files {q : PlainQuantity} (h : (run t root).result = .ok c)
    (h' : (run t' root).result = .ok c')
    (hb : (batteries t' root).filter (fun name : String => HasFile t' (root / name) q) =
      (batteries t root).filter fun name : String => HasFile t (root / name) q)
    (hs : ∀ name ∈ batteries t root, HasFile t (root / (name : String)) q →
      ∀ s ∈ q.spellings, (Readable t' (root / name / (s : String)) ↔
        Readable t (root / name / (s : String)))) :
    q.path c'.paths = q.path c.paths := by
  have offering : ∀ (u : FileTree), last? (fun name : String => file? u (root / name) q.spellings)
      ((batteries u root).filter fun name : String => HasFile u (root / name) q) =
        last? (fun name : String => file? u (root / name) q.spellings) (batteries u root) :=
    fun u => Last.last?_filter fun name _ hn =>
      file?_eq_none_of_not_hasFile (of_decide_eq_false hn)
  rw [path_of_run h, path_of_run h', ← offering t, ← offering t', hb]
  refine Last.last?_congr fun name hn => file?_congr ?_
  obtain ⟨hn, hf⟩ := List.mem_filter.1 hn
  exact hs name hn (of_decide_eq_true hf)

/-- **A plain quantity comes from the last battery that has its file**, the batteries taken in
ascending order of name, and each quantity on its own.  Within this battery it is the file
with the first name that is readable; there is no path exactly where no battery has the
file.

Chargers, devices of unknown type, batteries without the file, and all other files of the
batteries that have it, make no difference: a tree in which the same batteries have the
file under the same names has the same path. -/
theorem path_from_last_battery (h : (run t root).result = .ok c) (q : PlainQuantity) :
    (batteries t root).Pairwise (· < ·) ∧
      (q.path c.paths = none ↔ ∀ name ∈ batteries t root, ¬HasFile t (root / (name : String)) q) ∧
      (∀ before (name : String) after preferred (spelling : String) others,
        batteries t root = before ++ name :: after →
        (∀ later ∈ after, ¬HasFile t (root / (later : String)) q) →
        q.spellings = preferred ++ spelling :: others →
        (∀ other ∈ preferred, ¬Readable t (root / name / (other : String))) →
        Readable t (root / name / spelling) →
          q.path c.paths = some (root / name / spelling)) ∧
      ∀ t' c', (run t' root).result = .ok c' →
        ((batteries t' root).filter (fun name : String => HasFile t' (root / name) q) =
          (batteries t root).filter fun name : String => HasFile t (root / name) q) →
        (∀ name ∈ batteries t root, HasFile t (root / (name : String)) q →
          ∀ s ∈ q.spellings, (Readable t' (root / name / (s : String)) ↔
            Readable t (root / name / (s : String)))) →
          q.path c'.paths = q.path c.paths := by
  refine ⟨(pairwise_devices t root).filter _, ?_, ?_, fun t' c' => path_of_same_files h⟩
  · rw [path_of_run h, Last.last?_eq_none_iff]
    refine forall₂_congr fun name _ => ?_
    rw [file?_eq_none_iff]
    constructor
    · rintro hall ⟨s, hs, hr⟩
      exact hall s hs hr
    · exact fun hno s hs hr => hno ⟨s, hs, hr⟩
  · intro before name after preferred spelling others hb hafter hspellings hpreferred hreadable
    have hlater : ∀ later ∈ after, file? t (root / (later : String)) q.spellings = none :=
      fun later hl => file?_eq_none_of_not_hasFile (hafter later hl)
    have hfile : file? t (root / name) q.spellings = some (root / name / spelling) := by
      rw [hspellings]
      exact file?_of_first hpreferred hreadable
    rw [path_of_run h]
    exact Last.last?_eq_some_iff.2 ⟨before, name, after, hb, hfile, hlater⟩

/-- Three batteries: the first has both names for the temperature, the second the name that
comes after, and the third a dangling link and a directory in place of it.  Then the first
loses its status, the third goes, and two other devices with a temperature come. -/
theorem temperature_from_second_of_three :
    let t := FileTree.empty.changes
      [.device "ps/BAT0" [("type", "Battery"), ("status", "Full"), ("temp", "251"),
          ("batt_temp", "252")],
        .device "ps/BAT1" [("type", "Battery"), ("batt_temp", "253")],
        .device "ps/BAT2" [("type", "Battery"), ("capacity", "80")],
        .link "ps/BAT2/temp" (.ofText "gone"),
        .directory "ps/BAT2/batt_temp",
        .device "ps/USB" [("type", "USB"), ("online", "1")]]
    let t' := t.changes
      [.remove "ps/BAT0/status", .remove "ps/BAT2",
        .device "ps/USB" [("temp", "254"), ("technology", "Li-ion")],
        .device "ps/fan" [("type", "Fan"), ("temp", "255")]]
    ∃ c c', (run t "ps").result = .ok c ∧ (run t' "ps").result = .ok c' ∧
      c.paths.temperature = some (Path.ofText "ps/BAT1/batt_temp") ∧ c.paths.technology = none ∧
      c'.paths.temperature = c.paths.temperature ∧ c'.paths.status ≠ c.paths.status := by
  intro t t'
  -- evaluated together, so that each tree is built once
  obtain ⟨hrun, hrun', hbatteries, hlater, htemp, hbatt, hnone, hsame, hnames⟩ :
      (run t "ps").result.toOption.any (fun c => c.paths.status.isSome) = true ∧
      (run t' "ps").result.toOption.any (fun c => c.paths.status.isNone) = true ∧
      batteries t "ps" = ["BAT0"] ++ "BAT1" :: ["BAT2"] ∧
      (∀ later ∈ ["BAT2"], ¬HasFile t ("ps" / (later : String) : Path) .temperature) ∧
      (∀ other ∈ ["temp"], ¬Readable t ("ps" / "BAT1" / (other : String) : Path)) ∧
      Readable t ("ps" / "BAT1" / "batt_temp" : Path) ∧
      (∀ name ∈ batteries t "ps", ¬HasFile t ("ps" / (name : String) : Path) .technology) ∧
      ((batteries t' "ps").filter fun name : String =>
          HasFile t' ("ps" / name : Path) .temperature) =
        ((batteries t "ps").filter fun name : String =>
          HasFile t ("ps" / name : Path) .temperature) ∧
      ∀ name ∈ batteries t "ps", HasFile t ("ps" / (name : String) : Path) .temperature →
        ∀ s ∈ PlainQuantity.spellings .temperature,
          (Readable t' ("ps" / name / (s : String) : Path) ↔
            Readable t ("ps" / name / (s : String) : Path)) := by
    decide +kernel
  obtain ⟨c, hc, hstatus⟩ := exists_ok_of_any hrun
  obtain ⟨c', hc', hstatus'⟩ := exists_ok_of_any hrun'
  obtain ⟨-, -, hlast, hother⟩ := path_from_last_battery hc .temperature
  obtain ⟨-, htechnology, -⟩ := path_from_last_battery hc .technology
  refine ⟨c, c', hc, hc', ?_, htechnology.2 hnone, hother t' c' hc' hsame hnames, ?_⟩
  · refine (hlast _ _ _ _ _ [] hbatteries hlater rfl htemp hbatt).trans ?_
    exact congrArg some (by decide +kernel)
  · intro hpaths
    rw [hpaths, Option.isNone_iff_eq_none] at hstatus'
    rw [hstatus'] at hstatus
    cases hstatus

end Discovery
end PowerSupply

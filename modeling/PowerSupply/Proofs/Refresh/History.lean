/-
# What a snapshot remembers over a history of refreshes

`seen` is the value that a refresh over a tree gives to a field, if it gives one.  A
refresh replaces the fields that are seen and leaves the others alone
(`get?_refresh`), so after any history a field has the value that was seen last, or
the one from before the history (`get?_refreshOver`).

Seven fields are seen in every tree, so only the last tree matters to them.  Health,
technology and a level from a pair are seen only where the files have something to
say, so they go back to the latest tree that did (`snapshot_of_history`).
-/

import PowerSupply.FileTree.Change
import PowerSupply.Proofs.Last
import PowerSupply.Proofs.Refresh.Effect
import PowerSupply.Proofs.Service.Stage

namespace PowerSupply

/-- The value that a sequence of writes leaves in a field, if one of them assigns it. -/
def Write.left? (k : Constants) (f : Field) (ws : List Write) : Option Json :=
  last? (fun w => if w.field = f then some (w.value k) else none) ws

/-- **A field has the value that was written to it last.** -/
theorem Snapshot.get?_writeAll (k : Constants) (s : Snapshot) (ws : List Write) (f : Field) :
    (s.writeAll k ws).get? f.name = (Write.left? k f ws).or (s.get? f.name) := by
  unfold Write.left?
  induction ws generalizing s with
  | nil => rfl
  | cons w ws ih =>
    show ((s.write k w).writeAll k ws).get? f.name = _
    rw [ih, Last.last?_cons, Option.or_assoc]
    split
    · rename_i hw
      rw [← hw, Snapshot.get?_write_self]
      rfl
    · rename_i hw
      rw [Snapshot.get?_write_of_ne k s w fun h => hw (Field.name_injective h).symm]
      rfl

/-- A service after a refresh over each of several trees in turn. -/
def Service.refreshOver (root : Path) (s : Service) (trees : List FileTree) : Service :=
  trees.foldl (fun s t => (s.refresh (.ofRoot root) t).1) s

namespace Refresh

open Attribute (words? number flag)

/-- The level that a tree gives. -/
def levelOf (t : FileTree) (paths : AttributePaths) : Option Int :=
  if paths.present.isNone then some 100
  else if paths.capacity.isSome then some (number t paths.capacity)
  else paths.levelPair.bind fun pair => ratio? t pair.1 pair.2

/-- The value that a tree gives to a field, as far as it gives one. -/
def seen (k : Constants) (c : Configuration) (t : FileTree) : Field → Option Json
  | .acOnline => some (.bool (onlineOf t c).ac)
  | .usbOnline => some (.bool (onlineOf t c).usb)
  | .wirelessOnline => some (.bool (onlineOf t c).wireless)
  | .status => some (.int (k.status (statusOf t c.paths.status)))
  | .health => (words? t c.paths.health).map fun text => .int (k.health (healthOf text))
  | .present => some (.bool (flag t c.paths.present))
  | .level => (levelOf t c.paths).map .int
  | .voltage => (millivolts (number t c.paths.voltage) c.voltageDivisor).toOption.map .int
  | .temperature => some (.int (number t c.paths.temperature))
  | .technology => (words? t c.paths.technology).map .str

theorem levelWrites_eq (t : FileTree) (paths : AttributePaths) :
    levelWrites t paths = ((levelOf t paths).map fun n => Write.level (.int n)).toList := by
  unfold levelWrites levelOf
  split
  · rfl
  split
  · rfl
  · cases paths.levelPair <;> rfl

theorem levelOf_of_absent {paths : AttributePaths} (hp : paths.present = none) (t : FileTree) :
    levelOf t paths = some 100 := by
  unfold levelOf
  rw [hp]
  rfl

theorem levelOf_of_capacity {paths : AttributePaths} {file : Path} (hp : paths.present.isSome)
    (hc : paths.capacity = some file) (t : FileTree) :
    levelOf t paths = some (number t (some file)) := by
  unfold levelOf
  rw [Option.isNone_eq_false_iff.2 hp, if_neg Bool.false_ne_true, hc]
  rfl

theorem levelOf_of_nothing {paths : AttributePaths} (hp : paths.present.isSome)
    (hc : paths.capacity = none) (hl : paths.levelPair = none) (t : FileTree) :
    levelOf t paths = none := by
  unfold levelOf
  rw [Option.isNone_eq_false_iff.2 hp, if_neg Bool.false_ne_true, hc, hl]
  rfl

/-- Where there is a battery and its level comes from a pair, the tree gives the level of
the pair. -/
theorem levelOf_of_pair {paths : AttributePaths} {now full : Path} (t : FileTree)
    (hp : paths.present.isSome) (hl : paths.levelPair = some (now, full)) :
    levelOf t paths = ratio? t now full := by
  have hc : paths.capacity = none := by
    cases hc : paths.capacity with
    | none => rfl
    | some p => simp [AttributePaths.levelPair, AttributePaths.levelSource, hc] at hl
  unfold levelOf
  rw [Option.isNone_eq_false_iff.2 hp, if_neg Bool.false_ne_true, hl, hc]
  rfl

/-- A part of a refresh that writes one field at most leaves its value there, and
nothing elsewhere. -/
theorem left?_toList (k : Constants) (f : Field) {α : Type} {g : Field} {w : α → Write}
    (hw : ∀ a, (w a).field = g) (o : Option α) :
    Write.left? k f (o.map w).toList = if g = f then o.map fun a => (w a).value k else none := by
  cases o with
  | none => exact (ite_self _).symm
  | some a =>
    show Write.left? k f [w a] = _
    unfold Write.left?
    rw [Last.last?_singleton, hw a]
    rfl

/-- **The writes of a refresh leave in each field what is seen of it.** -/
theorem left?_writesOf (k : Constants) {c : Configuration} {t : FileTree} {v : Int}
    (hv : millivolts (number t c.paths.voltage) c.voltageDivisor = .ok v) (f : Field) :
    Write.left? k f (writesOf t c v) = seen k c t f := by
  have happ : ∀ xs ys, Write.left? k f (xs ++ ys) = (Write.left? k f ys).or (Write.left? k f xs) :=
    Last.last?_append _
  have hlevel := left?_toList k f (w := fun n => .level (.int n)) (fun _ => rfl) (levelOf t c.paths)
  have hhealth := left?_toList k f (w := fun text => .health (healthOf text)) (fun _ => rfl)
    (words? t c.paths.health)
  have htechnology := left?_toList k f (w := fun text => .technology (.str text)) (fun _ => rfl)
    (words? t c.paths.technology)
  unfold writesOf
  rw [levelWrites_eq, happ, happ, happ, happ, happ, hlevel, hhealth, htechnology]
  cases f with
  | level | health | technology => exact Option.or_none
  | voltage =>
    unfold seen
    rw [hv]
    rfl
  | _ => rfl

variable {c : Configuration} {d : Int}

/-- **One refresh** goes through, and each field that is seen has its new value; the
others have the old one. -/
theorem get?_refresh (hd : c.voltageDivisor = .int d) (hz : d ≠ 0)
    (hn : ∀ p ∈ c.files, p.hasNul = false) (root : Path) (k : Constants) (source : ConstantSource)
    (snapshot : Snapshot) (t : FileTree) :
    let done := Service.refresh (.ofRoot root) ⟨source, snapshot, .started k c⟩ t
    done.2.2.result = .ok () ∧ ∀ f : Field,
      done.1.snapshot.get? f.name = (seen k c t f).or (snapshot.get? f.name) := by
  obtain ⟨v, hv⟩ := exists_millivolts t c.paths.voltage hz
  rw [← hd] at hv
  have hrun := makes_run hn hv
  refine ⟨hrun.result, fun f => ?_⟩
  show (snapshot.writeAll k (Action.writes (run t c).events)).get? f.name = _
  rw [hrun.writes, Snapshot.get?_writeAll, left?_writesOf k hv]

/-- **A history of refreshes** leaves in each field what was seen of it last, or what
was there before the history if it was never seen. -/
theorem get?_refreshOver (hd : c.voltageDivisor = .int d) (hz : d ≠ 0)
    (hn : ∀ p ∈ c.files, p.hasNul = false) (root : Path) (k : Constants) (source : ConstantSource)
    (snapshot : Snapshot) (trees : List FileTree) (f : Field) :
    (Service.refreshOver root ⟨source, snapshot, .started k c⟩ trees).snapshot.get? f.name =
      (last? (fun t => seen k c t f) trees).or (snapshot.get? f.name) := by
  induction trees generalizing snapshot with
  | nil => rfl
  | cons t trees ih =>
    have hstep := (get?_refresh hd hz hn root k source snapshot t).2 f
    rw [Last.last?_cons, Option.or_assoc, ← hstep]
    exact ih _

/-- Over a history the service stays started, and each of its refreshes goes
through. -/
theorem result_refreshOver (hd : c.voltageDivisor = .int d) (hz : d ≠ 0)
    (hn : ∀ p ∈ c.files, p.hasNul = false) (root : Path) (k : Constants) (source : ConstantSource)
    (snapshot : Snapshot) (trees : List FileTree) (t : FileTree) :
    ((Service.refreshOver root ⟨source, snapshot, .started k c⟩ trees).refresh
      (.ofRoot root) t).2.2.result = .ok () := by
  induction trees generalizing snapshot with
  | nil => exact (get?_refresh hd hz hn root k source snapshot t).1
  | cons _ trees ih => exact ih _

/-- The fields that every refresh writes. -/
def alwaysSeen : List Field :=
  [.acOnline, .usbOnline, .wirelessOnline, .present, .voltage, .temperature, .status]

/-- With an integer divisor that is not zero they are indeed seen in every tree. -/
theorem isSome_seen (hd : c.voltageDivisor = .int d) (hz : d ≠ 0) (k : Constants) (t : FileTree)
    {f : Field} (hf : f ∈ alwaysSeen) : ∃ v, seen k c t f = some v := by
  obtain ⟨v, hv⟩ := exists_millivolts t c.paths.voltage hz
  rw [← hd] at hv
  cases f with
  | health | technology | level => exact absurd hf (by decide)
  | voltage =>
    refine ⟨.int v, ?_⟩
    unfold seen
    rw [hv]
    rfl
  | _ => exact ⟨_, rfl⟩

/-- **What a snapshot remembers** after refreshing over a tree at least, whatever it held
before and however the trees differ.

Every refresh goes through.  Health and technology are those of the latest tree with a
text for them, and the level from a pair is that of the latest tree with two texts and a
full amount that is not zero; without such a tree they are what they were before.  The
other seven fields have the value that is seen of them in the last tree, after every
history that ends with it. -/
theorem snapshot_of_history (hd : c.voltageDivisor = .int d) (hz : d ≠ 0)
    (hn : ∀ p ∈ c.files, p.hasNul = false) (root : Path) (k : Constants) (source : ConstantSource)
    (snapshot : Snapshot) (earlier : List FileTree) (latest : FileTree) :
    let trees := earlier ++ [latest]
    let refreshed (s : Snapshot) (ts : List FileTree) : Service :=
      Service.refreshOver root ⟨source, s, .started k c⟩ ts
    let final := (refreshed snapshot trees).snapshot
    (∀ before t after, trees = before ++ t :: after →
      ((refreshed snapshot before).refresh (.ofRoot root) t).2.2.result = .ok ()) ∧
    final.get? Field.health.name =
      ((last? (fun t => words? t c.paths.health) trees).map fun text =>
        Json.int (k.health (healthOf text))).or (snapshot.get? Field.health.name) ∧
    final.get? Field.technology.name =
      ((last? (fun t => words? t c.paths.technology) trees).map Json.str).or
        (snapshot.get? Field.technology.name) ∧
    (∀ now full, c.paths.present.isSome → c.paths.levelPair = some (now, full) →
      final.get? Field.level.name =
        ((last? (fun t => ratio? t now full) trees).map Json.int).or
          (snapshot.get? Field.level.name)) ∧
    ∀ f ∈ alwaysSeen, ∃ v, seen k c latest f = some v ∧
      ∀ snapshot' earlier',
        (refreshed snapshot' (earlier' ++ [latest])).snapshot.get? f.name = some v := by
  intro trees refreshed final
  have law : ∀ (f : Field) (s : Snapshot) (ts : List FileTree),
      (refreshed s ts).snapshot.get? f.name =
        (last? (fun t => seen k c t f) ts).or (s.get? f.name) :=
    fun f s ts => get?_refreshOver hd hz hn root k source s ts f
  refine ⟨fun before t _ _ => ?_, ?_, ?_, fun now full hp hl => ?_, fun f hf => ?_⟩
  · exact result_refreshOver hd hz hn root k source snapshot before t
  · rw [law .health snapshot trees, ← Last.last?_map]
    rfl
  · rw [law .technology snapshot trees, ← Last.last?_map]
    rfl
  · have hseen : (fun t => seen k c t .level) = fun t => (ratio? t now full).map Json.int := by
      funext t
      unfold seen
      rw [levelOf_of_pair t hp hl]
    rw [law .level snapshot trees, hseen, Last.last?_map]
  · obtain ⟨v, hv⟩ := isSome_seen hd hz k latest hf
    refine ⟨v, hv, fun snapshot' earlier' => ?_⟩
    rw [law f snapshot' (earlier' ++ [latest]), Last.last?_concat, hv]
    rfl

/-- Three trees: all texts are there, then the present amount and the technology go and
the health changes, and at last the full amount is zero and the health is empty. -/
theorem snapshot_of_three_trees :
    let c : Configuration :=
      { root := "ps", chargers := ["AC"], voltageDivisor := .int 1000,
        paths :=
          { health := some "ps/BAT0/health", present := some "ps/BAT0/present",
            chargeNow := some "ps/BAT0/charge_now", chargeFull := some "ps/BAT0/charge_full",
            voltage := some "ps/BAT0/voltage_now", technology := some "ps/BAT0/technology" } }
    let t₁ := FileTree.empty.changes
      [.device "ps/BAT0" [("health", "Overheat"), ("present", "1"), ("charge_now", "50"),
        ("charge_full", "200"), ("voltage_now", "4200000"), ("technology", "Li-poly")]]
    let t₂ := t₁.changes
      [.remove "ps/BAT0/charge_now", .remove "ps/BAT0/technology",
        .device "ps/BAT0" [("health", "Cold")]]
    let t₃ := t₂.changes
      [.device "ps/BAT0" [("health", ""), ("charge_now", "7"), ("charge_full", "0"),
        ("voltage_now", "-1999")]]
    let k : Constants := ⟨fun _ => 1, fun h => if h = .cold then 7 else 2⟩
    let final :=
      (Service.refreshOver "ps" ⟨.standard, .initial, .started k c⟩ [t₁, t₂, t₃]).snapshot
    c.voltageDivisor = .int 1000 ∧ (∀ p ∈ c.files, p.hasNul = false) ∧
      final.get? "health" = some (.int 7) ∧ final.get? "technology" = some (.str "Li-poly") ∧
      final.get? "level" = some (.int 25) ∧ final.get? "voltage_millivolts" = some (.int (-1)) := by
  intro c t₁ t₂ t₃ k final
  have files : ∀ p ∈ c.files, p.hasNul = false := by decide +kernel
  obtain ⟨-, hhealth, htechnology, hlevel, hseen⟩ :=
    snapshot_of_history (c := c) (d := 1000) rfl (by decide) files "ps" k .standard .initial
      [t₁, t₂] t₃
  have words : last? (fun t => words? t c.paths.health) [t₁, t₂, t₃] = some "Cold" ∧
      last? (fun t => words? t c.paths.technology) [t₁, t₂, t₃] = some "Li-poly" := by
    decide +kernel
  have ratio : last? (fun t => ratio? t "ps/BAT0/charge_now" "ps/BAT0/charge_full") [t₁, t₂, t₃] =
      some 25 := by decide +kernel
  have volts : (millivolts (number t₃ c.paths.voltage) c.voltageDivisor).toOption = some (-1) := by
    decide +kernel
  refine ⟨rfl, files, hhealth.trans ?_, htechnology.trans ?_, (hlevel _ _ rfl rfl).trans ?_, ?_⟩
  · show (Option.map _ (last? (fun t => words? t c.paths.health) [t₁, t₂, t₃])).or _ = _
    rw [words.1]
    rfl
  · show (Option.map _ (last? (fun t => words? t c.paths.technology) [t₁, t₂, t₃])).or _ = _
    rw [words.2]
    rfl
  · show (Option.map _ (last? (fun t => ratio? t _ _) [t₁, t₂, t₃])).or _ = _
    rw [ratio]
    rfl
  · obtain ⟨v, hv, hall⟩ := hseen .voltage (by decide)
    change Option.map _ (millivolts (number t₃ c.paths.voltage) c.voltageDivisor).toOption = _ at hv
    rw [volts] at hv
    cases hv
    exact hall .initial [t₁, t₂]

end Refresh
end PowerSupply

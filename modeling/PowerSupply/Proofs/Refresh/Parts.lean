/-
# The parts of a refresh

A refresh writes the presence and the level first (`early`), then the other fields of the
battery (`middle`), and the chargers last (`run_eq_parts`).

The parts after the first write their own fields and no others, whatever they read and
however they end (`WritesTo`).  So once the early part has gone through, the presence and
the level are settled, and what happens later, a fault too, has no bearing on them
(`get?_of_makes_early`).
-/

import PowerSupply.Proofs.Refresh.Divisor

namespace PowerSupply

namespace Refreshing

variable {fs : List Field} {α β σ : Type}

/-- Every write of a refresh, however it ends, is to one of the fields `fs`. -/
def WritesTo (fs : List Field) (x : Refreshing α) : Prop :=
  ∀ w, Action.write w ∈ x.events → w.field ∈ fs

namespace WritesTo

theorem pure (a : α) : WritesTo fs (Pure.pure a) := fun _ h => nomatch h

theorem write {w : Write} (h : w.field ∈ fs) : WritesTo fs (Refreshing.write w) := by
  intro v hv
  obtain rfl := Action.write.inj (List.mem_singleton.1 hv)
  exact h

theorem note (n : Note) : WritesTo fs (Trace.emit (.note n)) :=
  fun _ h => nomatch List.mem_singleton.1 h

theorem ofExcept (r : Except Fault α) : WritesTo fs (Trace.ofExcept r) := fun _ h => nomatch h

theorem reading (x : Logged α) : WritesTo fs (Refreshing.reading x) := by
  intro w hw
  obtain ⟨_, _, he⟩ := List.mem_map.1 hw
  cases he

/-- **The writes of a sequence** are those of its parts, as far as it gets. -/
theorem seq {x : Refreshing α} {f : α → Refreshing β} (hx : WritesTo fs x)
    (hf : ∀ a, WritesTo fs (f a)) : WritesTo fs (x >>= f) := by
  intro w hw
  have each : ∀ e ∈ (x >>= f).events, ∀ w, e = .write w → w.field ∈ fs := by
    refine Trace.forall_events_bind ?_ fun a _ => ?_
    · rintro _ he w rfl
      exact hx w he
    · rintro _ he w rfl
      exact hf a w he
  exact each _ hw w rfl

theorem foldlM {f : σ → α → Refreshing σ} (s : σ) (as : List α) (h : ∀ s a, WritesTo fs (f s a)) :
    WritesTo fs (as.foldlM f s) := by
  induction as generalizing s with
  | nil => exact pure s
  | cons a as ih =>
    rw [List.foldlM_cons]
    exact (h s a).seq ih

/-- **What a part does not write** is not left by it. -/
theorem left?_eq_none {x : Refreshing α} (h : WritesTo fs x) (k : Constants) {f : Field}
    (hf : f ∉ fs) : Write.left? k f (Action.writes x.events) = none := by
  refine Last.last?_eq_none_iff.2 fun w hw => if_neg ?_
  rintro rfl
  obtain ⟨a, ha, hwrite⟩ := List.mem_filterMap.1 hw
  cases a with
  | note n => cases hwrite
  | write v =>
    obtain rfl := Option.some.inj hwrite
    exact hf (h _ ha)

/-- **A field that the rest does not write** has its value once the first part has gone
through. -/
theorem get?_of_makes {x : Refreshing α} {rest : α → Refreshing β} {ws : List Write} {a : α}
    (hrest : ∀ a, WritesTo fs (rest a)) (hx : Makes x ws a) (k : Constants) (snapshot : Snapshot)
    {f : Field} (hf : f ∉ fs) :
    (snapshot.writeAll k (Action.writes (x >>= rest).events)).get? f.name =
      (Write.left? k f ws).or (snapshot.get? f.name) := by
  have happ : ∀ ws', Write.left? k f (ws ++ ws') =
      (Write.left? k f ws').or (Write.left? k f ws) := Last.last?_append _ ws
  rw [Trace.events_bind_ok _ hx.result, Action.writes_append, hx.writes, Snapshot.get?_writeAll,
    happ, (hrest a).left?_eq_none k hf, Option.none_or]

end WritesTo
end Refreshing

namespace Refresh

open Refreshing (Makes WritesTo reading write)

variable {fs : List Field}

/-! ### The parts and their fields -/

theorem writesTo_status (t : FileTree) (paths : AttributePaths) (h : Field.status ∈ fs) :
    WritesTo fs (status t paths) := by
  unfold status
  refine (WritesTo.reading _).seq fun _ => ?_
  dsimp only
  split
  · exact WritesTo.write h
  · exact (WritesTo.reading _).seq fun _ => WritesTo.write h

theorem writesTo_health (t : FileTree) (paths : AttributePaths) (h : Field.health ∈ fs) :
    WritesTo fs (health t paths) := by
  unfold health
  refine (WritesTo.reading _).seq fun _ => ?_
  dsimp only
  split
  · exact WritesTo.pure ()
  · exact (WritesTo.reading _).seq fun _ => WritesTo.write h

theorem writesTo_technology (t : FileTree) (paths : AttributePaths) (h : Field.technology ∈ fs) :
    WritesTo fs (technology t paths) := by
  unfold technology
  refine (WritesTo.reading _).seq fun _ => ?_
  dsimp only
  split
  · exact WritesTo.pure ()
  · exact WritesTo.write h

theorem writesTo_charger (t : FileTree) (c : Configuration) (online : Online) (name : String) :
    WritesTo fs (charger t c online name) := by
  unfold charger
  refine (WritesTo.reading _).seq fun state => ?_
  split
  · exact WritesTo.pure online
  refine (WritesTo.reading _).seq fun type => ?_
  cases SupplyType.ofText type with
  | ac | usb | wireless => exact WritesTo.pure _
  | unknown | battery => exact (WritesTo.note _).seq fun _ => WritesTo.pure online

theorem writesTo_chargers (t : FileTree) (c : Configuration) (hac : Field.acOnline ∈ fs)
    (husb : Field.usbOnline ∈ fs) (hwireless : Field.wirelessOnline ∈ fs) :
    WritesTo fs (chargers t c) := by
  unfold chargers
  refine (WritesTo.foldlM {} _ fun online name => writesTo_charger t c online name).seq
    fun _ => ?_
  exact (WritesTo.write hac).seq fun _ => (WritesTo.write husb).seq fun _ =>
    WritesTo.write hwireless

/-! ### The parts in order -/

/-- The part of a refresh that writes the presence and the level. -/
def early (t : FileTree) (paths : AttributePaths) : Refreshing Unit := do
  write (.present (.bool (← reading (Attribute.readFlag t paths.present))))
  level t paths

/-- The part of a refresh between the level and the chargers. -/
def middle (t : FileTree) (c : Configuration) : Refreshing Unit := do
  let raw ← reading (Attribute.readInt t c.paths.voltage)
  write (.voltage (.int (← .ofExcept (millivolts raw c.voltageDivisor))))
  write (.temperature (.int (← reading (Attribute.readInt t c.paths.temperature))))
  status t c.paths
  health t c.paths
  technology t c.paths

/-- **A refresh is made of three parts.** -/
theorem run_eq_parts (t : FileTree) (c : Configuration) :
    run t c = early t c.paths >>= fun _ => middle t c >>= fun _ => chargers t c := by
  simp only [run, early, middle, bind_assoc]

/-- The fields that are written after the level. -/
def lateFields : List Field :=
  [.voltage, .temperature, .status, .health, .technology, .acOnline, .usbOnline, .wirelessOnline]

theorem notMem_lateFields : ∀ f ∈ earlyFields, f ∉ lateFields := by decide

theorem writesTo_middle (t : FileTree) (c : Configuration) : WritesTo lateFields (middle t c) := by
  have voltage : Field.voltage ∈ lateFields := by decide
  have temperature : Field.temperature ∈ lateFields := by decide
  unfold middle
  refine (WritesTo.reading _).seq fun _ => (WritesTo.ofExcept _).seq fun _ => ?_
  refine (WritesTo.write voltage).seq fun _ => (WritesTo.reading _).seq fun _ => ?_
  refine (WritesTo.write temperature).seq fun _ => ?_
  refine (writesTo_status t _ (by decide)).seq fun _ => ?_
  refine (writesTo_health t _ (by decide)).seq fun _ => ?_
  exact writesTo_technology t _ (by decide)

/-- **An early field has its value for good** once the early part has gone through, however
the refresh goes on. -/
theorem get?_of_makes_early {t : FileTree} {c : Configuration} {ws : List Write}
    (h : Makes (early t c.paths) ws ()) (k : Constants) (snapshot : Snapshot) {f : Field}
    (hf : f ∈ earlyFields) :
    (snapshot.writeAll k (Action.writes (run t c).events)).get? f.name =
      (Write.left? k f ws).or (snapshot.get? f.name) := by
  have hlate : ∀ _ : Unit, WritesTo lateFields (middle t c >>= fun _ => chargers t c) := fun _ =>
    (writesTo_middle t c).seq fun _ => writesTo_chargers t c (by decide) (by decide) (by decide)
  rw [run_eq_parts]
  exact WritesTo.get?_of_makes hlate h k snapshot (notMem_lateFields f hf)

end Refresh
end PowerSupply

/-
# The one fault of a refresh

Where no path has a NUL character, a refresh can stop in one place only, the division of
the voltage.  It stands between the level and everything that comes after: what was
written before it stays written, and nothing else is (`stops_run`).

`Stops x ws f` says that a refresh `x` makes the writes `ws` and then stops with the
fault `f`, as `Makes x ws a` says of a refresh that goes through.

With an integer as the divisor the fault is that of a divisor of zero
(`refresh_of_integer_divisor`).  An integer that a text can hold never is too large for
the quotient.  The other division, that of the level, is by a full amount that is not
zero, as each note of a level shows (`ofRefresh_run`).
-/

import PowerSupply.Proofs.Refresh.Discovered
import PowerSupply.Proofs.Refresh.History

namespace PowerSupply

/-- Writes to other fields leave a field alone. -/
theorem Snapshot.get?_writeAll_of_ne (k : Constants) (s : Snapshot) {ws : List Write} {name : String}
    (h : ∀ w ∈ ws, name ≠ w.field.name) : (s.writeAll k ws).get? name = s.get? name := by
  induction ws generalizing s with
  | nil => rfl
  | cons w ws ih =>
    show ((s.write k w).writeAll k ws).get? name = _
    rw [ih _ fun v hv => h v (List.mem_cons_of_mem _ hv),
      Snapshot.get?_write_of_ne k s w (h w (List.mem_cons_self ..))]

/-- The notes that a refresh can make.  A level is noted with the amounts that it was
divided from, and the full one is not zero. -/
def Note.OfRefresh : Note → Prop
  | .unreadable .. | .notNumeric _ | .unknownStatus _ | .unknownHealth _ | .fullIsZero _
  | .unclearCharger _ => True
  | .computedLevel level now full => full ≠ 0 ∧ level = Int.fdiv (now * 100) full
  | _ => False

namespace Refreshing

variable {α β : Type} {f : Fault}

/-- The refresh makes the writes `ws` and then stops with the fault `f`, whatever it
notes. -/
structure Stops (x : Refreshing α) (ws : List Write) (f : Fault) : Prop where
  writes : Action.writes x.events = ws
  result : x.result = .error f

namespace Stops

theorem ofExcept {r : Except Fault α} (h : r = .error f) : Stops (Trace.ofExcept r) [] f := ⟨rfl, h⟩

/-- A reading that is a fault has written nothing. -/
theorem reading {x : Logged α} (h : x.result = .error f) : Stops (Refreshing.reading x) [] f :=
  ⟨writes_reading x, h⟩

/-- **What comes after a fault does not happen.** -/
theorem bind {x : Refreshing α} {ws : List Write} (hx : Stops x ws f) (g : α → Refreshing β) :
    Stops (x >>= g) ws f := by
  constructor
  · rw [Trace.events_bind_error g hx.result, hx.writes]
  · exact Trace.result_bind_error g hx.result

/-- **What came before a fault stays.** -/
theorem after {x : Refreshing α} {g : α → Refreshing β} {ws ws' : List Write} {a : α}
    (hx : Makes x ws a) (hg : Stops (g a) ws' f) : Stops (x >>= g) (ws ++ ws') f := by
  constructor
  · rw [Trace.events_bind_ok g hx.result, Action.writes_append, hx.writes, hg.writes]
  · rw [Trace.result_bind_ok g hx.result]
    exact hg.result

/-- A reading before a fault adds no writes. -/
theorem after_reading {x : Logged α} {g : α → Refreshing β} {ws : List Write} {a : α}
    (hx : x.result = .ok a) (hg : Stops (g a) ws f) : Stops (Refreshing.reading x >>= g) ws f :=
  after (Makes.reading hx) hg

end Stops
end Refreshing

namespace Refresh

open Attribute (flag number)
open Refreshing (Makes Notes Stops)

variable {t : FileTree} {c : Configuration}

/-! ### Where it stops -/

/-- The writes before the voltage. -/
def earlyWrites (t : FileTree) (paths : AttributePaths) : List Write :=
  [.present (.bool (flag t paths.present))] ++ levelWrites t paths

/-- **A refresh without a voltage** has written the presence and the level, and stops
with the fault of the division. -/
theorem stops_run (h : ∀ p ∈ c.files, p.hasNul = false) {f : Fault}
    (hf : millivolts (number t c.paths.voltage) c.voltageDivisor = .error f) :
    Stops (run t c) (earlyWrites t c.paths) f := by
  have present : ∀ p, c.paths.present = some p → p.hasNul = false :=
    Configuration.forall_of_entry h "present" (by simp [AttributePaths.entries])
  have voltage : ∀ p, c.paths.voltage = some p → p.hasNul = false :=
    Configuration.forall_of_entry h "voltage" (by simp [AttributePaths.entries])
  unfold run earlyWrites
  refine Stops.after_reading (Attribute.result_readFlag present) ?_
  refine Stops.after (Makes.write _) ?_
  rw [← List.append_nil (levelWrites t c.paths)]
  refine Stops.after (makes_level h) ?_
  refine Stops.after_reading (Attribute.result_readInt voltage) ?_
  exact (Stops.ofExcept hf).bind _

/-- The fields that are written before the voltage. -/
def earlyFields : List Field := [.present, .level]

theorem field_mem_earlyFields {w : Write} (h : w ∈ earlyWrites t c.paths) :
    w.field ∈ earlyFields := by
  unfold earlyWrites at h
  rw [levelWrites_eq] at h
  rcases List.mem_append.1 h with h | h
  · obtain rfl := List.mem_singleton.1 h
    exact List.mem_cons_self ..
  · obtain ⟨n, -, rfl⟩ := Option.map_eq_some_iff.1 (Option.mem_toList.1 h)
    exact List.mem_cons_of_mem _ (List.mem_cons_self ..)

/-- **The early writes leave in their fields what is seen of them**, as a refresh that
goes through does. -/
theorem left?_earlyWrites (k : Constants) (t : FileTree) (c : Configuration) {f : Field}
    (hf : f ∈ earlyFields) : Write.left? k f (earlyWrites t c.paths) = seen k c t f := by
  have hlevel := left?_toList k f (w := fun n => .level (.int n)) (fun _ => rfl) (levelOf t c.paths)
  unfold earlyWrites Write.left? at *
  rw [levelWrites_eq, Last.last?_append, hlevel]
  cases f with
  | present => rfl
  | level => exact Option.or_none
  | _ => exact absurd hf (by decide)

/-! ### What it notes -/

/-- **The notes of a refresh**, whatever it finds and however it ends. -/
theorem ofRefresh_run (t : FileTree) (c : Configuration) : Notes Note.OfRefresh (run t c) := by
  refine forall_notes_run ?_ (fun p _ limit => ?_) fun _ _ _ _ _ => trivial
  · exact ⟨fun _ => trivial, fun _ => trivial, fun _ => trivial, fun _ => trivial,
      fun _ _ h => ⟨h, rfl⟩⟩
  · exact Attribute.forall_note_read (fun _ _ => trivial) t (some p) (some limit)

theorem ofRefresh_of_mem {root : Path} {k : Constants} {source : ConstantSource}
    {snapshot : Snapshot} {n : Note}
    (h : n ∈ (Service.refresh (.ofRoot root) ⟨source, snapshot, .started k c⟩ t).2.2.events) :
    n.OfRefresh := by
  obtain ⟨a, ha, hnote⟩ := List.mem_filterMap.1 h
  cases a with
  | write w => cases hnote
  | note m =>
    obtain rfl := Option.some.inj hnote
    exact ofRefresh_run t c _ ha

/-! ### With an integer as the divisor -/

/-- The outcome of a refresh without a voltage. -/
theorem refresh_without_voltage (h : ∀ p ∈ c.files, p.hasNul = false) {f : Fault}
    (hf : millivolts (number t c.paths.voltage) c.voltageDivisor = .error f)
    (root : Path) (k : Constants) (source : ConstantSource) (snapshot : Snapshot) :
    let done := Service.refresh (.ofRoot root) ⟨source, snapshot, .started k c⟩ t
    done.2.2.result = .error f ∧
      (∀ f ∈ earlyFields, done.1.snapshot.get? f.name = (seen k c t f).or (snapshot.get? f.name)) ∧
      ∀ name, (∀ f ∈ earlyFields, name ≠ f.name) →
        done.1.snapshot.get? name = snapshot.get? name := by
  have hrun := stops_run h hf
  refine ⟨hrun.result, fun f hf => ?_, fun name hname => ?_⟩
  · show (snapshot.writeAll k (Action.writes (run t c).events)).get? f.name = _
    rw [hrun.writes, Snapshot.get?_writeAll, left?_earlyWrites k t c hf]
  · show (snapshot.writeAll k (Action.writes (run t c).events)).get? name = _
    rw [hrun.writes]
    exact Snapshot.get?_writeAll_of_ne k snapshot fun w hw => hname _ (field_mem_earlyFields hw)

/-- The fields that are written before the voltage do not depend on the divisor. -/
theorem seen_of_divisor (k : Constants) (c : Configuration) (v : Json) (t : FileTree) {f : Field}
    (hf : f ∈ earlyFields) : seen k { c with voltageDivisor := v } t f = seen k c t f := by
  cases f with
  | voltage => exact absurd hf (by decide)
  | _ => rfl

/-- **Without a voltage the early fields are those of a refresh that goes through** with an
integer that is not zero as its divisor. -/
theorem get?_refresh_without_voltage (h : ∀ p ∈ c.files, p.hasNul = false) {f : Fault}
    (hf : millivolts (number t c.paths.voltage) c.voltageDivisor = .error f) (root : Path)
    (k : Constants) (source : ConstantSource) (snapshot : Snapshot) {e : Int} (he : e ≠ 0)
    {g : Field} (hg : g ∈ earlyFields) :
    let refreshed (c : Configuration) : Service :=
      (Service.refresh (.ofRoot root) ⟨source, snapshot, .started k c⟩ t).1
    (refreshed c).snapshot.get? g.name =
      (refreshed { c with voltageDivisor := .int e }).snapshot.get? g.name := by
  obtain ⟨-, early, -⟩ := refresh_without_voltage h hf root k source snapshot
  obtain ⟨-, all⟩ := get?_refresh (c := { c with voltageDivisor := .int e }) rfl he h root k source
    snapshot t
  exact (early g hg).trans ((seen_of_divisor k c (.int e) t hg ▸ all g).symm)

/-- **With an integer as the divisor** a refresh stops with a fault exactly where the
divisor is zero, in every tree and over every snapshot.

The fault is the division by zero.  Then the presence and the level are those of the
refresh that goes through with any other integer as the divisor, and every other field is
as it was.  An integer that is read from a file is below a bound, for which the quotient
by an integer that is not zero always is finite, and a level is divided by an amount that
is not zero.  So the refresh of a configuration that was discovered goes through in every
tree. -/
theorem refresh_of_integer_divisor {d : Int} (hd : c.voltageDivisor = .int d)
    (hn : ∀ p ∈ c.files, p.hasNul = false) (root : Path) (k : Constants) (source : ConstantSource)
    (snapshot : Snapshot) (t : FileTree) :
    let refreshed (c : Configuration) (t : FileTree) : Service × FileTree × Logged Unit :=
      Service.refresh (.ofRoot root) ⟨source, snapshot, .started k c⟩ t
    let done := refreshed c t
    ((∃ f, done.2.2.result = .error f) ↔ d = 0) ∧
    (d = 0 →
      done.2.2.result = .error .divisionByZero ∧
      (∀ e ≠ 0,
        let normal := refreshed { c with voltageDivisor := .int e } t
        normal.2.2.result = .ok () ∧
        done.1.snapshot.get? Field.present.name = normal.1.snapshot.get? Field.present.name ∧
        done.1.snapshot.get? Field.level.name = normal.1.snapshot.get? Field.level.name) ∧
      ∀ name, name ≠ Field.present.name → name ≠ Field.level.name →
        done.1.snapshot.get? name = snapshot.get? name) ∧
    (∀ path text n, (Attribute.read t path).result = .ok text →
      (Attribute.leadingInt? text).result = .ok (some n) →
        n.natAbs < Nat.pow 10 128 ∧ ∀ e ≠ 0, ∃ v, quotient n e = .ok v) ∧
    (∀ level now full, .computedLevel level now full ∈ done.2.2.events →
      full ≠ 0 ∧ level = Int.fdiv (now * 100) full) ∧
    ∀ t₀ root₀ c₀, (Discovery.run t₀ root₀).result = .ok c₀ →
      ∀ t', (refreshed c₀ t').2.2.result = .ok () := by
  intro refreshed done
  have through : ∀ {e : Int}, e ≠ 0 → ∀ c : Configuration, c.voltageDivisor = .int e →
      (∀ p ∈ c.files, p.hasNul = false) → (refreshed c t).2.2.result = .ok () :=
    fun he _ hd hn => (get?_refresh hd he hn root k source snapshot t).1
  have zero : d = 0 → millivolts (number t c.paths.voltage) c.voltageDivisor =
      .error .divisionByZero := by
    rintro rfl
    rw [hd]
    rfl
  refine ⟨⟨?_, fun hz => ?_⟩, fun hz => ?_, fun path text n hr hi => ?_,
    fun level now full h => ofRefresh_of_mem h, fun t₀ root₀ c₀ h t' => result_run_of_discovered h t'⟩
  · rintro ⟨f, hf⟩
    refine Decidable.byContradiction fun hz => ?_
    rw [through hz c hd hn] at hf
    cases hf
  · exact ⟨_, (refresh_without_voltage hn (zero hz) root k source snapshot).1⟩
  · obtain ⟨hresult, -, hother⟩ := refresh_without_voltage hn (zero hz) root k source snapshot
    have same : ∀ e : Int, e ≠ 0 → ∀ f ∈ earlyFields, done.1.snapshot.get? f.name =
        (refreshed { c with voltageDivisor := .int e } t).1.snapshot.get? f.name :=
      fun e he f hf => get?_refresh_without_voltage hn (zero hz) root k source snapshot he hf
    refine ⟨hresult, fun e he => ⟨through he _ rfl hn, ?_, ?_⟩, fun name hp hl => ?_⟩
    · exact same e he .present (by decide)
    · exact same e he .level (by decide)
    · refine hother name fun f hf => ?_
      cases f with
      | present => exact hp
      | level => exact hl
      | _ => exact absurd hf (by decide)
  · have hlt := Attribute.natAbs_lt_of_read hr hi
    exact ⟨hlt, fun e he => exists_quotient hlt he⟩

/-- A divisor of zero where the level comes from a pair and a charger is online: the
presence and the level are new, the voltage and the charger are not. -/
theorem refresh_of_divisor_zero :
    let c : Configuration :=
      { root := "ps", chargers := ["AC"], voltageDivisor := .int 0,
        paths :=
          { present := some "ps/BAT0/present", chargeNow := some "ps/BAT0/charge_now",
            chargeFull := some "ps/BAT0/charge_full", voltage := some "ps/BAT0/voltage_now" } }
    let t := FileTree.empty.changes
      [.device "ps/AC" [("type", "Mains"), ("online", "1")],
        .device "ps/BAT0" [("present", "1"), ("charge_now", "50"), ("charge_full", "200"),
          ("voltage_now", "4200000")]]
    let k : Constants := ⟨fun _ => 1, fun _ => 2⟩
    let done := Service.refresh (.ofRoot "ps") ⟨.standard, .initial, .started k c⟩ t
    c.voltageDivisor = .int 0 ∧ (∀ p ∈ c.files, p.hasNul = false) ∧
      done.2.2.result = .error .divisionByZero ∧
      done.1.snapshot.get? "present" = some (.bool true) ∧
      done.1.snapshot.get? "level" = some (.int 25) ∧
      done.1.snapshot.get? "voltage_millivolts" = some (.int 0) ∧
      done.1.snapshot.get? "ac_online" = some (.bool false) := by
  intro c t k done
  have files : ∀ p ∈ c.files, p.hasNul = false := by decide +kernel
  obtain ⟨-, hzero, -⟩ :=
    refresh_of_integer_divisor (c := c) (d := 0) rfl files "ps" k .standard .initial t
  obtain ⟨hresult, hnormal, hother⟩ := hzero rfl
  obtain ⟨-, hpresent, hlevel⟩ := hnormal 1 (by decide)
  obtain ⟨-, hseen⟩ := get?_refresh (c := { c with voltageDivisor := .int 1 }) rfl (by decide) files
    "ps" k .standard .initial t
  have hflag : flag t c.paths.present = true := by decide +kernel
  have hratio : levelOf t c.paths = some 25 := by decide +kernel
  refine ⟨rfl, files, hresult, (hpresent.trans (hseen .present)).trans ?_,
    (hlevel.trans (hseen .level)).trans ?_, ?_, ?_⟩
  · show some (Json.bool (flag t c.paths.present)) = _
    rw [hflag]
  · show ((levelOf t c.paths).map Json.int).or _ = _
    rw [hratio]
    rfl
  · exact hother "voltage_millivolts" (by decide) (by decide)
  · exact hother "ac_online" (by decide) (by decide)

end Refresh
end PowerSupply

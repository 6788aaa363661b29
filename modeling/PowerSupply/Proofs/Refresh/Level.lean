/-
# The level after a refresh

Without a file for the presence the level is 100.  Otherwise it comes from the source that
the configuration reports for it, and from the files of no other source
(`level_of_refresh`): a capacity is written as it is read, and a pair is divided where both
amounts have a text and the full one is not zero.  In all other cases the level is what it
was.  From a present amount between nothing and a positive full one comes a percentage,
which is 100 for the full amount alone and grows with the present one.

The level is written before anything else can go wrong in a refresh but the reading of its
own files (`makes_early`, `stops_early`).  So this holds for every divisor and whatever the
other files are, and a path of the level with a NUL character, which stops the refresh,
leaves the level as it was (`level_of_nul_path`).
-/

import PowerSupply.Proofs.Number.Percentage
import PowerSupply.Proofs.Refresh.Parts

namespace PowerSupply
namespace Refresh

open Attribute (said? words? integer number flag)
open Refreshing (Makes Stops)

/-! ### The amounts of a pair -/

/-- Whether the two files of a pair have texts that are not empty, and these start with the
integers `a` and `b`; a text that starts with none counts as zero. -/
def Amounts (t : FileTree) (now full : Path) (a b : Int) : Prop :=
  ∃ nowText fullText, words? t (some now) = some nowText ∧ words? t (some full) = some fullText ∧
    integer nowText = a ∧ integer fullText = b

/-- How the level that a refresh leaves depends on the tree where it comes from a pair. -/
structure LevelOfPair (now full : Path) (kept : Option Json) (final : FileTree → Option Json) :
    Prop where
  /-- The quotient is written, rounded down. -/
  divided {t : FileTree} {a b : Int} (h : Amounts t now full a b) (hb : b ≠ 0) :
    final t = some (.int (Int.fdiv (100 * a) b))
  /-- Without two amounts to divide the level is kept. -/
  otherwise {t : FileTree} (h : ∀ a b, Amounts t now full a b → b = 0) : final t = kept
  /-- A plausible pair gives a percentage, and all of it for the full amount alone. -/
  percentage {t : FileTree} {a b : Int} (h : Amounts t now full a b) (ha : 0 ≤ a) (hab : a ≤ b)
    (hb : 0 < b) : ∃ n, final t = some (.int n) ∧ Percentage n ∧ (n = 100 ↔ a = b)
  /-- With the full amount unchanged the level grows with the present one. -/
  monotone {t t' : FileTree} {a a' b : Int} (h : Amounts t now full a b)
    (h' : Amounts t' now full a' b) (hb : 0 < b) (ha : a ≤ a') :
    ∃ n n', final t = some (.int n) ∧ final t' = some (.int n') ∧ n ≤ n'

variable {t : FileTree}

theorem ratio?_of_amounts {now full : Path} {a b : Int} (h : Amounts t now full a b) (hb : b ≠ 0) :
    ratio? t now full = some (Int.fdiv (100 * a) b) := by
  obtain ⟨nowText, fullText, hnow, hfull, rfl, rfl⟩ := h
  unfold ratio?
  rw [hnow, hfull]
  exact if_neg hb

theorem ratio?_eq_none {now full : Path} (h : ∀ a b, Amounts t now full a b → b = 0) :
    ratio? t now full = none := by
  unfold ratio?
  cases hnow : words? t (some now) with
  | none => rfl
  | some nowText =>
    cases hfull : words? t (some full) with
    | none => rfl
    | some fullText => exact if_pos (h _ _ ⟨nowText, fullText, hnow, hfull, rfl, rfl⟩)

/-- **The laws of a pair** follow from what it writes. -/
theorem levelOfPair_of_ratio {now full : Path} {kept : Option Json} {final : FileTree → Option Json}
    (h : ∀ t, final t = ((ratio? t now full).map Json.int).or kept) :
    LevelOfPair now full kept final := by
  have divided : ∀ {t a b}, Amounts t now full a b → b ≠ 0 →
      final t = some (.int (Int.fdiv (100 * a) b)) := by
    intro t a b ha hb
    rw [h, ratio?_of_amounts ha hb]
    rfl
  refine ⟨divided, fun ha => ?_, fun {t a b} hamounts ha hab hb => ?_,
    fun {t t' a a' b} ha ha' hb hle => ?_⟩
  · rw [h, ratio?_eq_none ha]
    rfl
  · refine ⟨_, divided hamounts (Int.ne_of_gt hb), ?_, fdiv_eq_hundred_iff hb hab⟩
    exact (percentage_fdiv_of_pos hb).2 ⟨ha, by omega⟩
  · have hz : b ≠ 0 := Int.ne_of_gt hb
    exact ⟨_, _, divided ha hz, divided ha' hz, fdiv_le_fdiv hb hle⟩

variable {paths : AttributePaths}

/-! ### The part that writes the level -/

/-- **The early part goes through** where no path that it reads has a NUL character. -/
theorem makes_early (h : ∀ p ∈ paths.levelFiles, p.hasNul = false) :
    Makes (early t paths) (earlyWrites t paths) () := by
  have hflag : (Attribute.readFlag t paths.present).result = .ok (flag t paths.present) := by
    refine Attribute.result_readFlag fun p hp => h p ?_
    unfold AttributePaths.levelFiles
    rw [hp]
    exact List.mem_cons_self ..
  have hlevel : Makes (level t paths) (levelWrites t paths) () := by
    cases hp : paths.present with
    | none =>
      unfold level levelWrites
      rw [hp]
      exact Makes.write _
    | some present =>
      obtain ⟨hcapacity, hpair⟩ := AttributePaths.forall_of_levelFiles hp h
      exact makes_level_of_paths hcapacity hpair
  exact Makes.reading_bind hflag ((Makes.write _).bind hlevel)

theorem stops_read {file : Path} (hnul : file.hasNul = true) :
    Stops (Refreshing.reading (Attribute.read t (some file))) [] .embeddedNul :=
  Stops.reading (Attribute.result_read_of_hasNul hnul)

theorem stops_level_of_capacity {file : Path} (hp : paths.present.isSome)
    (hc : paths.capacity = some file) (hnul : file.hasNul = true) :
    Stops (level t paths) [] .embeddedNul := by
  unfold level
  rw [Option.isNone_eq_false_iff.2 hp, if_neg Bool.false_ne_true, hc, Option.isSome_some, if_pos rfl]
  refine (Stops.reading ?_).bind _
  exact Trace.result_bind_error _ (Attribute.result_read_of_hasNul hnul)

/-- Both files of a pair are read before the level is made of them. -/
theorem stops_level_of_pair {now full : Path} (hp : paths.present.isSome)
    (hc : paths.capacity = none) (hl : paths.levelPair = some (now, full))
    (hnul : now.hasNul = true ∨ full.hasNul = true) : Stops (level t paths) [] .embeddedNul := by
  unfold level
  rw [Option.isNone_eq_false_iff.2 hp, if_neg Bool.false_ne_true, hc, hl, Option.isSome_none,
    if_neg Bool.false_ne_true]
  cases hnow : now.hasNul with
  | true => exact (stops_read hnow).bind _
  | false =>
    have hfull : full.hasNul = true := by simpa [hnow] using hnul
    exact Stops.after_reading (Attribute.result_read hnow) ((stops_read hfull).bind _)

/-- **A NUL character stops the level**, unless it is in the path of the presence, which was
read before. -/
theorem stops_level {present p : Path} (hpresent : paths.present = some present)
    (hp : p ∈ paths.levelFiles) (hne : p ≠ present) (hnul : p.hasNul = true) :
    Stops (level t paths) [] .embeddedNul := by
  have hsome : paths.present.isSome := by rw [hpresent]; rfl
  rcases AttributePaths.levelFiles_cases hpresent with ⟨file, hc, -, hfiles⟩ |
    ⟨now, full, hc, hl, hfiles⟩ | ⟨-, -, hfiles⟩
  all_goals rw [hfiles, List.mem_cons, or_iff_right hne] at hp
  · obtain rfl := List.mem_singleton.1 hp
    exact stops_level_of_capacity hsome hc hnul
  · refine stops_level_of_pair hsome hc hl ?_
    simp only [List.mem_cons, List.not_mem_nil, or_false] at hp
    rcases hp with rfl | rfl
    · exact .inl hnul
    · exact .inr hnul
  · cases hp

/-- **A path with a NUL character stops the early part** before it writes the level. -/
theorem stops_early {p : Path} (hp : p ∈ paths.levelFiles) (hnul : p.hasNul = true) :
    ∃ ws, Stops (early t paths) ws .embeddedNul ∧ ∀ w ∈ ws, w.field = .present := by
  cases hpresent : paths.present with
  | none =>
    unfold AttributePaths.levelFiles at hp
    rw [hpresent] at hp
    cases hp
  | some present =>
    unfold early
    rw [hpresent]
    cases hfirst : present.hasNul with
    | true =>
      refine ⟨[], (Stops.reading ?_).bind _, fun _ hw => nomatch hw⟩
      exact Trace.result_bind_error _ (Attribute.result_read_of_hasNul hfirst)
    | false =>
      have hflag : ∀ q, some present = some q → q.hasNul = false := by
        intro q hq
        cases hq
        exact hfirst
      have hne : p ≠ present := by
        rintro rfl
        exact Bool.noConfusion (hnul.symm.trans hfirst)
      refine ⟨[.present (.bool (flag t (some present)))], ?_, fun w hw => ?_⟩
      · exact Stops.after_reading (Attribute.result_readFlag hflag)
          (Stops.after (Makes.write _) (stops_level hpresent hp hne hnul))
      · obtain rfl := List.mem_singleton.1 hw
        rfl

/-! ### The whole refresh -/

variable {c : Configuration}

/-- **Where the files of the level can be asked for**, the level is the one that the tree
gives, if it gives one, however the refresh ends. -/
theorem get?_level (h : ∀ p ∈ c.paths.levelFiles, p.hasNul = false) (root : Path) (k : Constants)
    (source : ConstantSource) (snapshot : Snapshot) (t : FileTree) :
    (Service.refresh (.ofRoot root) ⟨source, snapshot, .started k c⟩ t).1.snapshot.get?
        Field.level.name =
      ((levelOf t c.paths).map Json.int).or (snapshot.get? Field.level.name) := by
  have hseen : Write.left? k .level (earlyWrites t c.paths) = (levelOf t c.paths).map Json.int :=
    left?_earlyWrites k t c (by decide)
  show (snapshot.writeAll k (Action.writes (run t c).events)).get? Field.level.name = _
  rw [get?_of_makes_early (makes_early h) k snapshot (by decide), hseen]

/-- **Where one of them cannot**, the refresh stops and the level is kept. -/
theorem get?_level_of_nul {p : Path} (hp : p ∈ c.paths.levelFiles) (hnul : p.hasNul = true)
    (root : Path) (k : Constants) (source : ConstantSource) (snapshot : Snapshot) (t : FileTree) :
    let done := Service.refresh (.ofRoot root) ⟨source, snapshot, .started k c⟩ t
    done.2.2.result = .error .embeddedNul ∧
      done.1.snapshot.get? Field.level.name = snapshot.get? Field.level.name := by
  obtain ⟨ws, hearly, hfields⟩ := stops_early (t := t) hp hnul
  have hrun : Stops (run t c) ws .embeddedNul := by
    rw [run_eq_parts]
    exact hearly.bind _
  refine ⟨hrun.result, ?_⟩
  show (snapshot.writeAll k (Action.writes (run t c).events)).get? Field.level.name = _
  rw [hrun.writes]
  refine Snapshot.get?_writeAll_of_ne k snapshot fun w hw => ?_
  rw [hfields w hw]
  decide

/-- **The level after a refresh**, with any paths in the configuration, in every tree and
whatever the snapshot held before.

Without a file for the presence it is 100, whatever else is set.  With one, and where none
of the paths that are read for the level has a NUL character, it comes from the source that
the configuration reports: from a capacity, the integer that its text starts with or zero;
from the charge or from the energy, what the two files of this pair make of it; and without
a source it is kept.  A NUL character in one of these paths stops the refresh, and the level
is kept. -/
theorem level_of_refresh (c : Configuration) (root : Path) (k : Constants) (source : ConstantSource)
    (snapshot : Snapshot) :
    let refreshed (t : FileTree) : Service × FileTree × Logged Unit :=
      Service.refresh (.ofRoot root) ⟨source, snapshot, .started k c⟩ t
    let final (t : FileTree) : Option Json := (refreshed t).1.snapshot.get? Field.level.name
    let kept : Option Json := snapshot.get? Field.level.name
    let paths := c.paths
    (paths.present = none → ∀ t, final t = some (.int 100)) ∧
    (paths.present.isSome → (∀ p ∈ paths.levelFiles, p.hasNul = false) →
      (∃ file, paths.levelSource = some .capacity ∧ paths.capacity = some file ∧
        ∀ t, final t = some (.int (number t (some file)))) ∨
      (∃ now full, paths.levelSource = some .charge ∧ paths.chargeNow = some now ∧
        paths.chargeFull = some full ∧ LevelOfPair now full kept final) ∨
      (∃ now full, paths.levelSource = some .energy ∧ paths.energyNow = some now ∧
        paths.energyFull = some full ∧ LevelOfPair now full kept final) ∨
      (paths.levelSource = none ∧ ∀ t, final t = kept)) ∧
    ∀ p ∈ paths.levelFiles, p.hasNul = true →
      ∀ t, (refreshed t).2.2.result = .error .embeddedNul ∧ final t = kept := by
  intro refreshed final kept paths
  refine ⟨fun hp t => ?_, fun hp h => ?_, fun p hp hnul t => ?_⟩
  · have hfiles : ∀ p ∈ c.paths.levelFiles, p.hasNul = false := by
      unfold AttributePaths.levelFiles
      rw [show c.paths.present = none from hp]
      exact fun _ hmem => nomatch hmem
    refine (get?_level hfiles root k source snapshot t).trans ?_
    rw [levelOf_of_absent hp]
    rfl
  · have hfinal : ∀ t, final t = ((levelOf t c.paths).map Json.int).or kept :=
      get?_level h root k source snapshot
    have hpair : ∀ {now full}, c.paths.levelPair = some (now, full) →
        LevelOfPair now full kept final := by
      intro now full hl
      refine levelOfPair_of_ratio fun t => ?_
      rw [hfinal, levelOf_of_pair t hp hl]
    rcases c.paths.levelSource_cases with ⟨file, hs, hc, -⟩ | ⟨now, full, hs, -, hn, hf, hl⟩ |
      ⟨now, full, hs, -, hn, hf, hl⟩ | ⟨hs, hc, hl⟩
    · refine .inl ⟨file, hs, hc, fun t => (hfinal t).trans ?_⟩
      rw [levelOf_of_capacity hp hc]
      rfl
    · exact .inr (.inl ⟨now, full, hs, hn, hf, hpair hl⟩)
    · exact .inr (.inr (.inl ⟨now, full, hs, hn, hf, hpair hl⟩))
    · refine .inr (.inr (.inr ⟨hs, fun t => (hfinal t).trans ?_⟩))
      rw [levelOf_of_nothing hp hc hl]
      rfl
  · exact get?_level_of_nul hp hnul root k source snapshot t

/-- Half of a charge pair beside an energy pair, and a refresh that stops at the path of the
voltage: the level is two thirds, and then, with less of a charge, all of it. -/
theorem level_of_energy_pair :
    let c : Configuration :=
      { root := "ps", chargers := ["AC"],
        paths :=
          { present := some "ps/BAT0/present", chargeNow := some "ps/BAT0/charge_now",
            energyNow := some "ps/BAT0/energy_now", energyFull := some "ps/BAT0/energy_full",
            voltage := some "ps/BAT0/volt\x00age" } }
    let t := FileTree.empty.changes
      [.device "ps/BAT0" [("charge_now", "7"), ("energy_now", "20 mWh"), ("energy_full", "30\n")]]
    let t' := t.changes [.device "ps/BAT0" [("charge_now", "1"), ("energy_now", "+30")]]
    let k : Constants := ⟨fun _ => 1, fun _ => 2⟩
    let refreshed (t : FileTree) : Service × FileTree × Logged Unit :=
      Service.refresh (.ofRoot "ps") ⟨.standard, .initial, .started k c⟩ t
    let final (t : FileTree) : Option Json := (refreshed t).1.snapshot.get? "level"
    c.paths.present.isSome ∧ (∀ p ∈ c.paths.levelFiles, p.hasNul = false) ∧
      (refreshed t).2.2.result.toOption = none ∧ final t = some (.int 66) ∧
      final t' = some (.int 100) := by
  intro c t t' k refreshed final
  -- evaluated together, so that each tree is built once
  obtain ⟨files, stopped, nowText, fullText, nowText', fullText'⟩ :
      (∀ p ∈ c.paths.levelFiles, p.hasNul = false) ∧
      (refreshed t).2.2.result.toOption = none ∧
      words? t (some "ps/BAT0/energy_now") = some "20 mWh" ∧
      words? t (some "ps/BAT0/energy_full") = some "30" ∧
      words? t' (some "ps/BAT0/energy_now") = some "+30" ∧
      words? t' (some "ps/BAT0/energy_full") = some "30" := by
    decide +kernel
  obtain ⟨-, hbattery, -⟩ := level_of_refresh c "ps" k .standard .initial
  rcases hbattery rfl files with ⟨_, hs, -⟩ | ⟨_, _, hs, -⟩ | ⟨now, full, -, hn, hf, law⟩ | ⟨hs, -⟩
  · exact absurd hs (by decide)
  · exact absurd hs (by decide)
  · cases hn
    cases hf
    have amounts : Amounts t "ps/BAT0/energy_now" "ps/BAT0/energy_full" 20 30 :=
      ⟨_, _, nowText, fullText, by decide +kernel, by decide +kernel⟩
    have amounts' : Amounts t' "ps/BAT0/energy_now" "ps/BAT0/energy_full" 30 30 :=
      ⟨_, _, nowText', fullText', by decide +kernel, by decide +kernel⟩
    exact ⟨rfl, files, stopped, law.divided amounts (by decide), law.divided amounts' (by decide)⟩
  · exact absurd hs (by decide)

/-- **A capacity whose path has a NUL character** is not read as zero: the refresh stops and
the level is kept. -/
theorem level_of_nul_path :
    let c : Configuration :=
      { root := "ps",
        paths :=
          { present := some "ps/BAT0/present", capacity := some "ps/BAT0/capa\x00city" } }
    let t := FileTree.empty.changes [.device "ps/BAT0" [("present", "1")]]
    let k : Constants := ⟨fun _ => 1, fun _ => 2⟩
    let snapshot := Snapshot.initial.set "level" (.int 61)
    let done := Service.refresh (.ofRoot "ps") ⟨.standard, snapshot, .started k c⟩ t
    c.paths.levelSource = some .capacity ∧ number t c.paths.capacity = 0 ∧
      done.2.2.result = .error .embeddedNul ∧
      done.1.snapshot.get? "level" = some (.int 61) ∧
      done.1.snapshot.get? "level" ≠ some (.int (number t c.paths.capacity)) := by
  intro c t k snapshot done
  obtain ⟨nul, zero⟩ :
      ("ps/BAT0/capa\x00city" : Path).hasNul = true ∧ number t c.paths.capacity = 0 := by
    decide +kernel
  obtain ⟨hresult, hkept⟩ := get?_level_of_nul (c := c) (p := "ps/BAT0/capa\x00city")
    (by simp [AttributePaths.levelFiles, c, AttributePaths.levelSource, AttributePaths.sourceFiles])
    nul "ps" k .standard snapshot t
  have hlevel : done.1.snapshot.get? "level" = some (.int 61) := hkept
  refine ⟨rfl, zero, hresult, hlevel, ?_⟩
  rw [hlevel, zero]
  simp

end Refresh
end PowerSupply

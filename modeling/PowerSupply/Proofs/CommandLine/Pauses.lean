/-
# How long a watch pauses

Every pause of a run is the one that its plan was made with (`pauses_of_rounds`), and that
comes from one of two places.  A number on the command line was looked at by the parser, and
is at least one (`positive_of_parse`).  What the settings say was looked at by nobody: it is
the value that stands in the file, of any kind and size (`pauses_of_run`,
`pause_of_zero_in_settings`).
-/

import PowerSupply.Proofs.CommandLine.Watch
import PowerSupply.Proofs.Settings.Lookup

namespace PowerSupply
namespace CommandLine

/-! ### What the parser lets through -/

/-- Whether an interval that is given as a number is at least one. -/
def Request.Positive (r : Request) : Prop := ∀ n, r.interval = .value n → 1 ≤ n

variable {r r' : Request}

theorem interval_of_withFlag {f : Flag} (h : r.withFlag f = .ok r') : r'.interval = r.interval := by
  cases f <;> cases h <;> rfl

theorem interval_of_withFlags {fs : List Flag} (h : fs.foldlM Request.withFlag r = .ok r') :
    r'.interval = r.interval := by
  induction fs generalizing r with
  | nil =>
    obtain rfl := Except.ok.inj h
    rfl
  | cons f fs ih =>
    rw [List.foldlM_cons] at h
    obtain ⟨r₁, h₁, h₂⟩ := bind_eq_ok.1 h
    exact (ih h₂).trans (interval_of_withFlag h₁)

/-- An interval that a text stands for is at least one. -/
theorem positive_of_intervalOf {text : String} {given : Given Int}
    (h : Request.intervalOf text = .ok given) : ∀ n, given = .value n → 1 ≤ n := by
  rintro n rfl
  unfold Request.intervalOf at h
  dsimp only at h
  split at h
  · cases h
  · cases hp : positiveInt text with
    | ok k =>
      rw [hp] at h
      cases h
      exact (positiveInt_eq_ok_iff.1 hp).2.2
    | error f =>
      rw [hp] at h
      cases f <;> cases h

theorem positive_of_withValue {p : Parameter} {text : String} (hr : r.Positive)
    (h : r.withValue p text = .ok r') : r'.Positive := by
  cases p with
  | interval =>
    obtain ⟨given, hgiven, hset⟩ := bind_eq_ok.1 h
    obtain rfl := Except.ok.inj hset
    exact positive_of_intervalOf hgiven
  | root | config =>
    obtain rfl := Except.ok.inj h
    exact hr

theorem positive_of_withFlags {fs : List Flag} (hr : r.Positive)
    (h : fs.foldlM Request.withFlag r = .ok r') : r'.Positive := by
  intro n hn
  exact hr n ((interval_of_withFlags h).symm.trans hn)

/-- **Taking words keeps the interval positive:** each word hands on a request with the
same interval, or with one that was looked at. -/
theorem positive_of_take {ws : List Word} {left : List String} (hr : r.Positive)
    (h : take r ws = .ok (r', left)) : r'.Positive := by
  induction r, ws using take.induct generalizing left with
  | case1 r =>
    obtain ⟨rfl, -⟩ := Prod.mk.inj (Except.ok.inj h)
    exact hr
  | case2 r text rest ih | case3 r text rest ih =>
    rw [take] at h
    obtain ⟨⟨r₁, left₁⟩, htake, hpair⟩ := of_map_eq_ok h
    obtain ⟨rfl, -⟩ := Prod.mk.inj hpair
    exact ih hr htake
  | case4 r s short attached rest e hk =>
    rw [take, hk] at h
    cases h
  | case5 r s short attached rest k hk hp ih =>
    simp only [take, hk, hp] at h
    obtain ⟨r₁, hflags, htake⟩ := bind_eq_ok.1 h
    exact ih r₁ (positive_of_withFlags hr hflags) htake
  | case6 r s short attached rest k hk p text hp ih =>
    simp only [take, hk, hp] at h
    obtain ⟨r₁, hflags, h⟩ := bind_eq_ok.1 h
    obtain ⟨r₂, hvalue, htake⟩ := bind_eq_ok.1 h
    exact ih r₂ (positive_of_withValue (positive_of_withFlags hr hflags) hvalue) htake
  | case7 r s short attached k hk p hp text rest ih =>
    simp only [take, hk, hp] at h
    obtain ⟨r₁, hflags, h⟩ := bind_eq_ok.1 h
    obtain ⟨r₂, hvalue, htake⟩ := bind_eq_ok.1 h
    exact ih r₂ (positive_of_withValue (positive_of_withFlags hr hflags) hvalue) htake
  | case8 r s short attached rest k hk p hp hrest =>
    simp only [take, hk, hp] at h
    cases h

/-- **An interval on the command line is at least one**, where it is a number. -/
theorem positive_of_parse {words : List String} (h : parse words = .ok r) : r.Positive := by
  unfold parse at h
  cases hc : classifyAll words with
  | error e =>
    rw [hc] at h
    cases h
  | ok ws =>
    rw [hc] at h
    obtain ⟨⟨r₁, left⟩, htake, hleft⟩ := bind_eq_ok.1 h
    have hstart : Request.Positive {} := by
      rintro n hn
      cases hn
    cases left with
    | nil =>
      obtain rfl := Except.ok.inj hleft
      exact positive_of_take hstart htake
    | cons word left => cases hleft

/-! ### What a watch pauses for -/

theorem pauses_list (s : Session) (t : FileTree) : (s.list t).pauses = [] := by
  unfold Session.list
  split <;> rfl

theorem pauses_once (s : Session) (t : FileTree) : (s.once t).pauses = [] := by
  unfold Session.once
  split <;> rfl

theorem plan_of_round (s : Session) (t : FileTree) : (s.round t).1.plan = s.plan := by
  unfold Session.round
  dsimp only
  split <;> rfl

/-- **Every pause of a watch** is that of its plan, for a round keeps the plan. -/
theorem pauses_of_rounds (s : Session) (t : FileTree) (ticks : List (List FileTree.Change)) :
    ∀ p ∈ (s.rounds t ticks).pauses, p = s.plan.interval := by
  induction ticks generalizing s t with
  | nil =>
    intro p hp
    have hplan := plan_of_round s t
    rw [Session.rounds] at hp
    split at hp
    · cases hp
    · rename_i next t' output hround
      rw [hround] at hplan
      obtain rfl := List.mem_singleton.1 hp
      exact congrArg Plan.interval hplan
  | cons tick ticks ih =>
    intro p hp
    have hplan := plan_of_round s t
    rw [Session.rounds] at hp
    split at hp
    · cases hp
    · rename_i next t' output hround
      rw [hround] at hplan
      have hnext : next.plan.interval = s.plan.interval := congrArg Plan.interval hplan
      rcases List.mem_cons.1 hp with rfl | hp
      · exact hnext
      · exact (ih next _ p hp).trans hnext

/-- **A run that pauses** has begun and is a watch, and pauses as its plan says. -/
theorem watch_of_pause {x : Surroundings} {t : FileTree} {ticks : List (List FileTree.Change)}
    {p : Json} (hp : p ∈ (perform r x t ticks).pauses) :
    ∃ t₁ output s, begin r x t = (t₁, output, .running s) ∧ r.watch = true ∧ r.list = false ∧
      p = s.plan.interval := by
  unfold perform at hp
  rcases hb : begin r x t with ⟨t₁, output, e | s⟩
  · rw [hb] at hp
    cases hp
  · rw [hb] at hp
    change p ∈ (if r.list then s.list t₁
      else if r.watch then s.watch t₁ ticks else s.once t₁).pauses at hp
    by_cases hl : r.list = true
    · rw [if_pos hl, pauses_list] at hp
      cases hp
    by_cases hw : r.watch = true
    · rw [if_neg hl, if_pos hw] at hp
      exact ⟨t₁, output, s, rfl, hw, Bool.eq_false_iff.2 hl, pauses_of_rounds s t₁ ticks p hp⟩
    · rw [if_neg hl, if_neg hw, pauses_once] at hp
      cases hp

/-- A run that has begun has loaded its settings, and made its plan with them. -/
theorem settings_of_begin {x : Surroundings} {t t' : FileTree} {output : Output} {s : Session}
    (h : begin r x t = (t', output, .running s)) :
    ∃ settings, (loadSettings r x.environment t).2.result = .ok settings ∧
      s.plan.interval = Plan.intervalFor r settings := by
  unfold begin at h
  dsimp only at h
  cases hp : (loadSettings r x.environment t).2.result.bind (Plan.make r x.environment) with
  | error f =>
    rw [hp] at h
    cases h
  | ok plan =>
    obtain ⟨settings, hsettings, hplan⟩ := bind_eq_ok.1 hp
    refine ⟨settings, hsettings, ?_⟩
    rw [hp] at h
    dsimp only at h
    split at h
    · cases h
      exact interval_of_make hplan
    · cases h
    · cases h

/-- The path that is given for the settings, if one is. -/
def Request.configPath? (r : Request) : Option Path :=
  match r.config with
  | .value p => some p
  | _ => none

/-- Settings are loaded from the path that is given for them, or from their own place. -/
theorem load_of_loadSettings {env : Environment} {t : FileTree} {settings : Settings}
    (h : (loadSettings r env t).2.result = .ok settings) :
    (Settings.load env t r.configPath?).2.result = .ok settings := by
  unfold loadSettings at h
  unfold Request.configPath?
  cases hc : r.config with
  | blank =>
    rw [hc] at h
    cases h
  | absent | value p =>
    rw [hc] at h
    exact h

/-- **The interval that the settings say** is what stands in their file, or 30. -/
theorem interval_of_loadSettings {env : Environment} {t : FileTree} {settings : Settings}
    (h : (loadSettings r env t).2.result = .ok settings) :
    ∃ t' path, Settings.resolve env t r.configPath? = (t', .ok path) ∧
      settings.get "polling.interval_seconds" (.int 30) =
        Settings.said t' path ["polling", "interval_seconds"] (.int 30) := by
  have hkeys : Json.dotted "polling.interval_seconds" = ["polling", "interval_seconds"] := by
    decide
  have hpolling : Json.Members.get? "polling" Settings.defaults =
      some (.obj [("interval_seconds", .int 30)]) := rfl
  unfold Settings.get Json.lookupDotted
  rw [hkeys]
  refine Settings.lookup_of_load hpolling rfl ?_ (load_of_loadSettings h)
  rintro ms hms
  cases hms

/-- **What a run pauses for**, over any tree, settings, environment and ticks.

Only a watch pauses, and no run that lists the configuration does.  With a number on the
command line each pause is that number, and it is at least one.  With two dashes in place of
the number it is an empty list.  Without either it is what the settings file says under
`polling` and `interval_seconds`, of any kind, or 30 where it says nothing. -/
theorem pauses_of_run {words : List String} (hr : parse words = .ok r) (x : Surroundings)
    (t : FileTree) (ticks : List (List FileTree.Change)) :
    ∀ p ∈ (run words x t ticks).pauses, r.watch = true ∧ r.list = false ∧
      match r.interval with
      | .value n => p = .int n ∧ 1 ≤ n
      | .blank => p = .arr []
      | .absent => ∃ t' path, Settings.resolve x.environment t r.configPath? = (t', .ok path) ∧
          p = Settings.said t' path ["polling", "interval_seconds"] (.int 30) := by
  intro p hp
  have hrun : run words x t ticks = perform r x t ticks := by simp only [run, hr]
  rw [hrun] at hp
  obtain ⟨t₁, output, s, hb, hw, hl, hplan⟩ := watch_of_pause hp
  obtain ⟨settings, hsettings, hinterval⟩ := settings_of_begin hb
  have hpause : p = Plan.intervalFor r settings := hplan.trans hinterval
  refine ⟨hw, hl, ?_⟩
  unfold Plan.intervalFor at hpause
  cases hi : r.interval with
  | value n =>
    rw [hi] at hpause
    exact ⟨hpause, positive_of_parse hr n hi⟩
  | blank =>
    rw [hi] at hpause
    exact hpause
  | absent =>
    rw [hi] at hpause
    obtain ⟨t', path, hpath, hsaid⟩ := interval_of_loadSettings hsettings
    exact ⟨t', path, hpath, hpause.trans hsaid⟩

/-- A watch over one tick, with a settings file that names its interval twice. -/
theorem pauses_of_settings_file :
    let words := ["-wj", "--root=ps", "--config", "settings.json"]
    let text := "\x7b\"polling\": \x7b\"interval_seconds\": 5, \"interval_seconds\": 7\x7d\x7d"
    let t := FileTree.empty.changes
      [.file "settings.json" (Utf8.encode text), .device "ps/AC" [("type", "Mains")]]
    ∃ r, parse words = .ok r ∧ (run words {} t [[]]).pauses.length = 2 ∧
      ∀ p ∈ (run words {} t [[]]).pauses, p = .int 7 := by
  intro words text t
  let r : Request :=
    { watch := true, json := true, root := .value "ps", config := .value "settings.json" }
  have hr : parse words = .ok r := rfl
  have hsaid : Settings.said t "settings.json" ["polling", "interval_seconds"] (.int 30) =
      .int 7 := Json.int?_eq_some_iff.1 (by decide +kernel)
  refine ⟨r, hr, by decide +kernel, fun p hp => ?_⟩
  obtain ⟨-, -, t', path, hpath, hpause⟩ := pauses_of_run hr {} t [[]] p hp
  obtain ⟨rfl, hplace⟩ := Prod.mk.inj hpath
  obtain rfl := Except.ok.inj hplace
  exact hpause.trans hsaid

/-- **A pause can be of no length:** what the settings say is not looked at. -/
theorem pause_of_zero_in_settings :
    let words := ["--watch", "--root", "ps", "--config", "settings.json"]
    let text := "\x7b\"polling\": \x7b\"interval_seconds\": 0\x7d\x7d"
    let t := FileTree.empty.changes
      [.file "settings.json" (Utf8.encode text), .device "ps/BAT0" [("type", "Battery")]]
    ∃ r, parse words = .ok r ∧ r.watch = true ∧
      ∃ p ∈ (run words {} t []).pauses, ∀ n, p = .int n → ¬1 ≤ n := by
  intro words text t
  have hzero : (run words {} t []).pauses.any (·.equalsInt 0) = true := by decide +kernel
  obtain ⟨p, hp, hequals⟩ := List.any_eq_true.1 hzero
  refine ⟨_, rfl, rfl, p, hp, ?_⟩
  rintro n rfl
  obtain rfl : n = 0 := eq_of_beq hequals
  decide

end CommandLine
end PowerSupply

/-
# What a refresh writes

Where no path has a NUL character and the divisor gives a voltage, a refresh goes
through to its end, and its writes are a plain function of the tree (`writesOf`): the
presence, the level if there is one (`levelWrites`), voltage, temperature and status,
health and technology if there is a text, and the three kinds of charger.

`Makes x ws a` says that a refresh `x` ends with `a` and makes the writes `ws`.  It is
shown for each part from the rules for single steps and for sequences, and the parts
are put together in `makes_run`.  With an integer divisor that is not zero there always
is a voltage (`exists_millivolts`), since what a file can hold has a finite quotient.
-/

import PowerSupply.Proofs.Attribute
import PowerSupply.Proofs.Configuration
import PowerSupply.Proofs.Number.Quotient
import PowerSupply.Refresh

namespace PowerSupply

namespace Refreshing

variable {α β σ : Type}

/-- A reading writes nothing. -/
theorem writes_reading (x : Logged α) : Action.writes (reading x).events = [] := by
  show Action.writes (x.events.map .note) = []
  unfold Action.writes
  rw [List.filterMap_map]
  exact List.filterMap_eq_nil_iff.2 fun _ _ => rfl

/-- The refresh ends with the value `a` and makes the writes `ws`, whatever it
notes. -/
structure Makes (x : Refreshing α) (ws : List Write) (a : α) : Prop where
  writes : Action.writes x.events = ws
  result : x.result = .ok a

namespace Makes

theorem pure (a : α) : Makes (Pure.pure a) [] a := ⟨rfl, rfl⟩

theorem write (w : Write) : Makes (Refreshing.write w) [w] () := ⟨rfl, rfl⟩

theorem note (n : Note) : Makes (Trace.emit (.note n)) [] () := ⟨rfl, rfl⟩

theorem ofExcept {r : Except Fault α} {a : α} (h : r = .ok a) : Makes (Trace.ofExcept r) [] a :=
  ⟨rfl, h⟩

theorem reading {x : Logged α} {a : α} (h : x.result = .ok a) :
    Makes (Refreshing.reading x) [] a := ⟨writes_reading x, h⟩

/-- **The writes of a sequence** are the writes of its parts, one after the other. -/
theorem bind {x : Refreshing α} {f : α → Refreshing β} {ws ws' : List Write} {a : α} {b : β}
    (hx : Makes x ws a) (hf : Makes (f a) ws' b) : Makes (x >>= f) (ws ++ ws') b := by
  constructor
  · rw [Trace.events_bind_ok f hx.result, Action.writes_append, hx.writes, hf.writes]
  · rw [Trace.result_bind_ok f hx.result]
    exact hf.result

/-- A reading before the rest of a sequence adds no writes. -/
theorem reading_bind {x : Logged α} {f : α → Refreshing β} {ws : List Write} {a : α} {b : β}
    (hx : x.result = .ok a) (hf : Makes (f a) ws b) : Makes (Refreshing.reading x >>= f) ws b :=
  (reading hx).bind hf

/-- A loop whose steps write nothing is a plain fold. -/
theorem foldlM {f : σ → α → Refreshing σ} {g : σ → α → σ} {as : List α} (s : σ)
    (h : ∀ a ∈ as, ∀ s, Makes (f s a) [] (g s a)) : Makes (as.foldlM f s) [] (as.foldl g s) := by
  induction as generalizing s with
  | nil => exact pure s
  | cons a as ih =>
    rw [List.foldlM_cons, List.foldl_cons]
    exact (h a (List.mem_cons_self ..) s).bind (ih _ fun b hb => h b (List.mem_cons_of_mem _ hb))

end Makes
end Refreshing

namespace Refresh

open Attribute (text? said? words? integer number flag)
open Refreshing (Makes)

/-- The level that a pair gives: a hundred times the present amount by the full one,
rounded down.  There is none if a text is missing or empty, or if the full amount is
zero. -/
def ratio? (t : FileTree) (now full : Path) : Option Int := do
  let now := integer (← words? t (some now))
  let full := integer (← words? t (some full))
  if full = 0 then none else some (Int.fdiv (100 * now) full)

/-- The writes of the level. -/
def levelWrites (t : FileTree) (paths : AttributePaths) : List Write :=
  if paths.present.isNone then [.level (.int 100)]
  else if paths.capacity.isSome then [.level (.int (number t paths.capacity))]
  else
    match paths.levelPair with
    | none => []
    | some (now, full) => ((ratio? t now full).map fun n => Write.level (.int n)).toList

/-- What is online after one more charger. -/
def onlineAfter (t : FileTree) (c : Configuration) (online : Online) (name : String) : Online :=
  if Attribute.isOn (text? t (c.chargerFile name "online")) then
    match SupplyType.ofText (text? t (c.chargerFile name "type")) with
    | .ac => { online with ac := true }
    | .usb => { online with usb := true }
    | .wireless => { online with wireless := true }
    | _ => online
  else online

/-- Which types of charger are online; without chargers the machine runs on mains
power. -/
def onlineOf (t : FileTree) (c : Configuration) : Online :=
  let found := c.chargers.foldl (onlineAfter t c) {}
  if c.chargers.isEmpty then { found with ac := true } else found

/-- The status that the text at a path stands for. -/
def statusOf (t : FileTree) (path : Option Path) : Status :=
  ((words? t path).bind Status.ofText?).getD .unknown

/-- The health that a text stands for. -/
def healthOf (text : String) : Health := (Health.ofText? text).getD .unknown

/-- The writes of a refresh that gets to the voltage `v`. -/
def writesOf (t : FileTree) (c : Configuration) (v : Int) : List Write :=
  [.present (.bool (flag t c.paths.present))] ++ levelWrites t c.paths ++
    [.voltage (.int v), .temperature (.int (number t c.paths.temperature)),
      .status (statusOf t c.paths.status)] ++
    ((words? t c.paths.health).map fun text => Write.health (healthOf text)).toList ++
    ((words? t c.paths.technology).map fun text => Write.technology (.str text)).toList ++
    [.acOnline (.bool (onlineOf t c).ac), .usbOnline (.bool (onlineOf t c).usb),
      .wirelessOnline (.bool (onlineOf t c).wireless)]

variable {t : FileTree} {c : Configuration}

/-- The quotient of an integer that a text can hold, by any integer but zero, is
finite. -/
theorem exists_quotient {a : Int} (ha : a.natAbs < Nat.pow 10 Attribute.textLimit) {d : Int}
    (hd : d ≠ 0) : ∃ v, quotient a d = .ok v := by
  have hlog : a.natAbs.log2 < 1000 :=
    Nat.lt_of_le_of_lt (Attribute.log2_le_of_lt_pow ha) (by decide)
  obtain ⟨v, hv⟩ := Binary64.exists_trunc?_ofQuotient d hlog
  refine ⟨v, ?_⟩
  unfold quotient
  rw [if_neg hd, hv]

/-- **With an integer divisor that is not zero there is a voltage**, whatever the file
holds. -/
theorem exists_millivolts (t : FileTree) (path : Option Path) {d : Int} (hd : d ≠ 0) :
    ∃ v, millivolts (number t path) (.int d) = .ok v := by
  rw [millivolts_int]
  exact exists_quotient (Attribute.natAbs_number_lt t path) hd

theorem ratio?_eq_ite (t : FileTree) (now full : Path) :
    ratio? t now full =
      if (text? t now).getD "" = "" ∨ (text? t full).getD "" = "" then none
      else if integer ((text? t full).getD "") = 0 then none
      else some (Int.fdiv (100 * integer ((text? t now).getD ""))
        (integer ((text? t full).getD ""))) := by
  unfold ratio?
  rw [Attribute.words?_eq_ite, Attribute.words?_eq_ite]
  show (if (text? t now).getD "" = "" then none else _ : Option String).bind _ = _
  by_cases hn : (text? t now).getD "" = ""
  · rw [if_pos hn, if_pos (Or.inl hn)]
    rfl
  · rw [if_neg hn]
    show (if (text? t full).getD "" = "" then none else _ : Option String).bind _ = _
    by_cases hf : (text? t full).getD "" = ""
    · rw [if_pos hf, if_pos (Or.inr hf)]
      rfl
    · rw [if_neg hf, if_neg (not_or.2 ⟨hn, hf⟩)]
      rfl

/-- The level from a pair: two texts, two integers, and a division. -/
theorem makes_level_of_paths {paths : AttributePaths}
    (hcapacity : ∀ p, paths.capacity = some p → p.hasNul = false)
    (hpair : ∀ now full, paths.levelPair = some (now, full) →
      now.hasNul = false ∧ full.hasNul = false) :
    Makes (level t paths) (levelWrites t paths) () := by
  unfold level levelWrites
  split
  · exact Makes.write _
  split
  · exact Makes.reading_bind (Attribute.result_readInt hcapacity) (Makes.write _)
  cases hl : paths.levelPair with
  | none => exact Makes.pure ()
  | some pair =>
    obtain ⟨hn, hf⟩ := hpair pair.1 pair.2 hl
    dsimp only
    refine Makes.reading_bind (Attribute.result_read hn) ?_
    refine Makes.reading_bind (Attribute.result_read hf) ?_
    rw [ratio?_eq_ite]
    split
    · exact Makes.pure ()
    refine Makes.reading_bind
      (Attribute.result_leadingInt? fun s hs => Attribute.length_text?_le hs) ?_
    refine Makes.reading_bind
      (Attribute.result_leadingInt? fun s hs => Attribute.length_text?_le hs) ?_
    rw [Attribute.getD_leading?, Attribute.getD_leading?]
    split
    · exact Makes.note _
    · rw [Int.mul_comm 100]
      exact (Makes.write _).bind (Makes.note _)

theorem makes_level (h : ∀ p ∈ c.files, p.hasNul = false) :
    Makes (level t c.paths) (levelWrites t c.paths) () := by
  refine makes_level_of_paths ?_ fun now full hl => ?_
  · exact Configuration.forall_of_entry h "capacity" (by simp [AttributePaths.entries])
  · obtain ⟨hn, hf⟩ := Configuration.levelPair_mem_files hl
    exact ⟨h _ hn, h _ hf⟩

theorem makes_status (h : ∀ p, c.paths.status = some p → p.hasNul = false) :
    Makes (status t c.paths) [.status (statusOf t c.paths.status)] () := by
  unfold status statusOf
  refine Makes.reading_bind (Attribute.result_read_said h) ?_
  rw [Attribute.words?_eq_ite]
  dsimp only
  split
  · exact Makes.write _
  · exact Makes.reading_bind (Attribute.result_decodeStatus _) (Makes.write _)

theorem makes_health (h : ∀ p, c.paths.health = some p → p.hasNul = false) :
    Makes (health t c.paths)
      ((words? t c.paths.health).map fun text => Write.health (healthOf text)).toList () := by
  unfold health
  refine Makes.reading_bind (Attribute.result_read_said h) ?_
  rw [Attribute.words?_eq_ite]
  dsimp only
  split
  · exact Makes.pure ()
  · exact Makes.reading_bind (Attribute.result_decodeHealth _) (Makes.write _)

theorem makes_technology (h : ∀ p, c.paths.technology = some p → p.hasNul = false) :
    Makes (technology t c.paths)
      ((words? t c.paths.technology).map fun text => Write.technology (.str text)).toList () := by
  unfold technology
  refine Makes.reading_bind (Attribute.result_read_said h) ?_
  rw [Attribute.words?_eq_ite]
  dsimp only
  split
  · exact Makes.pure ()
  · exact Makes.write _

/-- A charger writes nothing by itself. -/
theorem makes_charger (h : ∀ p ∈ c.files, p.hasNul = false) {name : String} (hn : name ∈ c.chargers)
    (online : Online) : Makes (charger t c online name) [] (onlineAfter t c online name) := by
  unfold charger onlineAfter
  refine Makes.reading_bind (Attribute.result_read (h _ (Configuration.online_mem_files hn))) ?_
  cases Attribute.isOn (text? t (c.chargerFile name "online")) with
  | false => exact Makes.pure online
  | true =>
    refine Makes.reading_bind (Attribute.result_read (h _ (Configuration.type_mem_files hn))) ?_
    cases SupplyType.ofText (text? t (c.chargerFile name "type")) with
    | ac | usb | wireless => exact Makes.pure _
    | unknown | battery => exact (Makes.note _).bind (Makes.pure _)

theorem makes_chargers (h : ∀ p ∈ c.files, p.hasNul = false) :
    Makes (chargers t c)
      [.acOnline (.bool (onlineOf t c).ac), .usbOnline (.bool (onlineOf t c).usb),
        .wirelessOnline (.bool (onlineOf t c).wireless)] () := by
  unfold chargers onlineOf
  refine (Makes.foldlM {} fun name hn online => makes_charger h hn online).bind ?_
  exact (Makes.write _).bind ((Makes.write _).bind (Makes.write _))

/-- **A refresh that has a voltage goes through**, and makes the writes of
`writesOf`. -/
theorem makes_run (h : ∀ p ∈ c.files, p.hasNul = false) {v : Int}
    (hv : millivolts (number t c.paths.voltage) c.voltageDivisor = .ok v) :
    Makes (run t c) (writesOf t c v) () := by
  have entry : ∀ name path, (name, path) ∈ c.paths.entries →
      ∀ p, path = some p → p.hasNul = false := fun name _ => Configuration.forall_of_entry h name
  have present := entry "present" c.paths.present (by simp [AttributePaths.entries])
  have voltage := entry "voltage" c.paths.voltage (by simp [AttributePaths.entries])
  have temperature := entry "temperature" c.paths.temperature (by simp [AttributePaths.entries])
  have hstatus := entry "status" c.paths.status (by simp [AttributePaths.entries])
  have hhealth := entry "health" c.paths.health (by simp [AttributePaths.entries])
  have htechnology := entry "technology" c.paths.technology (by simp [AttributePaths.entries])
  unfold run writesOf
  simp only [List.append_assoc]
  refine Makes.reading_bind (Attribute.result_readFlag present) ?_
  refine (Makes.write _).bind ((makes_level h).bind ?_)
  refine Makes.reading_bind (Attribute.result_readInt voltage) ?_
  refine (Makes.ofExcept hv).bind ((Makes.write _).bind ?_)
  refine Makes.reading_bind (Attribute.result_readInt temperature) ((Makes.write _).bind ?_)
  refine (makes_status hstatus).bind ((makes_health hhealth).bind ?_)
  exact (makes_technology htechnology).bind (makes_chargers h)

end Refresh
end PowerSupply

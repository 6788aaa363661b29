/-
# What a service asks of its provider

A provider that writes down the calls it receives (`Provider.recorded`) shows what a
service asks of it over any sequence of operations.  Let discovery fail at first, `n`
times, and then succeed (`Provider.FailsFirst`).  Then the service discovers
once for each start or update until one has succeeded, refreshes once for each update
from there on, and closes whenever it is told to (`calls_of_run`).  No refresh comes
before the discovery that succeeded, and each is for what that discovery found, while
the service is bound to its constants.

The proof goes over the sequence one operation at a time.  What is true in between
(`Progress`) counts the attempts to start so far: up to `n` of them the service has
no configuration and has never refreshed, from then on it has the one that was found.
-/

import Mathlib.Data.List.Induction
import PowerSupply.Proofs.Service.Stage
import PowerSupply.Provider.Scripted

namespace PowerSupply

/-- A call that a provider receives. -/
inductive Call where
  | discover
  | refresh (c : Configuration)
  | close

namespace Calls

/-- One more call of its kind. -/
def add (n : Calls) : Call → Calls
  | .discover => { n with discovered := n.discovered + 1 }
  | .refresh _ => { n with refreshed := n.refreshed + 1 }
  | .close => { n with closed := n.closed + 1 }

/-- How often each operation of a provider was called. -/
def ofList (calls : List Call) : Calls := calls.foldl add {}

@[simp] theorem ofList_nil : ofList [] = {} := rfl

theorem ofList_concat (calls : List Call) (a : Call) :
    ofList (calls ++ [a]) = (ofList calls).add a := by
  unfold ofList
  rw [List.foldl_append]
  rfl

end Calls

namespace Provider

variable {ω : Type}

/-- The world after a call. -/
def after (p : Provider ω) (w : ω) : Call → ω
  | .discover => (p.discover w).1
  | .refresh c => (p.refresh c w).1
  | .close => p.close w

/-- The world after several calls in order. -/
def afterAll (p : Provider ω) (w : ω) (calls : List Call) : ω := calls.foldl p.after w

/-- The same provider, writing down each call that it receives. -/
def recorded (p : Provider ω) : Provider (ω × List Call) where
  name := p.name
  discover x := (((p.discover x.1).1, x.2 ++ [.discover]), (p.discover x.1).2)
  refresh c x := (((p.refresh c x.1).1, x.2 ++ [.refresh c]), (p.refresh c x.1).2)
  close x := (p.close x.1, x.2 ++ [.close])

/-- Discovery fails the first `n` times and then succeeds, whatever else is called in
between.  Whether it would succeed again does not matter. -/
def FailsFirst (p : Provider ω) (w : ω) (n : Nat) : Prop :=
  ∀ calls : List Call,
    ((Calls.ofList calls).discovered < n →
      ∃ f, (p.discover (p.afterAll w calls)).2.result = .error f) ∧
    ((Calls.ofList calls).discovered = n →
      ∃ c, (p.discover (p.afterAll w calls)).2.result = .ok c)

/-- Among the calls is the discovery after `n` failed ones, and it found `c`. -/
def Found (p : Provider ω) (w : ω) (n : Nat) (calls : List Call) (c : Configuration) : Prop :=
  ∃ before after, calls = before ++ .discover :: after ∧
    (Calls.ofList before).discovered = n ∧
    (p.discover (p.afterAll w before)).2.result = .ok c

/-- Every refresh among the calls comes after that discovery and is for what it
found. -/
def RefreshesFound (p : Provider ω) (w : ω) (n : Nat) (calls : List Call) (c : Configuration) :
    Prop :=
  ∀ before d after, calls = before ++ .refresh d :: after → d = c ∧ p.Found w n before c

variable {p : Provider ω} {w : ω} {n : Nat} {calls : List Call} {c : Configuration}

theorem afterAll_concat (p : Provider ω) (w : ω) (calls : List Call) (a : Call) :
    p.afterAll w (calls ++ [a]) = p.after (p.afterAll w calls) a := by
  unfold afterAll
  rw [List.foldl_append]
  rfl

/-- What was found stays found over a further call. -/
theorem Found.concat (h : p.Found w n calls c) (a : Call) : p.Found w n (calls ++ [a]) c := by
  obtain ⟨before, after, rfl, hn, hc⟩ := h
  exact ⟨before, after ++ [a], by simp, hn, hc⟩

theorem refreshesFound_of_not_mem (h : ∀ d, .refresh d ∉ calls) : p.RefreshesFound w n calls c := by
  intro before d after hd
  exact absurd (by rw [hd]; simp) (h d)

/-- A further call keeps the order if it is no refresh, or one for what was found. -/
theorem RefreshesFound.concat {a : Call} (h : p.RefreshesFound w n calls c)
    (ha : ∀ d, a = .refresh d → d = c ∧ p.Found w n calls c) :
    p.RefreshesFound w n (calls ++ [a]) c := by
  intro before d after hd
  rcases List.eq_nil_or_concat after with rfl | ⟨after, b, rfl⟩
  · obtain ⟨rfl, hb⟩ := List.append_inj' hd rfl
    exact ha d (List.cons.inj hb).1
  · rw [List.concat_eq_append, ← List.cons_append, ← List.append_assoc] at hd
    exact h before d after (List.append_inj' hd rfl).1

end Provider

/-- A scripted provider counts its calls in its world. -/
theorem Script.afterAll_provider (s : Script) (calls : List Call) :
    s.provider.afterAll {} calls = Calls.ofList calls := by
  have h : s.provider.after = Calls.add := by
    funext w a
    cases a <;> rfl
  unfold Provider.afterAll
  rw [h]
  rfl

/-- **A scripted provider fails as often as its script says.** -/
theorem Script.failsFirst_provider (s : Script) : s.provider.FailsFirst {} s.failures := by
  intro calls
  rw [s.afterAll_provider]
  constructor
  · intro h
    refine ⟨.provider "discover failed", ?_⟩
    show (if _ then _ else _ : Logged Configuration).result = _
    rw [if_pos h]
    rfl
  · intro h
    refine ⟨s.configuration, ?_⟩
    show (if _ then _ else _ : Logged Configuration).result = _
    rw [if_neg (Nat.not_lt.2 (Nat.le_of_eq h.symm))]
    rfl

namespace Service

variable {ω : Type}

/-- The operations that start a service if it is not started. -/
def attempts (ops : List Operation) : List Operation := ops.filter fun op => op ≠ .close

/-- How many updates there are after the first `n` attempts to start. -/
def updatesAfter (n : Nat) (ops : List Operation) : Nat :=
  ((attempts ops).drop n).count .update

/-- **What is true between two operations**, `tried` being the attempts to start so
far, `updated` the updates after the first `n` of them and `closed` the requests to
close. -/
structure Progress (p : Provider ω) (w : ω) (n : Nat) (idle : Service) (constants : Constants)
    (tried updated closed : Nat) (x : Service × ω × List Call) : Prop where
  world : x.2.1 = p.afterAll w x.2.2
  source : x.1.source = idle.source
  calls : Calls.ofList x.2.2 = ⟨min (n + 1) tried, updated, closed⟩
  /-- As long as no attempt has succeeded. -/
  searching : tried ≤ n → x.1.configuration? = none ∧ x.1.snapshot = idle.snapshot ∧
    ∀ d, .refresh d ∉ x.2.2
  /-- From the first success on. -/
  settled : n < tried → ∃ c, x.1.stage = .started constants c ∧ p.Found w n x.2.2 c ∧
    p.RefreshesFound w n x.2.2 c

namespace Progress

variable {p : Provider ω} {w : ω} {n : Nat} {idle : Service} {constants : Constants}
  {tried updated closed : Nat} {x : Service × ω × List Call}

theorem init (h : idle.configuration? = none) :
    Progress p w n idle constants 0 0 0 (idle, w, []) where
  world := rfl
  source := rfl
  calls := by simp
  searching _ := ⟨h, rfl, fun _ => List.not_mem_nil⟩
  settled h := absurd h (Nat.not_lt_zero n)

/-- A request to close reaches the provider and changes nothing in the service. -/
theorem close (h : Progress p w n idle constants tried updated closed x) :
    Progress p w n idle constants tried updated (closed + 1) (apply p.recorded x .close) where
  world := by
    show p.close x.2.1 = p.afterAll w (x.2.2 ++ [.close])
    rw [Provider.afterAll_concat, ← h.world]
    rfl
  source := h.source
  calls := by
    show Calls.ofList (x.2.2 ++ [.close]) = _
    rw [Calls.ofList_concat, h.calls]
    rfl
  searching ht := by
    obtain ⟨hc, hs, hr⟩ := h.searching ht
    refine ⟨hc, hs, fun d hd => ?_⟩
    rcases List.mem_append.1 hd with hd | hd
    · exact hr d hd
    · exact nomatch List.mem_singleton.1 hd
  settled ht := by
    obtain ⟨c, hs, hf, hr⟩ := h.settled ht
    exact ⟨c, hs, hf.concat _, hr.concat fun _ hd => nomatch hd⟩

/-- A refresh of a service that has a configuration is for that configuration. -/
theorem refresh (h : Progress p w n idle constants tried updated closed x) (ht : n < tried) :
    Progress p w n idle constants tried (updated + 1) closed
      ((x.1.refresh p.recorded x.2).1, (x.1.refresh p.recorded x.2).2.1) := by
  obtain ⟨c, hs, hf, hr⟩ := h.settled ht
  rw [refresh_started hs]
  refine ⟨?_, h.source, ?_, fun hn => absurd ht (Nat.not_lt.2 hn), fun _ => ⟨c, hs, ?_, ?_⟩⟩
  · show (p.refresh c x.2.1).1 = p.afterAll w (x.2.2 ++ [.refresh c])
    rw [Provider.afterAll_concat, ← h.world]
    rfl
  · show Calls.ofList (x.2.2 ++ [.refresh c]) = _
    rw [Calls.ofList_concat, h.calls]
    rfl
  · exact hf.concat _
  · refine hr.concat fun d hd => ⟨?_, hf⟩
    cases hd
    rfl

/-- The discoveries so far are the attempts, as long as none has succeeded. -/
theorem discovered_eq (h : Progress p w n idle constants tried updated closed x) (ht : tried ≤ n) :
    (Calls.ofList x.2.2).discovered = tried := by
  rw [h.calls]
  show min (n + 1) tried = tried
  omega

/-- One of the first `n` attempts fails, and leaves the service bound. -/
theorem start_failing (h : Progress p w n idle constants tried updated closed x)
    (hb : Constants.bind idle.source idle.snapshot = .ok constants) (hp : p.FailsFirst w n)
    (ht : tried < n) :
    (∃ f, (x.1.start p.recorded x.2).2.2.result = .error f) ∧
      Progress p w n idle constants (tried + 1) updated closed (apply p.recorded x .start) := by
  obtain ⟨hc, hs, hr⟩ := h.searching (Nat.le_of_lt ht)
  obtain ⟨f, hf⟩ := (hp x.2.2).1 (by rw [h.discovered_eq (Nat.le_of_lt ht)]; exact ht)
  rw [← h.world] at hf
  have hst := start_failed (p := p.recorded) (w := x.2) hc (by rw [h.source, hs]; exact hb) hf
  refine ⟨⟨f, by rw [hst]; exact hf⟩, ?_⟩
  show Progress p w n idle constants (tried + 1) updated closed
    ((x.1.start p.recorded x.2).1, (x.1.start p.recorded x.2).2.1)
  rw [hst]
  refine ⟨?_, h.source, ?_, fun _ => ⟨rfl, hs, fun d hd => ?_⟩, fun hn => by omega⟩
  · show (p.discover x.2.1).1 = p.afterAll w (x.2.2 ++ [.discover])
    rw [Provider.afterAll_concat, ← h.world]
    rfl
  · show Calls.ofList (x.2.2 ++ [.discover]) = _
    rw [Calls.ofList_concat, h.calls]
    simp only [Calls.add, Calls.mk.injEq, and_self, and_true]
    omega
  · rcases List.mem_append.1 hd with hd | hd
    · exact hr d hd
    · exact nomatch List.mem_singleton.1 hd

/-- The attempt after `n` failed ones succeeds, and gives the service what was found. -/
theorem start_succeeding (h : Progress p w n idle constants tried updated closed x)
    (hb : Constants.bind idle.source idle.snapshot = .ok constants) (hp : p.FailsFirst w n)
    (ht : tried = n) :
    (∃ c, (x.1.start p.recorded x.2).2.2.result = .ok c) ∧
      Progress p w n idle constants (tried + 1) updated closed (apply p.recorded x .start) := by
  have hle : tried ≤ n := Nat.le_of_eq ht
  obtain ⟨hc, hs, hr⟩ := h.searching hle
  obtain ⟨c, hf⟩ := (hp x.2.2).2 (by rw [h.discovered_eq hle, ht])
  rw [← h.world] at hf
  have hst := start_found (p := p.recorded) (w := x.2) hc (by rw [h.source, hs]; exact hb) hf
  refine ⟨⟨c, hst.2⟩, ?_⟩
  show Progress p w n idle constants (tried + 1) updated closed
    ((x.1.start p.recorded x.2).1, (x.1.start p.recorded x.2).2.1)
  rw [hst.1]
  refine ⟨?_, h.source, ?_, fun hn => by omega, fun _ => ⟨c, rfl, ?_, ?_⟩⟩
  · show (p.discover x.2.1).1 = p.afterAll w (x.2.2 ++ [.discover])
    rw [Provider.afterAll_concat, ← h.world]
    rfl
  · show Calls.ofList (x.2.2 ++ [.discover]) = _
    rw [Calls.ofList_concat, h.calls]
    simp only [Calls.add, Calls.mk.injEq, and_self, and_true]
    omega
  · exact ⟨x.2.2, [], rfl, by rw [h.discovered_eq hle, ht], by rw [← h.world]; exact hf⟩
  · exact (Provider.refreshesFound_of_not_mem hr).concat fun _ hd => nomatch hd

/-- An attempt to start a service that is started changes nothing. -/
theorem start_settled (h : Progress p w n idle constants tried updated closed x) (ht : n < tried) :
    (∃ c, (x.1.start p.recorded x.2).2.2.result = .ok c) ∧
      Progress p w n idle constants (tried + 1) updated closed (apply p.recorded x .start) := by
  obtain ⟨c, hs, hf, hr⟩ := h.settled ht
  have hst := start_of_started p.recorded x.2 hs
  refine ⟨⟨c, by rw [hst]; rfl⟩, ?_⟩
  show Progress p w n idle constants (tried + 1) updated closed
    ((x.1.start p.recorded x.2).1, (x.1.start p.recorded x.2).2.1)
  rw [hst]
  refine ⟨h.world, h.source, ?_, fun hn => by omega, fun _ => ⟨c, hs, hf, hr⟩⟩
  rw [h.calls, Nat.min_eq_left (by omega), Nat.min_eq_left (by omega)]

/-- **An attempt to start** succeeds exactly where `n` went before it. -/
theorem start (h : Progress p w n idle constants tried updated closed x)
    (hb : Constants.bind idle.source idle.snapshot = .ok constants) (hp : p.FailsFirst w n) :
    Progress p w n idle constants (tried + 1) updated closed (apply p.recorded x .start) ∧
      if tried < n then ∃ f, (x.1.start p.recorded x.2).2.2.result = .error f
      else ∃ c, (x.1.start p.recorded x.2).2.2.result = .ok c := by
  rcases Nat.lt_trichotomy tried n with ht | ht | ht
  · rw [if_pos ht]
    exact (h.start_failing hb hp ht).symm
  · rw [if_neg (by omega)]
    exact (h.start_succeeding hb hp ht).symm
  · rw [if_neg (by omega)]
    exact (h.start_settled ht).symm

/-- **An update** is an attempt to start, and a refresh where that succeeds. -/
theorem update (h : Progress p w n idle constants tried updated closed x)
    (hb : Constants.bind idle.source idle.snapshot = .ok constants) (hp : p.FailsFirst w n) :
    Progress p w n idle constants (tried + 1) (if tried < n then updated else updated + 1) closed
      (apply p.recorded x .update) := by
  obtain ⟨hst, hr⟩ := h.start hb hp
  by_cases ht : tried < n
  · rw [if_pos ht] at hr ⊢
    obtain ⟨f, hf⟩ := hr
    show Progress p w n idle constants (tried + 1) updated closed
      ((x.1.update p.recorded x.2).1, (x.1.update p.recorded x.2).2.1)
    rw [update_failed hf]
    exact hst
  · rw [if_neg ht] at hr ⊢
    obtain ⟨c, hc⟩ := hr
    have : apply p.recorded x .update = _ := update_started (s := x.1) (w := x.2) hc
    rw [this]
    exact hst.refresh (by omega)

end Progress

theorem attempts_concat (ops : List Operation) (op : Operation) :
    attempts (ops ++ [op]) = attempts ops ++ if op = .close then [] else [op] := by
  unfold attempts
  rw [List.filter_append]
  cases op <;> rfl

/-- An update counts if `n` attempts went before it. -/
theorem updatesAfter_concat (n : Nat) (ops : List Operation) (op : Operation) :
    updatesAfter n (ops ++ [op]) =
      if op = .update ∧ n ≤ (attempts ops).length then updatesAfter n ops + 1
      else updatesAfter n ops := by
  unfold updatesAfter
  rw [attempts_concat, List.drop_append, List.count_append]
  by_cases hn : n ≤ (attempts ops).length
  · rw [Nat.sub_eq_zero_of_le hn]
    cases op <;> simp [hn]
  · have hd : (if op = Operation.close then [] else [op]).drop (n - (attempts ops).length) = [] :=
      List.drop_eq_nil_of_le (by cases op <;> simp <;> omega)
    rw [hd, if_neg fun h => hn h.2]
    rfl

/-- **Over every sequence of operations** the service makes the progress that the
sequence calls for. -/
theorem progress_run {p : Provider ω} {w : ω} {n : Nat} {idle : Service} {constants : Constants}
    (hi : idle.configuration? = none)
    (hb : Constants.bind idle.source idle.snapshot = .ok constants) (hp : p.FailsFirst w n)
    (ops : List Operation) :
    Progress p w n idle constants (attempts ops).length (updatesAfter n ops) (ops.count .close)
      (run p.recorded (idle, w, []) ops) := by
  induction ops using List.reverseRecOn with
  | nil =>
    have : updatesAfter n [] = 0 := by simp [updatesAfter, attempts]
    rw [this]
    exact Progress.init hi
  | append_singleton ops op ih =>
    rw [run_concat, attempts_concat, updatesAfter_concat, List.count_append]
    cases op with
    | close => simpa using ih.close
    | start => simpa using (ih.start hb hp).1
    | update =>
      have h := ih.update hb hp
      by_cases hn : n ≤ (attempts ops).length
      · rw [if_neg (Nat.not_lt.2 hn)] at h
        simpa [hn] using h
      · rw [if_pos (Nat.lt_of_not_le hn)] at h
        simpa [hn] using h

/-- **What a service asks of its provider** over any sequence of operations, where
discovery fails `n` times and then succeeds.

It discovers at each attempt to start up to the first that succeeds, refreshes at each
update from there on, and closes as often as it is told to.  Each refresh is for what
that discovery found, and the service is then bound and has it as its configuration.
A configuration stays, with the constants, over all further operations; starting again
returns it and asks for nothing, and an update writes through those constants.
Closing changes nothing in the service. -/
theorem calls_of_run {p : Provider ω} {w : ω} {n : Nat} {source : ConstantSource}
    {snapshot : Snapshot} {constants : Constants}
    (hb : Constants.bind source snapshot = .ok constants) (hp : p.FailsFirst w n)
    (ops : List Operation) :
    let x := run p.recorded (.idle source snapshot, w, []) ops
    Calls.ofList x.2.2 =
        ⟨min (n + 1) (attempts ops).length, updatesAfter n ops, ops.count .close⟩ ∧
      (∀ before c after, x.2.2 = before ++ .refresh c :: after →
        p.Found w n before c ∧ x.1.stage = .started constants c) ∧
      (x.1.configuration?.isSome ↔ n < (attempts ops).length) ∧
      (∀ c, x.1.configuration? = some c → p.Found w n x.2.2 c ∧
        ∀ more, let y := run p.recorded x more
          y.1.configuration? = some c ∧ y.1.constants? = some constants ∧
          y.1.start p.recorded y.2 = (y.1, y.2, pure c) ∧
          (y.1.update p.recorded y.2).1.snapshot =
            y.1.snapshot.writeAll constants (Action.writes (p.refresh c y.2.1).2.events)) ∧
      (x.1.close p.recorded x.2).1 = x.1 := by
  intro x
  have h : Progress p w n (.idle source snapshot) constants _ _ _ x := progress_run rfl hb hp ops
  refine ⟨h.calls, fun before c after hx => ?_, ⟨fun hc => ?_, fun ht => ?_⟩, fun c hc => ?_, rfl⟩
  · rcases Nat.lt_or_ge n (attempts ops).length with ht | ht
    · obtain ⟨d, hs, -, hr⟩ := h.settled ht
      obtain ⟨rfl, hf⟩ := hr before c after hx
      exact ⟨hf, hs⟩
    · exact absurd (by rw [hx]; simp) ((h.searching ht).2.2 c)
  · by_contra ht
    rw [(h.searching (Nat.le_of_not_lt ht)).1] at hc
    cases hc
  · obtain ⟨c, hs, -⟩ := h.settled ht
    rw [configuration?_eq_some_iff.2 ⟨constants, hs⟩]
    rfl
  · have ht : n < (attempts ops).length := by
      by_contra ht
      rw [(h.searching (Nat.le_of_not_lt ht)).1] at hc
      cases hc
    obtain ⟨d, hs, hf, -⟩ := h.settled ht
    obtain rfl : d = c := by
      rw [configuration?_eq_some_iff.2 ⟨constants, hs⟩] at hc
      exact Option.some.inj hc
    exact ⟨hf, fun more => run_started p.recorded hs more⟩

/-- Seven operations on a service whose provider fails twice: three attempts lead to
the configuration, the third of them an update that refreshes, and so does the last. -/
theorem calls_of_seven_operations :
    let script : Script := { configuration := .empty "ps", failures := 2 }
    let x := run script.provider.recorded (.idle .standard .initial, {}, [])
      [.close, .start, .update, .update, .close, .start, .update]
    script.provider.FailsFirst {} 2 ∧ (Constants.bind .standard .initial).isOk ∧
      Calls.ofList x.2.2 = ⟨3, 2, 2⟩ ∧ x.1.configuration?.isSome := by
  intro script x
  have hp : script.provider.FailsFirst {} 2 := script.failsFirst_provider
  have hok : (Constants.bind .standard .initial).isOk = true := by decide +kernel
  cases hb : Constants.bind .standard .initial with
  | error e =>
    rw [hb] at hok
    cases hok
  | ok constants =>
    obtain ⟨hcalls, -, hset, -⟩ := calls_of_run hb hp
      [.close, .start, .update, .update, .close, .start, .update]
    exact ⟨hp, rfl, hcalls.trans (by decide), hset.2 (by decide)⟩

end Service
end PowerSupply

/-
# What a failed operation leaves

A start or an update can fail in three places, one after the other, and what it leaves
depends on the place alone (`state_after_failure`).

* Where the binding fails, nothing has happened: the service and its world are as they
  were, and the provider was not called.
* Where discovery fails, the service is bound, and that is all that is new in it.  Without a
  configuration the next start or update discovers again (`discover_again`).
* Where the refresh fails, the service is started with what it had before, or with what the
  update itself has just bound and discovered (`Begun`).  The writes that came before the
  fault are in the snapshot, and no others.

None of this depends on how the service came to be in its state, or on what the provider
does.
-/

import PowerSupply.Proofs.Refresh.Divisor
import PowerSupply.Proofs.Service.Calls
import PowerSupply.Proofs.Service.Updates

namespace PowerSupply

/-- Whether a provider has no fault that is one of a binding. -/
structure Provider.NeverUnbound {ω : Type} (p : Provider ω) : Prop where
  discover (w : ω) (e : BindingError) : (p.discover w).2.result ≠ .error (.binding e)
  refresh (c : Configuration) (w : ω) (e : BindingError) :
    (p.refresh c w).2.result ≠ .error (.binding e)

/-- A scripted provider has none. -/
theorem Script.neverUnbound_provider (s : Script) : s.provider.NeverUnbound where
  discover w e h := by
    change (if _ then _ else _ : Logged Configuration).result = _ at h
    split at h <;> cases h
  refresh _ w e := by
    show (Script.follow (s.steps (w.refreshed + 1))).result ≠ _
    induction s.steps (w.refreshed + 1) with
    | nil => exact fun h => nomatch h
    | cons step steps ih =>
      cases step with
      | write v =>
        have hwrite : (Refreshing.write v).result = .ok () := rfl
        unfold Script.follow
        rw [Trace.result_bind_ok _ hwrite]
        exact ih
      | fail text => exact fun h => nomatch h

namespace Service

variable {ω : Type} {p : Provider ω} {s : Service} {w : ω} {k : Constants} {c : Configuration}
variable {f : Fault}

/-- How an operation ends. -/
def outcome (p : Provider ω) (s : Service) (w : ω) : Operation → Except Fault Unit
  | .start => (s.start p w).2.2.result.map fun _ => ()
  | .update => (s.update p w).2.2.result
  | .close => .ok ()

/-- How an update comes to its refresh, with which constants and configuration, in which world
and after which calls: at once if the service was started, else by binding and discovering. -/
inductive Begun (p : Provider ω) (s : Service) (w : ω) :
    Constants → Configuration → ω → List Call → Prop where
  | kept {k : Constants} {c : Configuration} (hs : s.stage = .started k c) :
      Begun p s w k c w []
  | found {k : Constants} {c : Configuration} (hs : s.configuration? = none)
      (hb : Constants.bind s.source s.snapshot = .ok k)
      (hd : (p.discover w).2.result = .ok c) : Begun p s w k c (p.discover w).1 [.discover]

/-! ### Discovery -/

/-- A start that gets past the binding has made one discovery and nothing else. -/
theorem world_start (hs : s.configuration? = none)
    (hb : Constants.bind s.source s.snapshot = .ok k) :
    (s.start p w).2.1 = (p.discover w).1 := by
  cases hd : (p.discover w).2.result with
  | error f => rw [start_failed hs hb hd]
  | ok c => exact (Prod.mk.inj (start_found hs hb hd).1).2

/-- **A service without a configuration that can be bound discovers**, whether it is told to
start or to update. -/
theorem discover_again {x : Service × ω × List Call} (hs : x.1.configuration? = none)
    (hb : Constants.bind x.1.source x.1.snapshot = .ok k) {op : Operation} (hop : op ≠ .close) :
    ∃ more, (apply p.recorded x op).2.2 = x.2.2 ++ .discover :: more := by
  have hstart : (x.1.start p.recorded x.2).2.1.2 = x.2.2 ++ [.discover] := by
    rw [world_start hs hb]
    rfl
  cases op with
  | close => exact absurd rfl hop
  | start => exact ⟨[], hstart⟩
  | update =>
    cases hr : (x.1.start p.recorded x.2).2.2.result with
    | error f =>
      refine ⟨[], ?_⟩
      show (x.1.update p.recorded x.2).2.1.2 = _
      rw [update_failed hr]
      exact hstart
    | ok c =>
      obtain ⟨k', hk'⟩ := stage_of_start hr
      have hupdate : apply p.recorded x .update = _ := update_started (s := x.1) (w := x.2) hr
      refine ⟨[.refresh c], ?_⟩
      rw [hupdate, refresh_started hk']
      show (x.1.start p.recorded x.2).2.1.2 ++ [.refresh c] = _
      rw [hstart, List.append_assoc]
      rfl

/-! ### The three failures -/

/-- A start can only fail for a service that has no configuration. -/
theorem configuration?_of_failed (h : (s.start p w).2.2.result = .error f) :
    s.configuration? = none := by
  cases hc : s.configuration? with
  | none => rfl
  | some c =>
    obtain ⟨k, hk⟩ := configuration?_eq_some_iff.1 hc
    rw [start_of_started p w hk] at h
    cases h

/-- **A start that fails** could not bind, and left everything as it was; or its discovery
failed, and left the service bound. -/
theorem failed_start {x : Service × ω × List Call}
    (h : (x.1.start p.recorded x.2).2.2.result = .error f) :
    (∃ e, Constants.bind x.1.source x.1.snapshot = .error e ∧ f = .binding e ∧
      apply p.recorded x .start = x) ∨
    ∃ k, Constants.bind x.1.source x.1.snapshot = .ok k ∧ (p.discover x.2.1).2.result = .error f ∧
      apply p.recorded x .start =
        ({ x.1 with stage := .bound k }, (p.discover x.2.1).1, x.2.2 ++ [.discover]) := by
  have hs := configuration?_of_failed h
  cases hb : Constants.bind x.1.source x.1.snapshot with
  | error e =>
    have hstart := start_unbound (p := p.recorded) (w := x.2) hs hb
    rw [hstart] at h
    refine .inl ⟨e, rfl, (Except.error.inj h).symm, ?_⟩
    show ((x.1.start p.recorded x.2).1, (x.1.start p.recorded x.2).2.1) = x
    rw [hstart]
  | ok k =>
    cases hd : (p.discover x.2.1).2.result with
    | error g =>
      have hstart := start_failed (p := p.recorded) (w := x.2) hs hb hd
      rw [hstart] at h
      refine .inr ⟨k, rfl, hd.symm.trans h, ?_⟩
      show ((x.1.start p.recorded x.2).1, (x.1.start p.recorded x.2).2.1) = _
      rw [hstart]
      rfl
    | ok c =>
      rw [(start_found (p := p.recorded) (w := x.2) hs hb hd).2] at h
      cases h

/-- **A start that goes through** leaves what an update goes on from. -/
theorem begun_of_start {x : Service × ω × List Call}
    (h : (x.1.start p.recorded x.2).2.2.result = .ok c) :
    ∃ k w calls, Begun p x.1 x.2.1 k c w calls ∧
      ((x.1.start p.recorded x.2).1, (x.1.start p.recorded x.2).2.1) =
        ({ x.1 with stage := .started k c }, w, x.2.2 ++ calls) := by
  cases hs : x.1.configuration? with
  | some c' =>
    obtain ⟨k, hk⟩ := configuration?_eq_some_iff.1 hs
    have hstart := start_of_started p.recorded x.2 hk
    rw [hstart] at h ⊢
    obtain rfl : c' = c := Except.ok.inj h
    refine ⟨k, x.2.1, [], .kept hk, ?_⟩
    rw [← hk, List.append_nil]
  | none =>
    cases hb : Constants.bind x.1.source x.1.snapshot with
    | error e =>
      rw [start_unbound hs hb] at h
      cases h
    | ok k =>
      cases hd : (p.discover x.2.1).2.result with
      | error f =>
        rw [start_failed (p := p.recorded) (w := x.2) hs hb hd] at h
        cases hd.symm.trans h
      | ok c' =>
        obtain ⟨hstart, hresult⟩ := start_found (p := p.recorded) (w := x.2) hs hb hd
        obtain rfl : c' = c := Except.ok.inj (hresult.symm.trans h)
        exact ⟨k, _, _, .found hs hb hd, hstart⟩

/-- **An operation that fails** fails in its start, and comes to no more than that, or it is an
update that fails in its refresh. -/
theorem failure_cases {x : Service × ω} {op : Operation}
    (h : outcome p x.1 x.2 op = .error f) :
    (x.1.start p x.2).2.2.result = .error f ∧ apply p x op = apply p x .start ∨
      op = .update ∧ ∃ c, (x.1.start p x.2).2.2.result = .ok c ∧
        ((x.1.start p x.2).1.refresh p (x.1.start p x.2).2.1).2.2.result = .error f := by
  cases op with
  | close => cases h
  | start =>
    change (x.1.start p x.2).2.2.result.map _ = _ at h
    cases hr : (x.1.start p x.2).2.2.result with
    | ok c =>
      rw [hr] at h
      cases h
    | error g =>
      rw [hr] at h
      cases h
      exact .inl ⟨rfl, rfl⟩
  | update =>
    change (x.1.update p x.2).2.2.result = _ at h
    cases hr : (x.1.start p x.2).2.2.result with
    | ok c =>
      refine .inr ⟨rfl, c, rfl, ?_⟩
      unfold update at h
      simp only [hr] at h
      exact h
    | error g =>
      have hupdate := update_failed hr
      rw [hupdate] at h
      cases h
      refine .inl ⟨rfl, ?_⟩
      unfold apply
      rw [hupdate]

/-- **What a failed operation leaves**, of any service in any state, for any provider, whose
calls are written down.

If the service cannot be bound, it has no configuration, and service, world and calls are as
they were.  If its discovery fails, it is bound and else as it was, one discovery has been
made, and the next start or update makes another one.  If its refresh fails, the service is
started with the constants and the configuration that the update began with; each of the ten
fields has the value that was written to it last before the fault, a status or a health by
the integer that it is bound to, or its old value; and other fields are as they were.

A fault of the binding comes from a service that cannot be bound, unless the provider itself
has such faults. -/
theorem state_after_failure (p : Provider ω) (x : Service × ω × List Call) (op : Operation)
    (h : outcome p.recorded x.1 x.2 op = .error f) :
    let y := apply p.recorded x op
    ((∃ e, Constants.bind x.1.source x.1.snapshot = .error e ∧ f = .binding e ∧
        x.1.configuration? = none ∧ y = x) ∨
      (∃ k, Constants.bind x.1.source x.1.snapshot = .ok k ∧
        (p.discover x.2.1).2.result = .error f ∧ x.1.configuration? = none ∧
        y = ({ x.1 with stage := .bound k }, (p.discover x.2.1).1, x.2.2 ++ [.discover]) ∧
        ∀ op' ≠ .close, ∃ more, (apply p.recorded y op').2.2 = y.2.2 ++ .discover :: more) ∨
      op = .update ∧ ∃ k c w calls, Begun p x.1 x.2.1 k c w calls ∧
        (p.refresh c w).2.result = .error f ∧
        y.1.stage = .started k c ∧ y.1.source = x.1.source ∧
        y.2 = ((p.refresh c w).1, x.2.2 ++ calls ++ [.refresh c]) ∧
        (∀ g : Field, y.1.snapshot.get? g.name =
          (Write.left? k g (Action.writes (p.refresh c w).2.events)).or
            (x.1.snapshot.get? g.name)) ∧
        ∀ name, (∀ g : Field, name ≠ g.name) →
          y.1.snapshot.get? name = x.1.snapshot.get? name) ∧
    (p.NeverUnbound → ∀ e, f = .binding e → x.1.configuration? = none ∧ y = x) := by
  intro y
  rcases failure_cases h with ⟨hstart, hy⟩ | ⟨hop, c, hstart, hrefresh⟩
  · have hs := configuration?_of_failed hstart
    rcases failed_start hstart with ⟨e, hb, hf, hsame⟩ | ⟨k, hb, hd, hbound⟩
    · have hyx : y = x := hy.trans hsame
      exact ⟨.inl ⟨e, hb, hf, hs, hyx⟩, fun _ _ _ => ⟨hs, hyx⟩⟩
    · have hyb : y = _ := hy.trans hbound
      refine ⟨.inr (.inl ⟨k, hb, hd, hs, hyb, fun op' hop' => ?_⟩), fun hp e he => ?_⟩
      · rw [hyb]
        refine discover_again (k := k) ?_ ?_ hop'
        · rfl
        · exact hb
      · exact absurd (he ▸ hd) (hp.discover _ e)
  · obtain ⟨k, w, calls, hbegun, hleft⟩ := begun_of_start hstart
    obtain ⟨hservice, hworld⟩ := Prod.mk.inj hleft
    have hy : y = _ := (congrArg (apply p.recorded x) hop).trans (update_started hstart)
    rw [hservice, hworld, refresh_started rfl] at hy hrefresh
    refine ⟨.inr (.inr ⟨hop, k, c, w, calls, hbegun, hrefresh, ?_⟩), fun hp e he => ?_⟩
    · rw [hy]
      refine ⟨rfl, rfl, rfl, fun g => Snapshot.get?_writeAll .., fun name hname => ?_⟩
      exact Snapshot.get?_writeAll_of_ne k _ fun v _ => hname v.field
    · exact absurd (he ▸ hrefresh) (hp.refresh c w e)

/-- A service without constants; and one whose first discovery fails, and whose refresh fails
after three writes, two of them to one field. -/
theorem state_after_three_failures :
    let script : Script :=
      { configuration := .empty "ps", failures := 1,
        refreshes := [[.write (.level (.int 5)), .write (.status .full), .write (.level (.int 9)),
          .fail "gone", .write (.technology (.str "Li-ion"))]] }
    let p := script.provider
    let snapshot := Snapshot.initial.set "owner" (.str "me")
    let unbound : Service × Calls × List Call := (.idle [] snapshot, {}, [])
    let idle : Service × Calls × List Call := (.idle .standard snapshot, {}, [])
    let started := apply p.recorded idle .start
    let updated := apply p.recorded started .update
    outcome p.recorded unbound.1 unbound.2 .update =
        .error (.binding (.missingConstant "BATTERY_STATUS_UNKNOWN")) ∧
      outcome p.recorded idle.1 idle.2 .start = .error (.provider "discover failed") ∧
      outcome p.recorded started.1 started.2 .update = .error (.provider "gone") ∧
      apply p.recorded unbound .update = unbound ∧
      started.1.configuration? = none ∧ started.1.snapshot = snapshot ∧
      updated.1.configuration? = some (.empty "ps") ∧
      updated.1.snapshot.get? "level" = some (.int 9) ∧
      updated.1.snapshot.get? "status" = some (.int 5) ∧
      updated.1.snapshot.get? "owner" = some (.str "me") := by
  intro script p snapshot unbound idle started updated
  have h₀ : outcome p.recorded unbound.1 unbound.2 .update =
      .error (.binding (.missingConstant "BATTERY_STATUS_UNKNOWN")) := rfl
  have h₁ : outcome p.recorded idle.1 idle.2 .start = .error (.provider "discover failed") := rfl
  have h₂ : outcome p.recorded started.1 started.2 .update = .error (.provider "gone") := rfl
  have hb : ∃ k, Constants.bind .standard snapshot = .ok k ∧ k.status .full = 5 := ⟨_, rfl, rfl⟩
  obtain ⟨k, hk, hfull⟩ := hb
  -- no constants: the fault is that of the binding
  obtain ⟨-, same⟩ := state_after_failure p unbound .update h₀
  obtain ⟨-, hunbound⟩ := same script.neverUnbound_provider _ rfl
  -- the first discovery: the service can be bound, and a start does not refresh
  obtain ⟨hidle, -⟩ := state_after_failure p idle .start h₁
  have hstarted : started = ({ idle.1 with stage := .bound k }, ⟨1, 0, 0⟩, [.discover]) := by
    rcases hidle with ⟨e, he, -⟩ | ⟨k', hk', -, -, hy, -⟩ | ⟨hop, -⟩
    · cases hk.symm.trans he
    · obtain rfl : k' = k := Except.ok.inj (hk'.symm.trans hk)
      exact hy
    · cases hop
  -- the second discovery goes through, and the refresh does not
  obtain ⟨hupdated, -⟩ := state_after_failure p started .update h₂
  have hbound : Constants.bind started.1.source started.1.snapshot = .ok k := by
    rw [hstarted]
    exact hk
  have hfound : (p.discover started.2.1).2.result = .ok (.empty "ps") := by
    rw [hstarted]
    rfl
  have hsnapshot : started.1.snapshot = snapshot := by
    rw [hstarted]
    rfl
  refine ⟨h₀, h₁, h₂, hunbound, by rw [hstarted]; rfl, hsnapshot, ?_⟩
  rcases hupdated with ⟨e, he, -⟩ | ⟨k', -, hd, -⟩ |
    ⟨-, k', c, w, calls, hbegun, -, hstage, -, -, hfields, hothers⟩
  · cases hbound.symm.trans he
  · cases hfound.symm.trans hd
  · cases hbegun with
    | kept hs =>
      rw [hstarted] at hs
      cases hs
    | found hs hb' hd =>
      obtain rfl : k' = k := Except.ok.inj (hb'.symm.trans hbound)
      obtain rfl : c = .empty "ps" := Except.ok.inj (hd.symm.trans hfound)
      rw [hstarted] at hfields hothers
      refine ⟨configuration?_eq_some_iff.2 ⟨_, hstage⟩, hfields .level, (hfields .status).trans ?_,
        hothers "owner" fun g => by cases g <;> decide⟩
      exact congrArg (fun n => some (Json.int n)) hfull

end Service
end PowerSupply

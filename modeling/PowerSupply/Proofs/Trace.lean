/-
# Sequences of traces

A sequence ends well exactly where each part ends well in turn
(`result_bind_eq_ok`), and then its events are those of the parts
(`events_bind_ok`).  So the result of a sequence does not depend on what the parts
announce.

A loop whose steps can fail is a plain fold wherever it ends well
(`foldl_of_result_foldlM`), so what a loop computes and where it stops can be looked
at apart.
-/

import PowerSupply.Trace

namespace PowerSupply

/-- What can fail and goes on to something that can fail succeeds where both do. -/
theorem bind_eq_ok {φ α β : Type} {x : Except φ α} {f : α → Except φ β} {b : β} :
    (x >>= f) = .ok b ↔ ∃ a, x = .ok a ∧ f a = .ok b := by
  cases x <;> simp [bind, Except.bind]

/-- What is done to a result keeps that there was one. -/
theorem of_map_eq_ok {φ α β : Type} {x : Except φ α} {f : α → β} {b : β} (h : x.map f = .ok b) :
    ∃ a, x = .ok a ∧ f a = b := by
  cases x with
  | error e => cases h
  | ok a => exact ⟨a, rfl, Except.ok.inj h⟩

/-- There is a result, and it has a property, where that can be computed of the outcome. -/
theorem exists_ok_of_any {φ α : Type} {x : Except φ α} {p : α → Bool}
    (h : x.toOption.any p = true) : ∃ a, x = .ok a ∧ p a = true := by
  cases x with
  | error e => cases h
  | ok a => exact ⟨a, rfl, h⟩

/-- A result that was computed is the result. -/
theorem eq_ok_of_toOption {φ α : Type} {x : Except φ α} {a : α} (h : x.toOption = some a) :
    x = .ok a := by
  cases x with
  | error f => cases h
  | ok b => exact congrArg Except.ok (Option.some.inj h)

/-- There is a fault where it can be computed that there is no result. -/
theorem exists_error_of_isNone {φ α : Type} {x : Except φ α} (h : x.toOption.isNone = true) :
    ∃ f, x = .error f := by
  cases x with
  | error f => exact ⟨f, rfl⟩
  | ok a => cases h

namespace Trace

variable {ε φ α β σ : Type}

/-- The result of a sequence is the sequence of the results. -/
theorem result_bind (x : Trace ε φ α) (f : α → Trace ε φ β) :
    (x >>= f).result = x.result.bind fun a => (f a).result := by
  cases h : x.result with
  | ok a => rw [result_bind_ok f h]; rfl
  | error e => rw [result_bind_error f h]; rfl

/-- **A sequence ends well where each part does in turn.** -/
theorem result_bind_eq_ok {x : Trace ε φ α} {f : α → Trace ε φ β} {b : β} :
    (x >>= f).result = .ok b ↔ ∃ a, x.result = .ok a ∧ (f a).result = .ok b := by
  rw [result_bind]
  cases x.result <;> simp [Except.bind]

/-- An event of a sequence is one of the first part, or one of the second where it is reached. -/
theorem mem_events_bind {x : Trace ε φ α} {f : α → Trace ε φ β} {e : ε}
    (h : e ∈ (x >>= f).events) :
    e ∈ x.events ∨ ∃ a, x.result = .ok a ∧ e ∈ (f a).events := by
  cases hr : x.result with
  | error fault => exact .inl (events_bind_error f hr ▸ h)
  | ok a =>
    rw [events_bind_ok f hr] at h
    exact (List.mem_append.1 h).imp_right fun he => ⟨a, rfl, he⟩

/-- What is true of the events of both parts is true of those of a sequence. -/
theorem forall_events_bind {P : ε → Prop} {x : Trace ε φ α} {f : α → Trace ε φ β}
    (hx : ∀ e ∈ x.events, P e) (hf : ∀ a, x.result = .ok a → ∀ e ∈ (f a).events, P e) :
    ∀ e ∈ (x >>= f).events, P e := by
  intro e he
  rcases mem_events_bind he with he | ⟨a, ha, he⟩
  · exact hx e he
  · exact hf a ha e he

/-- **A loop that ends well is a plain fold**, where each step that ends well does what
`g` says. -/
theorem foldl_of_result_foldlM {f : σ → α → Trace ε φ σ} {g : σ → α → σ} {as : List α} {s s' : σ}
    (hstep : ∀ a ∈ as, ∀ s s', (f s a).result = .ok s' → s' = g s a)
    (h : (as.foldlM f s).result = .ok s') : s' = as.foldl g s := by
  induction as generalizing s with
  | nil => exact (Except.ok.inj h).symm
  | cons a as ih =>
    rw [List.foldlM_cons] at h
    obtain ⟨s₁, h₁, h₂⟩ := result_bind_eq_ok.1 h
    have hs₁ : s₁ = g s a := hstep a (List.mem_cons_self ..) s s₁ h₁
    rw [List.foldl_cons, ← hs₁]
    exact ih (fun b hb => hstep b (List.mem_cons_of_mem _ hb)) h₂

/-- A sequence of silent parts is silent. -/
theorem events_bind_eq_nil {x : Trace ε φ α} {f : α → Trace ε φ β} (hx : x.events = [])
    (hf : ∀ a, (f a).events = []) : (x >>= f).events = [] := by
  cases hr : x.result with
  | ok a => rw [events_bind_ok f hr, hx, hf, List.append_nil]
  | error e => rw [events_bind_error f hr, hx]

/-- **A loop that ends well announces** what each of its steps announces, in order. -/
theorem events_foldlM {f : σ → α → Trace ε φ σ} {g : α → List ε} {as : List α} {s s' : σ}
    (hstep : ∀ a ∈ as, ∀ s s', (f s a).result = .ok s' → (f s a).events = g a)
    (h : (as.foldlM f s).result = .ok s') : (as.foldlM f s).events = as.flatMap g := by
  induction as generalizing s with
  | nil => rfl
  | cons a as ih =>
    rw [List.foldlM_cons] at h ⊢
    obtain ⟨s₁, h₁, h₂⟩ := result_bind_eq_ok.1 h
    rw [events_bind_ok _ h₁, List.flatMap_cons, hstep a (List.mem_cons_self ..) s s₁ h₁]
    exact congrArg _ (ih (fun b hb => hstep b (List.mem_cons_of_mem _ hb)) h₂)

/-- Two loops whose steps are the same at every element are the same. -/
theorem foldlM_congr {f g : σ → α → Trace ε φ σ} {as : List α} (s : σ)
    (h : ∀ a ∈ as, ∀ s, f s a = g s a) : as.foldlM f s = as.foldlM g s := by
  induction as generalizing s with
  | nil => rfl
  | cons a as ih =>
    have rest : (fun s => as.foldlM f s) = fun s => as.foldlM g s :=
      funext fun s => ih s fun b hb => h b (List.mem_cons_of_mem _ hb)
    rw [List.foldlM_cons, List.foldlM_cons, h a (List.mem_cons_self ..) s, rest]

/-- A loop that announces something for each element ends well. -/
theorem result_forM_emit (f : α → ε) (as : List α) :
    (as.forM fun a => (emit (f a) : Trace ε φ Unit)).result = .ok () := by
  induction as with
  | nil => rfl
  | cons a as ih =>
    show (emit (f a) >>= fun _ => as.forM fun a => emit (f a)).result = .ok ()
    rw [result_bind_ok _ (result_emit (f a))]
    exact ih

/-- Such a loop announces just that. -/
theorem events_forM_emit (f : α → ε) (as : List α) :
    (as.forM fun a => (emit (f a) : Trace ε φ Unit)).events = as.map f := by
  induction as with
  | nil => rfl
  | cons a as ih =>
    show (emit (f a) >>= fun _ => as.forM fun a => emit (f a)).events = _
    rw [events_bind_ok _ (result_emit (f a)), ih]
    rfl

end Trace
end PowerSupply

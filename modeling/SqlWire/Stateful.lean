/-!
# Steps with a state

A step from a state ends with a value or an error and, either way, a state. `bind_eq_ok` and
`bind_eq_error` say how two steps in a row end; `bind_of_ok` and `bind_of_error` run them by the
outcome of the first, and `bind_pure` where the second only wraps what the first returns.

A run goes on after an error. What every step keeps holds after every run (`runAll_keeps`), and what
no step can tell apart no run can (`Respects.runAll`).
-/
namespace SqlWire.Stateful

variable {ε σ α β : Type} {x : EStateM ε σ α} {f : α → EStateM ε σ β} {s s' : σ}

theorem bind_eq_ok {b : β} :
    (x >>= f) s = .ok b s' ↔ ∃ a s1, x s = .ok a s1 ∧ f a s1 = .ok b s' := by
  show EStateM.bind x f s = _ ↔ _
  unfold EStateM.bind
  cases x s <;> simp [and_assoc]

theorem bind_eq_error {e : ε} :
    (x >>= f) s = .error e s' ↔
      x s = .error e s' ∨ ∃ a s1, x s = .ok a s1 ∧ f a s1 = .error e s' := by
  show EStateM.bind x f s = _ ↔ _
  unfold EStateM.bind
  cases x s <;> simp [and_assoc]

/-! ## Outcomes -/

/-- How a step ended. -/
def outcome : EStateM.Result ε σ α → Except ε α
  | .ok a _ => .ok a
  | .error e _ => .error e

/-- The state in which a step ended. -/
def final : EStateM.Result ε σ α → σ
  | .ok _ s => s
  | .error _ s => s

@[simp] theorem outcome_ok (a : α) (s : σ) : outcome (.ok a s : EStateM.Result ε σ α) = .ok a := rfl

@[simp] theorem outcome_error (e : ε) (s : σ) :
    outcome (.error e s : EStateM.Result ε σ α) = .error e := rfl

@[simp] theorem final_ok (a : α) (s : σ) : final (.ok a s : EStateM.Result ε σ α) = s := rfl

@[simp] theorem final_error (e : ε) (s : σ) : final (.error e s : EStateM.Result ε σ α) = s := rfl

theorem eq_ok_iff {r : EStateM.Result ε σ α} {a : α} :
    r = .ok a s ↔ outcome r = .ok a ∧ final r = s := by
  cases r <;> simp

theorem bind_of_ok {a : α} (h : outcome (x s) = .ok a) : (x >>= f) s = f a (final (x s)) := by
  show EStateM.bind x f s = _
  unfold EStateM.bind
  cases hx : x s with
  | ok b s1 => rw [hx] at h; cases h; rfl
  | error e s1 => rw [hx] at h; cases h

theorem bind_of_run {a : α} (h : x s = .ok a s') : (x >>= f) s = f a s' := by
  rw [bind_of_ok (congrArg outcome h), h]
  rfl

theorem bind_of_error {e : ε} (h : outcome (x s) = .error e) :
    (x >>= f) s = .error e (final (x s)) := by
  show EStateM.bind x f s = _
  unfold EStateM.bind
  cases hx : x s with
  | ok b s1 => rw [hx] at h; cases h
  | error e' s1 => rw [hx] at h; cases h; rfl

/-- What a step returns may be wrapped; it ends in the same state. -/
theorem bind_pure (g : α → β) :
    outcome ((x >>= fun a => pure (g a)) s) = (outcome (x s)).map g ∧
      final ((x >>= fun a => pure (g a)) s) = final (x s) := by
  cases h : outcome (x s) with
  | ok a =>
    rw [bind_of_ok h]
    exact ⟨rfl, rfl⟩
  | error e =>
    rw [bind_of_error h]
    exact ⟨rfl, rfl⟩

/-! ## Runs -/

section Runs

variable {ι : Type} {run : ι → EStateM ε σ α}

/-- One step after another, whatever each of them ends as: the outcomes, and the last state. -/
def runAll (run : ι → EStateM ε σ α) : List ι → σ → List (Except ε α) × σ
  | [], s => ([], s)
  | i :: is, s =>
    let (outcomes, s') := runAll run is (final (run i s))
    (outcome (run i s) :: outcomes, s')

theorem runAll_append (is js : List ι) (s : σ) :
    runAll run (is ++ js) s = ((runAll run is s).1 ++ (runAll run js (runAll run is s).2).1,
      (runAll run js (runAll run is s).2).2) := by
  induction is generalizing s with
  | nil => rfl
  | cons i is ih => simp only [List.cons_append, runAll, ih]

theorem runAll_keeps {I : σ → Prop} (hstep : ∀ i s, I s → I (final (run i s))) (is : List ι)
    (h : I s) : I (runAll run is s).2 := by
  induction is generalizing s with
  | nil => exact h
  | cons i is ih => exact ih (hstep i s h)

end Runs

/-! ## Runs side by side -/

section Related

variable {R : σ → σ → Prop}

/-- From `s` and from any state related to it the step ends in the same way, in related states. -/
def RespectsAt (R : σ → σ → Prop) (x : EStateM ε σ α) (s : σ) : Prop :=
  ∀ t, R s t → outcome (x s) = outcome (x t) ∧ R (final (x s)) (final (x t))

/-- The step does not tell related states apart. -/
def Respects (R : σ → σ → Prop) (x : EStateM ε σ α) : Prop := ∀ s, RespectsAt R x s

/-- The two runs of a step have the same value, or the same error. -/
theorem Respects.cases {t : σ} (hx : Respects R x) (h : R s t) :
    (∃ a s' t', x s = .ok a s' ∧ x t = .ok a t' ∧ R s' t') ∨
      ∃ e s' t', x s = .error e s' ∧ x t = .error e t' ∧ R s' t' := by
  obtain ⟨ho, hfinal⟩ := hx s t h
  cases hs : x s with
  | ok a s' =>
    cases ht : x t with
    | ok b t' =>
      rw [hs, ht] at ho hfinal
      cases ho
      exact .inl ⟨a, s', t', rfl, rfl, hfinal⟩
    | error e t' =>
      rw [hs, ht] at ho
      cases ho
  | error e s' =>
    cases ht : x t with
    | ok a t' =>
      rw [hs, ht] at ho
      cases ho
    | error e' t' =>
      rw [hs, ht] at ho hfinal
      cases ho
      exact .inr ⟨e, s', t', rfl, rfl, hfinal⟩

theorem respects_pure (a : α) : Respects R (pure a : EStateM ε σ α) := by
  intro s t h
  exact ⟨rfl, h⟩

theorem respects_throw (e : ε) : Respects R (throw e : EStateM ε σ α) := by
  intro s t h
  exact ⟨rfl, h⟩

/-- Two first steps that end in the same way, in related states, may be followed by any step that respects
the relation where they end. -/
theorem bind_related {x y : EStateM ε σ α} {t : σ}
    (h : outcome (x s) = outcome (y t) ∧ R (final (x s)) (final (y t)))
    (hf : ∀ a, outcome (x s) = .ok a → RespectsAt R (f a) (final (x s))) :
    outcome ((x >>= f) s) = outcome ((y >>= f) t) ∧ R (final ((x >>= f) s)) (final ((y >>= f) t)) := by
  obtain ⟨ho, hfinal⟩ := h
  cases hs : outcome (x s) with
  | ok a =>
    rw [bind_of_ok hs, bind_of_ok (ho ▸ hs)]
    exact hf a hs _ hfinal
  | error e =>
    rw [bind_of_error hs, bind_of_error (ho ▸ hs)]
    exact ⟨rfl, hfinal⟩

/-- The second step has to respect the relation only where the first may end. -/
theorem RespectsAt.bind (hx : RespectsAt R x s)
    (hf : ∀ a, outcome (x s) = .ok a → RespectsAt R (f a) (final (x s))) :
    RespectsAt R (x >>= f) s := by
  intro t h
  exact bind_related (hx t h) hf

theorem Respects.bind (hx : Respects R x) (hf : ∀ a, Respects R (f a)) : Respects R (x >>= f) := by
  intro s
  exact (hx s).bind fun a _ => hf a _

theorem Respects.runAll {ι : Type} {run : ι → EStateM ε σ α} (hrun : ∀ i, Respects R (run i))
    (is : List ι) {s t : σ} (h : R s t) :
    (runAll run is s).1 = (runAll run is t).1 ∧ R (runAll run is s).2 (runAll run is t).2 := by
  induction is generalizing s t with
  | nil => exact ⟨rfl, h⟩
  | cons i is ih =>
    obtain ⟨ho, hfinal⟩ := hrun i s t h
    obtain ⟨hos, hfinals⟩ := ih hfinal
    refine ⟨?_, hfinals⟩
    simp only [Stateful.runAll, ho, hos]

end Related

end SqlWire.Stateful

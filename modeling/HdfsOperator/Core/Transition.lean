import Mathlib.Logic.Basic

/-!
# Runs of a transition function

A system takes one action after the other; an action that is not enabled ends the run
without a state. A property that every step keeps, as long as the step meets a condition
on the state it starts from, holds after every run whose steps all meet the condition.
If as long as there is work left some step does part of it, a run does all of it.
-/

namespace HdfsOperator.Transition

variable {σ α : Type}

/-- The state after a list of actions, if every action was enabled. -/
def run (step : σ → α → Option σ) : σ → List α → Option σ
  | s, [] => some s
  | s, a :: as => (step s a).bind fun s' => run step s' as

/-- Every action of a run meets a condition in the state in which it is taken. -/
def AllSteps (step : σ → α → Option σ) (cond : σ → α → Prop) : σ → List α → Prop
  | _, [] => True
  | s, a :: as => cond s a ∧
    match step s a with
    | some s' => AllSteps step cond s' as
    | none => True

instance decidableAllSteps (step : σ → α → Option σ) (cond : σ → α → Prop)
    [∀ s a, Decidable (cond s a)] : (s : σ) → (as : List α) → Decidable (AllSteps step cond s as)
  | _, [] => .isTrue trivial
  | s, a :: as =>
    match h : step s a with
    | some s' =>
      have := decidableAllSteps step cond s' as
      decidable_of_iff (cond s a ∧ AllSteps step cond s' as) (by rw [AllSteps, h])
    | none => decidable_of_iff (cond s a) (by rw [AllSteps, h, and_true])

/-- What every step keeps under a condition, a run keeps whose steps all meet the condition. -/
theorem run_induction {step : σ → α → Option σ} {cond : σ → α → Prop} {inv : σ → Prop}
    (hstep : ∀ s a s', inv s → cond s a → step s a = some s' → inv s') {s s' : σ} {as : List α}
    (hs : inv s) (hcond : AllSteps step cond s as) (h : run step s as = some s') : inv s' := by
  induction as generalizing s with
  | nil =>
    cases h
    exact hs
  | cons a as ih =>
    obtain ⟨t, ht, hrest⟩ := Option.bind_eq_some_iff.mp h
    rw [AllSteps, ht] at hcond
    exact ih (hstep s a t hs hcond.1 ht) hcond.2 hrest

/-- What every step with an admitted action keeps, a run of such actions keeps. -/
theorem run_invariant {step : σ → α → Option σ} {I : σ → Prop} {P : α → Prop}
    (hstep : ∀ s a s', P a → I s → step s a = some s' → I s') {s s' : σ} {as : List α}
    (has : ∀ a ∈ as, P a) (hs : I s) (h : run step s as = some s') : I s' := by
  induction as generalizing s with
  | nil =>
    cases h
    exact hs
  | cons a as ih =>
    rw [List.forall_mem_cons] at has
    obtain ⟨t, ht, hrest⟩ := Option.bind_eq_some_iff.mp h
    exact ih has.2 (hstep s a t has.1 hs ht) hrest

/-- One run after the other is a run. -/
theorem run_append {step : σ → α → Option σ} {s t u : σ} {as bs : List α}
    (h : run step s as = some t) (h' : run step t bs = some u) :
    run step s (as ++ bs) = some u := by
  induction as generalizing s with
  | nil =>
    cases h
    exact h'
  | cons a as ih =>
    obtain ⟨r, hr, hrest⟩ := Option.bind_eq_some_iff.mp h
    exact Option.bind_eq_some_iff.mpr ⟨r, hr, ih hrest⟩

/-- A run has no more k actions than its start has steps left, if every action leaves no
more steps and a counted one leaves fewer. -/
theorem countP_add_le {step : σ → α → Option σ} {I : σ → Prop} {k : α → Bool}
    {w : σ → Nat}
    (hstep : ∀ s a s', I s → step s a = some s' →
      I s' ∧ w s' + (if k a then 1 else 0) ≤ w s)
    {s s' : σ} {as : List α} (hs : I s) (h : run step s as = some s') :
    as.countP k + w s' ≤ w s := by
  induction as generalizing s with
  | nil =>
    cases h
    simp
  | cons a as ih =>
    obtain ⟨t, ht, hrest⟩ := Option.bind_eq_some_iff.mp h
    obtain ⟨hinv, hle⟩ := hstep s a t hs ht
    have htail := ih hinv hrest
    rw [List.countP_cons]
    omega

/-- The number of k actions of a run is the number of steps that it has taken from what was
left, if every k action leaves one step fewer on the way to the end of the run. -/
theorem countP_add_eq {step : σ → α → Option σ} {I G : σ → Prop} {k : α → Bool}
    {w : σ → Nat}
    (hstep : ∀ s a s', I s → step s a = some s' →
      I s' ∧ (G s' → G s ∧ w s' + (if k a then 1 else 0) = w s))
    {s s' : σ} {as : List α} (hs : I s) (h : run step s as = some s') (hgood : G s') :
    G s ∧ as.countP k + w s' = w s := by
  induction as generalizing s with
  | nil =>
    cases h
    exact ⟨hgood, by simp⟩
  | cons a as ih =>
    obtain ⟨t, ht, hrest⟩ := Option.bind_eq_some_iff.mp h
    obtain ⟨hinv, heq⟩ := hstep s a t hs ht
    obtain ⟨hgood', htail⟩ := ih hinv hrest
    obtain ⟨hgood'', hone⟩ := heq hgood'
    refine ⟨hgood'', ?_⟩
    rw [List.countP_cons]
    omega

/-- If in every state with work left some step keeps the invariant and leaves less work, then some
run leaves none. -/
theorem exists_run_of_decreasing {step : σ → α → Option σ} {inv : σ → Prop} {P : α → Prop}
    {work : σ → Nat}
    (hstep : ∀ s, inv s → 0 < work s →
      ∃ a s', P a ∧ step s a = some s' ∧ inv s' ∧ work s' < work s)
    {s : σ} (hs : inv s) :
    ∃ as s', (∀ a ∈ as, P a) ∧ run step s as = some s' ∧ inv s' ∧ work s' = 0 := by
  induction hn : work s using Nat.strongRecOn generalizing s with
  | ind n ih =>
    rcases Nat.eq_zero_or_pos (work s) with hzero | hpos
    · exact ⟨[], s, by simp, rfl, hs, hzero⟩
    · obtain ⟨a, t, ha, hst, ht, hlt⟩ := hstep s hs hpos
      obtain ⟨as, u, has, hrun, hu, hzero⟩ := ih (work t) (by omega) ht rfl
      refine ⟨a :: as, u, ?_, Option.bind_eq_some_iff.mpr ⟨t, hst, hrun⟩, hu, hzero⟩
      rw [List.forall_mem_cons]
      exact ⟨ha, has⟩

end HdfsOperator.Transition

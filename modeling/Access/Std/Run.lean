/-! # Runs of a step function

A system that answers calls: `step s c` is the answer to the call `c` in the state `s` and the
state after it. A run is the list of the calls made so far, the latest first, and its history has
for each of them what was asked, what was answered, and the states around it.

An invariant relates a history to the state it leads to. `invariant` is its induction;
`history_split` returns from any event of a history to the run that it was the last step of. -/

namespace Run

variable {σ ι ρ : Type}

structure Event (σ ι ρ : Type) where
  before : σ
  call : ι
  reply : ρ
  after : σ

/-- The event of a call in a state. -/
def event (step : σ → ι → ρ × σ) (s : σ) (c : ι) : Event σ ι ρ :=
  ⟨s, c, (step s c).1, (step s c).2⟩

/-- The state a run leads to. -/
def state (step : σ → ι → ρ × σ) (start : σ) : List ι → σ
  | [] => start
  | c :: calls => (step (state step start calls) c).2

/-- What happened in a run, the latest event first. -/
def history (step : σ → ι → ρ × σ) (start : σ) : List ι → List (Event σ ι ρ)
  | [] => []
  | c :: calls => event step (state step start calls) c :: history step start calls

variable {step : σ → ι → ρ × σ} {start : σ}

theorem after_event (calls : List ι) (c : ι) :
    (event step (state step start calls) c).after = state step start (c :: calls) := rfl

/-- What holds at the start and is kept by every call holds of every run. -/
theorem invariant (step : σ → ι → ρ × σ) (start : σ) {I : List (Event σ ι ρ) → σ → Prop}
    (nil : I [] start) (cons : ∀ es s c, I es s → I (event step s c :: es) (step s c).2)
    (calls : List ι) : I (history step start calls) (state step start calls) := by
  induction calls with
  | nil => exact nil
  | cons c calls ih => exact cons _ _ _ ih

/-- An event of a history is the last step of a run, whose history is what came before it. -/
theorem history_split {calls : List ι} {later earlier : List (Event σ ι ρ)} {e : Event σ ι ρ}
    (h : history step start calls = later ++ e :: earlier) :
    ∃ previous c, e = event step (state step start previous) c ∧
      earlier = history step start previous := by
  induction calls generalizing later with
  | nil => cases later <;> cases h
  | cons c calls ih =>
    cases later with
    | nil =>
      cases h
      exact ⟨calls, c, rfl, rfl⟩
    | cons _ later => exact ih (List.cons.inj h).2

/-- A run goes on from where it is. -/
theorem state_append (later earlier : List ι) :
    state step start (later ++ earlier) = state step (state step start earlier) later := by
  induction later with
  | nil => rfl
  | cons c later ih => rw [List.cons_append, state, ih, state]

theorem history_append (later earlier : List ι) :
    history step start (later ++ earlier) =
      history step (state step start earlier) later ++ history step start earlier := by
  induction later with
  | nil => rfl
  | cons c later ih => rw [List.cons_append, history, ih, state_append, history, List.cons_append]

/-- A rank that no event raises, and that an event which counts lowers, is used up by as many of
these. -/
theorem rank_state_le (rank : σ → Nat) (counts : Event σ ι ρ → Bool) {calls : List ι}
    (h : ∀ e ∈ history step start calls, rank e.after ≤ rank e.before ∧
      (counts e = true → rank e.after ≤ rank e.before - 1)) :
    rank (state step start calls) ≤ rank start - (history step start calls).countP counts := by
  induction calls with
  | nil => exact Nat.le_refl _
  | cons c calls ih =>
    obtain ⟨⟨hle, hlt⟩, h⟩ := List.forall_mem_cons.mp h
    have hbefore := ih h
    have hafter : (event step (state step start calls) c).after = state step start (c :: calls) :=
      after_event calls c
    rw [hafter] at hle hlt
    change _ ≤ rank (state step start calls) at hle
    change _ → _ ≤ rank (state step start calls) - 1 at hlt
    rw [history, List.countP_cons]
    split
    · have := hlt ‹_›
      omega
    · omega

end Run

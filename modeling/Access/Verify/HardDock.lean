import Access.Observers
import Access.Verify.Docking

/-! # The hard dock

The stage that a status reports was entered, and the stages before it, each before the next and on
evidence (`Climbed`). The docking monitor ends with the last of them. -/

namespace Access.Docking

open EStateM StationAccess
open AuthorityClient (Link)
open BaselineController (Controller Input Parameters Stage nextState)

/-- The stages up to a stage were entered one after the other, each on evidence; the latest event is
the first. -/
inductive Climbed [ReplayStateBackend B] (cr : Crates) (host : Option (Host B)) :
    List (SystemEvent B) → Stage → Prop where
  | hold (es : List (SystemEvent B)) : Climbed cr host es .hold
  | enter (newer : List (SystemEvent B)) {older : List (SystemEvent B)} {e : SystemEvent B}
    {stage next : Stage} (below : Climbed cr host older stage) (goes : nextState stage = some next)
    (entered : entered? e = some next) (grounds : EnteredOn cr host older e.before next) :
    Climbed cr host (newer ++ e :: older) next

theorem Climbed.later [ReplayStateBackend B] {cr : Crates} {host : Option (Host B)}
    {es : List (SystemEvent B)} {stage : Stage} (h : Climbed cr host es stage)
    (newer : List (SystemEvent B)) : Climbed cr host (newer ++ es) stage := by
  cases h with
  | hold => exact .hold _
  | enter newest below goes entered grounds =>
    rw [← List.append_assoc]
    exact .enter (newer ++ newest) below goes entered grounds

section

variable [ReplayStateBackend B] {cr : Crates} {p : Parameters} {s s' : System B} {call : SystemCall}

/-- What becomes of the stage. -/
theorem Handles.state (H : Handles cr p s call s') :
    s'.controller.state = s.controller.state ∨ s'.controller.state = .hold ∨
      nextState s.controller.state = some s'.controller.state ∧
        entered? ⟨s, call, (), s'⟩ = some s'.controller.state := by
  have advances (input : Input) (h : s'.controller = (BaselineController.step p s.controller input).2) :
      s'.controller.state = s.controller.state ∨ s'.controller.state = .hold ∨
        nextState s.controller.state = some s'.controller.state ∧
          entered? ⟨s, call, (), s'⟩ = some s'.controller.state := by
    rw [h]
    rcases BaselineController.step_advances p s.controller input with same | hold |
      ⟨decision, -, -, goes, -⟩
    · exact .inl same
    · exact .inr (.inl hold)
    · refine .inr (.inr ⟨goes, ?_⟩)
      have goes : nextState s.controller.state = some s'.controller.state := by
        rw [h]
        exact goes
      rw [← h]
      exact if_pos goes
  cases H with
  | controller input => exact advances input rfl
  | decision decision => exact advances (.decision decision) rfl
  | monitor | station | nothing => exact .inl rfl

variable {now : Int} {link : Link} {host : Option (Host B)}

/-- The stage of the controller. -/
theorem climbed (now : Int) (link : Link) (hstarted : Started cr host)
    (hdeployed : ∀ h, host = some h → Deployed cr h.engine.config) (calls : List SystemCall) :
    Climbed cr host (Run.history (step cr p) (System.start cr p now link host) calls)
      (Run.state (step cr p) (System.start cr p now link host) calls).controller.state := by
  induction calls with
  | nil => exact .hold _
  | cons call calls ih =>
    rcases (step_handles cr p (Run.state (step cr p) (System.start cr p now link host) calls)
      call).state with same | hold | ⟨goes, entered⟩
    · have later := ih.later [Run.event (step cr p)
        (Run.state (step cr p) (System.start cr p now link host) calls) call]
      rw [← same] at later
      exact later
    · have first : Climbed cr host (Run.history (step cr p) (System.start cr p now link host)
        (call :: calls)) .hold := .hold _
      rw [← hold] at first
      exact first
    · have hhistory : Run.history (step cr p) (System.start cr p now link host) (call :: calls) =
        [] ++ Run.event (step cr p) _ call :: Run.history (step cr p) _ calls := rfl
      exact .enter [] ih goes entered (enteredOn_of_history hstarted hdeployed hhistory entered)

theorem stage_of_onStatus {status : BaselineController.DockingStatus} {stage : Stage}
    (h : status.state = stage.number) (ends : DockingMonitor.onStatus (.ofStatus status) = .error {}) :
    stage = .hardDock := by
  unfold DockingMonitor.onStatus at ends
  split at ends
  · rename_i reached
    have number := h.symm.trans reached.1
    cases stage <;> first | rfl | exact absurd number (by decide)
  · cases ends

/-- In every run over an authority that was started, with the stage rules of the simulation and the
policies of the waystation: the stage that a status reports was entered after the ones before it, each
of them on evidence. Where the docking monitor ends, that is the hard dock. Floats are not
rounded. -/
theorem reported_climbed (hstarted : Started cr host)
    (hdeployed : ∀ h, host = some h → Deployed cr h.engine.config) (calls : List SystemCall) :
    ∀ status ∈ (Run.state (step cr p) (System.start cr p now link host) calls).statuses,
      ∃ stage, status.state = stage.number ∧
        Climbed cr host (Run.history (step cr p) (System.start cr p now link host) calls) stage ∧
        (DockingMonitor.onStatus (.ofStatus status) = .error {} → stage = .hardDock) := by
  intro status mem
  obtain ⟨e, he, hreports⟩ := (accounted hstarted hdeployed now link calls).statuses status mem
  obtain ⟨newer, older, hsplit⟩ := List.append_of_mem he
  obtain ⟨previous, call, rfl, rfl⟩ := Run.history_split hsplit
  have hclimbed := climbed (p := p) now link hstarted hdeployed (call :: previous)
  refine ⟨_, hreports.state, ?_, stage_of_onStatus hreports.state⟩
  rw [hsplit]
  exact hclimbed.later newer

end

/-- The simulation, with the update after the approach was entered. -/
theorem approach_reported : ((Authority.start reference Simulation.environment
    Simulation.newYearS).toOption.any fun host =>
      (simulationAfter host (updateAt 4 :: .transitionDecision 0 :: presentedCalls host)).statuses.any
        (·.state == 1)) = true := by
  decide +kernel

/-- The approach of the simulation. -/
theorem reported_climbed_approach : ∃ host es,
    Climbed reference (some (host : Host FileReplayStateBackend)) es .approach := by
  obtain ⟨host, hstart, hreported⟩ := Simulation.exists_of_toOption_any approach_reported
  obtain ⟨status, mem, hstate⟩ := List.any_eq_true.mp hreported
  obtain ⟨stage, hstage, hclimbed, -⟩ :=
    reported_climbed (Simulation.started_environment hstart) (deployed_environment hstart) _ status
      mem
  have happroach : stage = .approach := by
    have number := hstage.symm.trans (eq_of_beq hstate)
    cases stage <;> first | rfl | exact absurd number (by decide)
  exact ⟨_, _, happroach ▸ hclimbed⟩

end Access.Docking

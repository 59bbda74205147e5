import NodeFeed.Consumer.Session

set_option autoImplicit false

namespace NodeFeed

namespace Act

@[simp] theorem nodes_append (first second : List Act) :
    nodes (first ++ second) = nodes first ++ nodes second :=
  List.filterMap_append

@[simp] theorem nodes_map_logged (events : List Event) : nodes (events.map .logged) = [] := by
  simp [nodes, List.filterMap_map, Function.comp_def, node?]

@[simp] theorem nodes_logged (event : Event) (rest : List Act) :
    nodes (.logged event :: rest) = nodes rest := rfl

@[simp] theorem nodes_visited (node : Node) (rest : List Act) :
    nodes (.visited node :: rest) = node :: nodes rest := rfl

@[simp] theorem nodes_nil : nodes [] = [] := rfl

end Act

theorem State.isHalted_eq_false {state : State} :
    state.isHalted = false ↔ state = .running := by
  cases state <;> simp [isHalted]

namespace Consumer

variable {σ : Type}

def outcome (consumer : Consumer σ) : Except Diagnostic Summary :=
  match consumer.state with
  | .haltedError => .error (consumer.failure.getD (.productionFailed none))
  | .running | .haltedFinish => .ok ⟨consumer.processed⟩

section Step

variable [Producer σ] (consumer : Consumer σ)

theorem step_of_running (running : consumer.state = .running) :
    consumer.step = consumer.receive (Producer.next consumer.producer) := by
  simp [step, running, State.isHalted]

-- Everything a step can do: nothing once halted, or what one of the three answers does.
theorem step_cases :
    (consumer.state.isHalted = true ∧ consumer.step = ⟨consumer, []⟩) ∨
    (consumer.state = .running ∧
      ∃ node, (Producer.next consumer.producer).production = .produced node ∧
        consumer.step =
          ⟨{ consumer with
              producer := (Producer.next consumer.producer).rest
              processed := consumer.processed + 1 },
            (Producer.next consumer.producer).events.map .logged ++
              [.logged (.consumed node.kind consumer.processed), .visited node]⟩) ∨
    (consumer.state = .running ∧ (Producer.next consumer.producer).production = .done ∧
      consumer.step =
        ⟨{ consumer with
            producer := (Producer.next consumer.producer).rest
            state := .haltedFinish },
          (Producer.next consumer.producer).events.map .logged ++
            [.logged (.finished consumer.processed)]⟩) ∨
    (consumer.state = .running ∧
      ∃ reason, (Producer.next consumer.producer).production = .failed reason ∧
        consumer.step =
          ⟨{ consumer with
              producer := (Producer.next consumer.producer).rest
              state := .haltedError
              failure := some (consumer.explain reason) },
            (Producer.next consumer.producer).events.map .logged ++
              [.logged (.failed consumer.processed (consumer.explain reason))]⟩) := by
  by_cases halted : consumer.state.isHalted = true
  · exact .inl ⟨halted, step_of_isHalted consumer halted⟩
  · have running := State.isHalted_eq_false.mp (Bool.not_eq_true _ ▸ halted)
    rw [step_of_running consumer running]
    cases answered : (Producer.next consumer.producer).production with
    | produced node => exact .inr (.inl ⟨running, node, rfl, by simp [receive, answered]⟩)
    | done => exact .inr (.inr (.inl ⟨running, rfl, by simp [receive, answered]⟩))
    | failed reason => exact .inr (.inr (.inr ⟨running, reason, rfl, by simp [receive, answered]⟩))

theorem source_step : consumer.step.consumer.source = consumer.source := by
  rcases consumer.step_cases with ⟨-, same⟩ | ⟨-, _, -, moved⟩ | ⟨-, -, moved⟩ | ⟨-, _, -, moved⟩
  · rw [same]
  all_goals rw [moved]

end Step

section Run

variable [FiniteProducer σ] (consumer : Consumer σ)

theorem run_of_running (running : consumer.step.consumer.state = .running) :
    consumer.run =
      { consumer.step.consumer.run with
        acts := consumer.step.acts ++ consumer.step.consumer.run.acts } := by
  rw [run]
  split
  · rfl
  · simp_all
  · simp_all

theorem run_of_isHalted (halted : consumer.step.consumer.state.isHalted = true) :
    consumer.run = { consumer.step with outcome := consumer.step.consumer.outcome } := by
  rw [run]
  split
  · simp_all [State.isHalted]
  · simp_all [outcome]
  · simp_all [outcome]

-- Induction along a run: the step that halts, and a step before the rest of the run.
theorem run_induction {motive : Consumer σ → Prop}
    (halts : ∀ consumer : Consumer σ, consumer.step.consumer.state.isHalted = true →
      motive consumer)
    (goesOn : ∀ consumer : Consumer σ, consumer.step.consumer.state = .running →
      motive consumer.step.consumer → motive consumer) :
    motive consumer := by
  induction consumer using run.induct with
  | case1 consumer moved running ih => exact goesOn consumer running ih
  | case2 consumer moved finished =>
      have finish : consumer.step.consumer.state = .haltedFinish := finished
      exact halts consumer (by rw [finish]; rfl)
  | case3 consumer moved failed =>
      have error : consumer.step.consumer.state = .haltedError := failed
      exact halts consumer (by rw [error]; rfl)

theorem outcome_run : consumer.run.outcome = consumer.run.consumer.outcome := by
  induction consumer using run_induction with
  | halts consumer halted => rw [run_of_isHalted consumer halted]
  | goesOn consumer running ih => rw [run_of_running consumer running]; exact ih

end Run

end Consumer

end NodeFeed

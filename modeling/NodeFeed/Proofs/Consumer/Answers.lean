import NodeFeed.Proofs.Consumer.Accounting
import NodeFeed.Proofs.Consumer.Unbounded

set_option autoImplicit false

namespace NodeFeed

namespace Consumer

-- The answers after the last node, for a consumer in a given state.
inductive Closing : State → List Production → Prop
  | running : Closing .running []
  | done : Closing .haltedFinish [.done]
  | failed (reason : Diagnostic) : Closing .haltedError [.failed reason]

theorem Closing.of_running {closing : List Production} (closes : Closing .running closing) :
    closing = [] := by
  cases closes
  rfl

theorem Closing.of_haltedError {closing : List Production} (closes : Closing .haltedError closing) :
    ∃ reason, closing = [.failed reason] := by
  cases closes with
  | failed reason => exact ⟨reason, rfl⟩

theorem Closing.not_produced {state : State} {closing : List Production}
    (closes : Closing state closing) (node : Node) : .produced node ∉ closing := by
  cases closes <;> simp

theorem Closing.eq_singleton {state : State} {closing before later : List Production}
    {answer : Production} (closes : Closing state closing)
    (split : closing = before ++ answer :: later) : later = [] ∧ closing = [answer] := by
  cases closes <;> cases before <;> simp_all

variable {σ : Type} [Producer σ]

structure Answered (producer : σ) (consumer : Consumer (Counted σ)) (acts : List Act)
    (closing : List Production) : Prop where
  position : consumer.producer.producer = Producer.after producer consumer.producer.requests
  answers : Producer.answers producer consumer.producer.requests =
    (Act.nodes acts).map .produced ++ closing
  closes : Closing consumer.state closing
  processed : consumer.processed = (Act.nodes acts).length

theorem answered_start (producer : σ) : Answered producer (start (Counted.start producer)) [] [] where
  position := rfl
  answers := rfl
  closes := .running
  processed := rfl

theorem Answered.requests {producer : σ} {consumer : Consumer (Counted σ)} {acts : List Act}
    {closing : List Production} (answered : Answered producer consumer acts closing) :
    consumer.producer.requests = (Act.nodes acts).length + closing.length := by
  have lengths := congrArg List.length answered.answers
  simpa [Producer.length_answers] using lengths

theorem Answered.next {producer : σ} {consumer moved : Consumer (Counted σ)}
    {acts more : List Act} {closing stop : List Production}
    (answered : Answered producer consumer acts closing) (running : consumer.state = .running)
    (rest : moved.producer =
      ⟨(Producer.next consumer.producer.producer).rest, consumer.producer.requests + 1⟩)
    (answer : [(Producer.next consumer.producer.producer).production] =
      (Act.nodes more).map .produced ++ stop)
    (closes : Closing moved.state stop)
    (processed : moved.processed = consumer.processed + (Act.nodes more).length) :
    Answered producer moved (acts ++ more) stop := by
  have before := answered.closes
  rw [running] at before
  obtain rfl := before.of_running
  have position := answered.position
  constructor
  case position => rw [rest, position]; rfl
  case answers =>
    rw [rest, Producer.answers, ← position, answer, answered.answers]
    simp
  case closes => exact closes
  case processed => rw [processed, answered.processed, Act.nodes_append, List.length_append]

theorem answered_step (producer : σ) (consumer : Consumer (Counted σ)) (acts : List Act)
    (closing : List Production) (answered : Answered producer consumer acts closing) :
    ∃ stop, Answered producer consumer.step.consumer (acts ++ consumer.step.acts) stop ∧
      (consumer.state = .running → ∀ reason, stop = [.failed reason] →
        consumer.step.consumer.failure = some (consumer.explain reason)) := by
  rcases consumer.step_cases with ⟨halted, same⟩ | ⟨running, node, produced, moved⟩ |
    ⟨running, done, moved⟩ | ⟨running, reason, failed, moved⟩
  · refine ⟨closing, by simpa [same] using answered, ?_⟩
    intro running
    simp [running, State.isHalted] at halted
  · have answer : (Producer.next consumer.producer.producer).production = .produced node := produced
    refine ⟨[], ?_, by simp⟩
    rw [moved]
    apply answered.next running
    case rest => rfl
    case answer => simp [answer]
    case closes => simpa [running] using Closing.running
    case processed => simp
  · have answer : (Producer.next consumer.producer.producer).production = .done := done
    refine ⟨[.done], ?_, by simp⟩
    rw [moved]
    apply answered.next running
    case rest => rfl
    case answer => simp [answer]
    case closes => exact .done
    case processed => simp
  · have answer : (Producer.next consumer.producer.producer).production = .failed reason := failed
    refine ⟨[.failed reason], ?_, by simp [moved]⟩
    rw [moved]
    apply answered.next running
    case rest => rfl
    case answer => simp [answer]
    case closes => exact .failed reason
    case processed => simp

theorem answered_kept (producer : σ) :
    Kept fun (consumer : Consumer (Counted σ)) acts =>
      ∃ closing, Answered producer consumer acts closing where
  attach _ _ _ := fun ⟨closing, answered⟩ =>
    ⟨closing, answered.position, answered.answers, answered.closes, answered.processed⟩
  step consumer acts := fun ⟨closing, answered⟩ => by
    obtain ⟨stop, stepped, -⟩ := answered_step producer consumer acts closing answered
    exact ⟨stop, stepped⟩

theorem Answered.closing_eq {producer : σ} {consumer : Consumer (Counted σ)} {acts : List Act}
    {closing earlier later : List Production} {answer : Production}
    (answered : Answered producer consumer acts closing)
    (split : Producer.answers producer consumer.producer.requests = earlier ++ answer :: later)
    (terminal : answer.isTerminal = true) : later = [] ∧ closing = [answer] := by
  have nodes : answer ∉ (Act.nodes acts).map Production.produced := by
    intro member
    obtain ⟨node, -, rfl⟩ := List.mem_map.mp member
    simp [Production.isTerminal] at terminal
  rw [answered.answers] at split
  rcases List.append_eq_append_iff.mp split with ⟨between, -, inside⟩ | ⟨between, visited, inside⟩
  · exact answered.closes.eq_singleton inside
  · cases between with
    | nil =>
        have whole : closing = [] ++ answer :: later := inside.symm
        exact answered.closes.eq_singleton whole
    | cons first rest =>
        obtain ⟨rfl, -⟩ := List.cons.inj inside
        exact absurd (by simp [visited]) nodes

theorem explain_step (consumer : Consumer σ) (reason : Diagnostic) :
    consumer.step.consumer.explain reason = consumer.explain reason := by
  rw [explain, explain, source_step]

section Run

variable {σ : Type} [FiniteProducer σ]

theorem answered_run (producer : σ) (consumer : Consumer (Counted σ)) (acts : List Act)
    (closing : List Production) (answered : Answered producer consumer acts closing)
    (running : consumer.state = .running) :
    ∃ stop, Answered producer consumer.run.consumer (acts ++ consumer.run.acts) stop ∧
      ∀ reason, stop = [.failed reason] →
        consumer.run.consumer.failure = some (consumer.explain reason) := by
  induction consumer using run_induction generalizing acts closing with
  | halts consumer halted =>
      obtain ⟨stop, stepped, kept⟩ := answered_step producer consumer acts closing answered
      rw [run_of_isHalted consumer halted]
      exact ⟨stop, stepped, kept running⟩
  | goesOn consumer goesOn ih =>
      obtain ⟨stop, stepped, -⟩ := answered_step producer consumer acts closing answered
      obtain ⟨last, ran, kept⟩ := ih _ _ stepped goesOn
      rw [run_of_running consumer goesOn]
      refine ⟨last, by simpa using ran, ?_⟩
      intro reason failed
      rw [← explain_step]
      exact kept reason failed

end Run

end Consumer

end NodeFeed

import NodeFeed.Producer.Counted
import NodeFeed.Proofs.Consumer.History

set_option autoImplicit false

namespace NodeFeed

def Production.node? : Production → Option Node
  | .produced node => some node
  | .done | .failed _ => none

namespace Producer

variable {σ : Type} [Producer σ]

def after (producer : σ) : Nat → σ
  | 0 => producer
  | count + 1 => (next (after producer count)).rest

def answers (producer : σ) : Nat → List Production
  | 0 => []
  | count + 1 => answers producer count ++ [(next (after producer count)).production]

theorem length_answers (producer : σ) (count : Nat) : (answers producer count).length = count := by
  induction count with
  | zero => rfl
  | succ count ih => simp [answers, ih]

theorem getElem?_answers (producer : σ) {position count : Nat} (within : position < count) :
    (answers producer count)[position]? = some (next (after producer position)).production := by
  induction count with
  | zero => omega
  | succ count ih =>
      by_cases earlier : position < count
      · rw [answers, List.getElem?_append_left (by rw [length_answers]; exact earlier), ih earlier]
      · obtain rfl : position = count := by omega
        simp [answers, length_answers]

end Producer

def Reply.error? : Reply → Option Diagnostic
  | .ran (.error error) | .collected (.error error) | .dumped (.error error) => some error
  | .attached | .stepped _ | .ran (.ok _) | .collected (.ok _) | .dumped (.ok _) => none

namespace Consumer

variable {σ : Type} [FiniteProducer σ]

structure Accounted (producer : σ) (consumer : Consumer (Counted σ)) (acts : List Act) : Prop where
  position : consumer.producer.producer = Producer.after producer consumer.producer.requests
  visited : Act.nodes acts =
    (Producer.answers producer consumer.producer.requests).filterMap Production.node?
  processed : consumer.processed = (Act.nodes acts).length
  requests : consumer.producer.requests =
    consumer.processed + if consumer.state.isHalted then 1 else 0
  failure : consumer.failure.isSome = true ↔ consumer.state = .haltedError

theorem accounted_start (producer : σ) :
    Accounted producer (start (Counted.start producer)) [] where
  position := rfl
  visited := rfl
  processed := rfl
  requests := rfl
  failure := by simp [start]

theorem Accounted.next {producer : σ} {consumer : Consumer (Counted σ)} {acts : List Act}
    (accounted : Accounted producer consumer acts) :
    (Producer.next consumer.producer).rest.requests = consumer.producer.requests + 1 ∧
      (Producer.next consumer.producer).rest.producer =
        Producer.after producer (consumer.producer.requests + 1) ∧
      Producer.answers producer (consumer.producer.requests + 1) =
        Producer.answers producer consumer.producer.requests ++
          [(Producer.next consumer.producer).production] := by
  have rest : (Producer.next consumer.producer).rest.producer =
      (Producer.next consumer.producer.producer).rest := rfl
  have production : (Producer.next consumer.producer).production =
      (Producer.next consumer.producer.producer).production := rfl
  rw [rest, production, accounted.position]
  exact ⟨rfl, rfl, rfl⟩

theorem Accounted.unfailed {producer : σ} {consumer : Consumer (Counted σ)} {acts : List Act}
    (accounted : Accounted producer consumer acts) (running : consumer.state = .running) :
    consumer.failure = none := by
  have never : ¬consumer.failure.isSome = true := by
    rw [accounted.failure, running]
    simp
  simpa using never

theorem Accounted.receive {producer : σ} {consumer moved : Consumer (Counted σ)}
    {acts more : List Act} (accounted : Accounted producer consumer acts)
    (running : consumer.state = .running) (answer : Option Node)
    (answered : (Producer.next consumer.producer).production.node? = answer)
    (rest : moved.producer = (Producer.next consumer.producer).rest)
    (visited : Act.nodes more = answer.toList)
    (processed : moved.processed = consumer.processed + answer.toList.length)
    (halted : moved.state.isHalted = answer.isNone)
    (failure : moved.failure.isSome = true ↔ moved.state = .haltedError) :
    Accounted producer moved (acts ++ more) := by
  obtain ⟨counted, position, answers⟩ := accounted.next
  have requests : consumer.producer.requests = consumer.processed := by
    simpa [running, State.isHalted] using accounted.requests
  refine ⟨?_, ?_, ?_, ?_, failure⟩
  · rw [rest, counted]
    exact position
  · rw [rest, counted, answers, List.filterMap_append, Act.nodes_append, accounted.visited, visited]
    cases answer <;> simp [answered]
  · rw [processed, accounted.processed, Act.nodes_append, List.length_append, visited]
  · rw [rest, counted, requests, processed, halted]
    cases answer <;> simp

theorem accounted_step (producer : σ) (consumer : Consumer (Counted σ)) (acts : List Act)
    (accounted : Accounted producer consumer acts) :
    Accounted producer consumer.step.consumer (acts ++ consumer.step.acts) := by
  rcases consumer.step_cases with ⟨halted, same⟩ | ⟨running, node, answered, moved⟩ |
    ⟨running, answered, moved⟩ | ⟨running, reason, answered, moved⟩
  · rw [same, List.append_nil]
    exact accounted
  · have unfailed := accounted.unfailed running
    rw [moved]
    apply accounted.receive running (some node)
    case answered => rw [answered]; rfl
    case failure => simp [unfailed, running]
    all_goals simp [running, State.isHalted]
  · have unfailed := accounted.unfailed running
    rw [moved]
    apply accounted.receive running none
    case answered => rw [answered]; rfl
    case failure => simp [unfailed]
    all_goals simp [State.isHalted]
  · rw [moved]
    apply accounted.receive running none
    case answered => rw [answered]; rfl
    all_goals simp [State.isHalted]

theorem accounted_kept (producer : σ) : Kept (Accounted producer) where
  attach _ _ _ accounted :=
    ⟨accounted.position, accounted.visited, accounted.processed, accounted.requests,
      accounted.failure⟩
  step := accounted_step producer

theorem Accounted.outcome_eq_error {producer : σ} {consumer : Consumer (Counted σ)}
    {acts : List Act} (accounted : Accounted producer consumer acts) (error : Diagnostic) :
    consumer.outcome = .error error ↔ consumer.failure = some error := by
  have failure := accounted.failure
  cases state : consumer.state with
  | running => simp_all [outcome]
  | haltedFinish => simp_all [outcome]
  | haltedError =>
      obtain ⟨reason, kept⟩ := Option.isSome_iff_exists.mp (failure.mpr state)
      simp [outcome, state, kept]

theorem Accounted.run_eq_error {producer : σ} {consumer : Consumer (Counted σ)}
    {acts : List Act} (accounted : Accounted producer consumer acts) (error : Diagnostic) :
    consumer.run.outcome = .error error ↔ consumer.run.consumer.failure = some error := by
  rw [outcome_run]
  exact ((accounted_kept producer).run consumer acts accounted).outcome_eq_error error

end Consumer

namespace Session

variable {σ : Type} [FiniteProducer σ]

theorem failure_of_error (producer : σ) (session : Session (Counted σ)) (acts : List Act)
    (accounted : session.consumer.Accounted producer acts) (command : Command)
    (error : Diagnostic) (returned : (session.perform command).reply.error? = some error) :
    (session.perform command).session.consumer.failure = some error := by
  have ran := accounted.run_eq_error error
  cases command with
  | attach source => simp [perform, Reply.error?] at returned
  | step => simp [perform, Reply.error?] at returned
  | run =>
      apply ran.mp
      cases outcome : session.consumer.run.outcome <;>
        simp_all [perform, Reply.error?]
  | collect =>
      apply ran.mp
      cases outcome : session.consumer.run.outcome <;>
        simp_all [perform, Consumer.collect, Reply.error?, Except.map]
  | dump =>
      simp only [perform, Consumer.dump_transcript] at returned ⊢
      apply ran.mp
      cases outcome : session.consumer.run.outcome <;>
        simp_all [Reply.error?]

theorem after_accounted (producer : σ) (commands : List Command) :
    ((start (Counted.start producer)).after commands).consumer.Accounted producer
      ((start (Counted.start producer)).acts commands) :=
  after_kept (Consumer.accounted_kept producer) (start (Counted.start producer)) []
    (Consumer.accounted_start producer) commands

theorem history_accounted (producer : σ) (commands : List Command) :
    let fresh := start (Counted.start producer)
    let consumer := (fresh.after commands).consumer
    let received := Producer.answers producer consumer.producer.requests
    consumer.processed = (received.filterMap Production.node?).length ∧
      consumer.processed = (Act.nodes (fresh.acts commands)).length ∧
      consumer.producer.requests = consumer.processed + (if consumer.state.isHalted then 1 else 0) ∧
      (consumer.failure.isSome = true ↔ consumer.state = .haltedError) ∧
      (∀ turn ∈ fresh.performAll commands, ∀ error, turn.reply.error? = some error →
        turn.session.consumer.failure = some error) ∧
      (∀ error, consumer.run.outcome = .error error ↔
        consumer.run.consumer.failure = some error) ∧
      ∀ (τ : Type) [TextSink τ] (sink : τ) (error : Diagnostic),
        (consumer.dump sink).1.outcome = .error error ↔
          (consumer.dump sink).1.consumer.failure = some error := by
  intro fresh consumer received
  have accounted := after_accounted producer commands
  refine ⟨?_, accounted.processed, accounted.requests, accounted.failure, ?_,
    accounted.run_eq_error, fun _ _ _ => accounted.run_eq_error⟩
  · rw [accounted.processed, accounted.visited]
  · intro turn member error returned
    obtain ⟨before, command, later, -, rfl⟩ := mem_performAll.mp member
    exact failure_of_error producer _ _ (after_accounted producer before) command error returned

end Session

end NodeFeed

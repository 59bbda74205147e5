import NodeFeed.Proofs.Consumer.Unbounded

set_option autoImplicit false

namespace NodeFeed

namespace Consumer

variable {σ : Type}

def EndedWith (consumer : Consumer σ) : Except Diagnostic Summary → Prop
  | .ok summary => consumer.state = .haltedFinish ∧ summary = ⟨consumer.processed⟩
  | .error reason => consumer.state = .haltedError ∧ consumer.failure = some reason

structure Unmoved (before now : Consumer σ) : Prop where
  producer : now.producer = before.producer
  state : now.state = before.state
  processed : now.processed = before.processed
  failure : now.failure = before.failure

theorem Unmoved.refl (consumer : Consumer σ) : Unmoved consumer consumer :=
  ⟨rfl, rfl, rfl, rfl⟩

theorem Unmoved.trans {first second third : Consumer σ} (early : Unmoved first second)
    (late : Unmoved second third) : Unmoved first third where
  producer := late.producer.trans early.producer
  state := late.state.trans early.state
  processed := late.processed.trans early.processed
  failure := late.failure.trans early.failure

theorem EndedWith.of_unmoved {before now : Consumer σ} {result : Except Diagnostic Summary}
    (ended : before.EndedWith result) (unmoved : Unmoved before now) : now.EndedWith result := by
  cases result with
  | ok summary => exact ⟨unmoved.state.trans ended.1, by rw [ended.2, unmoved.processed]⟩
  | error reason => exact ⟨unmoved.state.trans ended.1, unmoved.failure.trans ended.2⟩

theorem EndedWith.isHalted {consumer : Consumer σ} {result : Except Diagnostic Summary}
    (ended : consumer.EndedWith result) : consumer.state.isHalted = true := by
  cases result with
  | ok summary => rw [ended.1]; rfl
  | error reason => rw [ended.1]; rfl

theorem EndedWith.outcome {consumer : Consumer σ} {result : Except Diagnostic Summary}
    (ended : consumer.EndedWith result) : consumer.outcome = result := by
  cases result with
  | ok summary => simp [Consumer.outcome, ended.1, ended.2]
  | error reason => simp [Consumer.outcome, ended.1, ended.2]

def Explained (consumer : Consumer σ) : Prop :=
  consumer.state = .haltedError → consumer.failure.isSome = true

theorem explained_kept [Producer σ] :
    Kept fun (consumer : Consumer σ) (_ : List Act) => consumer.Explained where
  attach _ _ _ explained := explained
  step consumer _ explained := by
    rcases consumer.step_cases with ⟨-, same⟩ | ⟨running, _, -, moved⟩ | ⟨-, -, moved⟩ |
      ⟨-, _, -, moved⟩
    · rw [same]
      exact explained
    · simp [moved, Explained, running]
    · simp [moved, Explained]
    · simp [moved, Explained]

theorem Explained.exists_endedWith {consumer : Consumer σ} (explained : consumer.Explained)
    (halted : consumer.state.isHalted = true) : ∃ result, consumer.EndedWith result := by
  cases state : consumer.state with
  | running => simp [state, State.isHalted] at halted
  | haltedFinish => exact ⟨.ok ⟨consumer.processed⟩, state, rfl⟩
  | haltedError =>
      obtain ⟨reason, kept⟩ := Option.isSome_iff_exists.mp (explained state)
      exact ⟨.error reason, state, kept⟩

section Ended

variable [Producer σ] {consumer : Consumer σ} {result : Except Diagnostic Summary}

theorem EndedWith.run? (ended : consumer.EndedWith result) :
    consumer.run? = some ⟨⟨consumer, []⟩, result⟩ := by
  rw [run?_of_isHalted consumer ended.isHalted, ended.outcome]

theorem EndedWith.collect? (ended : consumer.EndedWith result) :
    consumer.collect? = some ⟨⟨consumer, []⟩, result.map fun _ => []⟩ := by
  rw [Consumer.collect?, ended.run?]
  rfl

theorem EndedWith.dump? (ended : consumer.EndedWith result) {τ : Type} [TextSink τ] (sink : τ) :
    consumer.dump? sink =
      let line := TextSink.printRenderedLine sink (closing result).render
      some (⟨⟨consumer, line.events.map .logged⟩, result⟩, line.value) := by
  rw [Consumer.dump?, ended.run?]
  rfl

end Ended

end Consumer

def Command.reply (state : State) (result : Except Diagnostic Summary) : Command → Reply
  | .attach _ => .attached
  | .step => .stepped state
  | .run => .ran result
  | .collect => .collected (result.map fun _ => [])
  | .dump => .dumped result

def Command.adds : Except Diagnostic Summary → Command → String
  | .ok _, .dump => "Finish\n"
  | .error _, .dump => "Error\n"
  | _, .attach _ | _, .step | _, .run | _, .collect => ""

namespace Session

open Consumer

variable {σ : Type} [Producer σ]

theorem perform?_of_endedWith (session : Session σ) (result : Except Diagnostic Summary)
    (ended : session.consumer.EndedWith result) (command : Command) :
    ∃ turn, session.perform? command = some turn ∧
      turn.acts = [] ∧
      turn.reply = command.reply session.consumer.state result ∧
      turn.session.transcript.text = session.transcript.text ++ command.adds result ∧
      Unmoved session.consumer turn.session.consumer := by
  have still := Unmoved.refl session.consumer
  cases command with
  | attach source => exact ⟨_, rfl, rfl, rfl, by simp [Command.adds], ⟨rfl, rfl, rfl, rfl⟩⟩
  | step =>
      refine ⟨_, rfl, ?_⟩
      simp [step_of_isHalted _ ended.isHalted, Command.reply, Command.adds, still]
  | run =>
      refine ⟨_, by simp [perform?, ended.run?]; rfl, ?_⟩
      simp [Command.reply, Command.adds, still]
  | collect =>
      refine ⟨_, by simp [perform?, ended.collect?]; rfl, ?_⟩
      simp [Command.reply, Command.adds, still]
  | dump =>
      refine ⟨_, by simp [perform?, ended.dump?]; rfl, ?_⟩
      cases result <;>
        simp [printRenderedLine_transcript, closing, Node.render, String.append_assoc,
          Command.reply, Command.adds, still]

theorem after?_of_endedWith (session : Session σ) (result : Except Diagnostic Summary)
    (ended : session.consumer.EndedWith result) (commands : List Command) :
    ∃ last, session.after? commands = some ⟨last, []⟩ ∧
      Unmoved session.consumer last.consumer := by
  induction commands generalizing session with
  | nil => exact ⟨session, rfl, .refl session.consumer⟩
  | cons command rest ih =>
      obtain ⟨turn, performed, quiet, -, -, unmoved⟩ :=
        perform?_of_endedWith session result ended command
      obtain ⟨last, led, further⟩ := ih turn.session (ended.of_unmoved unmoved)
      refine ⟨last, ?_, unmoved.trans further⟩
      simp [after?, performed, led, quiet]

theorem halted_for_good (producer : σ) (before : List Command) (reached : Reached (Counted σ))
    (led : (start (Counted.start producer)).after? before = some reached)
    (halted : reached.session.consumer.state.isHalted = true) :
    ∃ result, reached.session.consumer.EndedWith result ∧
      ∀ later, ∃ last, reached.session.after? later = some ⟨last, []⟩ ∧
        Unmoved reached.session.consumer last.consumer ∧
        (∀ command, ∃ turn, last.perform? command = some turn ∧
          turn.acts = [] ∧
          turn.reply = command.reply reached.session.consumer.state result ∧
          turn.session.transcript.text = last.transcript.text ++ command.adds result) ∧
        ∀ (τ : Type) [TextSink τ] (sink : τ),
          let line := TextSink.printRenderedLine sink (closing result).render
          last.consumer.dump? sink =
            some (⟨⟨last.consumer, line.events.map .logged⟩, result⟩, line.value) := by
  have explained : reached.session.consumer.Explained :=
    after?_kept explained_kept (start (Counted.start producer)) []
      (by simp [start, Consumer.start, Explained]) before reached led
  obtain ⟨result, ended⟩ := explained.exists_endedWith halted
  refine ⟨result, ended, ?_⟩
  intro later
  obtain ⟨last, followed, unmoved⟩ := after?_of_endedWith reached.session result ended later
  have still := ended.of_unmoved unmoved
  refine ⟨last, followed, unmoved, ?_, fun τ _ sink => still.dump? sink⟩
  intro command
  obtain ⟨turn, performed, quiet, reply, text, -⟩ :=
    perform?_of_endedWith last result still command
  exact ⟨turn, performed, quiet, unmoved.state ▸ reply, text⟩

theorem halted_for_good_relapsing :
    ∃ reached last, (start (Counted.start Endless.relapsing)).after? [.step, .run] = some reached ∧
      reached.session.consumer.state = .haltedError ∧
      reached.session.after? [.attach ⟨"late", "text"⟩, .run, .dump] = some ⟨last, []⟩ ∧
      last.consumer.producer.requests = 2 ∧
      last.consumer.failure = some (.productionFailed none) := by
  have ran := (start (Counted.start Endless.relapsing)).consumer.step.consumer.run?_of_halts rfl
  obtain ⟨reached, led, error⟩ : ∃ reached,
      (start (Counted.start Endless.relapsing)).after? [.step, .run] = some reached ∧
        reached.session.consumer =
          (start (Counted.start Endless.relapsing)).consumer.step.consumer.step.consumer := by
    simp [after?, perform?, ran]
  have halted : reached.session.consumer.state = .haltedError := by rw [error]; rfl
  have failure : reached.session.consumer.failure = some (.productionFailed none) := by
    rw [error]; rfl
  have requests : reached.session.consumer.producer.requests = 2 := by rw [error]; rfl
  obtain ⟨result, -, general⟩ :=
    halted_for_good Endless.relapsing [.step, .run] reached led (by rw [halted]; rfl)
  obtain ⟨last, followed, unmoved, -⟩ := general [.attach ⟨"late", "text"⟩, .run, .dump]
  refine ⟨reached, last, led, halted, followed, ?_, unmoved.failure.trans failure⟩
  rw [unmoved.producer, requests]

end Session

end NodeFeed

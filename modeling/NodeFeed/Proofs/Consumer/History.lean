import NodeFeed.Proofs.Consumer.Run

set_option autoImplicit false

namespace NodeFeed

namespace Consumer

variable {σ : Type}

theorem printRenderedLine_transcript (transcript : Transcript) (rendered : String) :
    TextSink.printRenderedLine transcript rendered =
      .silent ⟨transcript.text ++ rendered ++ "\n"⟩ :=
  rfl

theorem acts_printActs (transcript : Transcript) (acts : List Act) :
    (printActs transcript acts).1 = acts := by
  induction acts generalizing transcript with
  | nil => rfl
  | cons act rest ih =>
      cases act with
      | logged event => simp [printActs, ih]
      | visited node => simp [printActs, printRenderedLine_transcript, ih]

theorem dump_transcript [FiniteProducer σ] (consumer : Consumer σ) (transcript : Transcript) :
    (consumer.dump transcript).1 = consumer.run := by
  simp [dump, acts_printActs, printRenderedLine_transcript]

-- A property of a consumer and of all that happened to it that no operation breaks.
structure Kept [Producer σ] (holds : Consumer σ → List Act → Prop) : Prop where
  attach : ∀ consumer acts source, holds consumer acts → holds (consumer.withSource source) acts
  step : ∀ consumer acts, holds consumer acts →
    holds consumer.step.consumer (acts ++ consumer.step.acts)

theorem Kept.run [FiniteProducer σ] {holds : Consumer σ → List Act → Prop} (kept : Kept holds)
    (consumer : Consumer σ) (acts : List Act) (before : holds consumer acts) :
    holds consumer.run.consumer (acts ++ consumer.run.acts) := by
  induction consumer using run_induction generalizing acts with
  | halts consumer halted =>
      rw [run_of_isHalted consumer halted]
      exact kept.step consumer acts before
  | goesOn consumer running ih =>
      rw [run_of_running consumer running]
      simpa using ih (acts ++ consumer.step.acts) (kept.step consumer acts before)

end Consumer

namespace Session

variable {σ : Type} [FiniteProducer σ]

def after (session : Session σ) : List Command → Session σ
  | [] => session
  | command :: rest => (session.perform command).session.after rest

def acts (session : Session σ) (commands : List Command) : List Act :=
  (session.performAll commands).flatMap Turn.acts

@[simp] theorem acts_nil (session : Session σ) : session.acts [] = [] := rfl

@[simp] theorem acts_cons (session : Session σ) (command : Command) (rest : List Command) :
    session.acts (command :: rest) =
      (session.perform command).acts ++ (session.perform command).session.acts rest := by
  simp [acts, performAll]

theorem mem_performAll {session : Session σ} {commands : List Command} {turn : Turn σ} :
    turn ∈ session.performAll commands ↔
      ∃ before command later, commands = before ++ command :: later ∧
        turn = (session.after before).perform command := by
  induction commands generalizing session with
  | nil => simp [performAll]
  | cons first rest ih =>
      simp only [performAll, List.mem_cons, ih]
      constructor
      · rintro (rfl | ⟨before, command, later, rfl, rfl⟩)
        · exact ⟨[], first, rest, rfl, rfl⟩
        · exact ⟨first :: before, command, later, rfl, rfl⟩
      · rintro ⟨before, command, later, same, rfl⟩
        cases before with
        | nil =>
            obtain ⟨rfl, rfl⟩ := List.cons.inj same
            exact .inl rfl
        | cons head before =>
            obtain ⟨rfl, rfl⟩ := List.cons.inj same
            exact .inr ⟨before, command, later, rfl, rfl⟩

theorem perform_kept {holds : Consumer σ → List Act → Prop} (kept : Consumer.Kept holds)
    (session : Session σ) (acts : List Act) (before : holds session.consumer acts)
    (command : Command) :
    holds (session.perform command).session.consumer
      (acts ++ (session.perform command).acts) := by
  cases command with
  | attach source => simpa [perform] using kept.attach session.consumer acts source before
  | step => exact kept.step session.consumer acts before
  | run => exact kept.run session.consumer acts before
  | collect => exact kept.run session.consumer acts before
  | dump => simpa [perform, Consumer.dump_transcript] using kept.run session.consumer acts before

theorem after_kept {holds : Consumer σ → List Act → Prop} (kept : Consumer.Kept holds)
    (session : Session σ) (acts : List Act) (before : holds session.consumer acts)
    (commands : List Command) :
    holds (session.after commands).consumer (acts ++ session.acts commands) := by
  induction commands generalizing session acts with
  | nil => simpa [after] using before
  | cons command rest ih =>
      have performed := perform_kept kept session acts before command
      simpa [after] using ih (session.perform command).session _ performed

end Session

end NodeFeed

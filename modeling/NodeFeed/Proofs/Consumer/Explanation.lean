import NodeFeed.Producer.Script
import NodeFeed.Proofs.Consumer.Answers
import NodeFeed.Proofs.Consumer.Attachment

set_option autoImplicit false

namespace NodeFeed

namespace Script

theorem after_eq (answers : List Production) (count : Nat) :
    Producer.after (⟨answers⟩ : Script) count = ⟨answers.drop count⟩ := by
  induction count with
  | zero => rfl
  | succ count ih =>
      rw [Producer.after, ih, ← List.tail_drop]
      cases answers.drop count <;> rfl

theorem production_after (answers : List Production) (position : Nat) :
    (Producer.next (Producer.after (⟨answers⟩ : Script) position)).production =
      answers[position]?.getD .done := by
  rw [after_eq, ← List.head?_drop]
  cases answers.drop position <;> rfl

theorem getElem?_of_answers {answers : List Production} {count position : Nat}
    {answer : Production}
    (given : (Producer.answers (⟨answers⟩ : Script) count)[position]? = some answer)
    (more : answer ≠ .done) : answers[position]? = some answer := by
  have within : position < count := by
    obtain ⟨within, -⟩ := List.getElem?_eq_some_iff.mp given
    rwa [Producer.length_answers] at within
  rw [Producer.getElem?_answers _ within, production_after] at given
  cases found : answers[position]? with
  | none =>
      rw [found] at given
      exact absurd (Option.some.inj given).symm more
  | some other => rwa [found] at given

end Script

namespace Session

open Consumer

theorem answered_perform {σ : Type} [FiniteProducer σ] (producer : σ)
    (session : Session (Counted σ)) (acts : List Act) (closing : List Production)
    (answered : Answered producer session.consumer acts closing)
    (running : session.consumer.state = .running) (command : Command) :
    ∃ stop, Answered producer (session.perform command).session.consumer
        (acts ++ (session.perform command).acts) stop ∧
      ∀ reason, stop = [.failed reason] →
        (session.perform command).session.consumer.failure =
          some (session.consumer.explain reason) := by
  have ran := answered_run producer session.consumer acts closing answered running
  cases command with
  | attach source =>
      refine ⟨closing, ?_, ?_⟩
      · rw [perform, List.append_nil]
        exact ⟨answered.position, answered.answers, answered.closes, answered.processed⟩
      · intro reason failed
        have closes := answered.closes
        rw [running, failed] at closes
        cases closes
  | step =>
      obtain ⟨stop, stepped, kept⟩ := answered_step producer session.consumer acts closing answered
      exact ⟨stop, stepped, kept running⟩
  | run => exact ran
  | collect => exact ran
  | dump => simpa [perform, dump_transcript] using ran

theorem FailsAt.received {σ : Type} [FiniteProducer σ] {producer : σ} {before : List Command}
    {command : Command} (fails : (start (Counted.start producer)).FailsAt before command) :
    let held := (start (Counted.start producer)).after before
    let failed := (held.perform command).session
    ∃ (visited : List Node) (reason : Diagnostic),
      Producer.answers producer (visited.length + 1) =
          visited.map .produced ++ [.failed reason] ∧
        held.consumer.producer.requests ≤ visited.length ∧
        failed.consumer.producer.requests = visited.length + 1 ∧
        failed.consumer.failure =
          some ((Command.lastSource before).elim reason reason.attach) := by
  intro held failed
  obtain ⟨closing, answered⟩ := after_kept (answered_kept producer) (start (Counted.start producer))
    [] ⟨[], answered_start producer⟩ before
  obtain ⟨stop, performed, kept⟩ :=
    answered_perform producer held _ closing answered fails.running command
  have earlier := answered.closes
  rw [fails.running] at earlier
  have closes := performed.closes
  rw [fails.failed] at closes
  obtain ⟨reason, rfl⟩ := closes.of_haltedError
  refine ⟨_, reason, ?_, ?_, performed.requests, ?_⟩
  · rw [← performed.answers, performed.requests]
    rfl
  · rw [answered.requests, earlier.of_running]
    simp
  · have attached : held.consumer.source = Command.lastSource before := by
      rw [source_after]
      exact Option.or_none
    rw [kept reason rfl, explain, attached]
    cases Command.lastSource before <;> rfl

structure FailingRequest (answers : List Production) (commands : List Command) where
  position : Nat
  reason : Diagnostic
  answered : answers[position]? = some (.failed reason)
  first : ∀ earlier < position, ∃ node, answers[earlier]? = some (.produced node)
  before : List Command
  command : Command
  later : List Command
  split : commands = before ++ command :: later
  unmade : ((start (Counted.start (⟨answers⟩ : Script))).after before).consumer.producer.requests ≤
    position
  made : ((start (Counted.start (⟨answers⟩ : Script))).after
    (before ++ [command])).consumer.producer.requests = position + 1

theorem exists_failingRequest (answers : List Production) (commands : List Command)
    (failed : ((start (Counted.start (⟨answers⟩ : Script))).after commands).consumer.state =
      .haltedError) :
    ∃ request : FailingRequest answers commands,
      (start (Counted.start (⟨answers⟩ : Script))).FailsAt request.before request.command ∧
        ((start (Counted.start (⟨answers⟩ : Script))).after commands).consumer.failure =
          some ((Command.lastSource request.before).elim request.reason request.reason.attach) := by
  obtain ⟨before, command, later, split, fails⟩ := exists_failsAt _ rfl commands failed
  obtain ⟨visited, reason, received, unmade, made, failure⟩ := fails.received
  have answered : answers[visited.length]? = some (.failed reason) := by
    apply Script.getElem?_of_answers
    case given => rw [received]; simp
    case more => simp
  have first : ∀ earlier < visited.length, ∃ node, answers[earlier]? = some (.produced node) := by
    intro earlier within
    refine ⟨visited[earlier], ?_⟩
    apply Script.getElem?_of_answers
    case given =>
      rw [received, List.getElem?_append_left (by simpa using within)]
      simp [within]
    case more => simp
  have counted : ((start (Counted.start (⟨answers⟩ : Script))).after
      (before ++ [command])).consumer.producer.requests = visited.length + 1 := by
    rw [after_append]
    exact made
  have kept := (fails.unmoved later).failure.trans failure
  rw [← split] at kept
  exact ⟨⟨visited.length, reason, answered, first, before, command, later, split, unmade, counted⟩,
    fails, kept⟩

theorem failure_explained (answers : List Production) (commands : List Command)
    (failed : ((start (Counted.start (⟨answers⟩ : Script))).after commands).consumer.state =
      .haltedError) :
    let fresh := start (Counted.start (⟨answers⟩ : Script))
    ∃ request : FailingRequest answers commands,
      let source := Command.lastSource request.before
      let plain := source.toList.map .attach ++ Command.pulls commands
      (fresh.after commands).consumer.failure =
          some (source.elim request.reason request.reason.attach) ∧
        fresh.results plain = fresh.results commands ∧
        Alike (fresh.after commands) (fresh.after plain) := by
  intro fresh
  obtain ⟨request, fails, failure⟩ := exists_failingRequest answers commands failed
  obtain ⟨alike, chosen, silent⟩ := attach_start (Counted.start (⟨answers⟩ : Script))
    (Command.lastSource request.before)
  refine ⟨request, failure, ?_⟩
  obtain ⟨results, last⟩ := alike.results commands (by
    intro before command later split again
    -- There is only one command during which the consumer fails.
    have same := fails.before_unique again (request.split.symm.trans split)
    rw [chosen, same, source_after]
    exact Option.or_none.symm)
  refine ⟨(silent _).trans results, ?_⟩
  rw [after_append]
  exact last

theorem failure_explained_replaced :
    let answers : List Production :=
      [.produced (.pending .method .start), .failed (.productionFailed (some .start))]
    let commands : List Command :=
      [.attach ⟨"early", "a"⟩, .step, .attach ⟨"there", "b"⟩, .step, .attach ⟨"late", "c"⟩, .run,
        .dump]
    let fresh := start (Counted.start (⟨answers⟩ : Script))
    (fresh.after commands).consumer.state = .haltedError ∧
      (fresh.after commands).consumer.failure =
        some ((Diagnostic.productionFailed (some .start)).attach ⟨"there", "b"⟩) ∧
      ∃ request : FailingRequest answers commands,
        fresh.results ((Command.lastSource request.before).toList.map .attach ++
          [.step, .step, .run, .dump]) = fresh.results commands := by
  intro answers commands fresh
  have still : Unmoved (fresh.after (commands.take 4)).consumer (fresh.after commands).consumer :=
    after_of_isHalted (fresh.after (commands.take 4)) rfl (commands.drop 4)
  have failed : (fresh.after commands).consumer.state = .haltedError := still.state
  obtain ⟨request, -, results, -⟩ := failure_explained answers commands failed
  exact ⟨failed, still.failure, request, results⟩

end Session

namespace Diagnostic

theorem attach_fills_line (diagnostic : Diagnostic) (source : SourceText)
    (unknown : diagnostic.sourceLine = "") (shown : (diagnostic.attach source).sourceLine ≠ "") :
    (∃ span, (diagnostic.attach source).span = some span ∧
      source.line span.startLine = some (diagnostic.attach source).sourceLine) ∧
      ((diagnostic.attach source).file = source.name ↔
        diagnostic.file = "" ∨ diagnostic.file = source.name) := by
  have filled : (diagnostic.attach source).sourceLine = (diagnostic.lineIn source).getD "" := by
    simp [attach, unknown]
  constructor
  · rw [filled] at shown ⊢
    cases found : diagnostic.lineIn source with
    | none =>
        rw [found] at shown
        exact absurd rfl shown
    | some line =>
        obtain ⟨span, placed, shownLine⟩ := Option.bind_eq_some_iff.mp found
        exact ⟨span, placed, shownLine⟩
  · by_cases unnamed : diagnostic.file = "" <;> simp [attach, unnamed]

end Diagnostic

namespace Session

open Consumer

theorem shown_line_file_iff (answers : List Production) (commands : List Command)
    (failed : ((start (Counted.start (⟨answers⟩ : Script))).after commands).consumer.state =
      .haltedError) :
    ∃ (request : FailingRequest answers commands) (failure : Diagnostic),
      ((start (Counted.start (⟨answers⟩ : Script))).after commands).consumer.failure =
          some failure ∧
        (request.reason.sourceLine = "" → failure.sourceLine ≠ "" →
          ∃ source span, Command.lastSource request.before = some source ∧
            failure.span = some span ∧
            source.line span.startLine = some failure.sourceLine ∧
            (failure.file = source.name ↔
              request.reason.file = "" ∨ request.reason.file = source.name)) := by
  obtain ⟨request, -, kept⟩ := exists_failingRequest answers commands failed
  refine ⟨request, _, kept, ?_⟩
  intro unknown shown
  cases attached : Command.lastSource request.before with
  | none =>
      rw [attached] at shown
      exact absurd unknown shown
  | some source =>
      rw [attached] at shown
      obtain ⟨⟨span, placed, line⟩, file⟩ :=
        request.reason.attach_fills_line source unknown shown
      exact ⟨source, span, rfl, placed, line, file⟩

theorem shown_line_own :
    let failure := Diagnostic.productionFailed (some (.point 2 1))
    let main : SourceText := ⟨"main.void", "package main\nimport io"⟩
    let fresh := start (Counted.start (⟨[.failed failure]⟩ : Script))
    (fresh.after [.attach main, .step]).consumer.state = .haltedError ∧
      (fresh.after [.attach main, .step]).consumer.failure = some (failure.attach main) ∧
      (failure.attach main).sourceLine = "import io" ∧
      ∃ source : SourceText, (failure.attach main).file = source.name ∧
        source.line 2 = some "import io" := by
  intro failure main fresh
  obtain ⟨request, shown, kept, owned⟩ :=
    shown_line_file_iff [.failed failure] [.attach main, .step] rfl
  obtain rfl : failure.attach main = shown := Option.some.inj kept
  have reason : request.reason = failure := by
    have answered := request.answered
    cases position : request.position with
    | zero => simpa [position] using answered.symm
    | succ other => simp [position] at answered
  rw [reason] at owned
  obtain ⟨source, span, -, placed, line, file⟩ := owned rfl (by decide)
  obtain rfl := Option.some.inj placed
  have known : (failure.attach main).sourceLine = "import io" := by decide
  rw [known] at line
  exact ⟨rfl, rfl, known, source, file.mpr (.inl rfl), line⟩

-- A failure in another file, explained with a line of the source that happened to be attached.
theorem foreign_line_shown :
    let reason := Diagnostic.ofCode "lib.void" .productionFailed "broken" (some (.point 1 1))
    let main : SourceText := ⟨"main.void", "package main"⟩
    ∃ failure, ((start (Counted.start (⟨[.failed reason]⟩ : Script))).after
        [.attach main, .step]).consumer.failure = some failure ∧
      reason.sourceLine = "" ∧
      main.line 1 = some "package main" ∧
      failure.sourceLine = "package main" ∧
      failure.file = "lib.void" :=
  ⟨_, rfl, rfl, rfl, rfl, rfl⟩

end Session

end NodeFeed

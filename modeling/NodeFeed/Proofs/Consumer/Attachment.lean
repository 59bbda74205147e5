import NodeFeed.Proofs.Consumer.Halting

set_option autoImplicit false

namespace NodeFeed

namespace Command

def source? : Command → Option SourceText
  | .attach source => some source
  | .step | .run | .collect | .dump => none

-- The source in force after these commands.
def lastSource (commands : List Command) : Option SourceText :=
  (commands.filterMap source?).getLast?

def pulls (commands : List Command) : List Command :=
  commands.filter fun command => command.source?.isNone

end Command

-- What a command other than an attachment came back with, and what happened meanwhile.
def Turn.result? {σ : Type} (turn : Turn σ) : Option (Reply × List Act) :=
  match turn.reply with
  | .attached => none
  | .stepped _ | .ran _ | .collected _ | .dumped _ => some (turn.reply, turn.acts)

namespace Consumer

variable {σ : Type}

theorem Unmoved.outcome {before now : Consumer σ} (unmoved : Unmoved before now) :
    now.outcome = before.outcome := by
  simp [Consumer.outcome, unmoved.state, unmoved.failure, unmoved.processed]

theorem unmoved_kept [Producer σ] {consumer : Consumer σ}
    (halted : consumer.state.isHalted = true) :
    Kept fun (now : Consumer σ) (_ : List Act) => Unmoved consumer now where
  attach _ _ _ unmoved := ⟨unmoved.producer, unmoved.state, unmoved.processed, unmoved.failure⟩
  step now _ unmoved := by
    rw [step_of_isHalted now (unmoved.state ▸ halted)]
    exact unmoved

theorem source_run [FiniteProducer σ] (consumer : Consumer σ) :
    consumer.run.consumer.source = consumer.source := by
  induction consumer using run_induction with
  | halts consumer halted =>
      rw [run_of_isHalted consumer halted]
      exact source_step consumer
  | goesOn consumer running ih =>
      rw [run_of_running consumer running]
      exact ih.trans (source_step consumer)

theorem running_of_step_running [Producer σ] (consumer : Consumer σ)
    (running : consumer.step.consumer.state = .running) : consumer.state = .running := by
  rcases consumer.step_cases with ⟨-, same⟩ | ⟨before, -⟩ | ⟨before, -⟩ | ⟨before, -⟩
  · rwa [same] at running
  all_goals exact before

-- Two consumers that differ in their sources only, and not even in these if the step fails.
theorem Unmoved.step [Producer σ] {first second : Consumer σ} (unmoved : Unmoved first second)
    (sources : first.state = .running → first.step.consumer.state = .haltedError →
      second.source = first.source) :
    Unmoved first.step.consumer second.step.consumer ∧ second.step.acts = first.step.acts := by
  have producer := unmoved.producer
  have processed := unmoved.processed
  rcases first.step_cases with ⟨halted, same⟩ | ⟨running, node, answered, moved⟩ |
    ⟨running, answered, moved⟩ | ⟨running, reason, answered, moved⟩
  · rw [same, step_of_isHalted second (unmoved.state ▸ halted)]
    exact ⟨unmoved, rfl⟩
  · rw [moved, step_of_running second (unmoved.state.trans running), receive, producer]
    simp only [answered, processed]
    exact ⟨⟨rfl, unmoved.state, rfl, unmoved.failure⟩, True.intro⟩
  · rw [moved, step_of_running second (unmoved.state.trans running), receive, producer]
    simp only [answered, processed]
    exact ⟨⟨rfl, rfl, rfl, unmoved.failure⟩, True.intro⟩
  · have explained : second.explain reason = first.explain reason := by
      rw [explain, explain, sources running (by rw [moved])]
    rw [moved, step_of_running second (unmoved.state.trans running), receive, producer]
    simp only [answered, processed, explained]
    exact ⟨⟨rfl, rfl, rfl, rfl⟩, True.intro⟩

theorem Unmoved.run [FiniteProducer σ] {first second : Consumer σ} (unmoved : Unmoved first second)
    (sources : first.state = .running → first.run.consumer.state = .haltedError →
      second.source = first.source) :
    Unmoved first.run.consumer second.run.consumer ∧ second.run.acts = first.run.acts ∧
      second.run.outcome = first.run.outcome := by
  induction first using run_induction generalizing second with
  | halts first halted =>
      rw [run_of_isHalted first halted] at sources ⊢
      obtain ⟨stepped, acts⟩ := unmoved.step sources
      rw [run_of_isHalted second (stepped.state ▸ halted)]
      exact ⟨stepped, acts, stepped.outcome⟩
  | goesOn first running ih =>
      rw [run_of_running first running] at sources ⊢
      obtain ⟨stepped, acts⟩ := unmoved.step (fun _ failed => by simp [running] at failed)
      obtain ⟨ran, later, outcome⟩ := ih stepped (fun _ failed => by
        rw [source_step, source_step]
        exact sources (running_of_step_running first running) failed)
      rw [run_of_running second (stepped.state.trans running)]
      exact ⟨ran, by rw [acts, later], outcome⟩

end Consumer

namespace Session

open Consumer

variable {σ : Type} [FiniteProducer σ]

def results (session : Session σ) (commands : List Command) : List (Reply × List Act) :=
  (session.performAll commands).filterMap Turn.result?

theorem results_cons (session : Session σ) (command : Command) (rest : List Command) :
    session.results (command :: rest) =
      (session.perform command).result?.toList ++
        (session.perform command).session.results rest := by
  cases kept : (session.perform command).result? <;> simp [results, performAll, kept]

theorem source_perform (session : Session σ) (command : Command) :
    (session.perform command).session.consumer.source =
      command.source?.or session.consumer.source := by
  cases command with
  | attach source => rfl
  | step => exact source_step session.consumer
  | run => exact source_run session.consumer
  | collect => exact source_run session.consumer
  | dump => exact source_run session.consumer

theorem source_after (session : Session σ) (commands : List Command) :
    (session.after commands).consumer.source =
      (Command.lastSource commands).or session.consumer.source := by
  induction commands generalizing session with
  | nil => rfl
  | cons command rest ih =>
      rw [after, ih, source_perform]
      cases attached : command.source? with
      | none => simp [Command.lastSource, attached]
      | some source =>
          simp only [Command.lastSource, List.filterMap_cons, attached, List.getLast?_cons]
          cases (rest.filterMap Command.source?).getLast? <;> rfl

theorem after_append (session : Session σ) (first second : List Command) :
    session.after (first ++ second) = (session.after first).after second := by
  induction first generalizing session with
  | nil => rfl
  | cons command rest ih => exact ih _

theorem after_of_isHalted (session : Session σ) (halted : session.consumer.state.isHalted = true)
    (commands : List Command) : Unmoved session.consumer (session.after commands).consumer :=
  after_kept (unmoved_kept halted) session [] (.refl session.consumer) commands

-- The command during which a consumer that was running came to fail.
structure FailsAt (session : Session σ) (before : List Command) (command : Command) : Prop where
  running : (session.after before).consumer.state = .running
  failed : ((session.after before).perform command).session.consumer.state = .haltedError

theorem exists_failsAt (session : Session σ) (running : session.consumer.state = .running)
    (commands : List Command)
    (failed : (session.after commands).consumer.state = .haltedError) :
    ∃ before command later, commands = before ++ command :: later ∧
      session.FailsAt before command := by
  induction commands generalizing session with
  | nil =>
      rw [after, running] at failed
      cases failed
  | cons command rest ih =>
      cases state : (session.perform command).session.consumer.state with
      | running =>
          obtain ⟨before, other, later, split, fails⟩ := ih _ state failed
          exact ⟨command :: before, other, later, by rw [split]; rfl, fails.running, fails.failed⟩
      | haltedError => exact ⟨[], command, rest, rfl, running, state⟩
      | haltedFinish =>
          have still := after_of_isHalted (session.perform command).session (by rw [state]; rfl) rest
          have finished : (session.after (command :: rest)).consumer.state = .haltedFinish :=
            still.state.trans state
          rw [finished] at failed
          cases failed

theorem FailsAt.unmoved {session : Session σ} {before : List Command} {command : Command}
    (fails : session.FailsAt before command) (later : List Command) :
    Unmoved ((session.after before).perform command).session.consumer
      (session.after (before ++ command :: later)).consumer := by
  rw [after_append]
  exact after_of_isHalted _ (by rw [fails.failed]; rfl) later

theorem FailsAt.not_later {session : Session σ} {before : List Command} {command : Command}
    (fails : session.FailsAt before command) (between : List Command) {other : Command}
    (again : session.FailsAt (before ++ command :: between) other) : False := by
  have running := again.running
  rw [(fails.unmoved between).state, fails.failed] at running
  cases running

theorem FailsAt.before_unique {session : Session σ} {before earlier : List Command}
    {command other : Command} {later rest : List Command} (fails : session.FailsAt before command)
    (again : session.FailsAt earlier other)
    (same : before ++ command :: later = earlier ++ other :: rest) : earlier = before := by
  rcases List.append_eq_append_iff.mp same with ⟨between, longer, cut⟩ | ⟨between, longer, cut⟩
  · cases between with
    | nil => rw [longer, List.append_nil]
    | cons first between =>
        obtain ⟨rfl, -⟩ := List.cons.inj cut
        exact (fails.not_later between (longer ▸ again)).elim
  · cases between with
    | nil => rw [longer, List.append_nil]
    | cons first between =>
        obtain ⟨rfl, -⟩ := List.cons.inj cut
        exact (again.not_later between (longer ▸ fails)).elim

structure Alike (first second : Session σ) : Prop where
  consumer : Unmoved first.consumer second.consumer
  transcript : second.transcript = first.transcript

theorem Alike.perform {first second : Session σ} (alike : Alike first second) (command : Command)
    (pull : command.source? = none)
    (sources : first.FailsAt [] command → second.consumer.source = first.consumer.source) :
    (second.perform command).result? = (first.perform command).result? ∧
      Alike (first.perform command).session (second.perform command).session := by
  have chosen (running : first.consumer.state = .running)
      (failed : (first.perform command).session.consumer.state = .haltedError) :
      second.consumer.source = first.consumer.source := sources ⟨running, failed⟩
  cases command with
  | attach source => simp [Command.source?] at pull
  | step =>
      obtain ⟨stepped, acts⟩ := alike.consumer.step chosen
      refine ⟨?_, stepped, alike.transcript⟩
      simp [Session.perform, Turn.result?, acts, stepped.state]
  | run =>
      obtain ⟨ran, acts, outcome⟩ := alike.consumer.run chosen
      refine ⟨?_, ran, alike.transcript⟩
      simp [Session.perform, Turn.result?, acts, outcome]
  | collect =>
      obtain ⟨ran, acts, outcome⟩ := alike.consumer.run chosen
      refine ⟨?_, ran, alike.transcript⟩
      simp [Session.perform, Turn.result?, Consumer.collect, acts, outcome]
  | dump =>
      obtain ⟨ran, acts, outcome⟩ := alike.consumer.run chosen
      refine ⟨?_, ran, ?_⟩
      · simp [Session.perform, Turn.result?, Consumer.dump, acts, outcome, alike.transcript]
      · simp [Session.perform, Consumer.dump, acts, outcome, alike.transcript]

theorem Alike.attach {first second : Session σ} (alike : Alike first second)
    (source : SourceText) : Alike (first.perform (.attach source)).session second :=
  ⟨⟨alike.consumer.producer, alike.consumer.state, alike.consumer.processed,
    alike.consumer.failure⟩, alike.transcript⟩

-- Only the command that fails, if there is one, has to find the same source.
theorem Alike.results {first second : Session σ} (alike : Alike first second)
    (commands : List Command)
    (sources : ∀ before command later, commands = before ++ command :: later →
      first.FailsAt before command →
        second.consumer.source = (first.after before).consumer.source) :
    second.results (Command.pulls commands) = first.results commands ∧
      Alike (first.after commands) (second.after (Command.pulls commands)) := by
  induction commands generalizing first second with
  | nil => exact ⟨rfl, alike⟩
  | cons command rest ih =>
      have later : ∀ before other later, rest = before ++ other :: later →
          (first.perform command).session.FailsAt before other →
          second.consumer.source =
            ((first.perform command).session.after before).consumer.source := by
        intro before other later split fails
        exact sources (command :: before) other later (by rw [split]; rfl)
          ⟨fails.running, fails.failed⟩
      cases attached : command.source? with
      | some source =>
          obtain rfl : command = .attach source := by
            cases command <;> simp_all [Command.source?]
          obtain ⟨results, last⟩ := ih (alike.attach source) later
          rw [results_cons]
          exact ⟨results, last⟩
      | none =>
          obtain ⟨same, next⟩ := alike.perform command attached (sources [] command rest rfl)
          have kept : (second.perform command).session.consumer.source = second.consumer.source := by
            rw [source_perform, attached]
            rfl
          obtain ⟨results, last⟩ := ih next (by rw [kept]; exact later)
          have pulled : Command.pulls (command :: rest) = command :: Command.pulls rest := by
            simp [Command.pulls, attached]
          rw [pulled, results_cons, results_cons, same, results]
          exact ⟨rfl, last⟩

theorem attach_start (producer : σ) (source : Option SourceText) :
    let attached := (start producer).after (source.toList.map .attach)
    Alike (start producer) attached ∧ attached.consumer.source = source ∧
      ∀ commands, (start producer).results (source.toList.map .attach ++ commands) =
        attached.results commands := by
  cases source with
  | none => exact ⟨⟨.refl _, rfl⟩, rfl, fun _ => rfl⟩
  | some source => exact ⟨⟨⟨rfl, rfl, rfl, rfl⟩, rfl⟩, rfl, fun _ => rfl⟩

end Session

end NodeFeed

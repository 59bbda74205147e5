import Mathlib.Data.Nat.Find
import NodeFeed.Producer.Counted
import NodeFeed.Producer.Endless
import NodeFeed.Proofs.Consumer.History

set_option autoImplicit false

namespace NodeFeed

instance (priority := low) {σ : Type} [Producer σ] : Producer (Counted σ) where
  next := Counted.next

-- Fails at the second request, and has nodes again for whoever goes on asking.
def Endless.relapsing : Endless where
  answer position :=
    if position = 1 then .failed (.productionFailed none) else .produced (.pending .method .start)
  asked := 0

def Moved.before {σ α : Type} (moved : Moved σ) (finished : Finished σ α) : Finished σ α :=
  { finished with acts := moved.acts ++ finished.acts }

theorem Moved.before_before {σ α : Type} (first second : Moved σ) (finished : Finished σ α) :
    first.before (second.before finished) =
      Moved.before ⟨second.consumer, first.acts ++ second.acts⟩ finished := by
  simp [before]

namespace Finished

variable {σ : Type}

def collected (finished : Finished σ Summary) : Finished σ (List Node) :=
  { finished with outcome := finished.outcome.map fun _ => Act.nodes finished.acts }

def dumped {τ : Type} [TextSink τ] (finished : Finished σ Summary) (sink : τ) :
    Finished σ Summary × τ :=
  let (acts, sink) := Consumer.printActs sink finished.acts
  let closed := TextSink.printRenderedLine sink (Consumer.closing finished.outcome).render
  ({ finished with acts := acts ++ closed.events.map .logged }, closed.value)

theorem dumped_transcript (finished : Finished σ Summary) (transcript : Transcript) :
    (finished.dumped transcript).1 = finished := by
  simp [dumped, Consumer.acts_printActs, Consumer.printRenderedLine_transcript]

end Finished

namespace Consumer

variable {σ : Type}

section Definitions

variable [Producer σ]

def steps (consumer : Consumer σ) : Nat → Moved σ
  | 0 => ⟨consumer, []⟩
  | count + 1 =>
      let moved := consumer.steps count
      ⟨moved.consumer.step.consumer, moved.acts ++ moved.consumer.step.acts⟩

open Classical in
-- The loop ends after the first step that leaves the consumer halted, if there is one.
noncomputable def run? (consumer : Consumer σ) : Option (Finished σ Summary) :=
  if halts : ∃ count, (consumer.steps count).consumer.state.isHalted = true then
    let moved := consumer.steps (Nat.find halts)
    some { moved with outcome := moved.consumer.outcome }
  else none

noncomputable def collect? (consumer : Consumer σ) : Option (Finished σ (List Node)) :=
  consumer.run?.map Finished.collected

noncomputable def dump? {τ : Type} [TextSink τ] (consumer : Consumer σ) (sink : τ) :
    Option (Finished σ Summary × τ) :=
  consumer.run?.map fun finished => finished.dumped sink

end Definitions

section Run

variable [Producer σ] (consumer : Consumer σ)

theorem steps_succ (count : Nat) :
    consumer.steps (count + 1) =
      ⟨(consumer.step.consumer.steps count).consumer,
        consumer.step.acts ++ (consumer.step.consumer.steps count).acts⟩ := by
  induction count with
  | zero => simp [steps]
  | succ count ih => rw [steps, ih]; simp [steps]

theorem steps_of_isHalted (count more : Nat)
    (halted : (consumer.steps count).consumer.state.isHalted = true) :
    consumer.steps (count + more) = consumer.steps count := by
  induction more with
  | zero => rfl
  | succ more ih =>
      rw [← Nat.add_assoc, steps, ih, step_of_isHalted _ halted]
      simp

-- Steps after the one that halts change nothing, so any number that is large enough will do.
theorem run?_eq_some_iff {finished : Finished σ Summary} :
    consumer.run? = some finished ↔
      ∃ count, (consumer.steps count).consumer.state.isHalted = true ∧
        { consumer.steps count with outcome := (consumer.steps count).consumer.outcome } =
          finished := by
  constructor
  · intro ran
    rw [run?] at ran
    split at ran
    next halts => exact ⟨Nat.find halts, Nat.find_spec halts, Option.some.inj ran⟩
    next => cases ran
  · intro stepped
    obtain ⟨count, halted, rfl⟩ := stepped
    have halts : ∃ count, (consumer.steps count).consumer.state.isHalted = true := ⟨count, halted⟩
    have first : consumer.steps count = consumer.steps (Nat.find halts) := by
      have least : Nat.find halts ≤ count := Nat.find_min' halts halted
      rw [← Nat.add_sub_cancel' least]
      exact consumer.steps_of_isHalted _ _ (Nat.find_spec halts)
    rw [run?, dif_pos halts, first]

theorem run?_of_isHalted (halted : consumer.state.isHalted = true) :
    consumer.run? = some ⟨⟨consumer, []⟩, consumer.outcome⟩ :=
  consumer.run?_eq_some_iff.mpr ⟨0, halted, rfl⟩

theorem run?_of_halts (halted : consumer.step.consumer.state.isHalted = true) :
    consumer.run? = some { consumer.step with outcome := consumer.step.consumer.outcome } :=
  consumer.run?_eq_some_iff.mpr ⟨1, halted, rfl⟩

theorem run?_step : consumer.run? = consumer.step.consumer.run?.map consumer.step.before := by
  apply Option.ext
  intro finished
  rw [Option.map_eq_some_iff, run?_eq_some_iff]
  constructor
  · intro stepped
    obtain ⟨count, halted, rfl⟩ := stepped
    have again := consumer.steps_of_isHalted count 1 halted
    rw [steps_succ] at again
    rw [← again] at halted ⊢
    exact ⟨_, run?_eq_some_iff _ |>.mpr ⟨count, halted, rfl⟩, rfl⟩
  · intro rest
    obtain ⟨later, ran, rfl⟩ := rest
    obtain ⟨count, halted, rfl⟩ := run?_eq_some_iff _ |>.mp ran
    refine ⟨count + 1, ?_⟩
    rw [steps_succ]
    exact ⟨halted, rfl⟩

theorem run?_steps (count : Nat) :
    consumer.run? = (consumer.steps count).consumer.run?.map (consumer.steps count).before := by
  induction count with
  | zero =>
      change consumer.run? = consumer.run?.map id
      rw [Option.map_id_apply]
  | succ count ih =>
      rw [ih, run?_step (consumer.steps count).consumer, Option.map_map]
      congr 1
      funext finished
      exact Moved.before_before _ _ finished

end Run

theorem run?_eq_run [FiniteProducer σ] (consumer : Consumer σ) :
    consumer.run? = some consumer.run := by
  induction consumer using run_induction with
  | halts consumer halted => rw [run?_of_halts consumer halted, run_of_isHalted consumer halted]
  | goesOn consumer running ih =>
      rw [run?_step, run_of_running consumer running, ih]
      rfl

theorem collect?_eq_collect [FiniteProducer σ] (consumer : Consumer σ) :
    consumer.collect? = some consumer.collect := by
  rw [collect?, run?_eq_run]
  rfl

theorem dump?_eq_dump {τ : Type} [FiniteProducer σ] [TextSink τ] (consumer : Consumer σ)
    (sink : τ) : consumer.dump? sink = some (consumer.dump sink) := by
  rw [dump?, run?_eq_run]
  rfl

theorem Kept.steps [Producer σ] {holds : Consumer σ → List Act → Prop} (kept : Kept holds)
    (consumer : Consumer σ) (acts : List Act) (before : holds consumer acts) (count : Nat) :
    holds (consumer.steps count).consumer (acts ++ (consumer.steps count).acts) := by
  induction count with
  | zero => simpa [Consumer.steps] using before
  | succ count ih =>
      simpa [Consumer.steps] using kept.step (consumer.steps count).consumer _ ih

theorem Kept.run? [Producer σ] {holds : Consumer σ → List Act → Prop} (kept : Kept holds)
    (consumer : Consumer σ) (acts : List Act) (before : holds consumer acts)
    (finished : Finished σ Summary) (ran : consumer.run? = some finished) :
    holds finished.consumer (acts ++ finished.acts) := by
  obtain ⟨count, -, rfl⟩ := consumer.run?_eq_some_iff.mp ran
  exact kept.steps consumer acts before count

end Consumer

structure Reached (σ : Type) where
  session : Session σ
  acts : List Act

namespace Session

variable {σ : Type}

section Definitions

variable [Producer σ]

noncomputable def perform? (session : Session σ) : Command → Option (Turn σ)
  | .attach source =>
      some ⟨{ session with consumer := session.consumer.withSource source }, .attached, []⟩
  | .step =>
      let moved := session.consumer.step
      some ⟨{ session with consumer := moved.consumer }, .stepped moved.consumer.state, moved.acts⟩
  | .run =>
      session.consumer.run?.map fun finished =>
        ⟨{ session with consumer := finished.consumer }, .ran finished.outcome, finished.acts⟩
  | .collect =>
      session.consumer.collect?.map fun finished =>
        ⟨{ session with consumer := finished.consumer }, .collected finished.outcome,
          finished.acts⟩
  | .dump =>
      (session.consumer.dump? session.transcript).map fun (finished, transcript) =>
        ⟨⟨finished.consumer, transcript⟩, .dumped finished.outcome, finished.acts⟩

noncomputable def after? (session : Session σ) : List Command → Option (Reached σ)
  | [] => some ⟨session, []⟩
  | command :: rest =>
      (session.perform? command).bind fun turn =>
        (turn.session.after? rest).map fun reached =>
          { reached with acts := turn.acts ++ reached.acts }

end Definitions

theorem perform?_eq_perform [FiniteProducer σ] (session : Session σ) (command : Command) :
    session.perform? command = some (session.perform command) := by
  cases command with
  | attach source => rfl
  | step => rfl
  | run => simp [perform?, perform, Consumer.run?_eq_run]
  | collect => simp [perform?, perform, Consumer.collect?_eq_collect]
  | dump => simp [perform?, perform, Consumer.dump?_eq_dump]

theorem after?_eq_after [FiniteProducer σ] (session : Session σ) (commands : List Command) :
    session.after? commands = some ⟨session.after commands, session.acts commands⟩ := by
  induction commands generalizing session with
  | nil => rfl
  | cons command rest ih => simp [after?, after, perform?_eq_perform, ih]

theorem perform?_kept [Producer σ] {holds : Consumer σ → List Act → Prop}
    (kept : Consumer.Kept holds) (session : Session σ) (acts : List Act)
    (before : holds session.consumer acts) (command : Command) (turn : Turn σ)
    (performed : session.perform? command = some turn) :
    holds turn.session.consumer (acts ++ turn.acts) := by
  have ran := kept.run? session.consumer acts before
  cases command with
  | attach source =>
      obtain rfl := Option.some.inj performed
      simpa using kept.attach session.consumer acts source before
  | step =>
      obtain rfl := Option.some.inj performed
      exact kept.step session.consumer acts before
  | run =>
      obtain ⟨finished, returned, rfl⟩ := Option.map_eq_some_iff.mp performed
      exact ran finished returned
  | collect =>
      simp only [perform?, Consumer.collect?, Option.map_map, Option.map_eq_some_iff] at performed
      obtain ⟨finished, returned, rfl⟩ := performed
      exact ran finished returned
  | dump =>
      simp only [perform?, Consumer.dump?, Option.map_map, Option.map_eq_some_iff] at performed
      obtain ⟨finished, returned, rfl⟩ := performed
      simpa [Finished.dumped_transcript] using ran finished returned

theorem after?_kept [Producer σ] {holds : Consumer σ → List Act → Prop}
    (kept : Consumer.Kept holds) (session : Session σ) (acts : List Act)
    (before : holds session.consumer acts) (commands : List Command) (reached : Reached σ)
    (led : session.after? commands = some reached) :
    holds reached.session.consumer (acts ++ reached.acts) := by
  induction commands generalizing session acts reached with
  | nil =>
      obtain rfl := Option.some.inj led
      simpa using before
  | cons command rest ih =>
      obtain ⟨turn, performed, later⟩ := Option.bind_eq_some_iff.mp led
      obtain ⟨further, followed, rfl⟩ := Option.map_eq_some_iff.mp later
      have held := perform?_kept kept session acts before command turn performed
      simpa using ih turn.session _ held further followed

end Session

end NodeFeed

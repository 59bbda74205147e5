import NodeFeed.Proofs.Consumer.Accounting
import NodeFeed.Proofs.Consumer.Unbounded
import NodeFeed.Proofs.Sink.Printing

set_option autoImplicit false

namespace NodeFeed

theorem Counted.after_start {σ : Type} [Producer σ] (producer : σ) (count : Nat) :
    Producer.after (Counted.start producer) count = ⟨Producer.after producer count, count⟩ := by
  induction count with
  | zero => rfl
  | succ count ih => rw [Producer.after, ih]; rfl

theorem Counted.answers_start {σ : Type} [Producer σ] (producer : σ) (count : Nat) :
    Producer.answers (Counted.start producer) count = Producer.answers producer count := by
  induction count with
  | zero => rfl
  | succ count ih => rw [Producer.answers, ih, after_start]; rfl

-- The request numbered `count` is the first one that is not answered with a node.
structure Producer.EndsAt {σ : Type} [Producer σ] (producer : σ) (count : Nat) : Prop where
  terminal : (next (after producer count)).production.isTerminal = true
  first : ∀ position < count, ¬(next (after producer position)).production.isTerminal = true

def Producer.produced {σ : Type} [Producer σ] (producer : σ) (count : Nat) : List Node :=
  (answers producer count).filterMap Production.node?

namespace Consumer

variable {σ : Type}

section Dump

variable {τ : Type} [TextSink τ]

theorem nodes_printActs (sink : τ) (acts : List Act) :
    Act.nodes (printActs sink acts).1 = Act.nodes acts := by
  induction acts generalizing sink with
  | nil => rfl
  | cons act rest ih =>
      cases act with
      | logged event => simp [printActs, ih]
      | visited node => simp [printActs, ih]

theorem sink_printActs (sink : τ) (acts : List Act) :
    (printActs sink acts).2 =
      (TextSink.performAll sink
        ((Act.nodes acts).map fun node => .renderedLine node.render)).value := by
  induction acts generalizing sink with
  | nil => rfl
  | cons act rest ih =>
      cases act with
      | logged event => simpa [printActs] using ih sink
      | visited node => simpa [printActs, TextSink.performAll, TextSink.perform] using ih _

theorem sink_dumped (finished : Finished σ Summary) (sink : τ) :
    (finished.dumped sink).2 =
      (TextSink.performAll sink
        ((Act.nodes finished.acts ++ [closing finished.outcome]).map fun node =>
          .renderedLine node.render)).value := by
  simp [Finished.dumped, sink_printActs, TextSink.performAll_append, TextSink.performAll,
    TextSink.perform]

theorem join_renderedLines (nodes : List Node) :
    String.join ((nodes.map fun node => .renderedLine node.render).flatMap Printing.texts) =
      String.join (nodes.map fun node => node.render ++ "\n") := by
  induction nodes with
  | nil => rfl
  | cons node rest ih => simp [Printing.texts, ih, String.append_assoc]

theorem transcript_dumped (finished : Finished σ Summary) (transcript : Transcript) :
    (finished.dumped transcript).2 =
      ⟨transcript.text ++ String.join ((Act.nodes finished.acts).map fun node =>
        node.render ++ "\n") ++ ((closing finished.outcome).render ++ "\n")⟩ := by
  rw [sink_dumped, TextSink.performAll_eq, TextSink.printTexts_transcript, join_renderedLines]
  simp [String.append_assoc]

theorem nodes_dumped (finished : Finished σ Summary) (sink : τ) :
    Act.nodes (finished.dumped sink).1.acts = Act.nodes finished.acts := by
  simp [Finished.dumped, nodes_printActs]

end Dump

section Steps

variable [Producer σ]

structure Pulled (producer : σ) (count : Nat) (moved : Moved σ) : Prop where
  running : moved.consumer.state = .running
  position : moved.consumer.producer = Producer.after producer count
  nodes : Act.nodes moved.acts = Producer.produced producer count
  length : (Act.nodes moved.acts).length = count

theorem pulled_steps (consumer : Consumer σ) (running : consumer.state = .running) (count : Nat)
    (more : ∀ position < count,
      ¬(Producer.next (Producer.after consumer.producer position)).production.isTerminal = true) :
    Pulled consumer.producer count (consumer.steps count) := by
  induction count with
  | zero => exact ⟨running, rfl, rfl, rfl⟩
  | succ count ih =>
      have pulled := ih fun position below => more position (by omega)
      have next := more count (by omega)
      rw [← pulled.position] at next
      rcases (consumer.steps count).consumer.step_cases with ⟨halted, -⟩ |
        ⟨-, node, answered, moved⟩ | ⟨-, answered, -⟩ | ⟨-, reason, answered, -⟩
      · simp [pulled.running, State.isHalted] at halted
      · refine ⟨?_, ?_, ?_, ?_⟩
        · simpa [steps, moved] using pulled.running
        · simp [steps, moved, Producer.after, pulled.position]
        · rw [pulled.position] at answered
          simp [steps, moved, pulled.nodes, Producer.produced, Producer.answers, answered,
            Production.node?]
        · simp [steps, moved, pulled.length]
      · simp [answered, Production.isTerminal] at next
      · simp [answered, Production.isTerminal] at next

theorem step_of_terminal (consumer : Consumer σ) (running : consumer.state = .running)
    (terminal : (Producer.next consumer.producer).production.isTerminal = true) :
    consumer.step.consumer.state.isHalted = true ∧ Act.nodes consumer.step.acts = [] := by
  rcases consumer.step_cases with ⟨halted, -⟩ | ⟨-, node, answered, -⟩ | ⟨-, -, moved⟩ |
    ⟨-, reason, -, moved⟩
  · simp [running, State.isHalted] at halted
  · simp [answered, Production.isTerminal] at terminal
  · simp [moved, State.isHalted]
  · simp [moved, State.isHalted]

section Ends

variable {consumer : Consumer σ} {count : Nat} (running : consumer.state = .running)
  (ends : Producer.EndsAt consumer.producer count)

include running ends

theorem steps_of_endsAt :
    (consumer.steps (count + 1)).consumer.state.isHalted = true ∧
      Act.nodes (consumer.steps (count + 1)).acts = Producer.produced consumer.producer count := by
  have pulled := pulled_steps consumer running count ends.first
  have last : (Producer.next (consumer.steps count).consumer.producer).production.isTerminal =
      true := by
    rw [pulled.position]
    exact ends.terminal
  obtain ⟨halted, none⟩ := step_of_terminal _ pulled.running last
  exact ⟨halted, by simp [steps, none, pulled.nodes]⟩

theorem length_nodes_steps (calls : Nat) :
    (Act.nodes (consumer.steps calls).acts).length = min calls count := by
  by_cases within : calls ≤ count
  · have pulled := pulled_steps consumer running calls fun position below =>
      ends.first position (by omega)
    rw [pulled.length, Nat.min_eq_left within]
  · have whole := pulled_steps consumer running count ends.first
    obtain ⟨halted, nodes⟩ := steps_of_endsAt running ends
    have past : calls = count + 1 + (calls - (count + 1)) := by omega
    rw [past, steps_of_isHalted consumer _ _ halted, nodes, ← whole.nodes, whole.length]
    omega

theorem run?_after_steps (calls : Nat) :
    ∃ whole rest, consumer.run? = some whole ∧
      (consumer.steps calls).consumer.run? = some rest ∧
      whole = (consumer.steps calls).before rest ∧
      Act.nodes whole.acts = Producer.produced consumer.producer count ∧
      Act.nodes rest.acts = (Producer.produced consumer.producer count).drop (min calls count) := by
  obtain ⟨halted, nodes⟩ := steps_of_endsAt running ends
  have ran := consumer.run?_eq_some_iff.mpr ⟨count + 1, halted, rfl⟩
  have split := ran
  rw [run?_steps consumer calls] at split
  obtain ⟨rest, returned, whole⟩ := Option.map_eq_some_iff.mp split
  refine ⟨_, rest, ran, returned, whole.symm, nodes, ?_⟩
  have parts : Act.nodes (consumer.steps calls).acts ++ Act.nodes rest.acts =
      Producer.produced consumer.producer count := by
    rw [← nodes, ← Act.nodes_append]
    exact congrArg (fun finished => Act.nodes finished.acts) whole
  rw [← parts, ← length_nodes_steps running ends calls, List.drop_left]

end Ends

theorem schedule_independent (producer : σ) (source : Option SourceText)
    (ends : ∃ count, (Producer.next (Producer.after producer count)).production.isTerminal = true)
    (calls : Nat) :
    let begun := start (Counted.start producer)
    let fresh := source.elim begun begun.withSource
    let produced := Producer.produced producer (Nat.find ends)
    let unseen := produced.drop (min calls produced.length)
    let stepped := fresh.steps calls
    ∃ whole rest, fresh.run? = some whole ∧
      Act.nodes whole.acts = produced ∧
      stepped.consumer.run? = some rest ∧
      rest.consumer = whole.consumer ∧
      rest.outcome = whole.outcome ∧
      stepped.acts ++ rest.acts = whole.acts ∧
      stepped.consumer.collect? =
        some { rest with outcome := whole.outcome.map fun _ => unseen } ∧
      (∀ transcript : Transcript, stepped.consumer.dump? transcript =
        some (rest, ⟨transcript.text ++ String.join (unseen.map fun node => node.render ++ "\n") ++
          match whole.outcome with
          | .ok _ => "Finish\n"
          | .error _ => "Error\n"⟩)) ∧
      ∀ (τ : Type) [TextSink τ] (sink : τ), ∃ dumped, stepped.consumer.dump? sink = some dumped ∧
        dumped.1.consumer = whole.consumer ∧
        dumped.1.outcome = whole.outcome ∧
        Act.nodes dumped.1.acts = unseen ∧
        dumped.2 = (TextSink.performAll sink
          ((unseen ++ [closing whole.outcome]).map fun node =>
            .renderedLine node.render)).value := by
  intro begun fresh produced unseen stepped
  have running : fresh.state = .running := by cases source <;> rfl
  have counted : fresh.producer = Counted.start producer := by cases source <;> rfl
  have endsAt : Producer.EndsAt fresh.producer (Nat.find ends) := by
    rw [counted]
    constructor
    · rw [Counted.after_start]
      exact Nat.find_spec ends
    · intro position below
      rw [Counted.after_start]
      exact Nat.find_min ends below
  have handed : Producer.produced fresh.producer (Nat.find ends) = produced := by
    rw [counted, Producer.produced, Counted.answers_start]
    rfl
  have length : produced.length = Nat.find ends := by
    have pulled := pulled_steps fresh running _ endsAt.first
    rw [← handed, ← pulled.nodes, pulled.length]
  obtain ⟨whole, rest, ran, returned, same, nodes, left⟩ :=
    run?_after_steps running endsAt calls
  have unread : Act.nodes rest.acts = unseen := by rw [left, handed, ← length]
  have outcome : rest.outcome = whole.outcome := by rw [same]; rfl
  have consumer : rest.consumer = whole.consumer := by rw [same]; rfl
  refine ⟨whole, rest, ran, nodes.trans handed, returned, consumer, outcome,
    congrArg (fun finished => finished.acts) same.symm, ?_, ?_, ?_⟩
  · rw [collect?, returned]
    simp [Finished.collected, unread, outcome]
  · intro transcript
    rw [dump?, returned, Option.map_some, ← Prod.eta (rest.dumped transcript),
      Finished.dumped_transcript, transcript_dumped, unread, outcome]
    cases whole.outcome <;> rfl
  · intro τ _ sink
    refine ⟨rest.dumped sink, by rw [dump?, returned]; rfl, consumer, outcome, ?_, ?_⟩
    · rw [nodes_dumped, unread]
    · rw [sink_dumped, unread, outcome]

theorem schedule_independent_relapsing :
    (∃ count, (Producer.next (Producer.after Endless.relapsing count)).production.isTerminal =
        true) ∧
      ∃ whole rest, (start (Counted.start Endless.relapsing)).run? = some whole ∧
        Act.nodes whole.acts = [.pending .method .start] ∧
        ((start (Counted.start Endless.relapsing)).steps 3).consumer.run? = some rest ∧
        rest.consumer = whole.consumer ∧
        ((start (Counted.start Endless.relapsing)).steps 3).acts ++ rest.acts = whole.acts := by
  have ends : ∃ count,
      (Producer.next (Producer.after Endless.relapsing count)).production.isTerminal = true :=
    ⟨1, rfl⟩
  have found : Nat.find ends = 1 := by
    rw [Nat.find_eq_iff]
    refine ⟨rfl, ?_⟩
    intro position below
    obtain rfl : position = 0 := by omega
    simp [Producer.after, Producer.next, Endless.next, Endless.relapsing, Production.isTerminal]
  obtain ⟨whole, rest, ran, nodes, returned, consumer, -, acts, -⟩ :=
    schedule_independent Endless.relapsing none ends 3
  refine ⟨ends, whole, rest, ran, ?_, returned, consumer, acts⟩
  rw [nodes, found]
  rfl

end Steps

end Consumer

end NodeFeed

import NodeFeed.Producer.Script
import NodeFeed.Proofs.Consumer.Answers
import NodeFeed.Proofs.Consumer.Trace

set_option autoImplicit false

namespace NodeFeed

-- The sentinel an answer brings, in whatever form.
def Production.sentinel? : Production → Option Node
  | .produced node => if node.isSentinel then some node else none
  | .done => some .finish
  | .failed _ => some .error

def Script.disguised : Script := ⟨[.produced .finish]⟩

def Node.halts : Node → State
  | .pending _ _ => .running
  | .error => .haltedError
  | .finish => .haltedFinish

namespace Producer

variable {σ : Type} [Producer σ]

theorem exists_of_mem_answers {producer : σ} {count : Nat} {answer : Production}
    (member : answer ∈ answers producer count) :
    ∃ position, (next (after producer position)).production = answer := by
  induction count with
  | zero => simp [answers] at member
  | succ count ih =>
      rcases List.mem_append.mp member with earlier | last
      · exact ih earlier
      · exact ⟨count, (List.mem_singleton.mp last).symm⟩

end Producer

theorem NodeStream.regular_of_mem_answers {stream : NodeStream} {count : Nat} {node : Node}
    (member : .produced node ∈ Producer.answers stream count) : node.isSentinel = false := by
  obtain ⟨position, answered⟩ := Producer.exists_of_mem_answers member
  obtain ⟨-, regular, -⟩ := NodeStream.next_produced answered
  simpa [Node.hasNext] using regular

namespace Consumer

variable {σ : Type}

-- The rule for a consumer that has received these answers and handed over these nodes.
structure Obeys (consumer : Consumer σ) (received : List Production) (visited : List Node) :
    Prop where
  regular : ∀ node ∈ visited, node.isSentinel = false
  counted : consumer.processed = (visited.filter Node.hasNext).length
  halted : ∀ earlier answer later sentinel, received = earlier ++ answer :: later →
    (∀ other ∈ earlier, other.sentinel? = none) → answer.sentinel? = some sentinel →
      later = [] ∧ consumer.state = sentinel.halts

section Answered

variable [Producer σ] {producer : σ} {consumer : Consumer (Counted σ)} {acts : List Act}
  {closing : List Production}

theorem Answered.mem_nodes_iff (answered : Answered producer consumer acts closing) (node : Node) :
    node ∈ Act.nodes acts ↔
      .produced node ∈ Producer.answers producer consumer.producer.requests := by
  have unclosed := answered.closes.not_produced node
  simp [answered.answers, unclosed]

theorem Closing.state_of_sentinel {state : State} {answer : Production} {sentinel : Node}
    (closes : Closing state [answer]) (brings : answer.sentinel? = some sentinel) :
    state = sentinel.halts := by
  cases closes with
  | done =>
      obtain rfl := Option.some.inj brings
      rfl
  | failed reason =>
      obtain rfl := Option.some.inj brings
      rfl

theorem Answered.halted_of_sentinel (answered : Answered producer consumer acts closing)
    {earlier later : List Production} {answer : Production} {sentinel : Node}
    (split : Producer.answers producer consumer.producer.requests = earlier ++ answer :: later)
    (brings : answer.sentinel? = some sentinel) (terminal : answer.isTerminal = true) :
    later = [] ∧ consumer.state = sentinel.halts := by
  obtain ⟨last, rfl⟩ := answered.closing_eq split terminal
  exact ⟨last, answered.closes.state_of_sentinel brings⟩

theorem Answered.obeys_iff (answered : Answered producer consumer acts closing) :
    consumer.Obeys (Producer.answers producer consumer.producer.requests) (Act.nodes acts) ↔
      ∀ node, .produced node ∈ Producer.answers producer consumer.producer.requests →
        node.isSentinel = false := by
  constructor
  · intro obeys node member
    exact obeys.regular node ((answered.mem_nodes_iff node).mpr member)
  · intro regular
    have visited : ∀ node ∈ Act.nodes acts, node.isSentinel = false := by
      intro node member
      exact regular node ((answered.mem_nodes_iff node).mp member)
    constructor
    case regular => exact visited
    case counted =>
      have whole : (Act.nodes acts).filter Node.hasNext = Act.nodes acts := by
        apply List.filter_eq_self.mpr
        intro node member
        simp [Node.hasNext, visited node member]
      rw [whole]
      exact answered.processed
    case halted =>
      intro earlier answer later sentinel split _ brings
      have terminal : answer.isTerminal = true := by
        cases answer with
        | produced node =>
            have plain := regular node (by simp [split])
            simp [Production.sentinel?, plain] at brings
        | done => rfl
        | failed reason => rfl
      exact answered.halted_of_sentinel split brings terminal

end Answered

end Consumer

namespace Session

open Consumer

-- A run that is under way, or never returns, is a number of steps, so `count` reaches every moment.
theorem sentinels_obeyed_iff {σ : Type} [Producer σ] (producer : σ) (commands : List Command)
    (reached : Reached (Counted σ))
    (led : (start (Counted.start producer)).after? commands = some reached) (count : Nat) :
    let moved := reached.session.consumer.steps count
    let received := Producer.answers producer moved.consumer.producer.requests
    let visited := Act.nodes (reached.acts ++ moved.acts)
    (moved.consumer.Obeys received visited ↔
      ∀ node, .produced node ∈ received → node.isSentinel = false) ∧
      ∀ nodes requests node,
        .produced node ∈ Producer.answers (NodeStream.ofNodes nodes) requests →
          node.isSentinel = false := by
  intro moved received visited
  have kept := answered_kept producer
  have before := after?_kept kept (start (Counted.start producer)) []
    ⟨[], answered_start producer⟩ commands reached led
  obtain ⟨closing, answered⟩ := kept.steps reached.session.consumer _ before count
  refine ⟨answered.obeys_iff, ?_⟩
  intro nodes requests node member
  exact NodeStream.regular_of_mem_answers member

theorem sentinels_obeyed_relapsing :
    ∃ reached, (start (Counted.start Endless.relapsing)).after? [.step] = some reached ∧
      (reached.session.consumer.steps 3).consumer.Obeys
        [.produced (.pending .method .start), .failed (.productionFailed none)]
        [.pending .method .start] := by
  refine ⟨_, rfl, ?_⟩
  apply (sentinels_obeyed_iff Endless.relapsing [.step] _ rfl 3).1.mpr
  intro node member
  have listed : Production.produced node ∈
      [.produced (.pending .method .start), .failed (.productionFailed none)] := member
  obtain rfl : node = .pending .method .start := by simpa using listed
  rfl

theorem finish_passed_over :
    Act.nodes ((start (Counted.start Script.disguised)).acts [.step]) = [.finish] ∧
      ((start (Counted.start Script.disguised)).after [.step]).consumer.processed = 1 ∧
      ((start (Counted.start Script.disguised)).after [.step]).consumer.state = .running ∧
      ¬((start (Counted.start Script.disguised)).after [.step]).consumer.Obeys
        (Producer.answers Script.disguised 1) [.finish] := by
  refine ⟨rfl, rfl, rfl, ?_⟩
  intro obeys
  have regular := obeys.regular .finish (by simp)
  simp [Node.isSentinel, Node.kind, Kind.isSentinel] at regular

end Session

end NodeFeed

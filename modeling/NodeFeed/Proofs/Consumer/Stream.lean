import Mathlib.Data.List.TakeWhile
import NodeFeed.Producer.Counted
import NodeFeed.Producer.Stream
import NodeFeed.Proofs.Consumer.Run

set_option autoImplicit false

namespace NodeFeed

namespace NodeStream

def regular (nodes : List Node) : List Node := nodes.takeWhile Node.hasNext

-- The last place among the nodes seen, or `last` if none of them has one.
def spanAfter (last : Option Span) (seen : List Node) : Option Span :=
  (seen.filterMap Node.span?).getLast?.or last

theorem spanAfter_cons (last : Option Span) (node : Node) (seen : List Node) :
    spanAfter last (node :: seen) = spanAfter (node.span?.or last) seen := by
  cases place : node.span? with
  | none => simp [spanAfter, place]
  | some span =>
      simp only [spanAfter, List.filterMap_cons, place, List.getLast?_cons, Option.some_or]
      cases (seen.filterMap Node.span?).getLast? <;> rfl

theorem hasNext_of_mem_regular {nodes : List Node} {node : Node} (member : node ∈ regular nodes) :
    node.hasNext = true :=
  List.mem_takeWhile_imp member

-- Every node before the first sentinel has a place, so the last place is that of the last node.
theorem spanAfter_regular (nodes : List Node) :
    spanAfter none (regular nodes) = (regular nodes).getLast?.bind Node.span? := by
  obtain empty | ⟨before, node, split⟩ := List.eq_nil_or_concat (regular nodes)
  · simp [empty, spanAfter]
  · have next : node.hasNext = true := by
      have member : node ∈ regular nodes := by simp [split]
      exact hasNext_of_mem_regular member
    cases node with
    | pending kind span => simp [split, spanAfter, Node.span?]
    | error => simp [Node.hasNext, Node.isSentinel, Node.kind, Kind.isSentinel] at next
    | finish => simp [Node.hasNext, Node.isSentinel, Node.kind, Kind.isSentinel] at next

def failureAfter (seen : List Node) (source : Option SourceText) : Diagnostic :=
  let span := seen.getLast?.bind Node.span?
  { file := (source.map SourceText.name).getD ""
    code := ⟨100⟩
    category := .production
    message := "node production failed"
    span := span
    sourceLine :=
      (source.bind fun source => span.bind fun span => source.line span.startLine).getD "" }

end NodeStream

namespace Consumer

open NodeStream

theorem explain_productionFailed {σ : Type} (consumer : Consumer σ) (seen : List Node) :
    consumer.explain (.productionFailed (seen.getLast?.bind Node.span?)) =
      failureAfter seen consumer.source := by
  cases attached : consumer.source with
  | none => simp [explain, attached, failureAfter, Diagnostic.productionFailed,
      Diagnostic.ofCode, Code.productionFailed, Code.category]
  | some source => simp [explain, attached, failureAfter, Diagnostic.productionFailed,
      Diagnostic.ofCode, Code.productionFailed, Code.category, Diagnostic.attach,
      Diagnostic.lineIn]

def ended (consumer : Consumer (Counted NodeStream)) : Consumer (Counted NodeStream) :=
  let stream := consumer.producer.producer
  let seen := regular stream.nodes
  let last := spanAfter stream.last seen
  { consumer with
    producer :=
      { producer := ⟨stream.nodes.drop (seen.length + 1), last⟩
        requests := consumer.producer.requests + seen.length + 1 }
    state := if stream.nodes[seen.length]? = some .error then .haltedError else .haltedFinish
    processed := consumer.processed + seen.length
    failure :=
      if stream.nodes[seen.length]? = some .error then
        some (consumer.explain (.productionFailed last))
      else consumer.failure }

theorem step_pending (consumer : Consumer (Counted NodeStream))
    (running : consumer.state = .running) (kind : PendingKind) (span : Span) (rest : List Node)
    (nodes : consumer.producer.producer.nodes = .pending kind span :: rest) :
    consumer.step =
      ⟨{ consumer with
          producer := ⟨⟨rest, some span⟩, consumer.producer.requests + 1⟩
          processed := consumer.processed + 1 },
        [.logged (.consumed (.pending kind) consumer.processed),
          .visited (.pending kind span)]⟩ := by
  obtain ⟨⟨⟨_, last⟩, requests⟩, state, processed, source, failure⟩ := consumer
  subst running nodes
  rfl

theorem ended_step (consumer : Consumer (Counted NodeStream)) (running : consumer.state = .running)
    (kind : PendingKind) (span : Span) (rest : List Node)
    (nodes : consumer.producer.producer.nodes = .pending kind span :: rest) :
    consumer.step.consumer.ended = consumer.ended := by
  have seen : regular (.pending kind span :: rest) = .pending kind span :: regular rest := rfl
  have last : spanAfter consumer.producer.producer.last (.pending kind span :: regular rest) =
      spanAfter (some span) (regular rest) := spanAfter_cons _ _ _
  rw [step_pending consumer running kind span rest nodes]
  simp only [ended, seen, last, nodes, List.length_cons, List.getElem?_cons_succ,
    List.drop_succ_cons]
  have requests : consumer.producer.requests + 1 + (regular rest).length + 1 =
      consumer.producer.requests + ((regular rest).length + 1) + 1 := by omega
  have processed : consumer.processed + 1 + (regular rest).length =
      consumer.processed + ((regular rest).length + 1) := by omega
  rw [requests, processed]
  rfl

theorem run_stream (consumer : Consumer (Counted NodeStream))
    (running : consumer.state = .running) :
    consumer.run.consumer = consumer.ended ∧
      Act.nodes consumer.run.acts = regular consumer.producer.producer.nodes := by
  -- The induction is on the nodes still to come; a step takes the first of them.
  generalize nodes : consumer.producer.producer.nodes = remaining
  induction remaining generalizing consumer with
  | nil =>
      obtain ⟨⟨⟨_, last⟩, requests⟩, state, processed, source, failure⟩ := consumer
      subst running nodes
      rw [run_of_isHalted _ rfl]
      exact ⟨rfl, rfl⟩
  | cons node rest ih =>
      cases node with
      | pending kind span =>
          have step := step_pending consumer running kind span rest nodes
          have goesOn : consumer.step.consumer.state = .running := by rw [step]; exact running
          obtain ⟨last, visited⟩ := ih consumer.step.consumer goesOn (by rw [step])
          rw [run_of_running consumer goesOn]
          refine ⟨?_, ?_⟩
          · exact last.trans (ended_step consumer running kind span rest nodes)
          · rw [Act.nodes_append, visited, step]
            rfl
      | error =>
          obtain ⟨⟨⟨_, last⟩, requests⟩, state, processed, source, failure⟩ := consumer
          subst running nodes
          rw [run_of_isHalted _ rfl]
          exact ⟨rfl, rfl⟩
      | finish =>
          obtain ⟨⟨⟨_, last⟩, requests⟩, state, processed, source, failure⟩ := consumer
          subst running nodes
          rw [run_of_isHalted _ rfl]
          exact ⟨rfl, rfl⟩

theorem run_ofNodes (nodes : List Node) (source : Option SourceText) :
    let fresh := start (Counted.start (NodeStream.ofNodes nodes))
    let finished := (source.elim fresh fresh.withSource).run
    let seen := regular nodes
    finished.consumer.producer.requests = seen.length + 1 ∧
      Act.nodes finished.acts = seen ∧
      if nodes[seen.length]? = some .error then
        finished.consumer.state = .haltedError ∧
          finished.outcome = .error (failureAfter seen source) ∧
          finished.consumer.failure = some (failureAfter seen source)
      else
        finished.consumer.state = .haltedFinish ∧
          finished.outcome = .ok ⟨seen.length⟩ ∧
          finished.consumer.failure = none := by
  intro fresh finished seen
  let begun : Consumer (Counted NodeStream) := { fresh with source := source }
  have attached : finished = begun.run := by cases source <;> rfl
  obtain ⟨last, visited⟩ := run_stream begun rfl
  have failure : begun.explain (.productionFailed (spanAfter none seen)) =
      failureAfter seen source := by
    rw [spanAfter_regular]
    exact explain_productionFailed begun seen
  have requests : begun.ended.producer.requests = 0 + seen.length + 1 := rfl
  have processed : begun.ended.processed = 0 + seen.length := rfl
  rw [attached, outcome_run, last, requests, Nat.zero_add]
  refine ⟨rfl, visited, ?_⟩
  by_cases failed : nodes[seen.length]? = some .error
  · have state : begun.ended.state = .haltedError := if_pos failed
    have kept : begun.ended.failure = some (failureAfter seen source) :=
      (if_pos failed).trans (congrArg some failure)
    simp [failed, state, kept, outcome]
  · have state : begun.ended.state = .haltedFinish := if_neg failed
    have kept : begun.ended.failure = none := if_neg failed
    simp [failed, state, kept, processed, outcome]

end Consumer

end NodeFeed

import Mathlib.Data.List.Induction
import NodeFeed.Proofs.Consumer.Accounting
import NodeFeed.Proofs.Consumer.Stream
import NodeFeed.Proofs.Consumer.Trace

set_option autoImplicit false

namespace NodeFeed

structure Recorded (σ : Type) where
  producer : σ
  given : List Production

namespace Recorded

variable {σ : Type}

def start (producer : σ) : Recorded σ := ⟨producer, []⟩

def next [Producer σ] (recorded : Recorded σ) : Answer (Recorded σ) :=
  let answer := Producer.next recorded.producer
  ⟨answer.production, answer.events, ⟨answer.rest, recorded.given ++ [answer.production]⟩⟩

instance [FiniteProducer σ] : FiniteProducer (Recorded σ) where
  next := Recorded.next
  remaining recorded := FiniteProducer.remaining recorded.producer
  remaining_next_lt recorded node produced :=
    FiniteProducer.remaining_next_lt recorded.producer node produced

theorem transparent : Transparent (Recorded.producer : Recorded NodeStream → NodeStream) :=
  ⟨fun _ => rfl, fun _ => rfl, fun _ => rfl⟩

end Recorded

namespace Recorded

variable {σ : Type} [FiniteProducer σ]

-- The record holds the answers from the first one on, and the producer stands after the last.
structure Follows (producer : σ) (recorded : Recorded σ) : Prop where
  position : recorded.producer = Producer.after producer recorded.given.length
  given : recorded.given = Producer.answers producer recorded.given.length

theorem follows_start (producer : σ) : Follows producer (start producer) :=
  ⟨rfl, rfl⟩

theorem Follows.next {producer : σ} {recorded : Recorded σ} (follows : Follows producer recorded) :
    Follows producer (Producer.next recorded).rest := by
  have length : (Producer.next recorded).rest.given.length = recorded.given.length + 1 :=
    List.length_append
  constructor
  · rw [length, Producer.after, ← follows.position]
    rfl
  · rw [length, Producer.answers, ← follows.position, ← follows.given]
    rfl

theorem Follows.after {producer : σ} {recorded : Recorded σ} (follows : Follows producer recorded)
    (pulls : Nat) : Follows producer (Producer.after recorded pulls) := by
  induction pulls with
  | zero => exact follows
  | succ pulls ih => exact ih.next

theorem length_given_after (recorded : Recorded σ) (pulls : Nat) :
    (Producer.after recorded pulls).given.length = recorded.given.length + pulls := by
  induction pulls with
  | zero => rfl
  | succ pulls ih =>
      have length : (Producer.after recorded (pulls + 1)).given.length =
          (Producer.after recorded pulls).given.length + 1 := List.length_append
      rw [length, ih, Nat.add_assoc]

theorem producer_after (recorded : Recorded σ) (pulls : Nat) :
    (Producer.after recorded pulls).producer = Producer.after recorded.producer pulls := by
  induction pulls with
  | zero => rfl
  | succ pulls ih =>
      rw [Producer.after, Producer.after, ← ih]
      rfl

end Recorded

namespace NodeStream

theorem spanAfter_concat (last : Option Span) (seen : List Node) (node : Node) :
    spanAfter last (seen ++ [node]) = node.span?.or (spanAfter last seen) := by
  cases place : node.span? <;> simp [spanAfter, place]

theorem spanAfter_none (seen : List Node) :
    spanAfter none seen = (seen.filter Node.hasNext).getLast?.bind Node.span? := by
  induction seen using List.reverseRecOn with
  | nil => rfl
  | append_singleton seen node ih =>
      rw [spanAfter_concat, ih]
      cases node <;>
        simp [Node.span?, Node.hasNext, Node.isSentinel, Node.kind, Kind.isSentinel]

-- One request, with the list and the number of the nodes taken from it kept apart.
theorem next_drop (nodes : List Node) (position : Nat) (last : Option Span) :
    NodeStream.next ⟨nodes.drop position, last⟩ =
      match nodes[position]? with
      | some node =>
          ⟨.ofNode node (node.span?.or last), [],
            ⟨nodes.drop (position + 1), node.span?.or last⟩⟩
      | none => ⟨.done, [.ranOut], ⟨nodes.drop (position + 1), last⟩⟩ := by
  cases found : nodes[position]? with
  | none =>
      have past : nodes.length ≤ position := List.getElem?_eq_none_iff.mp found
      rw [List.drop_eq_nil_of_le past, List.drop_eq_nil_of_le (Nat.le_succ_of_le past)]
      rfl
  | some node =>
      obtain ⟨within, here⟩ := List.getElem?_eq_some_iff.mp found
      rw [List.drop_eq_getElem_cons within, here]
      rfl

theorem after_eq (stream : NodeStream) (count : Nat) :
    Producer.after stream count =
      ⟨stream.nodes.drop count, spanAfter stream.last (stream.nodes.take count)⟩ := by
  induction count with
  | zero => rfl
  | succ count ih =>
      have asked : Producer.after stream (count + 1) =
          (NodeStream.next ⟨stream.nodes.drop count,
            spanAfter stream.last (stream.nodes.take count)⟩).rest := by
        rw [Producer.after, ih]
        rfl
      rw [asked, next_drop, List.take_add_one]
      cases stream.nodes[count]? with
      | none => simp
      | some node => simp [spanAfter_concat]

def answerAt (nodes : List Node) (position : Nat) : Production :=
  match nodes[position]? with
  | some node =>
      .ofNode node (((nodes.take position).filter Node.hasNext).getLast?.bind Node.span?)
  | none => .done

-- An earlier sentinel leaves the place of the last regular node as it is.
theorem production_after (nodes : List Node) (position : Nat) :
    (Producer.next (Producer.after (ofNodes nodes) position)).production =
      answerAt nodes position := by
  have asked : Producer.next (Producer.after (ofNodes nodes) position) =
      NodeStream.next ⟨nodes.drop position, spanAfter none (nodes.take position)⟩ := by
    rw [after_eq]
    rfl
  rw [asked, next_drop, answerAt, ← spanAfter_none]
  cases nodes[position]? with
  | none => rfl
  | some node => cases node <;> rfl

end NodeStream

namespace Consumer

variable {σ : Type} [FiniteProducer σ]

structure Consulted (producer : σ) (consumer : Consumer (Recorded σ)) : Prop where
  follows : consumer.producer.Follows producer
  requests : consumer.producer.given.length =
    consumer.processed + if consumer.state.isHalted then 1 else 0

theorem consulted_kept (producer : σ) :
    Kept fun (consumer : Consumer (Recorded σ)) (_ : List Act) =>
      consumer.Consulted producer where
  attach _ _ _ consulted := ⟨consulted.follows, consulted.requests⟩
  step consumer _ consulted := by
    have follows := consulted.follows.next
    have requests := consulted.requests
    have longer : (Producer.next consumer.producer).rest.given.length =
        consumer.producer.given.length + 1 := List.length_append
    rcases consumer.step_cases with ⟨-, same⟩ | ⟨running, _, -, moved⟩ | ⟨running, -, moved⟩ |
      ⟨running, _, -, moved⟩
    · rw [same]
      exact consulted
    all_goals
      simp only [running, State.isHalted, Bool.false_eq_true, if_false] at requests
      rw [moved]
      exact ⟨follows, by simp [longer, requests, running, State.isHalted]⟩

end Consumer

namespace Session

open Consumer

theorem stream_resumes (nodes : List Node) (commands : List Command) (pulls : Nat) :
    let fresh := start (Recorded.start (NodeStream.ofNodes nodes))
    let visited := Act.nodes (fresh.acts commands)
    let consumer := (fresh.after commands).consumer
    let unread := consumer.producer.producer.nodes
    let pulled := Producer.after consumer.producer pulls
    (∃ sentinel : Option Node, visited ++ sentinel.toList ++ unread = nodes ∧
      Stopped consumer.state sentinel unread) ∧
      (∀ node ∈ visited, node.hasNext = true) ∧
      pulled.producer.nodes = unread.drop pulls ∧
      pulled.given.length =
        consumer.processed + (if consumer.state.isHalted then 1 else 0) + pulls ∧
      ∀ position < pulled.given.length,
        pulled.given[position]? = some (NodeStream.answerAt nodes position) := by
  intro fresh visited consumer unread pulled
  obtain ⟨sentinel, read⟩ := after_kept (read_kept Recorded.transparent nodes) fresh []
    ⟨none, read_start Recorded.producer (Recorded.start (NodeStream.ofNodes nodes))⟩ commands
  have consulted : consumer.Consulted (NodeStream.ofNodes nodes) :=
    after_kept (consulted_kept (NodeStream.ofNodes nodes)) fresh []
      ⟨Recorded.follows_start _, rfl⟩ commands
  refine ⟨⟨sentinel, read.whole, read.stopped⟩, read.regular, ?_, ?_, ?_⟩
  · rw [Recorded.producer_after, NodeStream.after_eq]
  · rw [Recorded.length_given_after, consulted.requests]
  · intro position within
    have follows := consulted.follows.after pulls
    rw [follows.given, Producer.getElem?_answers _ within, NodeStream.production_after]

end Session

end NodeFeed

import NodeFeed.Producer.Basic

set_option autoImplicit false

namespace NodeFeed

structure Counted (σ : Type) where
  producer : σ
  requests : Nat

namespace Counted

def start {σ : Type} (producer : σ) : Counted σ := ⟨producer, 0⟩

def next {σ : Type} [Producer σ] (counted : Counted σ) : Answer (Counted σ) :=
  let answer := Producer.next counted.producer
  ⟨answer.production, answer.events, ⟨answer.rest, counted.requests + 1⟩⟩

end Counted

instance {σ : Type} [FiniteProducer σ] : FiniteProducer (Counted σ) where
  next := Counted.next
  remaining counted := FiniteProducer.remaining counted.producer
  remaining_next_lt counted node produced :=
    FiniteProducer.remaining_next_lt counted.producer node produced

end NodeFeed

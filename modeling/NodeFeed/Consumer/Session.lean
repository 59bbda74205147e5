import NodeFeed.Consumer.Basic

set_option autoImplicit false

namespace NodeFeed

inductive Command
  | attach (source : SourceText)
  | step
  | run
  | collect
  | dump

inductive Reply
  | attached
  | stepped (state : State)
  | ran (outcome : Except Diagnostic Summary)
  | collected (outcome : Except Diagnostic (List Node))
  | dumped (outcome : Except Diagnostic Summary)

structure Session (σ : Type) where
  consumer : Consumer σ
  transcript : Transcript

structure Turn (σ : Type) where
  session : Session σ
  reply : Reply
  acts : List Act

namespace Session

variable {σ : Type}

def start (producer : σ) : Session σ := ⟨.start producer, .empty⟩

def perform [FiniteProducer σ] (session : Session σ) : Command → Turn σ
  | .attach source =>
      ⟨{ session with consumer := session.consumer.withSource source }, .attached, []⟩
  | .step =>
      let moved := session.consumer.step
      ⟨{ session with consumer := moved.consumer }, .stepped moved.consumer.state, moved.acts⟩
  | .run =>
      let finished := session.consumer.run
      ⟨{ session with consumer := finished.consumer }, .ran finished.outcome, finished.acts⟩
  | .collect =>
      let finished := session.consumer.collect
      ⟨{ session with consumer := finished.consumer }, .collected finished.outcome, finished.acts⟩
  | .dump =>
      let (finished, transcript) := session.consumer.dump session.transcript
      ⟨⟨finished.consumer, transcript⟩, .dumped finished.outcome, finished.acts⟩

def performAll [FiniteProducer σ] (session : Session σ) : List Command → List (Turn σ)
  | [] => []
  | command :: rest =>
      let turn := session.perform command
      turn :: turn.session.performAll rest

end Session

end NodeFeed

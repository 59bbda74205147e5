import NodeFeed.Producer.Basic
import NodeFeed.Sink.Basic

set_option autoImplicit false

namespace NodeFeed

inductive State
  | running
  | haltedError
  | haltedFinish
deriving DecidableEq

namespace State

def name : State → String
  | .running => "Running"
  | .haltedError => "HaltedError"
  | .haltedFinish => "HaltedFinish"

def isHalted : State → Bool
  | .running => false
  | .haltedError | .haltedFinish => true

end State

inductive Act
  | logged (event : Event)
  | visited (node : Node)
deriving DecidableEq

namespace Act

def event? : Act → Option Event
  | .logged event => some event
  | .visited _ => none

def node? : Act → Option Node
  | .logged _ => none
  | .visited node => some node

def events (acts : List Act) : List Event := acts.filterMap event?

def nodes (acts : List Act) : List Node := acts.filterMap node?

end Act

structure Summary where
  processed : Nat
deriving DecidableEq

structure Consumer (σ : Type) where
  producer : σ
  state : State
  processed : Nat
  source : Option SourceText
  failure : Option Diagnostic

structure Moved (σ : Type) where
  consumer : Consumer σ
  acts : List Act

structure Finished (σ : Type) (α : Type) extends Moved σ where
  outcome : Except Diagnostic α

namespace Consumer

variable {σ : Type}

def start (producer : σ) : Consumer σ where
  producer := producer
  state := .running
  processed := 0
  source := none
  failure := none

def withSource (consumer : Consumer σ) (source : SourceText) : Consumer σ :=
  { consumer with source := some source }

def explain (consumer : Consumer σ) (reason : Diagnostic) : Diagnostic :=
  match consumer.source with
  | some source => reason.attach source
  | none => reason

def receive (consumer : Consumer σ) (answer : Answer σ) : Moved σ :=
  let asked := { consumer with producer := answer.rest }
  let said := answer.events.map Act.logged
  match answer.production with
  | .produced node =>
      { consumer := { asked with processed := consumer.processed + 1 }
        acts := said ++ [.logged (.consumed node.kind consumer.processed), .visited node] }
  | .done =>
      { consumer := { asked with state := .haltedFinish }
        acts := said ++ [.logged (.finished consumer.processed)] }
  | .failed reason =>
      let failure := consumer.explain reason
      { consumer := { asked with state := .haltedError, failure := some failure }
        acts := said ++ [.logged (.failed consumer.processed failure)] }

def step [Producer σ] (consumer : Consumer σ) : Moved σ :=
  if consumer.state.isHalted then ⟨consumer, []⟩
  else consumer.receive (Producer.next consumer.producer)

theorem step_of_isHalted [Producer σ] (consumer : Consumer σ)
    (halted : consumer.state.isHalted = true) : consumer.step = ⟨consumer, []⟩ := by
  simp [step, halted]

theorem remaining_step_lt [FiniteProducer σ] (consumer : Consumer σ)
    (running : consumer.step.consumer.state = .running) :
    FiniteProducer.remaining consumer.step.consumer.producer <
      FiniteProducer.remaining consumer.producer := by
  have started : consumer.state.isHalted = false := by
    cases halted : consumer.state.isHalted with
    | false => rfl
    | true =>
        have started : consumer.state = .running := by
          simpa [step_of_isHalted consumer halted] using running
        simp [started, State.isHalted] at halted
  cases produced : (Producer.next consumer.producer).production with
  | produced node =>
      simpa [step, started, receive, produced] using
        FiniteProducer.remaining_next_lt consumer.producer node produced
  | done => simp [step, started, receive, produced] at running
  | failed reason => simp [step, started, receive, produced] at running

def run [FiniteProducer σ] (consumer : Consumer σ) : Finished σ Summary :=
  let moved := consumer.step
  match _running : moved.consumer.state with
  | .running =>
      let finished := moved.consumer.run
      { finished with acts := moved.acts ++ finished.acts }
  | .haltedFinish => { moved with outcome := .ok ⟨moved.consumer.processed⟩ }
  | .haltedError =>
      { moved with outcome := .error (moved.consumer.failure.getD (.productionFailed none)) }
termination_by FiniteProducer.remaining consumer.producer
decreasing_by exact remaining_step_lt consumer _running

def collect [FiniteProducer σ] (consumer : Consumer σ) : Finished σ (List Node) :=
  let finished := consumer.run
  { finished with outcome := finished.outcome.map fun _ => Act.nodes finished.acts }

def printActs {τ : Type} [TextSink τ] (sink : τ) : List Act → List Act × τ
  | [] => ([], sink)
  | .logged event :: rest =>
      let (acts, sink) := printActs sink rest
      (.logged event :: acts, sink)
  | .visited node :: rest =>
      let printed := TextSink.printRenderedLine sink node.render
      let (acts, sink) := printActs printed.value rest
      (.visited node :: (printed.events.map .logged ++ acts), sink)

/-- The sentinel that stands for how a run ended. -/
def closing : Except Diagnostic Summary → Node
  | .ok _ => .finish
  | .error _ => .error

def dump {τ : Type} [FiniteProducer σ] [TextSink τ] (consumer : Consumer σ) (sink : τ) :
    Finished σ Summary × τ :=
  let finished := consumer.run
  let (acts, sink) := printActs sink finished.acts
  let closed := TextSink.printRenderedLine sink (closing finished.outcome).render
  ({ finished with acts := acts ++ closed.events.map .logged }, closed.value)

end Consumer

end NodeFeed

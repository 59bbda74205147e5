import NodeFeed.Producer.Stream
import NodeFeed.Proofs.Consumer.Halting

set_option autoImplicit false

namespace NodeFeed

namespace Act

@[simp] theorem events_append (first second : List Act) :
    events (first ++ second) = events first ++ events second :=
  List.filterMap_append

@[simp] theorem events_map_logged (reported : List Event) :
    events (reported.map .logged) = reported := by
  simp [events, List.filterMap_map, Function.comp_def, event?]

@[simp] theorem events_logged (event : Event) (rest : List Act) :
    events (.logged event :: rest) = event :: events rest := rfl

@[simp] theorem events_visited (node : Node) (rest : List Act) :
    events (.visited node :: rest) = events rest := rfl

@[simp] theorem events_nil : events [] = [] := rfl

end Act

namespace NodeStream

theorem next_produced {stream : NodeStream} {node : Node}
    (answered : stream.next.production = .produced node) :
    stream.nodes = node :: stream.next.rest.nodes ∧ node.hasNext = true ∧
      stream.next.events = [] := by
  obtain ⟨nodes, last⟩ := stream
  cases nodes with
  | nil => simp [next] at answered
  | cons first rest =>
      cases first with
      | pending kind span =>
          obtain rfl := Production.produced.inj answered
          exact ⟨rfl, rfl, rfl⟩
      | error => simp [next, Production.ofNode] at answered
      | finish => simp [next, Production.ofNode] at answered

theorem next_done {stream : NodeStream} (answered : stream.next.production = .done) :
    (stream.nodes = .finish :: stream.next.rest.nodes ∧ stream.next.events = []) ∨
      (stream.nodes = [] ∧ stream.next.rest.nodes = [] ∧ stream.next.events = [.ranOut]) := by
  obtain ⟨nodes, last⟩ := stream
  cases nodes with
  | nil => exact .inr ⟨rfl, rfl, rfl⟩
  | cons first rest =>
      cases first with
      | pending kind span => simp [next, Production.ofNode] at answered
      | error => simp [next, Production.ofNode] at answered
      | finish => exact .inl ⟨rfl, rfl⟩

theorem next_failed {stream : NodeStream} {reason : Diagnostic}
    (answered : stream.next.production = .failed reason) :
    stream.nodes = .error :: stream.next.rest.nodes ∧ stream.next.events = [] := by
  obtain ⟨nodes, last⟩ := stream
  cases nodes with
  | nil => simp [next] at answered
  | cons first rest =>
      cases first with
      | pending kind span => simp [next, Production.ofNode] at answered
      | error => exact ⟨rfl, rfl⟩
      | finish => simp [next, Production.ofNode] at answered

end NodeStream

structure Transparent {σ : Type} [Producer σ] (stream : σ → NodeStream) : Prop where
  production : ∀ producer, (Producer.next producer).production = (stream producer).next.production
  events : ∀ producer, (Producer.next producer).events = (stream producer).next.events
  rest : ∀ producer, stream (Producer.next producer).rest = (stream producer).next.rest

theorem transparent_id : Transparent (id : NodeStream → NodeStream) :=
  ⟨fun _ => rfl, fun _ => rfl, fun _ => rfl⟩

namespace Consumer

-- The sentinel that a consumer in a given state has read, and what is left to read.
inductive Stopped : State → Option Node → List Node → Prop
  | running (rest : List Node) : Stopped .running none rest
  | error (rest : List Node) : Stopped .haltedError (some .error) rest
  | finish (rest : List Node) : Stopped .haltedFinish (some .finish) rest
  | ranOut : Stopped .haltedFinish none []

theorem Stopped.of_running {sentinel : Option Node} {rest : List Node}
    (stopped : Stopped .running sentinel rest) : sentinel = none := by
  cases stopped
  rfl

def consumedEvents (visited : List Node) : List Event :=
  visited.mapIdx fun position node => .consumed node.kind position

theorem consumedEvents_concat (visited : List Node) (node : Node) :
    consumedEvents (visited ++ [node]) =
      consumedEvents visited ++ [.consumed node.kind visited.length] := by
  simp [consumedEvents, List.mapIdx_append]

variable {σ : Type}

def closingEvents (consumer : Consumer σ) (sentinel : Option Node) : List Event :=
  match consumer.state with
  | .running => []
  | .haltedFinish =>
      (if sentinel = none then [.ranOut] else []) ++ [.finished consumer.processed]
  | .haltedError => consumer.failure.toList.map (.failed consumer.processed)

structure Read (stream : σ → NodeStream) (nodes : List Node) (consumer : Consumer σ)
    (acts : List Act) (sentinel : Option Node) : Prop where
  whole : Act.nodes acts ++ sentinel.toList ++ (stream consumer.producer).nodes = nodes
  regular : ∀ node ∈ Act.nodes acts, node.hasNext = true
  stopped : Stopped consumer.state sentinel (stream consumer.producer).nodes
  processed : consumer.processed = (Act.nodes acts).length
  log : Act.events acts = consumedEvents (Act.nodes acts) ++ consumer.closingEvents sentinel

theorem read_start (stream : σ → NodeStream) (producer : σ) :
    Read stream (stream producer).nodes (start producer) [] none where
  whole := rfl
  regular := by simp
  stopped := .running _
  processed := rfl
  log := rfl

theorem Read.of_running {stream : σ → NodeStream} {nodes : List Node} {consumer : Consumer σ}
    {acts : List Act} {sentinel : Option Node} (read : Read stream nodes consumer acts sentinel)
    (running : consumer.state = .running) :
    Act.nodes acts ++ (stream consumer.producer).nodes = nodes ∧
      Act.events acts = consumedEvents (Act.nodes acts) := by
  obtain ⟨whole, -, stopped, -, log⟩ := read
  rw [running] at stopped
  obtain rfl := stopped.of_running
  constructor
  · simpa using whole
  · simpa [closingEvents, running] using log

theorem Read.halt {stream : σ → NodeStream} {nodes : List Node} {consumer halted : Consumer σ}
    {acts more : List Act} {sentinel stop : Option Node}
    (read : Read stream nodes consumer acts sentinel) (running : consumer.state = .running)
    (rest : stop.toList ++ (stream halted.producer).nodes = (stream consumer.producer).nodes)
    (stopped : Stopped halted.state stop (stream halted.producer).nodes)
    (processed : halted.processed = consumer.processed) (unvisited : Act.nodes more = [])
    (log : Act.events more = halted.closingEvents stop) :
    Read stream nodes halted (acts ++ more) stop := by
  obtain ⟨whole, earlier⟩ := read.of_running running
  have visited : Act.nodes (acts ++ more) = Act.nodes acts := by simp [unvisited]
  constructor
  case whole => rw [visited, List.append_assoc, rest, whole]
  case regular => rw [visited]; exact read.regular
  case stopped => exact stopped
  case processed => rw [visited, processed, read.processed]
  case log => rw [visited, Act.events_append, earlier, log]

theorem read_step [Producer σ] {stream : σ → NodeStream} (transparent : Transparent stream)
    (nodes : List Node) (consumer : Consumer σ) (acts : List Act) (sentinel : Option Node)
    (read : Read stream nodes consumer acts sentinel) :
    ∃ sentinel, Read stream nodes consumer.step.consumer (acts ++ consumer.step.acts) sentinel := by
  have answer := transparent.production consumer.producer
  have said := transparent.events consumer.producer
  have rest := transparent.rest consumer.producer
  rcases consumer.step_cases with ⟨-, same⟩ | ⟨running, node, answered, moved⟩ |
    ⟨running, answered, moved⟩ | ⟨running, reason, answered, moved⟩
  · rw [same, List.append_nil]
    exact ⟨sentinel, read⟩
  · obtain ⟨whole, log⟩ := read.of_running running
    obtain ⟨first, regular, silent⟩ := NodeStream.next_produced (answer.symm.trans answered)
    refine ⟨none, ?_⟩
    rw [moved]
    constructor
    case whole => simp [rest, ← whole, first]
    case regular =>
      have visited : Act.nodes (acts ++ ((Producer.next consumer.producer).events.map .logged ++
          [.logged (.consumed node.kind consumer.processed), .visited node])) =
          Act.nodes acts ++ [node] := by simp
      rw [visited, List.forall_mem_append]
      exact ⟨read.regular, List.forall_mem_singleton.mpr regular⟩
    case stopped => simpa [running] using Stopped.running _
    case processed => simp [read.processed]
    case log =>
      simp [said, silent, log, consumedEvents_concat, read.processed, closingEvents, running]
  · rw [moved]
    rcases NodeStream.next_done (answer.symm.trans answered) with ⟨first, silent⟩ |
      ⟨empty, still, ranOut⟩
    · refine ⟨some .finish, ?_⟩
      apply read.halt running
      case rest => simp [rest, first]
      case stopped => exact .finish _
      case log => simp [said, silent, closingEvents]
      all_goals simp
    · refine ⟨none, ?_⟩
      apply read.halt running
      case rest => simp [rest, empty, still]
      case stopped => simpa [rest, still] using Stopped.ranOut
      case log => simp [said, ranOut, closingEvents]
      all_goals simp
  · obtain ⟨first, silent⟩ := NodeStream.next_failed (answer.symm.trans answered)
    refine ⟨some .error, ?_⟩
    rw [moved]
    apply read.halt running
    case rest => simp [rest, first]
    case stopped => exact .error _
    case log => simp [said, silent, closingEvents]
    all_goals simp

theorem read_kept [Producer σ] {stream : σ → NodeStream} (transparent : Transparent stream)
    (nodes : List Node) :
    Kept fun (consumer : Consumer σ) acts => ∃ sentinel,
      Read stream nodes consumer acts sentinel where
  attach _ _ _ := fun ⟨sentinel, read⟩ =>
    ⟨sentinel, read.whole, read.regular, read.stopped, read.processed, read.log⟩
  step consumer acts := fun ⟨sentinel, read⟩ =>
    read_step transparent nodes consumer acts sentinel read

theorem Read.ranOut_iff {stream : σ → NodeStream} {nodes : List Node} {consumer : Consumer σ}
    {acts : List Act} {sentinel : Option Node} (read : Read stream nodes consumer acts sentinel)
    (finished : consumer.state = .haltedFinish) :
    sentinel = none ↔ nodes.all Node.hasNext = true := by
  obtain ⟨whole, regular, stopped, -, -⟩ := read
  rw [finished] at stopped
  rw [← whole, List.all_append, List.all_append]
  generalize (stream consumer.producer).nodes = rest at stopped
  cases stopped with
  | finish => simp [Node.hasNext, Node.isSentinel, Node.kind, Kind.isSentinel]
  | ranOut => simpa using regular

end Consumer

namespace Event

theorem display_consumed (kind : Kind) (position : Nat) :
    (Event.consumed kind position).display =
      "TRACE consumed " ++ kind.name ++ " node #" ++ position.repr := by
  have start : "TRACE" ++ " " ++ "consumed " = "TRACE consumed " := by simp
  change "TRACE" ++ " " ++ ("consumed " ++ kind.name ++ " node #" ++ position.repr) = _
  simp only [← String.append_assoc, start]

theorem display_finished (processed : Nat) :
    (Event.finished processed).display =
      "DEBUG node stream finished after " ++ processed.repr ++ " nodes" := by
  have start : "DEBUG" ++ " " ++ "node stream finished after " =
      "DEBUG node stream finished after " := by simp
  change "DEBUG" ++ " " ++ ("node stream finished after " ++ processed.repr ++ " nodes") = _
  simp only [← String.append_assoc, start]

theorem display_failed (processed : Nat) (reason : Diagnostic) :
    (Event.failed processed reason).display =
      "WARN node production failed after " ++ processed.repr ++ " nodes: " ++ reason.display := by
  have start : "WARN" ++ " " ++ "node production failed after " =
      "WARN node production failed after " := by simp
  change "WARN" ++ " " ++
    ("node production failed after " ++ processed.repr ++ " nodes: " ++ reason.display) = _
  simp only [← String.append_assoc, start]

theorem display_ranOut :
    Event.ranOut.display =
      "DEBUG node stream ran out without a sentinel, treating it as finished" := by
  change "DEBUG" ++ " " ++ "node stream ran out without a sentinel, treating it as finished" = _
  simp

end Event

namespace Session

open Consumer

theorem acts_append {σ : Type} [FiniteProducer σ] (session : Session σ)
    (first second : List Command) :
    session.acts (first ++ second) =
      session.acts first ++ (session.after first).acts second := by
  induction first generalizing session with
  | nil => rfl
  | cons command rest ih => simp [after, ih]

theorem after_explained {σ : Type} [FiniteProducer σ] (producer : σ) (commands : List Command) :
    ((start producer).after commands).consumer.Explained :=
  after_kept explained_kept (start producer) [] (by simp [start, Consumer.start, Explained])
    commands

theorem acts_of_isHalted {σ : Type} [FiniteProducer σ] (producer : σ) (commands : List Command)
    (halted : ((start producer).after commands).consumer.state.isHalted = true)
    (more : List Command) :
    (start producer).acts (commands ++ more) = (start producer).acts commands := by
  obtain ⟨result, ended⟩ := (after_explained producer commands).exists_endedWith halted
  obtain ⟨last, led, -⟩ := after?_of_endedWith _ result ended more
  rw [after?_eq_after] at led
  have quiet : ((start producer).after commands).acts more = [] :=
    congrArg Reached.acts (Option.some.inj led)
  rw [acts_append, quiet, List.append_nil]

theorem log_faithful (nodes : List Node) (commands : List Command) :
    let fresh := start (NodeStream.ofNodes nodes)
    let consumer := (fresh.after commands).consumer
    let visited := Act.nodes (fresh.acts commands)
    let log := fun commands => (Act.events (fresh.acts commands)).map Event.display
    let consumed := visited.mapIdx fun position node =>
      "TRACE consumed " ++ node.kind.name ++ " node #" ++ position.repr
    visited.length = consumer.processed ∧
      (match consumer.state with
        | .running => log commands = consumed
        | .haltedFinish =>
            log commands = consumed ++
              (if nodes.all Node.hasNext then
                ["DEBUG node stream ran out without a sentinel, treating it as finished"]
              else []) ++
              ["DEBUG node stream finished after " ++ consumer.processed.repr ++ " nodes"]
        | .haltedError =>
            ∃ failure, consumer.failure = some failure ∧
              log commands = consumed ++
                ["WARN node production failed after " ++ consumer.processed.repr ++ " nodes: " ++
                  failure.display]) ∧
      (consumer.state.isHalted = true → ∀ more, log (commands ++ more) = log commands) := by
  intro fresh consumer visited log consumed
  obtain ⟨sentinel, read⟩ := after_kept (read_kept transparent_id nodes) fresh []
    ⟨none, read_start id (NodeStream.ofNodes nodes)⟩ commands
  have explained : consumer.Explained := after_explained (NodeStream.ofNodes nodes) commands
  have displayed : (consumedEvents visited).map Event.display = consumed := by
    simp only [consumedEvents, consumed, List.mapIdx_eq_zipIdx_map, List.map_map,
      Function.comp_def, Event.display_consumed]
  have lines : log commands =
      consumed ++ (consumer.closingEvents sentinel).map Event.display := by
    rw [← displayed, ← List.map_append]
    exact congrArg (List.map Event.display) read.log
  refine ⟨read.processed.symm, ?_, ?_⟩
  · cases state : consumer.state with
    | running => simpa [closingEvents, state] using lines
    | haltedFinish =>
        have ending : consumer.closingEvents sentinel =
            (if nodes.all Node.hasNext then [.ranOut] else []) ++
              [.finished consumer.processed] := by
          simp only [closingEvents, state, read.ranOut_iff state]
        simp only [lines, ending, List.map_append, apply_ite (List.map Event.display),
          List.map_cons, List.map_nil, Event.display_ranOut, Event.display_finished,
          List.append_assoc]
    | haltedError =>
        obtain ⟨failure, kept⟩ := Option.isSome_iff_exists.mp (explained state)
        refine ⟨failure, kept, ?_⟩
        simpa [closingEvents, state, kept, Event.display_failed] using lines
  · intro halted more
    exact congrArg (fun acts => (Act.events acts).map Event.display)
      (acts_of_isHalted (NodeStream.ofNodes nodes) commands halted more)

end Session

end NodeFeed

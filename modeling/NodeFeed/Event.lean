import NodeFeed.Source.Error

set_option autoImplicit false

namespace NodeFeed

inductive Level
  | trace
  | debug
  | warn
deriving DecidableEq

def Level.name : Level → String
  | .trace => "TRACE"
  | .debug => "DEBUG"
  | .warn => "WARN"

inductive WriteFault
  | noSpace
  | writerFull
deriving DecidableEq

def WriteFault.message : WriteFault → String
  | .noSpace => "No space left on device (os error 28)"
  | .writerFull => "writer is full"

inductive Event
  | consumed (kind : Kind) (position : Nat)
  | finished (processed : Nat)
  | failed (processed : Nat) (reason : Diagnostic)
  | ranOut
  | consoleRefused (fault : WriteFault)
  | writerRefused (fault : WriteFault)
  | discovered (count : Nat) (root : Path)
  | found (path : Path)
  | linkPassed (path : Path)
  | skipped (error : SourceError)
deriving DecidableEq

namespace Event

def level : Event → Level
  | .consumed _ _ | .found _ | .linkPassed _ => .trace
  | .finished _ | .ranOut | .discovered _ _ => .debug
  | .failed _ _ | .consoleRefused _ | .writerRefused _ | .skipped _ => .warn

def message : Event → String
  | .consumed kind position => "consumed " ++ kind.name ++ " node #" ++ position.repr
  | .finished processed => "node stream finished after " ++ processed.repr ++ " nodes"
  | .failed processed reason =>
      "node production failed after " ++ processed.repr ++ " nodes: " ++ reason.display
  | .ranOut => "node stream ran out without a sentinel, treating it as finished"
  | .consoleRefused fault => "failed to write to stdout: " ++ fault.message
  | .writerRefused fault => "failed to write to sink: " ++ fault.message
  | .discovered count root =>
      "discovered " ++ count.repr ++ " source file(s) under " ++ root.display
  | .found path => "found source " ++ path.display
  | .linkPassed path => "not following directory link " ++ path.display
  | .skipped error => "skipping source: " ++ error.message

def display (event : Event) : String := event.level.name ++ " " ++ event.message

end Event

structure Logged (α : Type) where
  events : List Event
  value : α

namespace Logged

def silent {α : Type} (value : α) : Logged α := ⟨[], value⟩

def andThen {α β : Type} (first : Logged α) (next : α → Logged β) : Logged β :=
  match first with
  | ⟨events, value⟩ =>
      let rest := next value
      ⟨events ++ rest.events, rest.value⟩

@[simp] theorem events_silent {α : Type} (value : α) : (silent value).events = [] := rfl

@[simp] theorem value_silent {α : Type} (value : α) : (silent value).value = value := rfl

@[simp] theorem events_andThen {α β : Type} (first : Logged α) (next : α → Logged β) :
    (first.andThen next).events = first.events ++ (next first.value).events := rfl

@[simp] theorem value_andThen {α β : Type} (first : Logged α) (next : α → Logged β) :
    (first.andThen next).value = (next first.value).value := rfl

end Logged

end NodeFeed

import NodeFeed.Event
import NodeFeed.Node.Basic

set_option autoImplicit false

namespace NodeFeed

class TextSink (τ : Type) where
  print : τ → String → Logged τ

namespace TextSink

variable {τ : Type} [TextSink τ]

def printLine (sink : τ) (text : String) : Logged τ :=
  (print sink text).andThen fun sink => print sink "\n"

def printKind (sink : τ) (kind : Kind) : Logged τ :=
  print sink kind.name

def printRendered (sink : τ) (rendered : String) : Logged τ :=
  print sink rendered

def printRenderedLine (sink : τ) (rendered : String) : Logged τ :=
  printLine sink rendered

end TextSink

structure Transcript where
  text : String
deriving DecidableEq

namespace Transcript

def empty : Transcript := ⟨""⟩

def clear (_ : Transcript) : Transcript := empty

end Transcript

instance : TextSink Transcript where
  print transcript text := .silent ⟨transcript.text ++ text⟩

end NodeFeed

import NodeFeed.Sink.Basic

set_option autoImplicit false

namespace NodeFeed

/-- Text that a full device refused may be held back, and is then tried again by the next print. -/
structure Console where
  written : String
  full : Bool
  waiting : Bool

namespace Console

def start (full : Bool) : Console := ⟨"", full, false⟩

def lineCapacity : Nat := 1024

def isHeldBack (text : String) : Bool :=
  text != "" && !text.contains '\n' && text.utf8ByteSize < lineCapacity

def print (console : Console) (text : String) : Logged Console :=
  if console.full then
    if console.waiting || text != "" then
      ⟨[.consoleRefused .noSpace],
        { console with waiting := console.waiting || isHeldBack text }⟩
    else .silent console
  else .silent { console with written := console.written ++ text }

end Console

instance : TextSink Console where
  print := Console.print

end NodeFeed

set_option autoImplicit false

namespace NodeFeed

structure Span where
  startLine : UInt32
  startColumn : UInt32
  endLine : UInt32
  endColumn : UInt32
deriving DecidableEq

namespace Span

def point (line column : UInt32) : Span :=
  ⟨line, column, line, column⟩

def start : Span := point 1 1

instance : Inhabited Span := ⟨start⟩

def display (span : Span) : String :=
  span.startLine.toNat.repr ++ ":" ++ span.startColumn.toNat.repr

end Span

end NodeFeed

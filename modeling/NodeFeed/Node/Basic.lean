import NodeFeed.Node.Kind
import NodeFeed.Span

set_option autoImplicit false

namespace NodeFeed

inductive Node
  | pending (kind : PendingKind) (span : Span)
  | error
  | finish
deriving DecidableEq

namespace Node

def ofKind (kind : Kind) (span : Span) : Node :=
  match kind with
  | .pending kind => .pending kind span
  | .error => .error
  | .finish => .finish

def kind : Node → Kind
  | .pending kind _ => .pending kind
  | .error => .error
  | .finish => .finish

def span? : Node → Option Span
  | .pending _ span => some span
  | .error | .finish => none

def isSentinel (node : Node) : Bool := node.kind.isSentinel

def hasNext (node : Node) : Bool := !node.isSentinel

def render : Node → String
  | .pending _ _ => "None"
  | .error => "Error"
  | .finish => "Finish"

end Node

end NodeFeed

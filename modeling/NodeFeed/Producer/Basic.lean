import NodeFeed.Event
import NodeFeed.Node.Basic

set_option autoImplicit false

namespace NodeFeed

inductive Production
  | produced (node : Node)
  | done
  | failed (reason : Diagnostic)
deriving DecidableEq

namespace Production

def ofNode (node : Node) (after : Option Span) : Production :=
  match node with
  | .error => .failed (.productionFailed after)
  | .finish => .done
  | .pending kind span => .produced (.pending kind span)

def isTerminal : Production → Bool
  | .produced _ => false
  | .done | .failed _ => true

end Production

structure Answer (σ : Type) where
  production : Production
  events : List Event
  rest : σ

class Producer (σ : Type) where
  next : σ → Answer σ

class FiniteProducer (σ : Type) extends Producer σ where
  remaining : σ → Nat
  remaining_next_lt : ∀ (producer : σ) (node : Node),
    (next producer).production = .produced node →
      remaining (next producer).rest < remaining producer

end NodeFeed

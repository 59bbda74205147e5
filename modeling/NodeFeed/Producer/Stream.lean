import NodeFeed.Producer.Basic

set_option autoImplicit false

namespace NodeFeed

/-- The last node with a place was at `last`. -/
structure NodeStream where
  nodes : List Node
  last : Option Span

namespace NodeStream

def ofNodes (nodes : List Node) : NodeStream := ⟨nodes, none⟩

def next : NodeStream → Answer NodeStream
  | ⟨[], last⟩ => ⟨.done, [.ranOut], ⟨[], last⟩⟩
  | ⟨node :: nodes, last⟩ =>
      let last := node.span?.or last
      ⟨.ofNode node last, [], ⟨nodes, last⟩⟩

end NodeStream

instance : FiniteProducer NodeStream where
  next := NodeStream.next
  remaining stream := stream.nodes.length
  remaining_next_lt stream node produced := by
    obtain ⟨nodes, last⟩ := stream
    cases nodes with
    | nil => simp [NodeStream.next] at produced
    | cons first rest => simp [NodeStream.next]

end NodeFeed

import NodeFeed.Producer.Basic

set_option autoImplicit false

namespace NodeFeed

/-- It may go on after it was done. -/
structure Endless where
  answer : Nat → Production
  asked : Nat

def Endless.next (endless : Endless) : Answer Endless :=
  ⟨endless.answer endless.asked, [], { endless with asked := endless.asked + 1 }⟩

instance : Producer Endless where
  next := Endless.next

end NodeFeed

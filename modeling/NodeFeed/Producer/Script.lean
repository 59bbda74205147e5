import NodeFeed.Producer.Basic

set_option autoImplicit false

namespace NodeFeed

structure Script where
  answers : List Production

def Script.next : Script → Answer Script
  | ⟨[]⟩ => ⟨.done, [], ⟨[]⟩⟩
  | ⟨answer :: answers⟩ => ⟨answer, [], ⟨answers⟩⟩

instance : FiniteProducer Script where
  next := Script.next
  remaining script := script.answers.length
  remaining_next_lt script node produced := by
    obtain ⟨answers⟩ := script
    cases answers with
    | nil => simp [Script.next] at produced
    | cons first rest => simp [Script.next]

end NodeFeed

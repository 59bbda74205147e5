import NodeFeed.Sink.Basic

set_option autoImplicit false

namespace NodeFeed

inductive Printing
  | text (text : String)
  | line (text : String)
  | kind (kind : Kind)
  | rendered (text : String)
  | renderedLine (text : String)

namespace TextSink

variable {τ : Type} [TextSink τ]

def printTexts (sink : τ) : List String → Logged τ
  | [] => .silent sink
  | text :: rest => (print sink text).andThen fun sink => printTexts sink rest

def perform (sink : τ) : Printing → Logged τ
  | .text text => print sink text
  | .line text => printLine sink text
  | .kind kind => printKind sink kind
  | .rendered text => printRendered sink text
  | .renderedLine text => printRenderedLine sink text

def performAll (sink : τ) : List Printing → Logged τ
  | [] => .silent sink
  | printing :: rest => (perform sink printing).andThen fun sink => performAll sink rest

end TextSink

-- One text for each print that is made; a line is two of them.
def Printing.texts : Printing → List String
  | .text content => [content]
  | .line content => [content, "\n"]
  | .kind shown => [shown.name]
  | .rendered content => [content]
  | .renderedLine content => [content, "\n"]

namespace TextSink

variable {τ : Type} [TextSink τ]

theorem printTexts_append (sink : τ) (first second : List String) :
    printTexts sink (first ++ second) =
      (printTexts sink first).andThen fun sink => printTexts sink second := by
  induction first generalizing sink with
  | nil => rfl
  | cons text rest ih => simp [printTexts, ih, Logged.andThen]

theorem perform_eq (sink : τ) (printing : Printing) :
    perform sink printing = printTexts sink printing.texts := by
  cases printing <;>
    simp [perform, Printing.texts, printTexts, printLine, printKind, printRendered,
      printRenderedLine, Logged.andThen, Logged.silent]

theorem performAll_eq (sink : τ) (printings : List Printing) :
    performAll sink printings = printTexts sink (printings.flatMap Printing.texts) := by
  induction printings generalizing sink with
  | nil => rfl
  | cons printing rest ih =>
      rw [performAll, perform_eq, List.flatMap_cons, printTexts_append]
      congr 1
      funext sink
      exact ih sink

theorem performAll_append (sink : τ) (first second : List Printing) :
    performAll sink (first ++ second) =
      (performAll sink first).andThen fun sink => performAll sink second := by
  simp only [performAll_eq, List.flatMap_append, printTexts_append]

theorem printTexts_transcript (transcript : Transcript) (texts : List String) :
    printTexts transcript texts = .silent ⟨transcript.text ++ String.join texts⟩ := by
  induction texts generalizing transcript with
  | nil => simp [printTexts]
  | cons text rest ih =>
      have first : print transcript text = .silent ⟨transcript.text ++ text⟩ := rfl
      simp [printTexts, first, ih, Logged.andThen, Logged.silent, String.append_assoc]

end TextSink

end NodeFeed

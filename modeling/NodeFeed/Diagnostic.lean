import NodeFeed.Node.Kind
import NodeFeed.Source.Text
import NodeFeed.Span

set_option autoImplicit false

namespace NodeFeed

inductive Category
  | production
  | source
  | internal
deriving DecidableEq

def Category.name : Category → String
  | .production => "production"
  | .source => "source"
  | .internal => "internal"

structure Code where
  number : UInt16
deriving DecidableEq

namespace Code

def productionFailed : Code := ⟨100⟩
def sourceNotFound : Code := ⟨200⟩
def sourceUnreadable : Code := ⟨201⟩
def invalidKind : Code := ⟨900⟩

def category (code : Code) : Category :=
  if 100 ≤ code.number ∧ code.number ≤ 199 then .production
  else if 200 ≤ code.number ∧ code.number ≤ 299 then .source
  else .internal

def display (code : Code) : String := "E" ++ code.number.toNat.repr

end Code

/-- An empty `file` or `sourceLine` is one not known yet. -/
structure Diagnostic where
  file : String
  code : Code
  category : Category
  message : String
  span : Option Span
  sourceLine : String
deriving DecidableEq

namespace Diagnostic

def ofCode (file : String) (code : Code) (message : String) (span : Option Span) : Diagnostic where
  file := file
  code := code
  category := code.category
  message := message
  span := span
  sourceLine := ""

def productionFailed (after : Option Span) : Diagnostic :=
  ofCode "" .productionFailed "node production failed" after

def ofKindError (error : KindError) : Diagnostic :=
  ofCode "" .invalidKind error.message none

def withSourceLine (diagnostic : Diagnostic) (line : String) : Diagnostic :=
  { diagnostic with sourceLine := line }

def lineIn (diagnostic : Diagnostic) (source : SourceText) : Option String :=
  diagnostic.span.bind fun span => source.line span.startLine

def attach (diagnostic : Diagnostic) (source : SourceText) : Diagnostic :=
  { diagnostic with
    file := if diagnostic.file = "" then source.name else diagnostic.file
    sourceLine :=
      if diagnostic.sourceLine = "" then (diagnostic.lineIn source).getD ""
      else diagnostic.sourceLine }

def place (diagnostic : Diagnostic) : String :=
  (if diagnostic.file = "" then "" else diagnostic.file ++ ":") ++
    match diagnostic.span with
    | some span => span.display ++ ":"
    | none => ""

def display (diagnostic : Diagnostic) : String :=
  diagnostic.place ++
    (if diagnostic.file = "" ∧ diagnostic.span = none then "" else " ") ++
    diagnostic.code.display ++ " [" ++ diagnostic.category.name ++ "] " ++ diagnostic.message

end Diagnostic

end NodeFeed

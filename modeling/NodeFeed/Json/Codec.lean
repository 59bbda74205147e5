import NodeFeed.Json.Reader
import NodeFeed.Json.Text
import NodeFeed.Report

set_option autoImplicit false

namespace NodeFeed.Json

/-- Of the members of an outermost object, `ofJson?` does not look at those that `skims` picks. -/
class Codec (α : Type) where
  toJson : α → Value
  ofJson? : Value → Option α
  skims : String → Bool

def encode {α : Type} [Codec α] (value : α) : String :=
  (Codec.toJson value).render

def decode? {α : Type} [Codec α] (text : String) : Option α :=
  (read? (Codec.skims α) text).bind Codec.ofJson?

def sole? (key : String) (members : List (String × Value)) : Option Value :=
  match members.filter (fun member => member.1 == key) with
  | [(_, value)] => some value
  | _ => none

def tag? : Value → Option String
  | .string name => some name
  | .object [(name, .null)] => some name
  | _ => none

def bounded? {α : Type} (size : Nat) (ofNat : Nat → α) (value : Value) : Option α :=
  value.toNat?.bind fun n => if n < size then some (ofNat n) else none

def uint16? : Value → Option UInt16 := bounded? UInt16.size UInt16.ofNat

def uint32? : Value → Option UInt32 := bounded? UInt32.size UInt32.ofNat

def uint64? : Value → Option UInt64 := bounded? UInt64.size UInt64.ofNat

def kindTag : Kind → String
  | .pending .method => "Method"
  | .pending .package => "Package"
  | .pending .importing => "Import"
  | .pending .typing => "Type"
  | .pending .localName => "Local"
  | .pending .singleValue => "SingleValue"
  | .pending .operation => "Operation"
  | .error => "Error"
  | .finish => "Finish"

def kindOfTag? (tag : String) : Option Kind :=
  match tag with
  | "Method" => some (.pending .method)
  | "Package" => some (.pending .package)
  | "Import" => some (.pending .importing)
  | "Type" => some (.pending .typing)
  | "Local" => some (.pending .localName)
  | "SingleValue" => some (.pending .singleValue)
  | "Operation" => some (.pending .operation)
  | "Error" => some .error
  | "Finish" => some .finish
  | _ => none

instance : Codec Kind where
  toJson kind := .string (kindTag kind)
  ofJson? value := (tag? value).bind kindOfTag?
  skims _ := false

def categoryOfTag? (tag : String) : Option Category :=
  match tag with
  | "production" => some .production
  | "source" => some .source
  | "internal" => some .internal
  | _ => none

instance : Codec Category where
  toJson category := .string category.name
  ofJson? value := (tag? value).bind categoryOfTag?
  skims _ := false

instance : Codec Code where
  toJson code := .ofNat code.number.toNat
  ofJson? value := (uint16? value).map Code.mk
  skims _ := false

def spanKeys : List String := ["line", "column", "end_line", "end_column"]

def spanMembers (span : Span) : List (String × Value) :=
  [("line", .ofNat span.startLine.toNat), ("column", .ofNat span.startColumn.toNat),
    ("end_line", .ofNat span.endLine.toNat), ("end_column", .ofNat span.endColumn.toNat)]

def spanOfValues? (startLine startColumn endLine endColumn : Value) : Option Span := do
  let startLine ← uint32? startLine
  let startColumn ← uint32? startColumn
  let endLine ← uint32? endLine
  let endColumn ← uint32? endColumn
  return ⟨startLine, startColumn, endLine, endColumn⟩

def spanOfMembers? (members : List (String × Value)) : Option Span := do
  spanOfValues? (← sole? "line" members) (← sole? "column" members)
    (← sole? "end_line" members) (← sole? "end_column" members)

def spanOfJson? : Value → Option Span
  | .object members => spanOfMembers? members
  | .array [startLine, startColumn, endLine, endColumn] =>
      spanOfValues? startLine startColumn endLine endColumn
  | _ => none

instance : Codec Span where
  toJson span := .object (spanMembers span)
  ofJson? := spanOfJson?
  skims key := !spanKeys.contains key

def diagnosticKeys : List String := ["file", "code", "category", "message", "source_line"]

def diagnosticToJson (diagnostic : Diagnostic) : Value :=
  .object
    ([("file", .string diagnostic.file), ("code", Codec.toJson diagnostic.code),
        ("category", Codec.toJson diagnostic.category), ("message", .string diagnostic.message)] ++
      (diagnostic.span.map spanMembers).getD [] ++
      [("source_line", .string diagnostic.sourceLine)])

/-- A span that cannot be read is no fault: the diagnostic then has none. -/
def diagnosticOfJson? : Value → Option Diagnostic
  | .object members => do
      let file ← (← sole? "file" members).toString?
      let code ← Codec.ofJson? (← sole? "code" members)
      let category ← Codec.ofJson? (← sole? "category" members)
      let message ← (← sole? "message" members).toString?
      let sourceLine ← (← sole? "source_line" members).toString?
      let others := members.filter fun member => !diagnosticKeys.contains member.1
      return ⟨file, code, category, message, spanOfMembers? others, sourceLine⟩
  | _ => none

instance : Codec Diagnostic where
  toJson := diagnosticToJson
  ofJson? := diagnosticOfJson?
  skims _ := false

def reportKeys : List String := ["errors", "total_errors"]

def reportOfValues? (errors total : Value) : Option Report :=
  match errors with
  | .array errors => do
      let errors ← errors.mapM diagnosticOfJson?
      let total ← uint64? total
      return ⟨errors, total⟩
  | _ => none

def reportOfJson? : Value → Option Report
  | .object members => do
      reportOfValues? (← sole? "errors" members) (← sole? "total_errors" members)
  | .array [errors, total] => reportOfValues? errors total
  | _ => none

instance : Codec Report where
  toJson report :=
    .object [("errors", .array (report.errors.map diagnosticToJson)),
      ("total_errors", .ofNat report.total.toNat)]
  ofJson? := reportOfJson?
  skims key := !reportKeys.contains key

end NodeFeed.Json

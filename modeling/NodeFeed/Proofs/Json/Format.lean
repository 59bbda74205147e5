import NodeFeed.Json.Codec
import NodeFeed.Proofs.Json.RoundTrip

set_option autoImplicit false

namespace NodeFeed.Json

-- The member is there, and no other has its key.
def Once (key : String) (value : Value) (members : List (String × Value)) : Prop :=
  ∃ before after, members = before ++ (key, value) :: after ∧
    ∀ member ∈ before ++ after, member.1 ≠ key

-- Each key keeps its values in their order; how members with different keys stand is left open.
def SameByKey (members others : List (String × Value)) : Prop :=
  ∀ key, members.filter (fun member => member.1 == key) =
    others.filter (fun member => member.1 == key)

theorem filter_key_eq_nil {key : String} {members : List (String × Value)} :
    members.filter (fun member => member.1 == key) = [] ↔ ∀ member ∈ members, member.1 ≠ key := by
  simp [List.filter_eq_nil_iff]

theorem sole?_eq_some_iff {key : String} {members : List (String × Value)} {value : Value} :
    sole? key members = some value ↔ Once key value members := by
  constructor
  · intro found
    unfold sole? at found
    split at found
    next named same filtered =>
      obtain ⟨before, after, rfl, absent, matching, rest⟩ := List.filter_eq_cons_iff.mp filtered
      obtain rfl : named = key := by simpa using matching
      obtain rfl : same = value := Option.some.inj found
      have none := filter_key_eq_nil.mp rest
      refine ⟨before, after, rfl, ?_⟩
      intro member among
      rcases List.mem_append.mp among with early | late
      · simpa using absent member early
      · exact none member late
    next => cases found
  · rintro ⟨before, after, rfl, absent⟩
    have early := filter_key_eq_nil.mpr fun member among =>
      absent member (List.mem_append_left after among)
    have late := filter_key_eq_nil.mpr fun member among =>
      absent member (List.mem_append_right before among)
    simp [sole?, early, late]

theorem SameByKey.sole? {members others : List (String × Value)} (same : SameByKey members others)
    (key : String) : sole? key members = sole? key others := by
  rw [Json.sole?, Json.sole?, same key]

theorem SameByKey.filter {members others : List (String × Value)} (same : SameByKey members others)
    (keeps : String × Value → Bool) : SameByKey (members.filter keeps) (others.filter keeps) := by
  intro key
  have split (all : List (String × Value)) :
      (all.filter keeps).filter (fun member => member.1 == key) =
        (all.filter fun member => member.1 == key).filter keeps := by
    simp [List.filter_filter, Bool.and_comm]
  rw [split, split, same key]

section Scalars

variable {value : Value}

theorem Value.toString?_eq_some_iff {text : String} :
    value.toString? = some text ↔ value = .string text := by
  cases value <;> simp [toString?]

theorem tag?_eq_some_iff {tag : String} :
    tag? value = some tag ↔ value = .string tag ∨ value = .object [(tag, .null)] := by
  unfold tag?
  split <;> simp_all

theorem categoryOfTag?_eq_some_iff {tag : String} {category : Category} :
    categoryOfTag? tag = some category ↔ tag = category.name := by
  constructor
  · intro known
    unfold categoryOfTag? at known
    split at known <;> cases known <;> rfl
  · rintro rfl
    cases category <;> rfl

end Scalars

def Names (value : Value) (category : Category) : Prop :=
  value = .string category.name ∨ value = .object [(category.name, .null)]

theorem category_eq_some_iff {value : Value} {category : Category} :
    Codec.ofJson? value = some category ↔ Names value category := by
  have read : Codec.ofJson? value = (tag? value).bind categoryOfTag? := rfl
  simp [read, Option.bind_eq_some_iff, tag?_eq_some_iff, categoryOfTag?_eq_some_iff, Names]

theorem code_eq_some_iff {value : Value} {code : Code} :
    Codec.ofJson? value = some code ↔ value = .ofNat code.number.toNat := by
  obtain ⟨number⟩ := code
  have read : Codec.ofJson? value = (uint16? value).map Code.mk := rfl
  simp [read, Option.map_eq_some_iff, uint16?_eq_some_iff]

theorem spanOfValues?_eq_some_iff {startLine startColumn endLine endColumn : Value} {span : Span} :
    spanOfValues? startLine startColumn endLine endColumn = some span ↔
      startLine = .ofNat span.startLine.toNat ∧ startColumn = .ofNat span.startColumn.toNat ∧
        endLine = .ofNat span.endLine.toNat ∧ endColumn = .ofNat span.endColumn.toNat := by
  obtain ⟨_, _, _, _⟩ := span
  simp only [spanOfValues?, Option.bind_eq_bind, Option.bind_eq_some_iff, uint32?_eq_some_iff]
  constructor
  · rintro ⟨_, rfl, _, rfl, _, rfl, _, rfl, same⟩
    obtain ⟨rfl, rfl, rfl, rfl⟩ := Span.mk.inj (Option.some.inj same)
    exact ⟨rfl, rfl, rfl, rfl⟩
  · rintro ⟨line, column, endLine, endColumn⟩
    exact ⟨_, line, _, column, _, endLine, _, endColumn, rfl⟩

structure SpellsSpan (members : List (String × Value)) (span : Span) : Prop where
  startLine : Once "line" (.ofNat span.startLine.toNat) members
  startColumn : Once "column" (.ofNat span.startColumn.toNat) members
  endLine : Once "end_line" (.ofNat span.endLine.toNat) members
  endColumn : Once "end_column" (.ofNat span.endColumn.toNat) members

theorem spanOfMembers?_eq_some_iff {members : List (String × Value)} {span : Span} :
    spanOfMembers? members = some span ↔ SpellsSpan members span := by
  simp only [spanOfMembers?, Option.bind_eq_bind, Option.bind_eq_some_iff, sole?_eq_some_iff,
    spanOfValues?_eq_some_iff]
  constructor
  · rintro ⟨_, line, _, column, _, endLine, _, endColumn, rfl, rfl, rfl, rfl⟩
    exact ⟨line, column, endLine, endColumn⟩
  · rintro ⟨line, column, endLine, endColumn⟩
    exact ⟨_, line, _, column, _, endLine, _, endColumn, rfl, rfl, rfl, rfl⟩

structure Required (members : List (String × Value)) (file : String) (code : Code)
    (category : Category) (message sourceLine : String) : Prop where
  file : Once "file" (.string file) members
  code : Once "code" (.ofNat code.number.toNat) members
  category : ∃ value, Once "category" value members ∧ Names value category
  message : Once "message" (.string message) members
  sourceLine : Once "source_line" (.string sourceLine) members

-- What is left for the span, repeated keys and all.
def others (members : List (String × Value)) : List (String × Value) :=
  members.filter fun member => !diagnosticKeys.contains member.1

theorem diagnosticOfJson?_object_eq_some_iff {members : List (String × Value)}
    {diagnostic : Diagnostic} :
    diagnosticOfJson? (.object members) = some diagnostic ↔
      Required members diagnostic.file diagnostic.code diagnostic.category diagnostic.message
          diagnostic.sourceLine ∧
        diagnostic.span = spanOfMembers? (others members) := by
  obtain ⟨file, code, category, message, span, sourceLine⟩ := diagnostic
  constructor
  · intro read
    simp only [diagnosticOfJson?, Option.bind_eq_bind, Option.bind_eq_some_iff, sole?_eq_some_iff,
      Value.toString?_eq_some_iff, code_eq_some_iff, category_eq_some_iff] at read
    obtain ⟨_, file, _, rfl, _, code, _, rfl, named, category, _, names, _, message, _, rfl,
      _, line, _, rfl, same⟩ := read
    obtain ⟨rfl, rfl, rfl, rfl, rfl, rfl⟩ := Diagnostic.mk.inj (Option.some.inj same)
    exact ⟨⟨file, code, ⟨named, category, names⟩, message, line⟩, rfl⟩
  · rintro ⟨⟨file, code, ⟨named, category, names⟩, message, line⟩, rfl⟩
    simp [diagnosticOfJson?, sole?_eq_some_iff.mpr file, sole?_eq_some_iff.mpr code,
      sole?_eq_some_iff.mpr category, sole?_eq_some_iff.mpr message, sole?_eq_some_iff.mpr line,
      category_eq_some_iff.mpr names, code_eq_some_iff.mpr rfl, Value.toString?, others]

theorem SameByKey.diagnosticOfJson? {members others : List (String × Value)}
    (same : SameByKey members others) :
    diagnosticOfJson? (.object members) = diagnosticOfJson? (.object others) := by
  simp only [Json.diagnosticOfJson?, spanOfMembers?, same.sole?, (same.filter _).sole?]

theorem ofJson?_eq_some_iff {value : Value} {diagnostic : Diagnostic} :
    Codec.ofJson? value = some diagnostic ↔
      ∃ members, value = .object members ∧
        Required members diagnostic.file diagnostic.code diagnostic.category diagnostic.message
          diagnostic.sourceLine ∧
        ∀ span : Span, diagnostic.span = some span ↔
          Codec.ofJson? (.object (others members)) = some span := by
  simp only [← Option.ext_iff]
  constructor
  · intro decoded
    cases value with
    | object members => exact ⟨members, rfl, diagnosticOfJson?_object_eq_some_iff.mp decoded⟩
    | null => cases decoded
    | bool _ => cases decoded
    | number _ => cases decoded
    | string _ => cases decoded
    | array _ => cases decoded
  · rintro ⟨members, rfl, holds⟩
    exact diagnosticOfJson?_object_eq_some_iff.mpr holds

theorem diagnostic_format (value : Value) :
    ((Codec.ofJson? value : Option Diagnostic).isSome = true ↔
        ∃ members file code category message sourceLine, value = .object members ∧
          Required members file code category message sourceLine) ∧
      (∀ diagnostic : Diagnostic, Codec.ofJson? value = some diagnostic ↔
        ∃ members, value = .object members ∧
          Required members diagnostic.file diagnostic.code diagnostic.category diagnostic.message
            diagnostic.sourceLine ∧
          ∀ span : Span, diagnostic.span = some span ↔
            Codec.ofJson? (.object (others members)) = some span) ∧
      (∀ members (span : Span), Codec.ofJson? (.object members) = some span ↔
        SpellsSpan members span) ∧
      (∀ members reordered, value = .object members → SameByKey members reordered →
        (Codec.ofJson? value : Option Diagnostic) = Codec.ofJson? (.object reordered)) ∧
      -- Of a text, no member is skimmed.
      ∀ text (diagnostic : Diagnostic), decode? text = some diagnostic ↔
        ∃ members, read? (fun _ => false) text = some (.object members) ∧
          Required members diagnostic.file diagnostic.code diagnostic.category diagnostic.message
            diagnostic.sourceLine ∧
          ∀ span : Span, diagnostic.span = some span ↔
            Codec.ofJson? (.object (others members)) = some span := by
  refine ⟨⟨?_, ?_⟩, ?_, ?_, ?_, ?_⟩
  · intro read
    obtain ⟨diagnostic, decoded⟩ := Option.isSome_iff_exists.mp read
    obtain ⟨members, object, required, -⟩ := ofJson?_eq_some_iff.mp decoded
    exact ⟨members, _, _, _, _, _, object, required⟩
  · rintro ⟨members, file, code, category, message, sourceLine, object, required⟩
    let diagnostic : Diagnostic :=
      ⟨file, code, category, message, spanOfMembers? (others members), sourceLine⟩
    have decoded : Codec.ofJson? value = some diagnostic :=
      ofJson?_eq_some_iff.mpr ⟨members, object, required, fun _ => .rfl⟩
    exact Option.isSome_iff_exists.mpr ⟨diagnostic, decoded⟩
  · exact fun diagnostic => ofJson?_eq_some_iff
  · exact fun members span => spanOfMembers?_eq_some_iff
  · rintro members reordered rfl same
    exact same.diagnosticOfJson?
  · intro text diagnostic
    have skims : Codec.skims Diagnostic = fun _ => false := rfl
    simp only [decode?, skims, Option.bind_eq_some_iff, ofJson?_eq_some_iff]
    constructor
    · rintro ⟨_, read, members, rfl, holds⟩
      exact ⟨members, read, holds⟩
    · rintro ⟨members, read, holds⟩
      exact ⟨_, read, members, rfl, holds⟩

end NodeFeed.Json

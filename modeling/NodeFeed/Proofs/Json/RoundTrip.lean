import NodeFeed.Json.Codec
import NodeFeed.Proofs.Json.Reading
import NodeFeed.Proofs.Json.Visible

set_option autoImplicit false

namespace NodeFeed.Json

def RoundTrips (α : Type) [Codec α] : Prop :=
  ∀ value : α, decode? (encode value) = some value ∧ ∀ c ∈ (encode value).toList, 0x20 ≤ c.toNat

-- What a codec owes: a form within the reader's limits, none of whose outermost members is skimmed,
-- and from which the value comes back.
structure Faithful (α : Type) [Codec α] : Prop where
  plain (value : α) : Plain maxDepth (Codec.toJson value)
  followed (value : α) (members : List (String × Value))
    (object : Codec.toJson value = .object members) :
    ∀ member ∈ members, Codec.skims α member.1 = false
  recovered (value : α) : Codec.ofJson? (Codec.toJson value) = some value

theorem Faithful.read?_encode {α : Type} [Codec α] (faithful : Faithful α) (value : α) :
    read? (Codec.skims α) (encode value) = some (Codec.toJson value) :=
  read?_render (Codec.skims α) (Codec.toJson value) (faithful.plain value)
    (faithful.followed value)

theorem Faithful.roundTrips {α : Type} [Codec α] (faithful : Faithful α) : RoundTrips α := by
  intro value
  constructor
  · rw [decode?, faithful.read?_encode, Option.bind_some]
    exact faithful.recovered value
  · have visible := visible_write (Codec.toJson value)
    simpa only [encode, Value.render, String.toList_ofList, Visible] using visible

section Scalars

variable {value : Value}

theorem Value.toNat?_eq_some_iff {n : Nat} : value.toNat? = some n ↔ value = .ofNat n := by
  cases value with
  | number number =>
      obtain ⟨negative, significand, exponent⟩ := number
      cases negative <;> cases exponent <;> simp [toNat?, Number.toNat?, ofNat, Number.ofNat]
  | null => simp [toNat?, ofNat]
  | bool _ => simp [toNat?, ofNat]
  | string _ => simp [toNat?, ofNat]
  | array _ => simp [toNat?, ofNat]
  | object _ => simp [toNat?, ofNat]

theorem bounded?_eq_some_iff {α : Type} {size : Nat} {ofNat : Nat → α} {toNat : α → Nat} {n : α}
    (fits : toNat n < size) (back : ofNat (toNat n) = n)
    (exact : ∀ written < size, toNat (ofNat written) = written) :
    bounded? size ofNat value = some n ↔ value = .ofNat (toNat n) := by
  constructor
  · intro read
    obtain ⟨written, digits, within⟩ := Option.bind_eq_some_iff.mp read
    split at within
    next small =>
      obtain rfl := Option.some.inj within
      rw [exact written small]
      exact Value.toNat?_eq_some_iff.mp digits
    next => cases within
  · intro form
    rw [bounded?, Value.toNat?_eq_some_iff.mpr form, Option.bind_some, if_pos fits, back]

theorem uint16?_eq_some_iff {n : UInt16} : uint16? value = some n ↔ value = .ofNat n.toNat :=
  bounded?_eq_some_iff n.toNat_lt UInt16.ofNat_toNat fun _ small => Nat.mod_eq_of_lt small

theorem uint32?_eq_some_iff {n : UInt32} : uint32? value = some n ↔ value = .ofNat n.toNat :=
  bounded?_eq_some_iff n.toNat_lt UInt32.ofNat_toNat fun _ small => Nat.mod_eq_of_lt small

theorem uint64?_eq_some_iff {n : UInt64} : uint64? value = some n ↔ value = .ofNat n.toNat :=
  bounded?_eq_some_iff n.toNat_lt UInt64.ofNat_toNat fun _ small => Nat.mod_eq_of_lt small

end Scalars

theorem faithful_kind : Faithful Kind where
  plain kind := .string maxDepth (kindTag kind)
  followed kind members object := nomatch object
  recovered kind := by
    cases kind with
    | pending kind => cases kind <;> rfl
    | error => rfl
    | finish => rfl

theorem faithful_category : Faithful Category where
  plain category := .string maxDepth category.name
  followed category members object := nomatch object
  recovered category := by cases category <;> rfl

theorem plain_code (depth : Nat) (code : Code) : Plain depth (Codec.toJson code) :=
  .number depth code.number.toNat (Nat.lt_trans code.number.toNat_lt (by decide))

theorem faithful_code : Faithful Code where
  plain code := plain_code maxDepth code
  followed code members object := nomatch object
  recovered code := by
    have read : uint16? (.ofNat code.number.toNat) = some code.number :=
      uint16?_eq_some_iff.mpr rfl
    simp [Codec.ofJson?, Codec.toJson, read]

theorem plain_uint32 (depth : Nat) (n : UInt32) : Plain depth (.ofNat n.toNat) :=
  .number depth n.toNat (Nat.lt_trans n.toNat_lt (by decide))

theorem plain_spanMembers (depth : Nat) (span : Span) :
    ∀ member ∈ spanMembers span, Plain depth member.2 := by
  simp [spanMembers, plain_uint32]

theorem spanOfMembers?_spanMembers (span : Span) :
    spanOfMembers? (spanMembers span) = some span := by
  have read (n : UInt32) : uint32? (.ofNat n.toNat) = some n := uint32?_eq_some_iff.mpr rfl
  simp [spanOfMembers?, spanOfValues?, spanMembers, sole?, read]

theorem faithful_span : Faithful Span where
  plain span := .object _ (spanMembers span) (plain_spanMembers _ span)
  followed span members object := by
    obtain rfl : spanMembers span = members := Value.object.inj object
    simp [spanMembers, Codec.skims, spanKeys]
  recovered span := spanOfMembers?_spanMembers span

theorem plain_diagnostic (depth : Nat) (diagnostic : Diagnostic) :
    Plain (depth + 1) (diagnosticToJson diagnostic) := by
  apply Plain.object
  intro member among
  simp only [List.mem_append] at among
  rcases among with (leading | spanned) | trailing
  · have code := plain_code depth diagnostic.code
    have text (content : String) : Plain depth (.string content) := .string depth content
    simp only [List.mem_cons, List.not_mem_nil, or_false] at leading
    rcases leading with rfl | rfl | rfl | rfl
    · exact text diagnostic.file
    · exact code
    · exact text diagnostic.category.name
    · exact text diagnostic.message
  · cases present : diagnostic.span with
    | none => simp [present] at spanned
    | some span =>
        simp only [present, Option.map_some, Option.getD_some] at spanned
        exact plain_spanMembers depth span member spanned
  · obtain rfl := List.mem_singleton.mp trailing
    exact .string depth diagnostic.sourceLine

-- The members left over for the span are those of a span that is there, and none if it is not: an
-- empty object is then no span at all.
theorem diagnosticOfJson?_toJson (diagnostic : Diagnostic) :
    diagnosticOfJson? (diagnosticToJson diagnostic) = some diagnostic := by
  obtain ⟨file, code, category, message, span, sourceLine⟩ := diagnostic
  have readCode := faithful_code.recovered code
  have readCategory := faithful_category.recovered category
  cases span with
  | none =>
      simp [diagnosticOfJson?, diagnosticToJson, sole?, readCode, readCategory, Value.toString?,
        diagnosticKeys, spanOfMembers?]
  | some span =>
      have readSpan := spanOfMembers?_spanMembers span
      simp only [spanMembers] at readSpan
      simp [diagnosticOfJson?, diagnosticToJson, sole?, readCode, readCategory, Value.toString?,
        diagnosticKeys, spanMembers, readSpan]

theorem faithful_diagnostic : Faithful Diagnostic where
  plain diagnostic := plain_diagnostic _ diagnostic
  followed _ _ _ _ _ := rfl
  recovered diagnostic := diagnosticOfJson?_toJson diagnostic

theorem mapM_diagnosticOfJson? (diagnostics : List Diagnostic) :
    (diagnostics.map diagnosticToJson).mapM diagnosticOfJson? = some diagnostics := by
  induction diagnostics with
  | nil => rfl
  | cons diagnostic others ih => simp [diagnosticOfJson?_toJson, ih]

theorem reportOfValues?_toJson (report : Report) :
    reportOfValues? (.array (report.errors.map diagnosticToJson)) (.ofNat report.total.toNat) =
      some report := by
  have errors := mapM_diagnosticOfJson? report.errors
  have total : uint64? (.ofNat report.total.toNat) = some report.total :=
    uint64?_eq_some_iff.mpr rfl
  simp only [reportOfValues?, errors, total]
  rfl

theorem faithful_report : Faithful Report where
  plain report := by
    apply Plain.object
    intro member among
    simp only [List.mem_cons, List.not_mem_nil, or_false] at among
    rcases among with rfl | rfl
    · apply Plain.array
      intro element listed
      obtain ⟨diagnostic, -, rfl⟩ := List.mem_map.mp listed
      exact plain_diagnostic _ diagnostic
    · exact .number _ report.total.toNat report.total.toNat_lt
  followed report members object := by
    obtain rfl := Value.object.inj object
    simp [Codec.skims, reportKeys]
  recovered report := by
    have read := reportOfValues?_toJson report
    simpa [Codec.ofJson?, Codec.toJson, reportOfJson?, sole?] using read

theorem codecs_round_trip :
    RoundTrips Kind ∧ RoundTrips Span ∧ RoundTrips Code ∧ RoundTrips Category ∧
      RoundTrips Diagnostic ∧ RoundTrips Report :=
  ⟨faithful_kind.roundTrips, faithful_span.roundTrips, faithful_code.roundTrips,
    faithful_category.roundTrips, faithful_diagnostic.roundTrips, faithful_report.roundTrips⟩

end NodeFeed.Json

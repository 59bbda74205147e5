import Mathlib.Data.List.Forall2
import NodeFeed.Proofs.Json.Format

set_option autoImplicit false

namespace NodeFeed.Json

-- The values of a record, in the order of its keys. An object may have other members as well, but
-- an array has no other elements.
inductive Holds (keys : List String) : Value → List Value → Prop
  | object {members : List (String × Value)} {values : List Value}
      (once : List.Forall₂ (fun key value => Once key value members) keys values) :
      Holds keys (.object members) values
  | array {values : List Value} (all : values.length = keys.length) :
      Holds keys (.array values) values

-- How a record is laid out: its keys, what their values have to be and which record they spell, and
-- the values that it is written with.
structure Layout (α : Type) where
  keys : List String
  Accepts : List Value → Prop
  Spells : List Value → α → Prop
  written : α → List Value

structure Layout.Followed {α : Type} [Codec α] (layout : Layout α) : Prop where
  accepted (value : Value) : (Codec.ofJson? value : Option α).isSome = true ↔
    ∃ values, Holds layout.keys value values ∧ layout.Accepts values
  read (value : Value) (record : α) : Codec.ofJson? value = some record ↔
    ∃ values, Holds layout.keys value values ∧ layout.Spells values record
  -- The order of the members, members with other keys and the shape make no difference.
  alike (first second : Value) (values : List Value) :
    Holds layout.keys first values → Holds layout.keys second values →
      (Codec.ofJson? first : Option α) = Codec.ofJson? second
  -- Of a text, the members with other keys are only skimmed.
  decoded (text : String) (record : α) : decode? text = some record ↔
    ∃ value values, read? (fun key => !layout.keys.contains key) text = some value ∧
      Holds layout.keys value values ∧ layout.Spells values record
  encoded (record : α) :
    encode record = (Value.object (layout.keys.zip (layout.written record))).render
  reread (record : α) : read? (Codec.skims α) (encode record) =
    some (.object (layout.keys.zip (layout.written record)))

theorem mapM_eq_some_iff {α β : Type} {read : α → Option β} {elements : List α}
    {results : List β} :
    elements.mapM read = some results ↔
      List.Forall₂ (fun element result => read element = some result) elements results := by
  induction elements generalizing results with
  | nil => cases results <;> simp
  | cons element rest ih =>
      simp only [List.mapM_cons, Option.bind_eq_bind, Option.bind_eq_some_iff, ih,
        List.forall₂_cons_left_iff]
      constructor
      · rintro ⟨first, found, others, later, same⟩
        exact ⟨first, others, found, later, (Option.some.inj same).symm⟩
      · rintro ⟨first, others, found, later, rfl⟩
        exact ⟨first, found, others, later, rfl⟩

theorem exists_forall₂_iff {α β : Type} {read : α → Option β} {elements : List α} :
    (∃ results, List.Forall₂ (fun element result => read element = some result) elements results) ↔
      ∀ element ∈ elements, (read element).isSome = true := by
  induction elements with
  | nil => simp
  | cons element rest ih =>
      rw [List.forall_mem_cons, ← ih, Option.isSome_iff_exists]
      constructor
      · rintro ⟨_, read⟩
        cases read with
        | cons found later => exact ⟨⟨_, found⟩, _, later⟩
      · rintro ⟨⟨first, found⟩, others, later⟩
        exact ⟨first :: others, .cons found later⟩

def values? (keys : List String) : Value → Option (List Value)
  | .object members => keys.mapM fun key => sole? key members
  | .array elements => if elements.length = keys.length then some elements else none
  | _ => none

theorem values?_eq_some_iff {keys : List String} {value : Value} {values : List Value} :
    values? keys value = some values ↔ Holds keys value values := by
  cases value with
  | object members =>
      simp only [values?, mapM_eq_some_iff, sole?_eq_some_iff]
      constructor
      · exact .object
      · intro held
        cases held with
        | object once => exact once
  | array elements =>
      simp only [values?, Option.ite_none_right_eq_some, Option.some.injEq]
      constructor
      · rintro ⟨all, rfl⟩
        exact .array all
      · intro held
        cases held with
        | array all => exact ⟨all, rfl⟩
  | null => exact ⟨nofun, nofun⟩
  | bool _ => exact ⟨nofun, nofun⟩
  | number _ => exact ⟨nofun, nofun⟩
  | string _ => exact ⟨nofun, nofun⟩

theorem Holds.length_eq {keys : List String} {value : Value} {values : List Value}
    (held : Holds keys value values) : values.length = keys.length := by
  cases held with
  | object once => exact once.length_eq.symm
  | array all => exact all

-- A reader follows a layout if it looks at nothing but the values at the keys.
theorem Layout.followed {α : Type} [Codec α] (layout : Layout α) (faithful : Faithful α)
    (ofValues? : List Value → Option α)
    (read : ∀ value, Codec.ofJson? value = (values? layout.keys value).bind ofValues?)
    (spells : ∀ values record, ofValues? values = some record ↔ layout.Spells values record)
    (accepts : ∀ values, values.length = layout.keys.length →
      (layout.Accepts values ↔ ∃ record, layout.Spells values record))
    (skims : Codec.skims α = fun key => !layout.keys.contains key)
    (written : ∀ record : α,
      Codec.toJson record = .object (layout.keys.zip (layout.written record))) :
    layout.Followed := by
  have spelled (value : Value) (record : α) : Codec.ofJson? value = some record ↔
      ∃ values, Holds layout.keys value values ∧ layout.Spells values record := by
    simp only [read, Option.bind_eq_some_iff, values?_eq_some_iff, spells]
  refine ⟨?_, spelled, ?_, ?_, ?_, ?_⟩
  · intro value
    simp only [Option.isSome_iff_exists, spelled]
    constructor
    · rintro ⟨record, values, held, same⟩
      exact ⟨values, held, (accepts values held.length_eq).mpr ⟨record, same⟩⟩
    · rintro ⟨values, held, accepted⟩
      obtain ⟨record, same⟩ := (accepts values held.length_eq).mp accepted
      exact ⟨record, values, held, same⟩
  · intro first second values one other
    rw [read, read, values?_eq_some_iff.mpr one, values?_eq_some_iff.mpr other]
  · intro text record
    simp only [decode?, skims, Option.bind_eq_some_iff, spelled, exists_and_left]
  · intro record
    rw [encode, written]
  · intro record
    rw [faithful.read?_encode, written]

def spanValues (span : Span) : List Value :=
  [.ofNat span.startLine.toNat, .ofNat span.startColumn.toNat, .ofNat span.endLine.toNat,
    .ofNat span.endColumn.toNat]

def spanLayout : Layout Span where
  keys := ["line", "column", "end_line", "end_column"]
  Accepts values := ∀ value ∈ values, ∃ n < UInt32.size, value = .ofNat n
  Spells values span := values = spanValues span
  written := spanValues

def spanOfList? : List Value → Option Span
  | [startLine, startColumn, endLine, endColumn] =>
      spanOfValues? startLine startColumn endLine endColumn
  | _ => none

theorem spanOfJson?_eq (value : Value) :
    spanOfJson? value = (values? spanLayout.keys value).bind spanOfList? := by
  cases value with
  | object members =>
      simp only [spanOfJson?, spanOfMembers?, values?, spanLayout, List.mapM_cons, List.mapM_nil]
      cases sole? "line" members <;> cases sole? "column" members <;>
        cases sole? "end_line" members <;> cases sole? "end_column" members <;> rfl
  | array elements =>
      by_cases all : elements.length = 4
      · obtain ⟨_, _, _, _, rfl⟩ := List.length_eq_four.mp all
        rfl
      · have none : spanOfJson? (.array elements) = none := by
          unfold spanOfJson?
          split <;> simp_all
        simp [none, values?, spanLayout, all]
  | null => rfl
  | bool _ => rfl
  | number _ => rfl
  | string _ => rfl

theorem spanOfList?_eq_some_iff (values : List Value) (span : Span) :
    spanOfList? values = some span ↔ values = spanValues span := by
  constructor
  · intro read
    unfold spanOfList? at read
    split at read
    next =>
      obtain ⟨rfl, rfl, rfl, rfl⟩ := spanOfValues?_eq_some_iff.mp read
      rfl
    next => cases read
  · rintro rfl
    exact spanOfValues?_eq_some_iff.mpr ⟨rfl, rfl, rfl, rfl⟩

theorem accepts_span {values : List Value} (all : values.length = 4) :
    spanLayout.Accepts values ↔ ∃ span, values = spanValues span := by
  constructor
  · intro accepted
    obtain ⟨_, _, _, _, rfl⟩ := List.length_eq_four.mp all
    simp only [spanLayout, List.forall_mem_cons] at accepted
    obtain ⟨⟨line, lineFits, rfl⟩, ⟨column, columnFits, rfl⟩, ⟨endLine, endLineFits, rfl⟩,
      ⟨endColumn, endColumnFits, rfl⟩, -⟩ := accepted
    refine ⟨⟨.ofNat line, .ofNat column, .ofNat endLine, .ofNat endColumn⟩, ?_⟩
    simp only [spanValues, UInt32.toNat_ofNat_of_lt', lineFits, columnFits, endLineFits,
      endColumnFits]
  · rintro ⟨span, rfl⟩
    simp only [spanLayout, spanValues, List.forall_mem_cons]
    exact ⟨⟨_, span.startLine.toNat_lt, rfl⟩, ⟨_, span.startColumn.toNat_lt, rfl⟩,
      ⟨_, span.endLine.toNat_lt, rfl⟩, ⟨_, span.endColumn.toNat_lt, rfl⟩, by simp⟩

theorem followed_span : spanLayout.Followed := by
  apply spanLayout.followed faithful_span spanOfList? spanOfJson?_eq spanOfList?_eq_some_iff
  case accepts => exact fun values all => accepts_span all
  case skims => rfl
  case written => exact fun span => rfl

-- An error may have any form that can be read, also one in which it would not be written.
def reportLayout : Layout Report where
  keys := ["errors", "total_errors"]
  Accepts values := ∃ errors total, values = [.array errors, .ofNat total] ∧
    (∀ error ∈ errors, (Codec.ofJson? error : Option Diagnostic).isSome = true) ∧
    total < UInt64.size
  Spells values report := ∃ errors, values = [.array errors, .ofNat report.total.toNat] ∧
    List.Forall₂ (fun error diagnostic => Codec.ofJson? error = some diagnostic) errors
      report.errors
  written report := [.array (report.errors.map Codec.toJson), .ofNat report.total.toNat]

def reportOfList? : List Value → Option Report
  | [errors, total] => reportOfValues? errors total
  | _ => none

theorem reportOfJson?_eq (value : Value) :
    reportOfJson? value = (values? reportLayout.keys value).bind reportOfList? := by
  cases value with
  | object members =>
      simp only [reportOfJson?, values?, reportLayout, List.mapM_cons, List.mapM_nil]
      cases sole? "errors" members <;> cases sole? "total_errors" members <;> rfl
  | array elements =>
      by_cases all : elements.length = 2
      · obtain ⟨_, _, rfl⟩ := List.length_eq_two.mp all
        rfl
      · have none : reportOfJson? (.array elements) = none := by
          unfold reportOfJson?
          split <;> simp_all
        simp [none, values?, reportLayout, all]
  | null => rfl
  | bool _ => rfl
  | number _ => rfl
  | string _ => rfl

theorem reportOfList?_eq_some_iff (values : List Value) (report : Report) :
    reportOfList? values = some report ↔ reportLayout.Spells values report := by
  obtain ⟨diagnostics, total⟩ := report
  constructor
  · intro read
    unfold reportOfList? reportOfValues? at read
    split at read
    next =>
      split at read
      next errors =>
        simp only [Option.bind_eq_bind, Option.bind_eq_some_iff, mapM_eq_some_iff,
          uint64?_eq_some_iff] at read
        obtain ⟨_, each, _, rfl, same⟩ := read
        obtain ⟨rfl, rfl⟩ := Report.mk.inj (Option.some.inj same)
        exact ⟨errors, rfl, each⟩
      next => cases read
    next => cases read
  · rintro ⟨errors, rfl, each⟩
    have mapped : errors.mapM diagnosticOfJson? = some diagnostics := mapM_eq_some_iff.mpr each
    have counted : uint64? (.ofNat total.toNat) = some total := uint64?_eq_some_iff.mpr rfl
    simp only [reportOfList?, reportOfValues?, mapped, counted]
    rfl

theorem accepts_report (values : List Value) :
    reportLayout.Accepts values ↔ ∃ report, reportLayout.Spells values report := by
  constructor
  · rintro ⟨errors, total, rfl, each, fits⟩
    obtain ⟨diagnostics, read⟩ := exists_forall₂_iff.mpr each
    refine ⟨⟨diagnostics, .ofNat total⟩, errors, ?_, read⟩
    simp only [UInt64.toNat_ofNat_of_lt', fits]
  · rintro ⟨report, errors, rfl, read⟩
    exact ⟨errors, _, rfl, exists_forall₂_iff.mp ⟨_, read⟩, report.total.toNat_lt⟩

theorem followed_report : reportLayout.Followed := by
  apply reportLayout.followed faithful_report reportOfList? reportOfJson?_eq
    reportOfList?_eq_some_iff
  case accepts => exact fun values _ => accepts_report values
  case skims => rfl
  case written => exact fun report => rfl

theorem records_read : spanLayout.Followed ∧ reportLayout.Followed :=
  ⟨followed_span, followed_report⟩

end NodeFeed.Json

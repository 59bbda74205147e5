import NodeFeed.Diagnostic
import NodeFeed.Proofs.Text.Quoted

set_option autoImplicit false

namespace NodeFeed.KindError

theorem toList_outOfRange (index count : Nat) :
    (outOfRange index count).message.toList =
      "node kind index ".toList ++ (Nat.toDigits 10 index ++
        ' ' :: ("is out of range (expected 0..".toList ++ (Nat.toDigits 10 count ++ [')']))) := by
  have between : " is out of range (expected 0..".toList =
      ' ' :: "is out of range (expected 0..".toList := by decide
  have closing : ")".toList = [')'] := by decide
  unfold message
  simp only [String.toList_append, Nat.toList_repr, between, closing, List.append_assoc,
    List.cons_append]

theorem toList_unknownName (name : String) :
    (unknownName name).message.toList =
      "unknown node kind name: ".toList ++ (Text.quote name).toList :=
  String.toList_append

theorem outOfRange_inj {index count other total : Nat}
    (same : (outOfRange index count).message = (outOfRange other total).message) :
    index = other ∧ count = total := by
  have blank (n : Nat) : ' ' ∉ Nat.toDigits 10 n :=
    Text.not_mem_toDigits (by decide) (by decide) (by decide) n
  have lists := congrArg String.toList same
  rw [toList_outOfRange, toList_outOfRange] at lists
  obtain ⟨first, later⟩ := Text.separated_inj (blank index) (blank other)
    (List.append_cancel_left lists)
  have last := List.append_cancel_right (List.append_cancel_left later)
  exact ⟨Text.toDigits_inj (by decide) (by decide) first,
    Text.toDigits_inj (by decide) (by decide) last⟩

theorem outOfRange_ne_unknownName (index count : Nat) (name : String) :
    (outOfRange index count).message ≠ (unknownName name).message := by
  intro same
  have heads := congrArg (fun text => text.toList.head?) same
  have first : "node kind index ".toList.head? = some 'n' := by decide
  have second : "unknown node kind name: ".toList.head? = some 'u' := by decide
  simp only [toList_outOfRange, toList_unknownName, List.head?_append, first, second] at heads
  cases heads

theorem message_injective : Function.Injective message := by
  intro first second same
  cases first with
  | outOfRange index count =>
      cases second with
      | outOfRange other total =>
          obtain ⟨rfl, rfl⟩ := outOfRange_inj same
          rfl
      | unknownName name => exact absurd same (outOfRange_ne_unknownName index count name)
  | unknownName name =>
      cases second with
      | outOfRange index count =>
          exact absurd same.symm (outOfRange_ne_unknownName index count name)
      | unknownName other =>
          have lists := congrArg String.toList same
          rw [toList_unknownName, toList_unknownName] at lists
          have quoted := String.toList_inj.mp (List.append_cancel_left lists)
          rw [Text.quote_injective quoted]

theorem shown_message (error : KindError) : ∀ c ∈ error.message.toList, Text.Shown c := by
  cases error with
  | outOfRange index count =>
      have digits (n : Nat) : ∀ c ∈ Nat.toDigits 10 n, Text.Shown c :=
        Text.forall_mem_toDigits (by decide) (by decide) (by decide) n
      have opening : ∀ c ∈ "node kind index ".toList, Text.Shown c := by simp [Text.Shown]
      have between : ∀ c ∈ ' ' :: "is out of range (expected 0..".toList, Text.Shown c := by
        simp [Text.Shown]
      have closing : ∀ c ∈ [')'], Text.Shown c := by simp [Text.Shown]
      rw [toList_outOfRange, ← List.cons_append]
      simp only [List.forall_mem_append]
      exact ⟨opening, digits index, between, digits count, closing⟩
  | unknownName name =>
      have opening : ∀ c ∈ "unknown node kind name: ".toList, Text.Shown c := by simp [Text.Shown]
      rw [toList_unknownName]
      simp only [List.forall_mem_append]
      exact ⟨opening, Text.shown_quoted name⟩

theorem exists_quoted (name : String) :
    ∃ quoted : String,
      (unknownName name).message = "unknown node kind name: \"" ++ quoted ++ "\"" ∧
        Text.Settled quoted.toList := by
  have opening : "unknown node kind name: \"".toList =
      "unknown node kind name: ".toList ++ ['"'] := by decide
  have closing : "\"".toList = ['"'] := by decide
  refine ⟨String.ofList (name.toList.flatMap Text.quoteChar), ?_, ?_⟩
  · rw [← String.toList_inj, toList_unknownName, Text.toList_quote]
    simp only [String.toList_append, String.toList_ofList, opening, closing, List.append_assoc,
      List.cons_append, List.nil_append]
  · rw [String.toList_ofList]
    exact Text.settled_quoted name

theorem messages_distinct :
    Function.Injective message ∧ Function.Injective Diagnostic.ofKindError ∧
      (∀ error : KindError, ∀ c ∈ error.message.toList, 0x20 ≤ c.toNat ∧ c.toNat ≠ 0x7f) ∧
      ∀ name, ∃ quoted : String,
        (unknownName name).message = "unknown node kind name: \"" ++ quoted ++ "\"" ∧
          Text.Settled quoted.toList := by
  refine ⟨message_injective, ?_, shown_message, exists_quoted⟩
  intro first second same
  exact message_injective (congrArg Diagnostic.message same)

end NodeFeed.KindError

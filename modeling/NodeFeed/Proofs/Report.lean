import NodeFeed.Proofs.Json.RoundTrip
import NodeFeed.Report

set_option autoImplicit false

namespace NodeFeed.Report

theorem pushAll_cons (report : Report) (error : Diagnostic) (errors : List Diagnostic) :
    report.pushAll (error :: errors) = (report.push error).pushAll errors := rfl

theorem pushAll_append (report : Report) (first second : List Diagnostic) :
    report.pushAll (first ++ second) = (report.pushAll first).pushAll second :=
  List.foldl_append

theorem pushAll_eq (report : Report) (errors : List Diagnostic) :
    report.pushAll errors =
      ⟨report.errors ++ errors.take (capacity - report.errors.length),
        report.total + UInt64.ofNat errors.length⟩ := by
  induction errors generalizing report with
  | nil => simp [pushAll]
  | cons error errors ih =>
      have counted : report.total + 1 + UInt64.ofNat errors.length =
          report.total + UInt64.ofNat (errors.length + 1) := by
        rw [UInt64.ofNat_add, UInt64.add_assoc, UInt64.add_comm 1]
        rfl
      rw [pushAll_cons, ih, push, List.length_cons, counted]
      by_cases room : report.errors.length < capacity
      · have left : capacity - report.errors.length =
            capacity - (report.errors.length + 1) + 1 := by omega
        simp [room, left]
      · have full : capacity - report.errors.length = 0 := by omega
        simp [room, full]

theorem errors_pushAll (report : Report) (errors : List Diagnostic) :
    (report.pushAll errors).errors =
      report.errors ++ errors.take (20 - report.errors.length) := by
  rw [pushAll_eq]
  rfl

theorem toNat_total_pushAll (report : Report) (errors : List Diagnostic)
    (fits : report.total.toNat + errors.length < UInt64.size) :
    (report.pushAll errors).total.toNat = report.total.toNat + errors.length := by
  have listed : (UInt64.ofNat errors.length).toNat = errors.length :=
    UInt64.toNat_ofNat_of_lt' (by omega)
  rw [pushAll_eq, UInt64.toNat_add, listed]
  exact Nat.mod_eq_of_lt fits

theorem hasErrors_iff (report : Report) : report.hasErrors = true ↔ report.total.toNat ≠ 0 := by
  rw [hasErrors, bne_iff_ne, ne_eq, ← UInt64.toNat_inj]
  rfl

structure Lists (report : Report) (errors : List Diagnostic) : Prop where
  stored : report.errors.length = min 20 errors.length
  counted : report.total.toNat = errors.length
  pushed : report.hasErrors = true ↔ errors ≠ []
  nonempty : report.hasErrors = true ↔ report.errors ≠ []

theorem lists_pushAll {errors : List Diagnostic} (fits : errors.length < UInt64.size) :
    (empty.pushAll errors).Lists errors := by
  have kept : (empty.pushAll errors).errors = errors.take 20 := errors_pushAll empty errors
  have counted : (empty.pushAll errors).total.toNat = errors.length := by
    rw [toNat_total_pushAll empty errors (by simpa [empty] using fits)]
    exact Nat.zero_add _
  have pushed : (empty.pushAll errors).hasErrors = true ↔ errors ≠ [] := by
    rw [hasErrors_iff, counted, ne_eq, List.length_eq_zero_iff]
  refine ⟨?_, counted, pushed, ?_⟩
  · rw [kept, List.length_take]
  · rw [pushed, kept, ne_eq, ne_eq, List.take_eq_nil_iff]
    simp

theorem pushes_kept (report : Report) (errors : List Diagnostic) :
    (report.pushAll errors).errors =
        report.errors ++ errors.take (20 - report.errors.length) ∧
      (report.total.toNat + errors.length < UInt64.size →
        (report.pushAll errors).total.toNat = report.total.toNat + errors.length) ∧
      (errors.length < UInt64.size → (empty.pushAll errors).Lists errors) ∧
      ∀ later, ∃ decoded : Report,
        Json.decode? (Json.encode (report.pushAll errors)) = some decoded ∧
          decoded.pushAll later = report.pushAll (errors ++ later) := by
  refine ⟨report.errors_pushAll errors, report.toNat_total_pushAll errors, lists_pushAll, ?_⟩
  intro later
  have back := (Json.faithful_report.roundTrips (report.pushAll errors)).1
  exact ⟨report.pushAll errors, back, (report.pushAll_append errors later).symm⟩

end NodeFeed.Report

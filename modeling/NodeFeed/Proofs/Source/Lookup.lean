import Mathlib.Data.List.DropRight
import NodeFeed.Proofs.Source.Lines

set_option autoImplicit false

namespace NodeFeed.SourceText

theorem isValid_byteSize {text : String} {first rest : List Char}
    (split : text.toList = first ++ rest) : String.Pos.Raw.IsValid text ⟨byteSize first⟩ := by
  rw [String.Pos.Raw.isValid_iff_exists_append]
  refine ⟨String.ofList first, String.ofList rest, ?_, ?_⟩
  · rw [← String.ofList_append, ← split, String.ofList_toList]
  · apply String.Pos.Raw.ext
    rw [String.byteIdx_rawEndPos, utf8ByteSize_ofList]

def lineStop (source : SourceText) (index : Nat) : Nat :=
  match source.lineStarts[index + 1]? with
  | some next => next - 1
  | none => source.text.utf8ByteSize

theorem line_eq_slice (source : SourceText) {number : UInt32} (counted : number ≠ 0) :
    source.line number =
      source.lineStarts[number.toNat - 1]?.bind fun start =>
        (slice? source.text.toList start (source.lineStop (number.toNat - 1))).map fun piece =>
          String.ofList (trimReturns piece) := by
  simp only [line, if_neg counted]
  cases source.lineStarts[number.toNat - 1]? <;> rfl

-- The bytes that the line at `index` is cut out of. They are whole characters of the text, and
-- spell the piece with that index.
structure Cut (source : SourceText) (index start : Nat) (piece : List Char) : Prop where
  listed : source.lineStarts[index]? = some start
  positive : ∀ next, source.lineStarts[index + 1]? = some next → 0 < next
  ordered : start ≤ source.lineStop index
  within : source.lineStop index ≤ source.text.utf8ByteSize
  starts : String.Pos.Raw.IsValid source.text ⟨start⟩
  stops : String.Pos.Raw.IsValid source.text ⟨source.lineStop index⟩
  sliced : slice? source.text.toList start (source.lineStop index) = some piece
  split : (source.text.toList.splitOn '\n')[index]? = some piece

theorem exists_cut (source : SourceText) {index : Nat} {piece : List Char}
    (found : (pieces source.text.toList)[index]? = some piece) :
    ∃ start, source.Cut index start piece := by
  obtain ⟨first, after, place, listed, next⟩ := exists_place [] source.text.toList found
  rw [List.nil_append] at place
  have size : source.text.utf8ByteSize = byteSize first + byteSize piece + byteSize after := by
    rw [← String.ofList_toList (s := source.text), utf8ByteSize_ofList, place]
    simp [Nat.add_assoc]
  have stop : source.lineStop index = byteSize first + byteSize piece := by
    rw [lineStop, lineStarts, ← byteSize_nil, next]
    cases after with
    | nil => exact size
    | cons c rest => rfl
  refine ⟨byteSize first, listed, ?_, ?_, ?_, isValid_byteSize place, ?_, ?_, found⟩
  · intro later shown
    rw [lineStarts, ← byteSize_nil, next] at shown
    obtain ⟨_, _, rfl⟩ := Option.map_eq_some_iff.mp shown
    exact Nat.succ_pos _
  · rw [stop]
    exact Nat.le_add_right _ _
  · rw [stop, size]
    exact Nat.le_add_right _ _
  · rw [stop, ← byteSize_append]
    exact isValid_byteSize (place.trans (List.append_assoc first piece after).symm)
  · rw [stop, place]
    exact slice?_append first piece after

theorem line_eq (source : SourceText) (number : UInt32) :
    source.line number =
      if number = 0 then none
      else (pieces source.text.toList)[number.toNat - 1]?.map fun piece =>
        String.ofList (trimReturns piece) := by
  split
  next none => rw [line, if_pos none]
  next counted =>
    rw [line_eq_slice source counted]
    cases found : (pieces source.text.toList)[number.toNat - 1]? with
    | none =>
        have past : source.lineStarts[number.toNat - 1]? = none := by
          rw [List.getElem?_eq_none_iff, ← lineCount_eq] at found
          exact List.getElem?_eq_none found
        rw [past]
        rfl
    | some piece =>
        obtain ⟨start, cut⟩ := source.exists_cut found
        rw [cut.listed, Option.bind_some, cut.sliced]

theorem exists_returns (piece : List Char) :
    ∃ returns, piece = trimReturns piece ++ List.replicate returns '\r' ∧
      (trimReturns piece).getLast? ≠ some '\r' := by
  have dropped : piece.rtakeWhile (· == '\r') =
      List.replicate (piece.rtakeWhile (· == '\r')).length '\r' := by
    rw [List.eq_replicate_iff]
    exact ⟨rfl, fun c among => by simpa using List.mem_rtakeWhile_imp among⟩
  refine ⟨(piece.rtakeWhile (· == '\r')).length, ?_, ?_⟩
  · rw [← dropped]
    exact List.rdropWhile_append_rtakeWhile.symm
  · intro last
    rw [trimReturns, List.getLast?_reverse] at last
    have kept := List.head?_dropWhile_not (· == '\r') piece.reverse
    simp [last] at kept

theorem line_lookup (source : SourceText) (number : UInt32) :
    source.lineCount = source.text.toList.count '\n' + 1 ∧
      ((source.line number).isSome = true ↔
        1 ≤ number.toNat ∧ number.toNat ≤ source.lineCount) ∧
      ∀ line, source.line number = some line →
        ∃ start piece returns, source.Cut (number.toNat - 1) start piece ∧
          piece = line.toList ++ List.replicate returns '\r' ∧
          line.toList.getLast? ≠ some '\r' := by
  refine ⟨by rw [lineCount_eq, length_pieces], ?_, ?_⟩
  · rw [line_eq, lineCount_eq]
    by_cases none : number = 0
    · simp [none]
    · have positive : number.toNat ≠ 0 := fun zero => none (UInt32.toNat_inj.mp zero)
      rw [if_neg none, Option.isSome_map, Option.isSome_iff_ne_none, ne_eq,
        List.getElem?_eq_none_iff]
      omega
  · intro line looked
    rw [line_eq] at looked
    split at looked
    next => cases looked
    next =>
      obtain ⟨piece, found, rfl⟩ := Option.map_eq_some_iff.mp looked
      obtain ⟨start, cut⟩ := source.exists_cut found
      obtain ⟨returns, kept, last⟩ := exists_returns piece
      rw [String.toList_ofList]
      exact ⟨start, piece, returns, cut, kept, last⟩

end NodeFeed.SourceText

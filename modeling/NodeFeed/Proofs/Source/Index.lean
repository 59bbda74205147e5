import NodeFeed.Proofs.Source.Lookup
import NodeFeed.Proofs.Text.Utf8

set_option autoImplicit false

namespace NodeFeed.SourceText

def NewlineAt (text : List Char) (offset : Nat) : Prop :=
  ∃ first rest, text = first ++ '\n' :: rest ∧ offset = byteSize first

theorem newlineAt_nil (offset : Nat) : ¬NewlineAt [] offset := by
  rintro ⟨first, rest, split, -⟩
  simp at split

theorem newlineAt_cons {c : Char} {text : List Char} {offset : Nat} :
    NewlineAt (c :: text) offset ↔
      c = '\n' ∧ offset = 0 ∨ ∃ later, NewlineAt text later ∧ offset = c.utf8Size + later := by
  constructor
  · rintro ⟨first, rest, split, rfl⟩
    cases first with
    | nil => exact .inl ⟨(List.cons.inj split).1, rfl⟩
    | cons d first =>
        obtain ⟨rfl, rfl⟩ := List.cons.inj split
        exact .inr ⟨byteSize first, ⟨first, rest, rfl, rfl⟩, byteSize_cons c first⟩
  · rintro (⟨rfl, rfl⟩ | ⟨_, ⟨first, rest, rfl, rfl⟩, rfl⟩)
    · exact ⟨[], text, rfl, rfl⟩
    · exact ⟨c :: first, rest, rfl, (byteSize_cons c first).symm⟩

theorem mem_lineStartsFrom_iff {offset start : Nat} {text : List Char} :
    start ∈ lineStartsFrom offset text ↔
      ∃ place, NewlineAt text place ∧ start = offset + place + 1 := by
  induction text generalizing offset with
  | nil => simp [lineStartsFrom, newlineAt_nil]
  | cons c text ih =>
      have listed : start ∈ lineStartsFrom offset (c :: text) ↔
          c = '\n' ∧ start = offset + c.utf8Size ∨
            start ∈ lineStartsFrom (offset + c.utf8Size) text := by
        rw [lineStartsFrom]
        split <;> simp_all
      rw [listed, ih]
      constructor
      · rintro (⟨rfl, rfl⟩ | ⟨place, newline, rfl⟩)
        · exact ⟨0, newlineAt_cons.mpr (.inl ⟨rfl, rfl⟩), rfl⟩
        · exact ⟨c.utf8Size + place, newlineAt_cons.mpr (.inr ⟨place, newline, rfl⟩), by omega⟩
      · rintro ⟨place, newline, rfl⟩
        rcases newlineAt_cons.mp newline with ⟨rfl, rfl⟩ | ⟨later, within, rfl⟩
        · exact .inl ⟨rfl, rfl⟩
        · exact .inr ⟨later, within, by omega⟩

theorem getElem?_utf8EncodeChar_iff {c : Char} {offset : Nat} :
    (String.utf8EncodeChar c)[offset]? = some 0x0a ↔ c = '\n' ∧ offset = 0 := by
  constructor
  · intro byte
    obtain rfl : c = '\n' := Char.toNat_inj.mp
      (Text.Utf8.toNat_of_mem_utf8EncodeChar (List.mem_of_getElem? byte) (by decide))
    obtain ⟨within, -⟩ := List.getElem?_eq_some_iff.mp byte
    rw [String.length_utf8EncodeChar] at within
    exact ⟨rfl, Nat.lt_one_iff.mp within⟩
  · rintro ⟨rfl, rfl⟩
    rfl

theorem getElem?_encode_iff {text : List Char} {offset : Nat} :
    (Text.Utf8.encode text)[offset]? = some 0x0a ↔ NewlineAt text offset := by
  induction text generalizing offset with
  | nil => simp [Text.Utf8.encode, newlineAt_nil]
  | cons c text ih =>
      have width := String.length_utf8EncodeChar c
      rw [Text.Utf8.encode_cons, newlineAt_cons]
      by_cases within : offset < c.utf8Size
      · rw [List.getElem?_append_left (by omega), getElem?_utf8EncodeChar_iff]
        constructor
        · exact .inl
        · rintro (first | ⟨later, -, past⟩)
          · exact first
          · omega
      · rw [List.getElem?_append_right (by omega), width, ih]
        constructor
        · intro newline
          exact .inr ⟨offset - c.utf8Size, newline, by omega⟩
        · rintro (⟨-, rfl⟩ | ⟨later, newline, rfl⟩)
          · exact absurd c.utf8Size_pos within
          · rwa [Nat.add_sub_cancel_left]

theorem succ_mem_lineStarts_iff (source : SourceText) (offset : Nat) :
    offset + 1 ∈ source.lineStarts ↔ source.text.toUTF8.data[offset]? = some 0x0a := by
  rw [← Array.getElem?_toList, Text.Utf8.toList_toUTF8, getElem?_encode_iff, lineStarts,
    List.mem_cons, mem_lineStartsFrom_iff]
  simp [eq_comm]

theorem pairwise_lineStartsFrom (offset : Nat) (text : List Char) :
    (offset :: lineStartsFrom offset text).Pairwise (· < ·) := by
  induction text using lines_induction generalizing offset with
  | last piece whole => simp [lineStartsFrom_last offset whole]
  | more piece rest whole ih =>
      have above : ∀ start ∈ lineStartsFrom offset (piece ++ '\n' :: rest), offset < start := by
        intro start among
        obtain ⟨place, -, rfl⟩ := mem_lineStartsFrom_iff.mp among
        omega
      refine List.pairwise_cons.mpr ⟨above, ?_⟩
      rw [lineStartsFrom_more offset whole]
      exact ih _

theorem exists_split_of_mem_lineStarts {source : SourceText} {start : Nat}
    (among : start ∈ source.lineStarts) :
    ∃ first rest, source.text.toList = first ++ rest ∧ start = byteSize first := by
  rcases List.mem_cons.mp among with rfl | later
  · exact ⟨[], source.text.toList, rfl, rfl⟩
  · obtain ⟨_, ⟨first, rest, split, rfl⟩, rfl⟩ := mem_lineStartsFrom_iff.mp later
    refine ⟨first ++ ['\n'], rest, by simp [split], ?_⟩
    simp [Char.utf8Size]

def rawLines (source : SourceText) : List (Option (List Char)) :=
  List.zipWith (slice? source.text.toList) source.lineStarts
    (source.lineStarts.tail ++ [source.text.utf8ByteSize])

-- A text in lines. Each keeps its newline, and only the last has none.
structure Divided (text : List Char) (lines : List (List Char)) : Prop where
  joined : lines.flatten = text
  ended : ∀ line ∈ lines.dropLast, ∃ piece, line = piece ++ ['\n'] ∧ '\n' ∉ piece
  last : ∃ line, lines.getLast? = some line ∧ '\n' ∉ line

theorem divided_last {piece : List Char} (whole : '\n' ∉ piece) : Divided piece [piece] :=
  ⟨by simp, by simp, piece, rfl, whole⟩

theorem divided_more {piece rest : List Char} {lines : List (List Char)} (whole : '\n' ∉ piece)
    (divided : Divided rest lines) :
    Divided (piece ++ '\n' :: rest) ((piece ++ ['\n']) :: lines) := by
  obtain ⟨line, last, unbroken⟩ := divided.last
  have nonempty : lines ≠ [] := by
    rintro rfl
    cases last
  refine ⟨by simp [divided.joined], ?_, line, ?_, unbroken⟩
  · rw [List.dropLast_cons_of_ne_nil nonempty, List.forall_mem_cons]
    exact ⟨⟨piece, rfl, whole⟩, divided.ended⟩
  · rw [List.getLast?_cons, last]
    rfl

-- The text before the current one is open, since the offsets of later lines count it too.
theorem exists_divided (before text : List Char) :
    ∃ lines, Divided text lines ∧
      List.zipWith (slice? (before ++ text))
          (byteSize before :: lineStartsFrom (byteSize before) text)
          (lineStartsFrom (byteSize before) text ++ [byteSize (before ++ text)]) =
        lines.map some := by
  induction text using lines_induction generalizing before with
  | last piece whole =>
      have cut := slice?_append before piece []
      refine ⟨[piece], divided_last whole, ?_⟩
      rw [List.append_nil] at cut
      simp [lineStartsFrom_last _ whole, cut]
  | more piece rest whole ih =>
      have text : before ++ (piece ++ '\n' :: rest) = before ++ (piece ++ ['\n']) ++ rest := by
        simp
      have size : byteSize before + byteSize piece + 1 =
          byteSize (before ++ (piece ++ ['\n'])) := by
        simp [Char.utf8Size, Nat.add_assoc]
      have cut := slice?_append before (piece ++ ['\n']) rest
      rw [← List.append_assoc, ← byteSize_append] at cut
      obtain ⟨lines, divided, cuts⟩ := ih (before ++ (piece ++ ['\n']))
      refine ⟨(piece ++ ['\n']) :: lines, divided_more whole divided, ?_⟩
      rw [lineStartsFrom_more _ whole, text, size, List.cons_append, List.zipWith_cons_cons, cut,
        cuts, List.map_cons]

theorem lineStarts_faithful (source : SourceText) :
    (source.lineStarts.head? = some 0 ∧ source.lineStarts.Pairwise (· < ·) ∧
        (∀ start ∈ source.lineStarts,
          start ≤ source.text.utf8ByteSize ∧ String.Pos.Raw.IsValid source.text ⟨start⟩) ∧
        ∀ offset,
          offset + 1 ∈ source.lineStarts ↔ source.text.toUTF8.data[offset]? = some 0x0a) ∧
      ∃ lines, source.rawLines = lines.map some ∧ Divided source.text.toList lines := by
  refine ⟨⟨rfl, pairwise_lineStartsFrom 0 _, ?_, source.succ_mem_lineStarts_iff⟩, ?_⟩
  · intro start among
    obtain ⟨first, rest, split, rfl⟩ := exists_split_of_mem_lineStarts among
    refine ⟨?_, isValid_byteSize split⟩
    rw [utf8ByteSize_eq, split, byteSize_append]
    exact Nat.le_add_right _ _
  · obtain ⟨lines, divided, cuts⟩ := exists_divided [] source.text.toList
    refine ⟨lines, ?_, divided⟩
    rw [rawLines, utf8ByteSize_eq]
    exact cuts

end NodeFeed.SourceText

import Mathlib.Algebra.GroupWithZero.Nat
import NodeFeed.Source.Text

set_option autoImplicit false

namespace NodeFeed.SourceText

def pieces (text : List Char) : List (List Char) := text.splitOn '\n'

theorem lines_induction {motive : List Char → Prop}
    (last : ∀ piece, '\n' ∉ piece → motive piece)
    (more : ∀ piece rest, '\n' ∉ piece → motive rest → motive (piece ++ '\n' :: rest))
    (text : List Char) : motive text := by
  induction length : text.length using Nat.strongRecOn generalizing text with
  | ind size ih =>
      by_cases broken : '\n' ∈ text
      · obtain ⟨piece, rest, rfl, whole⟩ := List.eq_append_cons_of_mem broken
        have shorter : rest.length < size := by
          rw [← length, List.length_append, List.length_cons]
          omega
        exact more piece rest whole (ih rest.length shorter rest rfl)
      · exact last text broken

theorem pieces_last {piece : List Char} (whole : '\n' ∉ piece) : pieces piece = [piece] :=
  List.splitOn_eq_singleton whole

theorem pieces_more {piece : List Char} (whole : '\n' ∉ piece) (rest : List Char) :
    pieces (piece ++ '\n' :: rest) = piece :: pieces rest :=
  List.splitOn_append_cons_self_of_not_mem whole rest

theorem pieces_ne_nil (text : List Char) : pieces text ≠ [] := List.splitOn_ne_nil '\n' text

def byteSize (text : List Char) : Nat := (text.map Char.utf8Size).sum

@[simp] theorem byteSize_nil : byteSize [] = 0 := rfl

@[simp] theorem byteSize_cons (c : Char) (text : List Char) :
    byteSize (c :: text) = c.utf8Size + byteSize text := by
  simp [byteSize]

@[simp] theorem byteSize_append (first second : List Char) :
    byteSize (first ++ second) = byteSize first + byteSize second := by
  simp [byteSize]

theorem utf8ByteSize_ofList (text : List Char) :
    (String.ofList text).utf8ByteSize = byteSize text := by
  induction text with
  | nil => rfl
  | cons c rest ih =>
      have split : String.ofList (c :: rest) = String.singleton c ++ String.ofList rest := by
        rw [← String.toList_inj]
        simp
      rw [split, String.utf8ByteSize_append, String.utf8ByteSize_singleton, ih, byteSize_cons]

theorem utf8ByteSize_eq (text : String) : text.utf8ByteSize = byteSize text.toList := by
  rw [← utf8ByteSize_ofList, String.ofList_toList]

theorem byteSize_cons_eq (c : Char) (rest : List Char) :
    ∃ count, byteSize (c :: rest) = count + 1 ∧ c.utf8Size ≤ count + 1 ∧
      count + 1 - c.utf8Size = byteSize rest := by
  have width := c.utf8Size_pos
  refine ⟨c.utf8Size + byteSize rest - 1, ?_, ?_, ?_⟩
  · rw [byteSize_cons]
    omega
  · omega
  · omega

theorem dropBytes?_append (first second : List Char) :
    dropBytes? (byteSize first) (first ++ second) = some second := by
  induction first with
  | nil => simp [dropBytes?]
  | cons c rest ih =>
      obtain ⟨count, size, fits, left⟩ := byteSize_cons_eq c rest
      rw [size, List.cons_append, dropBytes?, if_pos fits, left]
      exact ih

theorem takeBytes?_append (first second : List Char) :
    takeBytes? (byteSize first) (first ++ second) = some first := by
  induction first with
  | nil => simp [takeBytes?]
  | cons c rest ih =>
      obtain ⟨count, size, fits, left⟩ := byteSize_cons_eq c rest
      rw [size, List.cons_append, takeBytes?, if_pos fits, left, ih]
      rfl

theorem slice?_append (before piece after : List Char) :
    slice? (before ++ (piece ++ after)) (byteSize before) (byteSize before + byteSize piece) =
      some piece := by
  rw [slice?, if_pos (Nat.le_add_right _ _), dropBytes?_append, Nat.add_sub_cancel_left]
  exact takeBytes?_append piece after

theorem lineStartsFrom_append (offset : Nat) {piece : List Char} (whole : '\n' ∉ piece)
    (rest : List Char) :
    lineStartsFrom offset (piece ++ rest) = lineStartsFrom (offset + byteSize piece) rest := by
  induction piece generalizing offset with
  | nil => simp
  | cons c piece ih =>
      have apart : c ≠ '\n' := fun same => whole (by simp [same])
      have later : '\n' ∉ piece := fun member => whole (List.mem_cons_of_mem c member)
      simp only [List.cons_append, lineStartsFrom, if_neg apart, ih _ later, byteSize_cons,
        Nat.add_assoc]

theorem lineStartsFrom_last (offset : Nat) {piece : List Char} (whole : '\n' ∉ piece) :
    lineStartsFrom offset piece = [] := by
  have starts := lineStartsFrom_append offset whole []
  rwa [List.append_nil, lineStartsFrom] at starts

theorem lineStartsFrom_more (offset : Nat) {piece : List Char} (whole : '\n' ∉ piece)
    (rest : List Char) :
    lineStartsFrom offset (piece ++ '\n' :: rest) =
      (offset + byteSize piece + 1) :: lineStartsFrom (offset + byteSize piece + 1) rest := by
  rw [lineStartsFrom_append offset whole, lineStartsFrom, if_pos rfl]
  rfl

-- Every piece in its place. A start is listed after it just when a newline follows it. The text
-- before the current one is open, since the offsets of later pieces count it too.
theorem exists_place (before text : List Char) {index : Nat} {piece : List Char}
    (found : (pieces text)[index]? = some piece) :
    ∃ first after, before ++ text = first ++ (piece ++ after) ∧
      (byteSize before :: lineStartsFrom (byteSize before) text)[index]? = some (byteSize first) ∧
      (byteSize before :: lineStartsFrom (byteSize before) text)[index + 1]? =
        after.head?.map fun _ => byteSize first + byteSize piece + 1 := by
  induction text using lines_induction generalizing before index with
  | last last whole =>
      rw [pieces_last whole] at found
      rw [lineStartsFrom_last _ whole]
      cases index with
      | zero =>
          obtain rfl : last = piece := by simpa using found
          exact ⟨before, [], by simp, rfl, rfl⟩
      | succ index => simp at found
  | more next rest whole ih =>
      rw [pieces_more whole] at found
      rw [lineStartsFrom_more _ whole]
      cases index with
      | zero =>
          obtain rfl : next = piece := by simpa using found
          exact ⟨before, '\n' :: rest, rfl, rfl, rfl⟩
      | succ index =>
          have size : byteSize (before ++ (next ++ ['\n'])) =
              byteSize before + byteSize next + 1 := by
            simp [Char.utf8Size, Nat.add_assoc]
          have later := ih (before ++ (next ++ ['\n'])) found
          rw [size] at later
          simpa using later

theorem length_lineStartsFrom (offset : Nat) (text : List Char) :
    (lineStartsFrom offset text).length + 1 = (pieces text).length := by
  induction text using lines_induction generalizing offset with
  | last piece whole => simp [lineStartsFrom_last offset whole, pieces_last whole]
  | more piece rest whole ih => simp [lineStartsFrom_more offset whole, pieces_more whole, ih]

theorem lineCount_eq (source : SourceText) :
    source.lineCount = (pieces source.text.toList).length :=
  length_lineStartsFrom 0 source.text.toList

theorem length_pieces (text : List Char) : (pieces text).length = text.count '\n' + 1 := by
  induction text using lines_induction with
  | last piece whole =>
      have unbroken : piece.count '\n' = 0 := List.count_eq_zero.mpr whole
      rw [pieces_last whole, unbroken]
      rfl
  | more piece rest whole ih =>
      have unbroken : piece.count '\n' = 0 := List.count_eq_zero.mpr whole
      rw [pieces_more whole, List.length_cons, ih, List.count_append, unbroken,
        List.count_cons_self, Nat.zero_add]

end NodeFeed.SourceText

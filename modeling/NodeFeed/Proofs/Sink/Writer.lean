import Mathlib.Tactic.SplitIfs
import NodeFeed.Proofs.Sink.Printing
import NodeFeed.Sink.Writer

set_option autoImplicit false

namespace NodeFeed

namespace Writer

def Full (writer : Writer) : Prop := writer.room = some writer.written.size

def Within (writer : Writer) : Prop := ∀ limit ∈ writer.room, writer.written.size ≤ limit

theorem write_split (writer : Writer) (bytes : ByteArray) :
    ∃ piece, piece ++ (writer.write bytes).2 = bytes ∧
      (writer.write bytes).1.written = writer.written ++ piece := by
  have taken : writer.accepts bytes.size ≤ bytes.size := by
    unfold accepts
    split
    · exact Nat.le_refl _
    · exact Nat.min_le_left _ _
  refine ⟨bytes.extract 0 (writer.accepts bytes.size), ?_, rfl⟩
  simp only [write, ByteArray.extract_append_extract]
  rw [Nat.min_eq_left (Nat.zero_le _), Nat.max_eq_right taken, ByteArray.extract_zero_size]

theorem write_conserves (writer : Writer) (bytes : ByteArray) :
    (writer.write bytes).1.written ++ (writer.write bytes).2 = writer.written ++ bytes := by
  obtain ⟨piece, split, written⟩ := writer.write_split bytes
  rw [written, ByteArray.append_assoc, split]

theorem write_within (writer : Writer) (bytes : ByteArray) (within : writer.Within) :
    (writer.write bytes).1.Within := by
  intro limit member
  have room : writer.room = some limit := member
  have before := within limit room
  simp only [write, accepts, room, ByteArray.size_append, ByteArray.size_extract]
  omega

theorem write_full (writer : Writer) (bytes : ByteArray) (within : writer.Within)
    (left : 0 < (writer.write bytes).2.size) : (writer.write bytes).1.Full := by
  cases room : writer.room with
  | none => simp [write, accepts, room] at left
  | some limit =>
      have before := within limit room
      simp only [write, accepts, room, ByteArray.size_extract] at left
      simp only [Full, write, accepts, room, ByteArray.size_append, ByteArray.size_extract,
        Option.some.injEq]
      omega

theorem write_of_full (writer : Writer) (bytes : ByteArray) (full : writer.Full) :
    writer.write bytes = (writer, bytes) := by
  have none : writer.accepts bytes.size = 0 := by
    have room : writer.room = some writer.written.size := full
    simp [accepts, room]
  simp [write, none]

-- The writer has got `all` of what it was to get, or as much of it as it has room for.
structure Delivered (writer : Writer) (all lost : ByteArray) : Prop where
  within : writer.Within
  split : writer.written ++ lost = all
  full : 0 < lost.size → writer.Full

theorem write_delivered (writer : Writer) (bytes : ByteArray) (within : writer.Within) :
    (writer.write bytes).1.Delivered (writer.written ++ bytes) (writer.write bytes).2 where
  within := write_within writer bytes within
  split := write_conserves writer bytes
  full := write_full writer bytes within

theorem Delivered.append {writer : Writer} {all lost : ByteArray}
    (delivered : writer.Delivered all lost) (more : ByteArray) (some : 0 < lost.size) :
    writer.Delivered (all ++ more) (lost ++ more) where
  within := delivered.within
  split := by rw [← delivered.split, ByteArray.append_assoc]
  full _ := delivered.full some

theorem Delivered.written_of_empty {writer : Writer} {all lost : ByteArray}
    (delivered : writer.Delivered all lost) (none : lost.size = 0) : writer.written = all := by
  have empty : lost = .empty := ByteArray.size_eq_zero_iff.mp none
  have split := delivered.split
  rwa [empty, ByteArray.append_empty] at split

theorem Delivered.size_eq {writer : Writer} {all lost : ByteArray}
    (delivered : writer.Delivered all lost) : all.size = writer.written.size + lost.size := by
  rw [← delivered.split, ByteArray.size_append]

theorem Delivered.written_eq {writer : Writer} {all lost : ByteArray}
    (delivered : writer.Delivered all lost) :
    writer.written = all.extract 0 (writer.room.elim all.size (min · all.size)) := by
  have size := delivered.size_eq
  have front : writer.written = all.extract 0 writer.written.size := by
    rw [← delivered.split, ByteArray.extract_append_size_left, ByteArray.extract_zero_size]
  have count : writer.room.elim all.size (min · all.size) = writer.written.size := by
    by_cases left : 0 < lost.size
    · have room : writer.room = some writer.written.size := delivered.full left
      simp only [room, Option.elim_some]
      omega
    · cases room : writer.room with
      | none => simp only [Option.elim_none]; omega
      | some limit =>
          have bound := delivered.within limit room
          simp only [Option.elim_some]
          omega
  rw [count]
  exact front

theorem Delivered.fits_iff {writer : Writer} {all lost : ByteArray}
    (delivered : writer.Delivered all lost) :
    (∀ limit ∈ writer.room, all.size ≤ limit) ↔ lost.size = 0 := by
  have size := delivered.size_eq
  constructor
  · intro fits
    by_cases left : 0 < lost.size
    · have full : writer.room = some writer.written.size := delivered.full left
      have bound := fits _ full
      omega
    · omega
  · intro none limit room
    have bound := delivered.within limit room
    omega

end Writer

namespace BufferedWriter

-- How a sink stands after `all` was printed: nothing is lost yet, or something is and was reported.
inductive Progress (sink : BufferedWriter) (all : ByteArray) : List Event → Prop
  | whole (within : sink.writer.Within) (split : sink.writer.written ++ sink.buffered = all) :
      Progress sink all []
  | cut {events : List Event} (warned : ∃ event ∈ events, event.level = .warn) (lost : ByteArray)
      (some : 0 < lost.size) (delivered : sink.writer.Delivered all lost) :
      Progress sink all events

theorem refused_progress (sink : BufferedWriter) (all lost : ByteArray) (some : 0 < lost.size)
    (delivered : sink.writer.Delivered all lost) :
    Progress (refused sink).value all (refused sink).events :=
  .cut ⟨.writerRefused .writerFull, by simp [refused], rfl⟩ lost some delivered

theorem isEmpty_iff (bytes : ByteArray) : bytes.isEmpty = true ↔ bytes.size = 0 := by
  simp [ByteArray.isEmpty]

theorem place_progress (sink : BufferedWriter) (bytes : ByteArray) (within : sink.writer.Within)
    (clear : capacity ≤ bytes.size → sink.buffered.size = 0) :
    Progress (sink.place bytes).value (sink.writer.written ++ sink.buffered ++ bytes)
      (sink.place bytes).events := by
  by_cases large : capacity ≤ bytes.size
  · have empty : sink.buffered = .empty := ByteArray.size_eq_zero_iff.mp (clear large)
    have delivered := sink.writer.write_delivered bytes within
    by_cases taken : (sink.writer.write bytes).2.size = 0
    · simp only [place, large, if_true, empty, ByteArray.append_empty, isEmpty_iff, taken]
      refine .whole delivered.within ?_
      exact ByteArray.append_empty.trans (delivered.written_of_empty taken)
    · simp only [place, large, if_true, empty, ByteArray.append_empty, isEmpty_iff, taken, if_false]
      exact refused_progress _ _ _ (Nat.pos_of_ne_zero taken) delivered
  · simp only [place, large, if_false]
    exact .whole within ByteArray.append_assoc.symm

theorem printBytes_progress_of_whole (sink : BufferedWriter) (bytes : ByteArray)
    (within : sink.writer.Within) :
    Progress (sink.printBytes bytes).value (sink.writer.written ++ sink.buffered ++ bytes)
      (sink.printBytes bytes).events := by
  have delivered := sink.writer.write_delivered sink.buffered within
  by_cases small : bytes.size < capacity - sink.buffered.size
  · simp only [printBytes, small, if_true]
    exact .whole within ByteArray.append_assoc.symm
  · by_cases exceeds : capacity - sink.buffered.size < bytes.size
    · by_cases flushed : (sink.writer.write sink.buffered).2.size = 0
      · have written := delivered.written_of_empty flushed
        have empty := ByteArray.size_eq_zero_iff.mp flushed
        have placed := place_progress ⟨(sink.writer.write sink.buffered).1, .empty⟩ bytes
          delivered.within (fun _ => rfl)
        simp only [printBytes, small, exceeds, if_false, if_true, flush, isEmpty_iff, flushed]
        rw [empty]
        simpa [written] using placed
      · simp only [printBytes, small, exceeds, if_false, if_true, flush, isEmpty_iff, flushed]
        have left := Nat.pos_of_ne_zero flushed
        refine refused_progress _ _ _ ?_ (delivered.append bytes left)
        rw [ByteArray.size_append]
        omega
    · simp only [printBytes, small, exceeds, if_false]
      refine place_progress sink bytes within ?_
      intro large
      have positive : 0 < capacity := by decide
      omega

theorem writer_printBytes_of_full (sink : BufferedWriter) (bytes : ByteArray)
    (full : sink.writer.Full) : (sink.printBytes bytes).value.writer = sink.writer := by
  simp only [printBytes, flush, place, refused, Writer.write_of_full _ _ full]
  split_ifs <;> rfl

theorem printBytes_progress (sink : BufferedWriter) (all bytes : ByteArray) (events : List Event)
    (progress : sink.Progress all events) :
    (sink.printBytes bytes).value.Progress (all ++ bytes)
      (events ++ (sink.printBytes bytes).events) := by
  cases progress with
  | whole within split =>
      rw [← split, List.nil_append]
      exact printBytes_progress_of_whole sink bytes within
  | cut warned lost some delivered =>
      have same := writer_printBytes_of_full sink bytes (delivered.full some)
      obtain ⟨event, member, level⟩ := warned
      refine .cut ⟨event, List.mem_append_left _ member, level⟩ (lost ++ bytes) ?_ ?_
      · rw [ByteArray.size_append]
        omega
      · rw [same]
        exact delivered.append bytes some

theorem print_eq (sink : BufferedWriter) (text : String) :
    TextSink.print sink text = sink.printBytes text.toUTF8 := rfl

theorem room_place (sink : BufferedWriter) (bytes : ByteArray) :
    (sink.place bytes).value.writer.room = sink.writer.room := by
  simp only [place, refused]
  split_ifs <;> rfl

theorem room_printBytes (sink : BufferedWriter) (bytes : ByteArray) :
    (sink.printBytes bytes).value.writer.room = sink.writer.room := by
  simp only [printBytes, refused]
  split_ifs
  · rfl
  · exact room_place _ _
  · rfl
  · exact room_place _ _

theorem room_printTexts (sink : BufferedWriter) (texts : List String) :
    (TextSink.printTexts sink texts).value.writer.room = sink.writer.room := by
  induction texts generalizing sink with
  | nil => rfl
  | cons text rest ih =>
      simp only [TextSink.printTexts, Logged.value_andThen, ih, print_eq, room_printBytes]

theorem printTexts_progress (sink : BufferedWriter) (all : ByteArray) (events : List Event)
    (progress : sink.Progress all events) (texts : List String) :
    (TextSink.printTexts sink texts).value.Progress (all ++ (String.join texts).toUTF8)
      (events ++ (TextSink.printTexts sink texts).events) := by
  induction texts generalizing sink all events with
  | nil => simpa [TextSink.printTexts] using progress
  | cons text rest ih =>
      have printed := printBytes_progress sink all text.toUTF8 events progress
      have later := ih (sink.printBytes text.toUTF8).value _ _ printed
      simpa [TextSink.printTexts, print_eq, ByteArray.append_assoc] using later

theorem start_progress (room : Option Nat) : (start room).Progress .empty [] :=
  .whole (fun _ _ => Nat.zero_le _) rfl

theorem Progress.finish {sink : BufferedWriter} {all : ByteArray} {events : List Event}
    (progress : sink.Progress all events) :
    ∃ lost, sink.finish.1.Delivered all lost ∧
      (lost.size = 0 ↔ (∀ event ∈ events, event.level ≠ .warn) ∧ sink.finish.2 = .ok ()) := by
  cases progress with
  | whole within split =>
      have delivered := sink.writer.write_delivered sink.buffered within
      rw [split] at delivered
      refine ⟨_, delivered, ?_⟩
      simp [BufferedWriter.finish, flush, isEmpty_iff]
  | cut warned lost some delivered =>
      obtain ⟨event, member, level⟩ := warned
      have same : sink.finish.1 = sink.writer := by
        simp [BufferedWriter.finish, flush, Writer.write_of_full _ _ (delivered.full some)]
      refine ⟨lost, same ▸ delivered, ?_⟩
      constructor
      · intro none
        omega
      · rintro ⟨quiet, -⟩
        exact absurd level (quiet event member)

theorem finish_written (room : Option Nat) (printings : List Printing) :
    let printed := TextSink.performAll (start room) printings
    let all := (TextSink.performAll Transcript.empty printings).value.text.toUTF8
    all = (String.join (printings.flatMap Printing.texts)).toUTF8 ∧
      printed.value.finish.1.written = all.extract 0 (room.elim all.size (min · all.size)) ∧
      ((∀ limit ∈ room, all.size ≤ limit) ↔
        (∀ event ∈ printed.events, event.level ≠ .warn) ∧ printed.value.finish.2 = .ok ()) := by
  intro printed all
  have joined : all = (String.join (printings.flatMap Printing.texts)).toUTF8 := by
    simp [all, TextSink.performAll_eq, TextSink.printTexts_transcript, Transcript.empty]
  have progress : printed.value.Progress all printed.events := by
    have texts := printTexts_progress (start room) .empty [] (start_progress room)
      (printings.flatMap Printing.texts)
    simpa [printed, joined, TextSink.performAll_eq] using texts
  obtain ⟨lost, delivered, settled⟩ := progress.finish
  have same : printed.value.finish.1.room = room := by
    have kept := room_printTexts (start room) (printings.flatMap Printing.texts)
    rwa [← TextSink.performAll_eq] at kept
  refine ⟨joined, ?_, ?_⟩
  · rw [← same]
    exact delivered.written_eq
  · rw [← settled, ← delivered.fits_iff, same]

end BufferedWriter

end NodeFeed

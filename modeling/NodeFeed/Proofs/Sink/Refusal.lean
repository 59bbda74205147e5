import Mathlib.Data.List.Forall2
import NodeFeed.Proofs.Sink.Writer

set_option autoImplicit false

namespace NodeFeed

structure Call where
  text : String
  events : List Event

structure Traced (τ : Type) where
  sink : τ
  calls : List Call

namespace Traced

variable {τ : Type}

def start (sink : τ) : Traced τ := ⟨sink, []⟩

variable [TextSink τ]

def print (traced : Traced τ) (text : String) : Logged (Traced τ) :=
  let printed := TextSink.print traced.sink text
  ⟨printed.events, ⟨printed.value, traced.calls ++ [⟨text, printed.events⟩]⟩⟩

instance : TextSink (Traced τ) where
  print := Traced.print

theorem print_eq (traced : Traced τ) (text : String) :
    TextSink.print traced text = traced.print text := rfl

structure Records (traced : Traced τ) (texts : List String) (printed : Logged τ) : Prop where
  sink : traced.sink = printed.value
  texts : traced.calls.map Call.text = texts
  events : traced.calls.flatMap Call.events = printed.events

theorem printTexts_records (traced : Traced τ) (earlier texts : List String) (printed : Logged τ)
    (records : traced.Records earlier printed) :
    (TextSink.printTexts traced texts).value.Records (earlier ++ texts)
      (printed.andThen fun sink => TextSink.printTexts sink texts) := by
  induction texts generalizing traced earlier printed with
  | nil =>
      refine ⟨records.sink, ?_, ?_⟩
      · simpa [TextSink.printTexts] using records.texts
      · simpa [TextSink.printTexts] using records.events
  | cons text rest ih =>
      have added : (traced.print text).value.Records (earlier ++ [text])
          (printed.andThen fun sink => TextSink.print sink text) := by
        constructor
        case sink => simp [print, records.sink]
        case texts => simp [print, records.texts]
        case events => simp [print, records.events, records.sink]
      have later := ih (traced.print text).value (earlier ++ [text]) _ added
      simpa [TextSink.printTexts, print_eq, Logged.andThen] using later

end Traced

namespace BufferedWriter

-- What a print with these events leaves of its bytes.
inductive Leaves (bytes : ByteArray) : List Event → ByteArray → Prop
  | whole : Leaves bytes [] bytes
  | nothing (short : bytes.size < capacity) : Leaves bytes [.writerRefused .writerFull] .empty
  | front (long : capacity ≤ bytes.size) (piece lost : ByteArray) (split : piece ++ lost = bytes) :
      Leaves bytes [.writerRefused .writerFull] piece

theorem Leaves.length_events {bytes piece : ByteArray} {events : List Event}
    (leaves : Leaves bytes events piece) : events.length ≤ 1 := by
  cases leaves <;> simp

structure Sound (sink : BufferedWriter) : Prop where
  bounded : sink.buffered.size ≤ capacity
  within : sink.writer.Within

def contents (sink : BufferedWriter) : ByteArray := sink.writer.written ++ sink.buffered

-- A print on `sink` that left `piece` of its bytes behind.
structure Added (sink : BufferedWriter) (bytes : ByteArray) (printed : Logged BufferedWriter)
    (piece : ByteArray) : Prop where
  sound : printed.value.Sound
  contents : printed.value.contents = sink.contents ++ piece
  leaves : Leaves bytes printed.events piece

theorem refused_added (sink held : BufferedWriter) (bytes : ByteArray) (sound : held.Sound)
    (same : held.contents = sink.contents) : Added sink bytes (refused held) .empty where
  sound := sound
  contents := by rw [ByteArray.append_empty]; exact same
  leaves := by
    by_cases short : bytes.size < capacity
    · exact .nothing short
    · exact .front (Nat.le_of_not_lt short) .empty bytes ByteArray.empty_append

theorem place_added (sink : BufferedWriter) (bytes : ByteArray) (within : sink.writer.Within)
    (clear : capacity ≤ bytes.size → sink.buffered.size = 0)
    (fits : bytes.size < capacity → sink.buffered.size + bytes.size ≤ capacity) :
    ∃ piece, Added sink bytes (sink.place bytes) piece := by
  by_cases long : capacity ≤ bytes.size
  · have empty : sink.buffered = .empty := ByteArray.size_eq_zero_iff.mp (clear long)
    have sound : Sound { sink with writer := (sink.writer.write bytes).1 } :=
      ⟨by simp [empty], sink.writer.write_within bytes within⟩
    obtain ⟨piece, split, written⟩ := sink.writer.write_split bytes
    have contents : contents { sink with writer := (sink.writer.write bytes).1 } =
        sink.contents ++ piece := by
      simp [BufferedWriter.contents, empty, written]
    refine ⟨piece, ?_⟩
    by_cases taken : (sink.writer.write bytes).2.size = 0
    · have rest : (sink.writer.write bytes).2 = .empty := ByteArray.size_eq_zero_iff.mp taken
      obtain rfl : piece = bytes := by simpa [rest] using split
      simp only [place, long, if_true, isEmpty_iff, taken]
      exact ⟨sound, contents, .whole⟩
    · simp only [place, long, if_true, isEmpty_iff, taken, if_false]
      exact ⟨sound, contents, .front long piece _ split⟩
  · simp only [place, long, if_false]
    refine ⟨bytes, ⟨?_, within⟩, ByteArray.append_assoc.symm, .whole⟩
    have room := fits (Nat.lt_of_not_le long)
    simpa [ByteArray.size_append] using room

theorem printBytes_added (sink : BufferedWriter) (bytes : ByteArray) (sound : sink.Sound) :
    ∃ piece, Added sink bytes (sink.printBytes bytes) piece := by
  have bounded := sound.bounded
  have conserved := sink.writer.write_conserves sink.buffered
  have flushed :
      Sound ⟨(sink.writer.write sink.buffered).1, (sink.writer.write sink.buffered).2⟩ := by
    refine ⟨?_, sink.writer.write_within sink.buffered sound.within⟩
    simp only [Writer.write, ByteArray.size_extract]
    omega
  by_cases small : bytes.size < capacity - sink.buffered.size
  · simp only [printBytes, small, if_true]
    refine ⟨bytes, ⟨?_, sound.within⟩, ByteArray.append_assoc.symm, .whole⟩
    simp only [Logged.value_silent, ByteArray.size_append]
    omega
  · by_cases exceeds : capacity - sink.buffered.size < bytes.size
    · simp only [printBytes, small, exceeds, if_false, if_true, flush, isEmpty_iff]
      by_cases complete : (sink.writer.write sink.buffered).2.size = 0
      · simp only [complete, if_true]
        obtain ⟨piece, added⟩ := place_added
          ⟨(sink.writer.write sink.buffered).1, (sink.writer.write sink.buffered).2⟩ bytes
          flushed.within (fun _ => complete) (fun short => by simp only [complete]; omega)
        exact ⟨piece, added.sound, added.contents.trans (congrArg (· ++ piece) conserved),
          added.leaves⟩
      · simp only [complete, if_false]
        exact ⟨.empty, refused_added sink _ bytes flushed conserved⟩
    · simp only [printBytes, small, exceeds, if_false]
      have positive : 0 < capacity := by decide
      refine place_added sink bytes sound.within ?_ ?_
      · intro long
        omega
      · intro short
        omega

-- A sink that has been printed to, with the piece each print has left.
structure Pieced (traced : Traced BufferedWriter) (pieces : List ByteArray) : Prop where
  sound : traced.sink.Sound
  contents : traced.sink.contents = pieces.foldl (· ++ ·) .empty
  leaves : List.Forall₂ (fun call piece => Leaves call.text.toUTF8 call.events piece)
    traced.calls pieces

theorem start_pieced (room : Option Nat) : Pieced (.start (start room)) [] where
  sound := ⟨Nat.zero_le _, fun _ _ => Nat.zero_le _⟩
  contents := rfl
  leaves := .nil

theorem print_pieced (traced : Traced BufferedWriter) (pieces : List ByteArray)
    (pieced : Pieced traced pieces) (text : String) :
    ∃ piece, Pieced (traced.print text).value (pieces ++ [piece]) := by
  obtain ⟨piece, added⟩ := printBytes_added traced.sink text.toUTF8 pieced.sound
  refine ⟨piece, added.sound, ?_, ?_⟩
  · rw [List.foldl_concat, ← pieced.contents]
    exact added.contents
  · exact List.rel_append pieced.leaves (.cons added.leaves .nil)

theorem printTexts_pieced (traced : Traced BufferedWriter) (pieces : List ByteArray)
    (pieced : Pieced traced pieces) (texts : List String) :
    ∃ more, Pieced (TextSink.printTexts traced texts).value (pieces ++ more) := by
  induction texts generalizing traced pieces with
  | nil => exact ⟨[], by simpa [TextSink.printTexts] using pieced⟩
  | cons text rest ih =>
      obtain ⟨piece, printed⟩ := print_pieced traced pieces pieced text
      obtain ⟨more, later⟩ := ih _ _ printed
      exact ⟨piece :: more, by simpa [TextSink.printTexts, Traced.print_eq] using later⟩

theorem finish_eq_error_iff (sink : BufferedWriter) :
    (∃ fault, sink.finish.2 = .error fault) ↔
      ∃ limit ∈ sink.writer.room, limit - sink.writer.written.size < sink.buffered.size := by
  have fails : (∃ fault, sink.finish.2 = .error fault) ↔
      (sink.writer.write sink.buffered).2.size ≠ 0 := by
    by_cases complete : (sink.writer.write sink.buffered).2.size = 0 <;>
      simp [finish, flush, isEmpty_iff, complete]
  rw [fails]
  cases room : sink.writer.room with
  | none => simp [Writer.write, Writer.accepts, room]
  | some limit =>
      simp only [Writer.write, Writer.accepts, room, ByteArray.size_extract, Option.mem_some,
        exists_eq_left']
      omega

theorem contents_accounted (room : Option Nat) (printings : List Printing) :
    let printed := TextSink.performAll (start room) printings
    let traced := (TextSink.performAll (Traced.start (start room)) printings).value
    let sink := printed.value
    traced.sink = sink ∧
      traced.calls.map Call.text = printings.flatMap Printing.texts ∧
      traced.calls.flatMap Call.events = printed.events ∧
      sink.buffered.size ≤ capacity ∧
      (∀ limit ∈ room, sink.writer.written.size ≤ limit) ∧
      (∃ pieces : List ByteArray,
        sink.writer.written ++ sink.buffered = pieces.foldl (· ++ ·) .empty ∧
          List.Forall₂ (fun call piece => Leaves call.text.toUTF8 call.events piece)
            traced.calls pieces) ∧
      (∀ call ∈ traced.calls, call.events.length ≤ 1) ∧
      ((∃ fault, sink.finish.2 = .error fault) ↔
        ∃ limit ∈ room, limit - sink.writer.written.size < sink.buffered.size) := by
  intro printed traced sink
  let texts := printings.flatMap Printing.texts
  have plain : printed = (Logged.silent (start room)).andThen (TextSink.printTexts · texts) :=
    TextSink.performAll_eq (start room) printings
  have recorded : traced = (TextSink.printTexts (Traced.start (start room)) texts).value :=
    congrArg Logged.value (TextSink.performAll_eq _ printings)
  have records : traced.Records texts printed := by
    rw [recorded, plain]
    exact Traced.printTexts_records _ [] texts (.silent (start room)) ⟨rfl, rfl, rfl⟩
  obtain ⟨pieces, pieced⟩ : ∃ pieces, Pieced traced pieces := by
    rw [recorded]
    exact printTexts_pieced _ [] (start_pieced room) texts
  have kept : sink.writer.room = room := by
    have unchanged := room_printTexts (start room) texts
    rwa [← TextSink.performAll_eq] at unchanged
  have same : traced.sink = sink := records.sink
  have sound : sink.Sound := same ▸ pieced.sound
  have contents : sink.contents = pieces.foldl (· ++ ·) .empty := same ▸ pieced.contents
  have warnings : ∀ call ∈ traced.calls, call.events.length ≤ 1 := by
    have both := pieced.leaves.imp fun _ _ leaves => And.intro leaves.length_events leaves
    exact ((List.forall₂_and_left _ _).mp both).1
  refine ⟨same, records.texts, records.events, sound.bounded, ?_,
    ⟨pieces, contents, pieced.leaves⟩, warnings, ?_⟩
  · rw [← kept]
    exact sound.within
  · rw [finish_eq_error_iff, kept]

end BufferedWriter

end NodeFeed

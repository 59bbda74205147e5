import NodeFeed.Sink.Basic
import NodeFeed.Text.Utf8

set_option autoImplicit false

namespace NodeFeed

structure Writer where
  room : Option Nat
  written : ByteArray

namespace Writer

def start (room : Option Nat) : Writer := ⟨room, .empty⟩

def accepts (writer : Writer) (count : Nat) : Nat :=
  match writer.room with
  | none => count
  | some room => min count (room - writer.written.size)

def write (writer : Writer) (bytes : ByteArray) : Writer × ByteArray :=
  let taken := writer.accepts bytes.size
  ({ writer with written := writer.written ++ bytes.extract 0 taken },
    bytes.extract taken bytes.size)

def display (writer : Writer) : String :=
  match String.fromUTF8? writer.written with
  | some text => text
  | none => Text.Utf8.display writer.written.toList

end Writer

structure BufferedWriter where
  writer : Writer
  buffered : ByteArray

namespace BufferedWriter

def start (room : Option Nat) : BufferedWriter := ⟨.start room, .empty⟩

def capacity : Nat := 8192

def flush (sink : BufferedWriter) : BufferedWriter × Bool :=
  let (writer, rest) := sink.writer.write sink.buffered
  (⟨writer, rest⟩, rest.isEmpty)

def refused (sink : BufferedWriter) : Logged BufferedWriter :=
  ⟨[.writerRefused .writerFull], sink⟩

def place (sink : BufferedWriter) (bytes : ByteArray) : Logged BufferedWriter :=
  if capacity ≤ bytes.size then
    let (writer, rest) := sink.writer.write bytes
    if rest.isEmpty then .silent { sink with writer := writer }
    else refused { sink with writer := writer }
  else .silent { sink with buffered := sink.buffered ++ bytes }

/-- A text that waits for a flush is lost if the flush fails. -/
def printBytes (sink : BufferedWriter) (bytes : ByteArray) : Logged BufferedWriter :=
  let free := capacity - sink.buffered.size
  if bytes.size < free then .silent { sink with buffered := sink.buffered ++ bytes }
  else if free < bytes.size then
    let (flushed, complete) := sink.flush
    if complete then flushed.place bytes else refused flushed
  else sink.place bytes

def print (sink : BufferedWriter) (text : String) : Logged BufferedWriter :=
  sink.printBytes text.toUTF8

def finish (sink : BufferedWriter) : Writer × Except WriteFault Unit :=
  let (flushed, complete) := sink.flush
  (flushed.writer, if complete then .ok () else .error .writerFull)

end BufferedWriter

instance : TextSink BufferedWriter where
  print := BufferedWriter.print

end NodeFeed

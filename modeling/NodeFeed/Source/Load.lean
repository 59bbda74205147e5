import NodeFeed.File.System

set_option autoImplicit false

namespace NodeFeed

def cutLines : List UInt8 → List (List UInt8)
  | [] => []
  | byte :: rest =>
      if byte = 0x0a then [byte] :: cutLines rest
      else
        match cutLines rest with
        | [] => [[byte]]
        | line :: others => (byte :: line) :: others

def stripTerminator (line : List Char) : List Char :=
  match line.reverse with
  | '\n' :: '\r' :: rest => rest.reverse
  | '\n' :: rest => rest.reverse
  | _ => line

def decodeLines? (content : List UInt8) : Option (List String) :=
  (cutLines content).mapM fun line =>
    (Text.Utf8.decode? line).map fun line => String.ofList (stripTerminator line)

/-- When reading breaks off, only the lines that ended before are there to be decoded. -/
def OpenFile.ended (file : OpenFile) : List UInt8 :=
  match file.fault with
  | none => file.bytes
  | some _ => (file.bytes.reverse.dropWhile (· != 0x0a)).reverse

def OpenFile.lines (file : OpenFile) : Except Fault (List String) :=
  match decodeLines? file.ended, file.fault with
  | none, _ => .error .invalidText
  | some _, some fault => .error fault
  | some lines, none => .ok lines

namespace FileSystem

def loadSource (files : FileSystem) (path : Path) : Except SourceError SourceText :=
  match files.read path with
  | .error fault => .error (.ofFault path fault)
  | .ok content =>
      match Text.Utf8.decode? content with
      | some text => .ok ⟨path.display, String.ofList text⟩
      | none => .error (.unreadable path .invalidText)

/-- A fault of opening may say that there is no such path; what was opened is there, whatever fault
comes later. -/
def readLines (files : FileSystem) (path : Path) : Except SourceError (List String) :=
  match files.opened path with
  | .error fault => .error (.ofFault path fault)
  | .ok file =>
      match file.lines with
      | .ok lines => .ok lines
      | .error fault => .error (.unreadable path fault)

end FileSystem

end NodeFeed

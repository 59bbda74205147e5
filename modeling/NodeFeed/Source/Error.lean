import NodeFeed.Diagnostic
import NodeFeed.File.Path

set_option autoImplicit false

namespace NodeFeed

inductive Fault
  | missing
  | notDirectory
  | isDirectory
  | nameTooLong
  | tooManyLinks
  | nulByte
  | invalidText
  | other (text : String)
deriving DecidableEq

def Fault.message : Fault → String
  | .missing => "No such file or directory (os error 2)"
  | .notDirectory => "Not a directory (os error 20)"
  | .isDirectory => "Is a directory (os error 21)"
  | .nameTooLong => "File name too long (os error 36)"
  | .tooManyLinks => "Too many levels of symbolic links (os error 40)"
  | .nulByte => "file name contained an unexpected NUL byte"
  | .invalidText => "stream did not contain valid UTF-8"
  | .other text => text

inductive SourceError
  | notFound (path : Path)
  | unreadable (path : Path) (fault : Fault)
deriving DecidableEq

namespace SourceError

def ofFault (path : Path) : Fault → SourceError
  | .missing => .notFound path
  | fault => .unreadable path fault

def path : SourceError → Path
  | .notFound path => path
  | .unreadable path _ => path

def code : SourceError → Code
  | .notFound _ => .sourceNotFound
  | .unreadable _ _ => .sourceUnreadable

def message : SourceError → String
  | .notFound path => "source path not found: " ++ path.display
  | .unreadable path fault => "failed to read " ++ path.display ++ ": " ++ fault.message

def toDiagnostic (error : SourceError) : Diagnostic :=
  .ofCode error.path.display error.code error.message none

end SourceError

end NodeFeed

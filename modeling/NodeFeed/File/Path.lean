import NodeFeed.Text.Utf8

set_option autoImplicit false

namespace NodeFeed

abbrev FileName := List UInt8

/-- A path is never brought to a normal form. -/
structure Path where
  bytes : List UInt8
deriving DecidableEq

inductive Component
  | root
  | here
  | parent
  | name (name : FileName)
deriving DecidableEq

namespace Path

def slash : UInt8 := 0x2f

def dot : UInt8 := 0x2e

def ofString (text : String) : Path := ⟨Text.Utf8.encode text.toList⟩

def display (path : Path) : String := Text.Utf8.display path.bytes

def pieces : List UInt8 → List (List UInt8)
  | [] => [[]]
  | byte :: rest =>
      if byte = slash then [] :: pieces rest
      else
        match pieces rest with
        | [] => [[byte]]
        | piece :: others => (byte :: piece) :: others

/-- An empty piece names the directory before it, so a slash at the end asks for a directory. -/
def componentOf (piece : List UInt8) : Component :=
  if piece = [] ∨ piece = [dot] then .here
  else if piece = [dot, dot] then .parent
  else .name piece

def steps (path : Path) : List Component :=
  let relative := (pieces path.bytes).map componentOf
  if path.bytes.head? = some slash then .root :: relative else relative

def trimEnd (path : Path) : Path :=
  ⟨(path.bytes.reverse.dropWhile fun byte => byte = slash).reverse⟩

/-- Of the components that stay in place, only a leading one counts when paths are compared. -/
def components (path : Path) : List Component :=
  if path.bytes = [] then []
  else
    match path.steps with
    | [] => []
    | first :: rest => first :: rest.filter (fun component => component ≠ .here)

def rank : Component → List UInt8
  | .root => [0]
  | .here => [1]
  | .parent => [2]
  | .name name => 3 :: name

def key (path : Path) : List (List UInt8) := path.components.map rank

def le (left right : Path) : Bool := decide (left.key ≤ right.key)

def child (directory : Path) (name : FileName) : Path :=
  match directory.bytes.getLast? with
  | none => ⟨name⟩
  | some last =>
      if last = slash then ⟨directory.bytes ++ name⟩ else ⟨directory.bytes ++ slash :: name⟩

def splitAtLastDot : FileName → Option (FileName × FileName)
  | [] => none
  | byte :: rest =>
      match splitAtLastDot rest with
      | some (stem, extension) => some (byte :: stem, extension)
      | none => if byte = dot then some ([], rest) else none

def extensionOf (name : FileName) : Option (List UInt8) :=
  match splitAtLastDot name with
  | some (_ :: _, extension) => some extension
  | _ => none

def fileName? (path : Path) : Option FileName :=
  match path.components.getLast? with
  | some (.name name) => some name
  | _ => none

def hasExtension (path : Path) (extension : String) : Bool :=
  (path.fileName?.bind extensionOf).bind Text.Utf8.decode? == some extension.toList

end Path

end NodeFeed

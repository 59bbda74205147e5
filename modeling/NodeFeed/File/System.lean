import NodeFeed.Source.Error

set_option autoImplicit false

namespace NodeFeed

/-- Reading gives the bytes and then, in place of their end, the fault if there is one. -/
structure OpenFile where
  bytes : List UInt8
  fault : Option Fault

def OpenFile.all (file : OpenFile) : Except Fault (List UInt8) :=
  match file.fault with
  | none => .ok file.bytes
  | some fault => .error fault

/-- A file that is there may still refuse to be opened, and an open one to be read. -/
inductive Entry
  | file (opening : Except Fault OpenFile)
  | link (target : List UInt8)
  | directory (entries : List (FileName × Entry))

def Entry.ofBytes (bytes : List UInt8) : Entry :=
  .file (.ok ⟨bytes, none⟩)

def Entry.under (names : List String) (entry : Entry) : Entry :=
  names.foldr (fun name entry => .directory [((Path.ofString name).bytes, entry)]) entry

abbrev Listing := List (FileName × Entry)

namespace Listing

def find? (name : FileName) (entries : Listing) : Option Entry :=
  (List.find? (fun entry => entry.1 == name) entries).map Prod.snd

def erase (name : FileName) (entries : Listing) : Listing :=
  List.filter (fun entry => entry.1 != name) entries

def insert (name : FileName) (entry : Entry) (entries : Listing) : Listing :=
  erase name entries ++ [(name, entry)]

def listing? : List FileName → Listing → Option Listing
  | [], entries => some entries
  | name :: rest, entries =>
      match find? name entries with
      | some (.directory inner) => listing? rest inner
      | _ => none

def insertAt? (entry : Entry) : List FileName → Listing → Option Listing
  | [], _ => none
  | [name], entries => some (insert name entry entries)
  | name :: rest, entries =>
      match find? name entries with
      | some (.directory inner) =>
          (insertAt? entry rest inner).map fun inner => insert name (.directory inner) entries
      | _ => none

def removeAt? : List FileName → Listing → Option Listing
  | [], _ => none
  | [name], entries => some (erase name entries)
  | name :: rest, entries =>
      match find? name entries with
      | some (.directory inner) =>
          (removeAt? rest inner).map fun inner => insert name (.directory inner) entries
      | _ => none

end Listing

structure FileSystem where
  root : Listing
  current : List FileName

namespace FileSystem

/-- An empty current directory, some way below the root. The names on that way are empty, which no
path can spell, so the directory is reached from itself and not by where it stands. The machine has
an attribute of a network device that opens as any file does and is not found when it is read. -/
def fresh : FileSystem :=
  ⟨[([], .directory [([], .directory [])]),
    ((Path.ofString "sys").bytes, .under ["class", "net", "lo", "queues", "tx-0", "traffic_class"]
      (.file (.ok ⟨[], some .missing⟩)))], [[], []]⟩

def maxName : Nat := 255

def pathLimit : Nat := 4096

def maxLinks : Nat := 40

def entry? (files : FileSystem) (way : List FileName) : Option Entry :=
  match way.getLast? with
  | none => some (.directory files.root)
  | some name => (Listing.listing? way.dropLast files.root).bind (Listing.find? name)

/-- Each component asks for a directory to start from, and only at the last one may there be
nothing. `onLink` gets the way to the directory that holds the link. -/
def followUntilLink (files : FileSystem)
    (onLink : List FileName → List Component → Except Fault (List FileName))
    (way : List FileName) : List Component → Except Fault (List FileName)
  | [] => .ok way
  | component :: rest =>
      match Listing.listing? way files.root with
      | none => .error .notDirectory
      | some entries =>
          match component with
          | .root => followUntilLink files onLink [] rest
          | .here => followUntilLink files onLink way rest
          | .parent => followUntilLink files onLink way.dropLast rest
          | .name name =>
              if maxName < name.length then .error .nameTooLong
              else
                match Listing.find? name entries with
                | none => if rest = [] then .ok (way ++ [name]) else .error .missing
                | some (.link target) => onLink way (Path.steps ⟨target⟩ ++ rest)
                | some _ => followUntilLink files onLink (way ++ [name]) rest

def follow (files : FileSystem) : Nat → List FileName → List Component →
    Except Fault (List FileName)
  | 0 => followUntilLink files fun _ _ => .error .tooManyLinks
  | links + 1 => followUntilLink files (follow files links)

def pathFault? (path : Path) : Option Fault :=
  if path.bytes.contains 0 then some .nulByte
  else if path.bytes = [] then some .missing
  else if pathLimit ≤ path.bytes.length then some .nameTooLong
  else none

def resolve (files : FileSystem) (path : Path) : Except Fault Entry :=
  match pathFault? path with
  | some fault => .error fault
  | none =>
      match files.follow maxLinks files.current path.steps with
      | .error fault => .error fault
      | .ok way =>
          match files.entry? way with
          | some entry => .ok entry
          | none => .error .missing

def pathExists (files : FileSystem) (path : Path) : Bool :=
  match files.resolve path with
  | .ok _ => true
  | .error _ => false

def isDirectory (files : FileSystem) (path : Path) : Bool :=
  match files.resolve path with
  | .ok (.directory _) => true
  | _ => false

/-- A directory opens as a file does and only then cannot be read. -/
def opened (files : FileSystem) (path : Path) : Except Fault OpenFile :=
  match files.resolve path with
  | .ok (.file opening) => opening
  | .ok (.directory _) => .ok ⟨[], some .isDirectory⟩
  | .ok (.link _) => .error .tooManyLinks
  | .error fault => .error fault

def read (files : FileSystem) (path : Path) : Except Fault (List UInt8) :=
  (files.opened path).bind OpenFile.all

end FileSystem

end NodeFeed

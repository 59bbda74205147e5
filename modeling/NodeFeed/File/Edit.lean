import NodeFeed.File.System

set_option autoImplicit false

namespace NodeFeed.FileSystem

def put? (files : FileSystem) (entry : Entry) (way : List FileName) : Option FileSystem :=
  if way.any fun name => maxName < name.length then none
  else (Listing.insertAt? entry way files.root).map fun root => { files with root := root }

def cut? (files : FileSystem) (way : List FileName) : Option FileSystem :=
  (Listing.removeAt? way files.root).map fun root => { files with root := root }

def directoryAt? (files : FileSystem) (way : List FileName) (steps : List Component) :
    Option (List FileName) :=
  match files.follow maxLinks way steps with
  | .error _ => none
  | .ok found =>
      match files.entry? found with
      | some (.directory _) => some found
      | _ => none

/-- A link that leads nowhere has its name, so nothing is made behind it. -/
def enter? (files : FileSystem) (way : List FileName) (component : Component) :
    Option (FileSystem × List FileName) :=
  let found := (files.directoryAt? way [component]).map fun found => (files, found)
  match component with
  | .name name =>
      if (files.entry? (way ++ [name])).isSome then found
      else (files.put? (.directory []) (way ++ [name])).map fun files => (files, way ++ [name])
  | _ => found

def makeWay? (files : FileSystem) (way : List FileName) : List Component → Option FileSystem
  | [] => some files
  | component :: rest =>
      (files.enter? way component).bind fun (files, way) => files.makeWay? way rest

def makeParents? (files : FileSystem) (path : Path) : Option FileSystem :=
  files.makeWay? files.current path.trimEnd.steps.dropLast

def makeDirectory? (files : FileSystem) (path : Path) : Option FileSystem :=
  if path.bytes = [] then some files
  else if (pathFault? path).isSome then none
  else files.makeWay? files.current path.steps

def wayTo? (files : FileSystem) (path : Path) : Option (List FileName) :=
  match path.steps.getLast? with
  | some (.name name) =>
      (files.directoryAt? files.current path.steps.dropLast).map fun way => way ++ [name]
  | _ => none

def writeFile? (files : FileSystem) (path : Path) (content : List UInt8) : Option FileSystem :=
  if (pathFault? path).isSome then none
  else
    (files.makeParents? path).bind fun files =>
      match files.follow maxLinks files.current path.steps with
      | .error _ => none
      | .ok way =>
          match files.entry? way with
          | some (.directory _) => none
          | _ => files.put? (.ofBytes content) way

def makeLink? (files : FileSystem) (path target : Path) : Option FileSystem :=
  if (pathFault? path).isSome || (pathFault? target).isSome then none
  else
    (files.makeParents? path).bind fun files =>
      (files.wayTo? path).bind fun way =>
        if (files.entry? way).isSome then none else files.put? (.link target.bytes) way

/-- Only a directory is taken away by a path that ends in a slash. -/
def remove? (files : FileSystem) (path : Path) : Option FileSystem :=
  if (pathFault? path).isSome then none
  else
    (files.makeParents? path).bind fun files =>
      (files.wayTo? path.trimEnd).bind fun way =>
        match files.entry? way with
        | none => none
        | some (.directory _) => files.cut? way
        | some _ => if path = path.trimEnd then files.cut? way else none

end NodeFeed.FileSystem

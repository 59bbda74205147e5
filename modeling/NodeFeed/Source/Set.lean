import NodeFeed.Event
import NodeFeed.Report
import NodeFeed.Source.Load

set_option autoImplicit false

namespace NodeFeed

structure SourceSet where
  root : Path
  extension : String

namespace SourceSet

def ofRoot (root : Path) : SourceSet := ⟨root, "void"⟩

def withExtension (sources : SourceSet) (extension : String) : SourceSet :=
  { sources with extension := extension }

def foundAt (sources : SourceSet) (path : Path) : Logged (Except SourceError (List Path)) :=
  if path.hasExtension sources.extension then ⟨[.found path], .ok [path]⟩ else .silent (.ok [])

mutual

def walk (sources : SourceSet) (files : FileSystem) (path : Path) :
    Entry → Logged (Except SourceError (List Path))
  | .directory entries =>
      if FileSystem.pathLimit ≤ path.bytes.length then
        .silent (.error (.unreadable path .nameTooLong))
      else walkAll sources files path entries
  | .link _ =>
      if files.isDirectory path then ⟨[.linkPassed path], .ok []⟩ else sources.foundAt path
  | .file _ => sources.foundAt path

def walkAll (sources : SourceSet) (files : FileSystem) (path : Path) :
    List (FileName × Entry) → Logged (Except SourceError (List Path))
  | [] => .silent (.ok [])
  | (name, entry) :: rest =>
      (walk sources files (path.child name) entry).andThen fun first =>
        match first with
        | .error error => .silent (.error error)
        | .ok found =>
            (walkAll sources files path rest).andThen fun others =>
              .silent (others.map (found ++ ·))

end

def discover (sources : SourceSet) (files : FileSystem) : Logged (Except SourceError (List Path)) :=
  match files.resolve sources.root with
  | .error _ => .silent (.error (.notFound sources.root))
  | .ok entry =>
      let walked :=
        match entry with
        | .directory entries => walk sources files sources.root (.directory entries)
        | _ =>
            .silent (.ok (if sources.root.hasExtension sources.extension then [sources.root]
              else []))
      walked.andThen fun found =>
        match found with
        | .error error => .silent (.error error)
        | .ok found =>
            let sorted := found.mergeSort Path.le
            ⟨[.discovered sorted.length sources.root], .ok sorted⟩

def loadAll (sources : SourceSet) (files : FileSystem) :
    Logged (Except SourceError (List SourceText)) :=
  (sources.discover files).andThen fun found =>
    .silent (found.bind fun paths => paths.mapM files.loadSource)

def loadPaths (files : FileSystem) : List Path → Report → Logged (List SourceText × Report)
  | [], report => .silent ([], report)
  | path :: rest, report =>
      match files.loadSource path with
      | .ok source =>
          (loadPaths files rest report).andThen fun (loaded, report) =>
            .silent (source :: loaded, report)
      | .error error =>
          Logged.andThen ⟨[.skipped error], ()⟩ fun _ =>
            loadPaths files rest (report.push error.toDiagnostic)

def loadEach (sources : SourceSet) (files : FileSystem) :
    Logged (Except SourceError (List SourceText × Report)) :=
  (sources.discover files).andThen fun found =>
    match found with
    | .error error => .silent (.error error)
    | .ok paths => (loadPaths files paths .empty).andThen fun loaded => .silent (.ok loaded)

end SourceSet

end NodeFeed

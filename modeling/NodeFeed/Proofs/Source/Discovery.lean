import Mathlib.Data.List.Nodup
import NodeFeed.Proofs.File.Path
import NodeFeed.Proofs.File.Resolution
import NodeFeed.Source.Set

set_option autoImplicit false

namespace NodeFeed

namespace Listing

def Proper (entries : Listing) : Prop :=
  entries.Everywhere fun names => ∀ name ∈ names, name.Proper

theorem Relisted.proper {entries others : Listing} (relisted : entries.Relisted others)
    (proper : entries.Proper) : others.Proper :=
  relisted.everywhere (fun _ _ perm all name member => all name (perm.mem_iff.mpr member)) proper

def Readable (entries : Listing) (root : Path) : Prop :=
  ∀ way inner, listing? way entries = some inner →
    (root.descend way).bytes.length < FileSystem.pathLimit

theorem Relisted.readable {entries others : Listing} (relisted : entries.Relisted others)
    (distinct : entries.Distinct) {root : Path} (readable : entries.Readable root) :
    others.Readable root := by
  intro way inner reached
  obtain ⟨other, there, -⟩ := relisted.symm.listing?_eq_some (relisted.distinct distinct) reached
  exact readable way other there

end Listing

structure FileSystem.Tidy (files : FileSystem) (root : Path) : Prop where
  distinct : files.root.Distinct
  proper : ∀ entries, files.resolve root = .ok (.directory entries) → Listing.Proper entries

theorem FileSystem.Tidy.distinct_of_resolve {files : FileSystem} {root : Path}
    (tidy : files.Tidy root) {entries : Listing}
    (resolved : files.resolve root = .ok (.directory entries)) : entries.Distinct := by
  obtain ⟨-, way, -, there⟩ := resolve_eq_ok resolved
  exact everywhere_of_entry? tidy.distinct tidy.distinct there

namespace SourceSet

variable {sources : SourceSet} {files : FileSystem}

def keeps (sources : SourceSet) (files : FileSystem) (path : Path) : Entry → Bool
  | .directory _ => false
  | .link _ => !files.isDirectory path && path.hasExtension sources.extension
  | .file _ => path.hasExtension sources.extension

def collect (sources : SourceSet) (files : FileSystem) (root : Path)
    (leaves : List (List FileName × Entry)) : List Path :=
  leaves.filterMap fun leaf =>
    if sources.keeps files (root.descend leaf.1) leaf.2 then some (root.descend leaf.1) else none

def tooDeep (root : Path) (way : List FileName) : Bool :=
  FileSystem.pathLimit ≤ (root.descend way).bytes.length

-- The first directory that is too deep ends the walk; without one it collects every leaf.
def outcome (sources : SourceSet) (files : FileSystem) (root : Path)
    (directories : List (List FileName)) (leaves : List (List FileName × Entry)) :
    Except SourceError (List Path) :=
  match directories.find? (tooDeep root) with
  | some way => .error (.unreadable (root.descend way) .nameTooLong)
  | none => .ok (sources.collect files root leaves)

theorem outcome_child (root : Path) (name : FileName) (directories : List (List FileName))
    (leaves : List (List FileName × Entry)) :
    sources.outcome files root (directories.map fun way => name :: way)
        (leaves.map fun leaf => (name :: leaf.1, leaf.2)) =
      sources.outcome files (root.child name) directories leaves := by
  have below : tooDeep root ∘ (fun way => name :: way) = tooDeep (root.child name) := rfl
  rw [outcome, outcome, collect, List.find?_map, List.filterMap_map, below]
  cases directories.find? (tooDeep (root.child name)) <;> rfl

theorem outcome_append (root : Path) (first second : List (List FileName))
    (leaves others : List (List FileName × Entry)) :
    sources.outcome files root (first ++ second) (leaves ++ others) =
      match sources.outcome files root first leaves with
      | .error error => .error error
      | .ok found => (sources.outcome files root second others).map (found ++ ·) := by
  simp only [outcome, collect, List.find?_append, List.filterMap_append]
  cases first.find? (tooDeep root) with
  | some way => rfl
  | none => cases second.find? (tooDeep root) <;> rfl

theorem value_walk_leaf {path : Path} {entry : Entry} (leaf : entry.isLeaf = true) :
    (walk sources files path entry).value =
      sources.outcome files path entry.directories entry.leaves := by
  cases entry with
  | directory entries => cases leaf
  | file content =>
      simp only [walk, foundAt, outcome, collect, keeps, Entry.directories, Entry.leaves]
      split
      next extended => simp [extended]
      next bare => simp [bare]
  | link target =>
      simp only [walk, foundAt, outcome, collect, keeps, Entry.directories, Entry.leaves]
      split
      next directory => simp [directory]
      next other =>
        split
        next extended => simp [other, extended]
        next bare => simp [bare]

theorem value_walk_directory {path : Path} {entries : Listing}
    (inside : (walkAll sources files path entries).value =
      sources.outcome files path (Listing.directories entries) (Listing.leaves entries)) :
    (walk sources files path (.directory entries)).value =
      sources.outcome files path (Entry.directory entries).directories
        (Entry.directory entries).leaves := by
  rw [walk, Entry.directories, Entry.leaves, outcome, List.find?_cons]
  split
  next long => simp [tooDeep, long]
  next short => simp [tooDeep, short, inside, outcome]

theorem value_walkAll_cons {path : Path} {name : FileName} {entry : Entry} {rest : Listing}
    (here : (walk sources files (path.child name) entry).value =
      sources.outcome files (path.child name) entry.directories entry.leaves)
    (later : (walkAll sources files path rest).value =
      sources.outcome files path (Listing.directories rest) (Listing.leaves rest)) :
    (walkAll sources files path ((name, entry) :: rest)).value =
      sources.outcome files path (Listing.directories ((name, entry) :: rest))
        (Listing.leaves ((name, entry) :: rest)) := by
  rw [walkAll, Logged.value_andThen, here, Listing.directories, Listing.leaves, outcome_append,
    outcome_child]
  cases sources.outcome files (path.child name) entry.directories entry.leaves with
  | error error => rfl
  | ok found => rw [Logged.value_andThen, later, Logged.value_silent]

theorem value_walkAll (sources : SourceSet) (files : FileSystem) (path : Path)
    (entries : Listing) :
    (walkAll sources files path entries).value =
      sources.outcome files path (Listing.directories entries) (Listing.leaves entries) := by
  induction entries using Listing.tree_induction generalizing path with
  | nil => rfl
  | file name content rest ih => exact value_walkAll_cons (value_walk_leaf rfl) (ih path)
  | link name target rest ih => exact value_walkAll_cons (value_walk_leaf rfl) (ih path)
  | directory name inner rest inside ih =>
      exact value_walkAll_cons (value_walk_directory (inside (path.child name))) (ih path)

theorem value_discover_directory {entries : Listing}
    (resolved : files.resolve sources.root = .ok (.directory entries)) :
    (sources.discover files).value =
      (sources.outcome files sources.root (Entry.directory entries).directories
        (Listing.leaves entries)).map fun found => found.mergeSort Path.le := by
  have walked := value_walk_directory (value_walkAll sources files sources.root entries)
  rw [Entry.leaves] at walked
  simp only [discover, resolved, Logged.value_andThen, walked]
  cases sources.outcome files sources.root (Entry.directory entries).directories
    (Listing.leaves entries) <;> rfl

theorem find?_tooDeep_eq_none_iff {root : Path} {entries : Listing}
    (distinct : entries.Distinct) :
    (Entry.directory entries).directories.find? (tooDeep root) = none ↔
      entries.Readable root := by
  rw [List.find?_eq_none]
  constructor
  · intro shallow way inner reached
    have short := shallow way ((Listing.mem_directories_iff distinct).mpr ⟨inner, reached⟩)
    simpa [tooDeep] using short
  · intro readable way member
    obtain ⟨inner, reached⟩ := (Listing.mem_directories_iff distinct).mp member
    simpa [tooDeep] using readable way inner reached

theorem outcome_of_readable {root : Path} {entries : Listing}
    (distinct : entries.Distinct) (readable : entries.Readable root) :
    sources.outcome files root (Entry.directory entries).directories (Listing.leaves entries) =
      .ok (sources.collect files root (Listing.leaves entries)) := by
  rw [outcome, (find?_tooDeep_eq_none_iff distinct).mpr readable]

theorem outcome_of_not_readable {root : Path} {entries : Listing}
    (distinct : entries.Distinct) (deep : ¬ entries.Readable root) :
    ∃ way inner, Listing.listing? way entries = some inner ∧
      FileSystem.pathLimit ≤ (root.descend way).bytes.length ∧
      sources.outcome files root (Entry.directory entries).directories (Listing.leaves entries) =
        .error (.unreadable (root.descend way) .nameTooLong) := by
  rw [← find?_tooDeep_eq_none_iff distinct, ← ne_eq, Option.ne_none_iff_exists'] at deep
  obtain ⟨way, first⟩ := deep
  obtain ⟨inner, reached⟩ :=
    (Listing.mem_directories_iff distinct).mp (List.mem_of_find?_eq_some first)
  have long := List.find?_some first
  refine ⟨way, inner, reached, of_decide_eq_true long, ?_⟩
  rw [outcome, first]

theorem collect_perm {root : Path} {leaves others : List (List FileName × Entry)}
    (perm : leaves.Perm others) :
    (sources.collect files root leaves).Perm (sources.collect files root others) :=
  perm.filterMap _

theorem mem_collect {root path : Path} {leaves : List (List FileName × Entry)} :
    path ∈ sources.collect files root leaves ↔
      ∃ way leaf, (way, leaf) ∈ leaves ∧ sources.keeps files (root.descend way) leaf = true ∧
        path = root.descend way := by
  simp only [collect, List.mem_filterMap, Prod.exists, Option.ite_none_right_eq_some,
    Option.some.injEq, eq_comm (a := path)]

theorem collect_increasing {root : Path} (nonempty : root.bytes ≠ []) {entries : Listing}
    (proper : entries.Proper) (arranged : entries.Arranged) :
    (sources.collect files root (Listing.leaves entries)).Pairwise
      fun first second => first.key < second.key := by
  rw [collect, List.pairwise_filterMap]
  refine arranged.leaves_increasing.imp_of_mem ?_
  rintro ⟨way, leaf⟩ ⟨other, last⟩ here there before first kept second again
  simp only [Option.ite_none_right_eq_some, Option.some.injEq] at kept again
  obtain ⟨-, rfl⟩ := kept
  obtain ⟨-, rfl⟩ := again
  exact Path.key_descend_lt nonempty (proper.of_mem_leaves here) (proper.of_mem_leaves there) before

-- What a search of a directory is to find: a name with the extension, of a file or of a link that
-- leads to no directory, at the end of a way through directories and through no link.
structure Matching (sources : SourceSet) (files : FileSystem) (entries : Listing)
    (way : List FileName) (name : FileName) : Prop where
  extended : Path.Extended sources.extension name
  reached : ∃ inner entry, Listing.listing? way entries = some inner ∧
    Listing.find? name inner = some entry ∧ entry.isLeaf = true ∧
    ∀ target, entry = .link target →
      files.isDirectory (sources.root.descend (way ++ [name])) = false

theorem keeps_iff {path : Path} {name : FileName} (named : path.fileName? = some name)
    {entry : Entry} :
    sources.keeps files path entry = true ↔
      Path.Extended sources.extension name ∧ entry.isLeaf = true ∧
        ∀ target, entry = .link target → files.isDirectory path = false := by
  have extended := path.hasExtension_iff sources.extension
  simp only [named, Option.some.injEq, exists_eq_left'] at extended
  cases entry <;> simp [keeps, Entry.isLeaf, extended, and_comm]

theorem mem_collect_leaves_iff {entries : Listing} (nonempty : sources.root.bytes ≠ [])
    (distinct : entries.Distinct) (proper : entries.Proper) {path : Path} :
    path ∈ sources.collect files sources.root (Listing.leaves entries) ↔
      ∃ way name, path = sources.root.descend (way ++ [name]) ∧
        sources.Matching files entries way name := by
  -- A leaf's path has the leaf's own name at its end.
  have named {way : List FileName} {name : FileName} {leaf : Entry}
      (member : (way ++ [name], leaf) ∈ Listing.leaves entries) :
      (sources.root.descend (way ++ [name])).fileName? = some name := by
    obtain ⟨above, last⟩ := List.forall_mem_append.mp (proper.of_mem_leaves member)
    rw [Path.descend_concat]
    exact Path.fileName?_child (Path.descend_ne_nil nonempty above) (last name (by simp))
  rw [mem_collect]
  constructor
  · rintro ⟨_, leaf, member, kept, rfl⟩
    obtain ⟨way, name, inner, rfl, reached, found, -⟩ :=
      (Listing.mem_leaves_iff distinct).mp member
    obtain ⟨extended, single, stays⟩ := (keeps_iff (named member)).mp kept
    exact ⟨way, name, rfl, extended, inner, leaf, reached, found, single, stays⟩
  · rintro ⟨way, name, rfl, extended, inner, leaf, reached, found, single, stays⟩
    have member := (Listing.mem_leaves_iff distinct).mpr
      ⟨way, name, inner, rfl, reached, found, single⟩
    have kept := (keeps_iff (named member)).mpr ⟨extended, single, stays⟩
    exact ⟨way ++ [name], leaf, member, kept, rfl⟩

-- All that matches and nothing else, once each, in the order of the paths: as a depth-first
-- traversal meets it that goes through each directory by name.
structure Canonical (sources : SourceSet) (files : FileSystem) (entries : Listing)
    (found : List Path) : Prop where
  complete : ∀ path, path ∈ found ↔ ∃ way name, path = sources.root.descend (way ++ [name]) ∧
    sources.Matching files entries way name
  once : found.Nodup
  increasing : found.Pairwise fun first second => first.key < second.key
  traversal : ∃ arranged, entries.Relisted arranged ∧ arranged.Arranged ∧
    found = sources.collect files sources.root (Listing.leaves arranged)

theorem canonical_collect {entries : Listing} (nonempty : sources.root.bytes ≠ [])
    (distinct : entries.Distinct) (proper : entries.Proper) :
    sources.Canonical files entries
      (sources.collect files sources.root (Listing.leaves (Listing.arranged entries))) := by
  have relisted := Listing.relisted_arranged entries
  have sorted := Listing.arranged_arranged distinct
  have increasing : (sources.collect files sources.root
      (Listing.leaves (Listing.arranged entries))).Pairwise
        fun first second => first.key < second.key :=
    collect_increasing nonempty (relisted.proper proper) sorted
  refine ⟨?_, ?_, increasing, _, relisted, sorted, rfl⟩
  · intro path
    rw [← mem_collect_leaves_iff nonempty distinct proper]
    exact (collect_perm relisted.leaves_perm).mem_iff.symm
  · refine increasing.imp ?_
    intro first second before same
    rw [same] at before
    exact List.lt_irrefl _ before

theorem collect_relisted {others : FileSystem} (relisted : files.Relisted others)
    (distinct : files.root.Distinct) : sources.collect others = sources.collect files := by
  have same : sources.keeps others = sources.keeps files := by
    funext path entry
    cases entry <;> simp [keeps, relisted.isDirectory_eq distinct]
  unfold collect
  rw [same]

-- Two listings of one tree are walked in different orders, and sorting undoes the difference.
theorem discover_of_readable {others : FileSystem} {entries : Listing}
    (tidy : files.Tidy sources.root) (relisted : files.Relisted others)
    (resolved : files.resolve sources.root = .ok (.directory entries))
    (readable : entries.Readable sources.root) :
    (sources.discover others).value =
      .ok (sources.collect files sources.root (Listing.leaves (Listing.arranged entries))) := by
  have distinct := tidy.distinct_of_resolve resolved
  have canonical : sources.Canonical files entries _ :=
    canonical_collect (FileSystem.resolve_ne_nil resolved) distinct (tidy.proper entries resolved)
  obtain ⟨listed, again, alike⟩ : ∃ listed,
      others.resolve sources.root = .ok (.directory listed) ∧ entries.Relisted listed := by
    obtain ⟨other, again, alike⟩ := relisted.resolve_eq_ok tidy.distinct resolved
    cases alike with
    | refl => exact ⟨entries, again, .refl entries⟩
    | directory alike => exact ⟨_, again, alike⟩
  have perm := alike.symm.trans (Listing.relisted_arranged entries)
  rw [value_discover_directory again,
    outcome_of_readable (alike.distinct distinct) (alike.readable distinct readable),
    collect_relisted relisted tidy.distinct]
  exact congrArg Except.ok
    (Path.mergeSort_eq (collect_perm perm.leaves_perm) canonical.increasing)

theorem discover_of_not_readable {entries : Listing} (tidy : files.Tidy sources.root)
    (resolved : files.resolve sources.root = .ok (.directory entries))
    (deep : ¬ entries.Readable sources.root) :
    ∃ way inner, Listing.listing? way entries = some inner ∧
      FileSystem.pathLimit ≤ (sources.root.descend way).bytes.length ∧
      (sources.discover files).value =
        .error (.unreadable (sources.root.descend way) .nameTooLong) := by
  obtain ⟨way, inner, reached, long, failed⟩ :=
    outcome_of_not_readable (tidy.distinct_of_resolve resolved) deep
  refine ⟨way, inner, reached, long, ?_⟩
  rw [value_discover_directory resolved, failed]
  rfl

theorem value_discover_other {entry : Entry} (resolved : files.resolve sources.root = .ok entry)
    (leaf : entry.isLeaf = true) :
    (sources.discover files).value =
      .ok (if sources.root.hasExtension sources.extension then [sources.root] else []) := by
  cases entry with
  | directory entries => cases leaf
  | file content =>
      simp only [discover, resolved]
      split <;> simp
  | link target =>
      simp only [discover, resolved]
      split <;> simp

def encoded (text : String) : FileName := Text.Utf8.encode text.toList

def dots : Nat → List UInt8
  | 0 => []
  | count + 1 => Path.dot :: Path.slash :: dots count

theorem length_dots (count : Nat) : (dots count).length = 2 * count := by
  induction count with
  | zero => rfl
  | succ count ih => simp [dots, ih, Nat.mul_succ]

theorem pathFault?_dots {count : Nat} (positive : 0 < count)
    (short : 2 * count < FileSystem.pathLimit) : FileSystem.pathFault? ⟨dots count⟩ = none := by
  have length := length_dots count
  have nonempty : dots count ≠ [] := by
    intro empty
    rw [empty, List.length_nil] at length
    omega
  have clean (count : Nat) : 0 ∉ dots count := by
    induction count with
    | zero => simp [dots]
    | succ count ih => simp [dots, ih, Path.dot, Path.slash]
  have limit : ¬ FileSystem.pathLimit ≤ (dots count).length := by omega
  simp [FileSystem.pathFault?, nonempty, clean, limit]

theorem steps_dots (count : Nat) :
    Path.steps ⟨dots count⟩ = List.replicate (count + 1) .here := by
  have apart : Path.dot ≠ Path.slash := by decide
  have cut (count : Nat) :
      Path.pieces (dots count) = List.replicate count [Path.dot] ++ [[]] := by
    induction count with
    | zero => rfl
    | succ count ih => simp [dots, Path.pieces, apart, ih, List.replicate_succ]
  have relative : (dots count).head? ≠ some Path.slash := by
    cases count <;> simp [dots, apart]
  simp [Path.steps, relative, cut, Path.componentOf, List.replicate_succ']

theorem resolve_dots (root : Listing) {count : Nat} (positive : 0 < count)
    (short : 2 * count < FileSystem.pathLimit) :
    FileSystem.resolve ⟨root, []⟩ ⟨dots count⟩ = .ok (.directory root) := by
  have stays (onLink : List FileName → List Component → Except Fault (List FileName))
      (count : Nat) :
      FileSystem.followUntilLink ⟨root, []⟩ onLink [] (List.replicate count .here) = .ok [] := by
    induction count with
    | zero => rfl
    | succ count ih =>
        simpa [List.replicate_succ, FileSystem.followUntilLink, Listing.listing?] using ih
  rw [FileSystem.resolve, pathFault?_dots positive short, steps_dots]
  simp [FileSystem.follow, FileSystem.maxLinks, stays, FileSystem.entry?]

theorem tidy_dots {root : Listing} (distinct : root.Distinct) (proper : root.Proper) {count : Nat}
    (positive : 0 < count) (short : 2 * count < FileSystem.pathLimit) :
    FileSystem.Tidy ⟨root, []⟩ ⟨dots count⟩ := by
  refine ⟨distinct, ?_⟩
  intro entries resolved
  rw [resolve_dots root positive short] at resolved
  obtain rfl := Entry.directory.inj (Except.ok.inj resolved)
  exact proper

-- One link leads up, one to a directory and one nowhere.
def sample : FileSystem where
  root :=
    [(encoded "z.void", .ofBytes []),
      (encoded "a",
        .directory [(encoded "up", .link (encoded "..")), (encoded "b.void", .ofBytes [])]),
      (encoded "gone.void", .link (encoded "nowhere")),
      (encoded "a.void", .link (encoded "a"))]
  current := []

theorem everywhere_sample {holds : List FileName → Prop} (outside : holds sample.root.names)
    (inside : holds [encoded "up", encoded "b.void"]) : sample.root.Everywhere holds := by
  refine .intro outside ?_
  intro name inner member
  simp only [sample, Entry.ofBytes, List.mem_cons, Prod.mk.injEq, reduceCtorEq, and_false, false_or,
    Entry.directory.injEq, List.not_mem_nil, or_false] at member
  obtain ⟨-, rfl⟩ := member
  exact .intro inside (by simp)

-- Below a root whose path is as long as can be, no directory can be read.
def nested : FileSystem where
  root := [(encoded "sub", .directory [(encoded "x.void", .ofBytes (encoded "deep"))])]
  current := []

end SourceSet

end NodeFeed

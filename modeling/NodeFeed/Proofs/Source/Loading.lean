import NodeFeed.Proofs.Report
import NodeFeed.Source.Set

set_option autoImplicit false

namespace NodeFeed

def Event.skipped? : Event → Option SourceError
  | .skipped error => some error
  | _ => none

namespace FileSystem

def source? (files : FileSystem) (path : Path) : Option SourceText :=
  (files.loadSource path).toOption

def failure? (files : FileSystem) (path : Path) : Option SourceError :=
  match files.loadSource path with
  | .ok _ => none
  | .error error => some error

theorem loadSource_cases (files : FileSystem) (path : Path) :
    (∃ source, files.loadSource path = .ok source ∧ files.source? path = some source ∧
      files.failure? path = none) ∨
    (∃ error, files.loadSource path = .error error ∧ files.source? path = none ∧
      files.failure? path = some error) := by
  cases loaded : files.loadSource path with
  | ok source => exact .inl ⟨source, rfl, by simp [source?, loaded, Except.toOption],
      by simp [failure?, loaded]⟩
  | error error => exact .inr ⟨error, rfl, by simp [source?, loaded, Except.toOption],
      by simp [failure?, loaded]⟩

theorem length_filterMap_source? (files : FileSystem) (paths : List Path) :
    (paths.filterMap files.source?).length + (paths.filterMap files.failure?).length =
      paths.length := by
  induction paths with
  | nil => rfl
  | cons path rest ih =>
      rcases files.loadSource_cases path with ⟨source, -, loaded, kept⟩ | ⟨error, -, loaded, kept⟩
      · simp only [List.filterMap_cons, loaded, kept, List.length_cons]
        omega
      · simp only [List.filterMap_cons, loaded, kept, List.length_cons]
        omega

theorem mapM_loadSource (files : FileSystem) (paths : List Path) :
    paths.mapM files.loadSource =
      match (paths.filterMap files.failure?).head? with
      | none => .ok (paths.filterMap files.source?)
      | some error => .error error := by
  induction paths with
  | nil => rfl
  | cons path rest ih =>
      rw [List.mapM_cons, ih]
      rcases files.loadSource_cases path with ⟨source, found, loaded, kept⟩ |
        ⟨error, found, loaded, kept⟩
      · simp only [List.filterMap_cons, loaded, kept, found]
        cases (rest.filterMap files.failure?).head? <;> rfl
      · simp only [List.filterMap_cons, kept, found]
        rfl

theorem loadPaths_eq (files : FileSystem) (paths : List Path) (report : Report) :
    SourceSet.loadPaths files paths report =
      ⟨(paths.filterMap files.failure?).map .skipped,
        (paths.filterMap files.source?,
          report.pushAll ((paths.filterMap files.failure?).map SourceError.toDiagnostic))⟩ := by
  induction paths generalizing report with
  | nil => rfl
  | cons path rest ih =>
      rcases files.loadSource_cases path with ⟨source, found, loaded, kept⟩ |
        ⟨error, found, loaded, kept⟩
      · simp [SourceSet.loadPaths, found, loaded, kept, ih, Logged.andThen, Logged.silent]
      · simp [SourceSet.loadPaths, found, loaded, kept, ih, Logged.andThen, Report.pushAll_cons]

theorem loadSource_eq_error {files : FileSystem} {path : Path} {error : SourceError}
    (failed : files.loadSource path = .error error) :
    error.path = path ∧ (error = .notFound path ↔ files.read path = .error .missing) := by
  unfold loadSource at failed
  split at failed
  next fault read =>
    obtain rfl := Except.error.inj failed
    cases fault <;> simp [read, SourceError.ofFault, SourceError.path]
  next content read =>
    split at failed
    next => cases failed
    next =>
      obtain rfl := Except.error.inj failed
      simp [read, SourceError.path]

end FileSystem

theorem SourceError.toDiagnostic_eq (error : SourceError) :
    error.toDiagnostic =
      { file := error.path.display
        code := if error = .notFound error.path then ⟨200⟩ else ⟨201⟩
        category := .source
        message := error.message
        span := none
        sourceLine := "" } := by
  cases error <;> simp [toDiagnostic, Diagnostic.ofCode, SourceError.path, code,
    Code.sourceNotFound, Code.sourceUnreadable, Code.category]

namespace SourceSet

variable (sources : SourceSet) (files : FileSystem)

mutual

theorem skipped?_walk (path : Path) (entry : Entry) :
    (walk sources files path entry).events.filterMap Event.skipped? = [] := by
  cases entry with
  | directory entries =>
      simp only [walk]
      split
      · rfl
      · exact skipped?_walkAll path entries
  | link target =>
      simp only [walk, foundAt]
      split
      · rfl
      · split <;> rfl
  | file content =>
      simp only [walk, foundAt]
      split <;> rfl

theorem skipped?_walkAll (path : Path) (entries : List (FileName × Entry)) :
    (walkAll sources files path entries).events.filterMap Event.skipped? = [] := by
  cases entries with
  | nil => simp [walkAll]
  | cons first rest =>
      obtain ⟨name, entry⟩ := first
      have here := skipped?_walk (path.child name) entry
      have there := skipped?_walkAll path rest
      simp only [walkAll, Logged.events_andThen, List.filterMap_append, here]
      split <;> simp [there]

end

theorem skipped?_discover :
    (sources.discover files).events.filterMap Event.skipped? = [] := by
  unfold discover
  split
  · rfl
  next entry resolved =>
    cases entry with
    | directory entries =>
        have walked := skipped?_walk sources files sources.root (.directory entries)
        simp only [Logged.events_andThen, List.filterMap_append, walked]
        split <;> rfl
    | file content => rfl
    | link target => rfl

theorem loadAll_of_discover {paths : List Path}
    (discovered : (sources.discover files).value = .ok paths) :
    (sources.loadAll files).value = paths.mapM files.loadSource := by
  simp [loadAll, discovered, Except.bind]

theorem loadEach_of_discover {paths : List Path}
    (discovered : (sources.discover files).value = .ok paths) :
    sources.loadEach files =
      ⟨(sources.discover files).events ++ (loadPaths files paths .empty).events,
        .ok (loadPaths files paths .empty).value⟩ := by
  simp [loadEach, Logged.andThen, discovered, Logged.silent]

-- What loading `paths` comes to: what was loaded and reported by going on, and what by stopping.
structure Loading (files : FileSystem) (paths : List Path) (failures : List SourceError)
    (loaded : List SourceText) (report : Report)
    (all : Except SourceError (List SourceText)) : Prop where
  failed : failures = paths.filterMap files.failure?
  kept : loaded = paths.filterMap files.source?
  parted : loaded.length + failures.length = paths.length
  stored : report.errors = (failures.take 20).map SourceError.toDiagnostic
  first : report.errors.head? = failures.head?.map SourceError.toDiagnostic
  stopped : all =
    match failures.head? with
    | none => .ok loaded
    | some error => .error error
  -- The count has 64 bits, more than enough for a list that a memory can hold.
  counted : paths.length < UInt64.size →
    report.total.toNat = failures.length ∧ loaded.length + report.total.toNat = paths.length ∧
      report.errors.length = min 20 report.total.toNat ∧
      ∀ sources, all = .ok sources ↔ report.total = 0 ∧ sources = loaded

theorem loading_paths (files : FileSystem) (paths : List Path) :
    Loading files paths (paths.filterMap files.failure?)
      (loadPaths files paths .empty).value.1 (loadPaths files paths .empty).value.2
      (paths.mapM files.loadSource) := by
  have stored : (loadPaths files paths .empty).value.2 =
      ⟨((paths.filterMap files.failure?).take 20).map SourceError.toDiagnostic,
        UInt64.ofNat (paths.filterMap files.failure?).length⟩ := by
    rw [FileSystem.loadPaths_eq, Report.pushAll_eq]
    simp [Report.empty, Report.capacity, List.map_take]
  have parted := files.length_filterMap_source? paths
  have kept : (loadPaths files paths .empty).value.1 = paths.filterMap files.source? := by
    rw [FileSystem.loadPaths_eq]
  have stopped := files.mapM_loadSource paths
  rw [stored, kept]
  refine ⟨rfl, rfl, parted, rfl, ?_, stopped, ?_⟩
  · cases paths.filterMap files.failure? <;> rfl
  · intro bounded
    have fits : (paths.filterMap files.failure?).length < UInt64.size := by omega
    have counted : (UInt64.ofNat (paths.filterMap files.failure?).length).toNat =
        (paths.filterMap files.failure?).length := UInt64.toNat_ofNat_of_lt' fits
    rw [counted]
    refine ⟨rfl, parted, by simp, ?_⟩
    intro sources
    rw [stopped, ← UInt64.toNat_inj, counted]
    cases paths.filterMap files.failure? with
    | nil => simp [eq_comm]
    | cons error others => simp

theorem loading_agrees :
    match (sources.discover files).value with
    | .error error =>
        (sources.loadAll files).value = .error error ∧
          (sources.loadEach files).value = .error error
    | .ok paths =>
        ∃ failures loaded report, (sources.loadEach files).value = .ok (loaded, report) ∧
          Loading files paths failures loaded report (sources.loadAll files).value ∧
          (sources.loadEach files).events =
            (sources.discover files).events ++ failures.map Event.skipped ∧
          (sources.loadEach files).events.filterMap Event.skipped? = failures ∧
          ∀ path ∈ paths, ∀ error, files.loadSource path = .error error →
            (error = .notFound path ↔ files.read path = .error .missing) ∧
              error.toDiagnostic =
                { file := path.display
                  code := if error = .notFound path then ⟨200⟩ else ⟨201⟩
                  category := .source
                  message := error.message
                  span := none
                  sourceLine := "" } := by
  cases discovered : (sources.discover files).value with
  | error error => simp [loadAll, loadEach, discovered, Except.bind]
  | ok paths =>
      have loading := loading_paths files paths
      rw [← loadAll_of_discover sources files discovered] at loading
      have each := loadEach_of_discover sources files discovered
      have logged : (loadPaths files paths .empty).events =
          (paths.filterMap files.failure?).map .skipped := by
        rw [FileSystem.loadPaths_eq]
      refine ⟨paths.filterMap files.failure?, _, _, by rw [each], loading, ?_, ?_, ?_⟩
      · rw [each, logged]
      · rw [each, logged, List.filterMap_append, skipped?_discover, List.filterMap_map]
        exact List.filterMap_some
      · intro path member error failed
        obtain ⟨rfl, missing⟩ := FileSystem.loadSource_eq_error failed
        exact ⟨missing, error.toDiagnostic_eq⟩

end SourceSet

end NodeFeed

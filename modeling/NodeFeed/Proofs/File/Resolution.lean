import NodeFeed.Proofs.File.Tree

set_option autoImplicit false

namespace NodeFeed

namespace FileSystem

structure Relisted (files others : FileSystem) : Prop where
  root : Listing.Relisted files.root others.root
  current : others.current = files.current

theorem resolve_eq_ok {files : FileSystem} {path : Path} {entry : Entry}
    (resolved : files.resolve path = .ok entry) :
    pathFault? path = none ∧ ∃ way, files.follow maxLinks files.current path.steps = .ok way ∧
      files.entry? way = some entry := by
  unfold resolve at resolved
  split at resolved
  next => cases resolved
  next sound =>
    split at resolved
    next => cases resolved
    next way followed =>
      split at resolved
      next found there =>
        obtain rfl := Except.ok.inj resolved
        exact ⟨sound, way, followed, there⟩
      next => cases resolved

theorem resolve_ne_nil {files : FileSystem} {path : Path} {entry : Entry}
    (resolved : files.resolve path = .ok entry) : path.bytes ≠ [] := by
  intro empty
  have sound := (resolve_eq_ok resolved).1
  simp [pathFault?, empty] at sound

theorem everywhere_of_entry? {files : FileSystem} {holds : List FileName → Prop}
    (everywhere : Listing.Everywhere holds files.root) (distinct : Listing.Distinct files.root)
    {way : List FileName} {entries : Listing}
    (there : files.entry? way = some (.directory entries)) :
    Listing.Everywhere holds entries := by
  unfold entry? at there
  split at there
  next =>
    obtain rfl := Entry.directory.inj (Option.some.inj there)
    exact everywhere
  next name _ =>
    obtain ⟨inner, reached, found⟩ := Option.bind_eq_some_iff.mp there
    have unique := distinct.listing? distinct reached
    exact (everywhere.listing? distinct reached).inside
      ((Listing.find?_eq_some_iff unique.here).mp found)

namespace Relisted

variable {files others : FileSystem}

theorem followUntilLink_eq (relisted : files.Relisted others)
    (distinct : Listing.Distinct files.root)
    (onLink : List FileName → List Component → Except Fault (List FileName))
    (way : List FileName) (components : List Component) :
    others.followUntilLink onLink way components = files.followUntilLink onLink way components := by
  induction components generalizing way with
  | nil => rfl
  | cons component rest ih =>
      simp only [followUntilLink]
      cases reached : Listing.listing? way files.root with
      | none => rw [relisted.root.listing?_eq_none distinct reached]
      | some entries =>
          obtain ⟨listed, there, same⟩ := relisted.root.listing?_eq_some distinct reached
          have unique := distinct.listing? distinct reached
          rw [there]
          cases component with
          | root => exact ih []
          | here => exact ih way
          | parent => exact ih way.dropLast
          | name name =>
              dsimp only
              cases found : Listing.find? name entries with
              | none => rw [same.find?_eq_none found]
              | some entry =>
                  obtain ⟨other, again, alike⟩ := same.find?_eq_some unique found
                  rw [again]
                  cases alike with
                  | refl => cases entry <;> simp only [ih]
                  | directory inner => simp only [ih]

theorem follow_eq (relisted : files.Relisted others) (distinct : Listing.Distinct files.root)
    (links : Nat) : others.follow links = files.follow links := by
  induction links with
  | zero =>
      funext way components
      exact relisted.followUntilLink_eq distinct _ way components
  | succ links ih =>
      funext way components
      rw [follow, follow, ih]
      exact relisted.followUntilLink_eq distinct _ way components

theorem entry?_eq_some (relisted : files.Relisted others)
    (distinct : Listing.Distinct files.root) {way : List FileName} {entry : Entry}
    (there : files.entry? way = some entry) :
    ∃ other, others.entry? way = some other ∧ entry.Relisted other := by
  unfold entry? at there ⊢
  split at there
  next =>
    obtain rfl := Option.some.inj there
    exact ⟨_, rfl, .directory relisted.root⟩
  next name _ =>
    obtain ⟨inner, reached, found⟩ := Option.bind_eq_some_iff.mp there
    obtain ⟨listed, again, same⟩ := relisted.root.listing?_eq_some distinct reached
    obtain ⟨other, known, alike⟩ :=
      same.find?_eq_some (distinct.listing? distinct reached) found
    exact ⟨other, Option.bind_eq_some_iff.mpr ⟨listed, again, known⟩, alike⟩

theorem refl (files : FileSystem) : files.Relisted files :=
  ⟨.refl files.root, rfl⟩

theorem symm (relisted : files.Relisted others) : others.Relisted files :=
  ⟨relisted.root.symm, relisted.current.symm⟩

theorem resolve_eq_ok (relisted : files.Relisted others)
    (distinct : Listing.Distinct files.root) {path : Path} {entry : Entry}
    (resolved : files.resolve path = .ok entry) :
    ∃ other, others.resolve path = .ok other ∧ entry.Relisted other := by
  obtain ⟨sound, way, followed, there⟩ := FileSystem.resolve_eq_ok resolved
  obtain ⟨other, again, alike⟩ := relisted.entry?_eq_some distinct there
  refine ⟨other, ?_, alike⟩
  rw [resolve, sound]
  simp only [relisted.follow_eq distinct, relisted.current, followed, again]

theorem isDirectory_eq (relisted : files.Relisted others)
    (distinct : Listing.Distinct files.root) (path : Path) :
    others.isDirectory path = files.isDirectory path := by
  have forward {files others : FileSystem} (relisted : files.Relisted others)
      (distinct : Listing.Distinct files.root) (directory : files.isDirectory path = true) :
      others.isDirectory path = true := by
    unfold isDirectory at directory ⊢
    split at directory
    next entries resolved =>
      obtain ⟨other, again, alike⟩ := relisted.resolve_eq_ok distinct resolved
      rw [again]
      cases alike <;> rfl
    next => cases directory
  rw [Bool.eq_iff_iff]
  exact ⟨forward relisted.symm (relisted.root.distinct distinct), forward relisted distinct⟩

end Relisted

end FileSystem

end NodeFeed

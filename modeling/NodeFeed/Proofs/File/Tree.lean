import Mathlib.Data.List.Basic
import NodeFeed.File.System

set_option autoImplicit false

namespace NodeFeed

namespace Listing

theorem tree_induction {motive : Listing → Prop} (nil : motive [])
    (file : ∀ name content rest, motive rest → motive ((name, .file content) :: rest))
    (link : ∀ name target rest, motive rest → motive ((name, .link target) :: rest))
    (directory : ∀ name inner rest, motive inner → motive rest →
      motive ((name, .directory inner) :: rest)) : (entries : Listing) → motive entries
  | [] => nil
  | (name, .file content) :: rest =>
      file name content rest (tree_induction nil file link directory rest)
  | (name, .link target) :: rest =>
      link name target rest (tree_induction nil file link directory rest)
  | (name, .directory inner) :: rest =>
      directory name inner rest (tree_induction nil file link directory inner)
        (tree_induction nil file link directory rest)

def names (entries : Listing) : List FileName := entries.map Prod.fst

@[simp] theorem names_nil : names [] = [] := rfl

@[simp] theorem names_cons (first : FileName × Entry) (rest : Listing) :
    names (first :: rest) = first.1 :: names rest := rfl

theorem mem_names {name : FileName} {entry : Entry} {entries : Listing}
    (member : (name, entry) ∈ entries) : name ∈ names entries :=
  List.mem_map_of_mem member

inductive Everywhere (holds : List FileName → Prop) : Listing → Prop
  | intro {entries : Listing} (here : holds (names entries))
      (inside : ∀ name inner, (name, Entry.directory inner) ∈ entries → Everywhere holds inner) :
      Everywhere holds entries

theorem Everywhere.here {holds : List FileName → Prop} {entries : Listing}
    (everywhere : Everywhere holds entries) : holds (names entries) := by
  cases everywhere with
  | intro here inside => exact here

theorem Everywhere.inside {holds : List FileName → Prop} {entries : Listing}
    (everywhere : Everywhere holds entries) {name : FileName} {inner : Listing}
    (member : (name, .directory inner) ∈ entries) : Everywhere holds inner := by
  cases everywhere with
  | intro here inside => exact inside name inner member

def Distinct (entries : Listing) : Prop := Everywhere List.Nodup entries

theorem Distinct.tail {first : FileName × Entry} {rest : Listing}
    (distinct : Distinct (first :: rest)) : Distinct rest :=
  .intro (List.nodup_cons.mp distinct.here).2 fun _ _ member =>
    distinct.inside (List.mem_cons_of_mem first member)

theorem find?_eq_some_iff {entries : Listing} (unique : (names entries).Nodup) {name : FileName}
    {entry : Entry} : find? name entries = some entry ↔ (name, entry) ∈ entries := by
  induction entries with
  | nil => simp [find?]
  | cons first rest ih =>
      obtain ⟨other, found⟩ := first
      obtain ⟨fresh, later⟩ := List.nodup_cons.mp unique
      have step := ih later
      by_cases same : other = name
      · subst same
        have absent : (other, entry) ∉ rest := fun member => fresh (mem_names member)
        simp [find?, absent, eq_comm]
      · have apart : name ≠ other := fun equal => same equal.symm
        simp only [find?] at step ⊢
        simp [same, apart, step]

theorem find?_eq_none_iff {entries : Listing} {name : FileName} :
    find? name entries = none ↔ name ∉ names entries := by
  rw [find?, Option.map_eq_none_iff, List.find?_eq_none, names, List.mem_map]
  constructor
  · rintro absent ⟨entry, member, rfl⟩
    exact absent entry member (by simp)
  · intro absent entry member same
    exact absent ⟨entry, member, by simpa using same⟩

theorem listing?_cons_eq_some_iff {entries found : Listing} {name : FileName}
    {way : List FileName} :
    listing? (name :: way) entries = some found ↔
      ∃ inner, find? name entries = some (.directory inner) ∧ listing? way inner = some found := by
  rw [listing?]
  split
  next inner here => simp [here]
  next other =>
    constructor
    · intro none
      cases none
    · rintro ⟨inner, here, -⟩
      exact absurd here (other inner)

theorem Everywhere.listing? {holds : List FileName → Prop} {way : List FileName}
    {entries inner : Listing} (everywhere : Everywhere holds entries)
    (unique : Distinct entries) (reached : listing? way entries = some inner) :
    Everywhere holds inner := by
  induction way generalizing entries with
  | nil =>
      obtain rfl := Option.some.inj reached
      exact everywhere
  | cons name way ih =>
      obtain ⟨next, here, later⟩ := listing?_cons_eq_some_iff.mp reached
      have member := (find?_eq_some_iff unique.here).mp here
      exact ih (everywhere.inside member) (unique.inside member) later

end Listing

def Entry.isLeaf : Entry → Bool
  | .directory _ => false
  | .file _ | .link _ => true

mutual

-- The files and links at or below an entry, depth first, with the ways to them.
def Entry.leaves : Entry → List (List FileName × Entry)
  | .directory entries => Listing.leaves entries
  | .file content => [([], .file content)]
  | .link target => [([], .link target)]

def Listing.leaves : List (FileName × Entry) → List (List FileName × Entry)
  | [] => []
  | (name, entry) :: rest =>
      (Entry.leaves entry).map (fun leaf => (name :: leaf.1, leaf.2)) ++ Listing.leaves rest

end

mutual

def Entry.directories : Entry → List (List FileName)
  | .directory entries => [] :: Listing.directories entries
  | .file _ => []
  | .link _ => []

def Listing.directories : List (FileName × Entry) → List (List FileName)
  | [] => []
  | (name, entry) :: rest =>
      (Entry.directories entry).map (fun way => name :: way) ++ Listing.directories rest

end

theorem Entry.leaves_of_isLeaf {entry : Entry} (leaf : entry.isLeaf = true) :
    entry.leaves = [([], entry)] := by
  cases entry with
  | directory inner => cases leaf
  | file content => rfl
  | link target => rfl

namespace Listing

theorem leaves_eq_flatMap (entries : Listing) :
    leaves entries = entries.flatMap fun entry =>
      entry.2.leaves.map fun leaf => (entry.1 :: leaf.1, leaf.2) := by
  induction entries with
  | nil => rfl
  | cons first rest ih => rw [leaves, ih, List.flatMap_cons]

theorem directories_eq_flatMap (entries : Listing) :
    directories entries = entries.flatMap fun entry =>
      entry.2.directories.map fun way => entry.1 :: way := by
  induction entries with
  | nil => rfl
  | cons first rest ih => rw [directories, ih, List.flatMap_cons]

theorem mem_leaves {way : List FileName} {leaf : Entry} {entries : Listing} :
    (way, leaf) ∈ leaves entries ↔
      ∃ name entry deeper, way = name :: deeper ∧ (name, entry) ∈ entries ∧
        (deeper, leaf) ∈ entry.leaves := by
  simp only [leaves_eq_flatMap, List.mem_flatMap, List.mem_map, Prod.exists, Prod.mk.injEq]
  constructor
  · rintro ⟨name, entry, listed, deeper, _, member, rfl, rfl⟩
    exact ⟨name, entry, deeper, rfl, listed, member⟩
  · rintro ⟨name, entry, deeper, rfl, listed, member⟩
    exact ⟨name, entry, listed, deeper, leaf, member, rfl, rfl⟩

theorem mem_directories {way : List FileName} {entries : Listing} :
    way ∈ directories entries ↔
      ∃ name entry deeper, way = name :: deeper ∧ (name, entry) ∈ entries ∧
        deeper ∈ entry.directories := by
  simp only [directories_eq_flatMap, List.mem_flatMap, List.mem_map, Prod.exists]
  constructor
  · rintro ⟨name, entry, listed, deeper, member, rfl⟩
    exact ⟨name, entry, deeper, rfl, listed, member⟩
  · rintro ⟨name, entry, deeper, rfl, listed, member⟩
    exact ⟨name, entry, listed, deeper, member, rfl⟩

theorem mem_leaves_iff {entries : Listing} (distinct : Distinct entries) {way : List FileName}
    {leaf : Entry} :
    (way, leaf) ∈ leaves entries ↔
      ∃ above name inner, way = above ++ [name] ∧ listing? above entries = some inner ∧
        find? name inner = some leaf ∧ leaf.isLeaf = true := by
  induction way generalizing entries with
  | nil => simp [mem_leaves]
  | cons name way ih =>
      constructor
      · intro member
        obtain ⟨_, entry, _, same, listed, below⟩ := mem_leaves.mp member
        obtain ⟨rfl, rfl⟩ := List.cons.inj same
        have found := (find?_eq_some_iff distinct.here).mpr listed
        by_cases single : entry.isLeaf = true
        · rw [Entry.leaves_of_isLeaf single, List.mem_singleton] at below
          obtain ⟨rfl, rfl⟩ := Prod.mk.inj below
          exact ⟨[], name, entries, rfl, rfl, found, single⟩
        · cases entry with
          | directory inner =>
              obtain ⟨above, last, deepest, rfl, reached, there⟩ :=
                (ih (distinct.inside listed)).mp below
              exact ⟨name :: above, last, deepest, rfl,
                listing?_cons_eq_some_iff.mpr ⟨inner, found, reached⟩, there⟩
          | file content => exact absurd rfl single
          | link target => exact absurd rfl single
      · rintro ⟨above, last, deepest, same, reached, there, single⟩
        cases above with
        | nil =>
            obtain ⟨rfl, rfl⟩ := List.cons.inj same
            obtain rfl := Option.some.inj reached
            have listed := (find?_eq_some_iff distinct.here).mp there
            refine mem_leaves.mpr ⟨name, leaf, [], rfl, listed, ?_⟩
            rw [Entry.leaves_of_isLeaf single]
            exact List.mem_singleton_self _
        | cons first above =>
            obtain ⟨rfl, rfl⟩ := List.cons.inj same
            obtain ⟨inner, found, later⟩ := listing?_cons_eq_some_iff.mp reached
            have listed := (find?_eq_some_iff distinct.here).mp found
            have below := (ih (distinct.inside listed)).mpr
              ⟨above, last, deepest, rfl, later, there, single⟩
            exact mem_leaves.mpr ⟨name, .directory inner, _, rfl, listed, below⟩

theorem mem_directories_iff {entries : Listing} (distinct : Distinct entries)
    {way : List FileName} :
    way ∈ (Entry.directory entries).directories ↔ ∃ inner, listing? way entries = some inner := by
  rw [Entry.directories, List.mem_cons]
  induction way generalizing entries with
  | nil => simp [listing?]
  | cons name way ih =>
      rw [mem_directories]
      constructor
      · rintro (empty | ⟨_, entry, _, same, listed, below⟩)
        · cases empty
        · obtain ⟨rfl, rfl⟩ := List.cons.inj same
          cases entry with
          | directory next =>
              have deeper := List.mem_cons.mp below
              obtain ⟨inner, reached⟩ := (ih (distinct.inside listed)).mp deeper
              have found := (find?_eq_some_iff distinct.here).mpr listed
              exact ⟨inner, listing?_cons_eq_some_iff.mpr ⟨next, found, reached⟩⟩
          | file content => cases below
          | link target => cases below
      · rintro ⟨inner, reached⟩
        obtain ⟨next, found, later⟩ := listing?_cons_eq_some_iff.mp reached
        have listed := (find?_eq_some_iff distinct.here).mp found
        have deeper := (ih (distinct.inside listed)).mpr ⟨inner, later⟩
        exact .inr ⟨name, .directory next, way, rfl, listed, List.mem_cons.mpr deeper⟩

theorem Everywhere.of_mem_leaves {holds : FileName → Prop} {entries : Listing}
    (everywhere : Everywhere (fun names => ∀ name ∈ names, holds name) entries)
    {way : List FileName} {leaf : Entry} (member : (way, leaf) ∈ leaves entries) :
    ∀ name ∈ way, holds name := by
  induction way generalizing entries with
  | nil => simp
  | cons name way ih =>
      obtain ⟨_, entry, _, same, listed, below⟩ := mem_leaves.mp member
      obtain ⟨rfl, rfl⟩ := List.cons.inj same
      have here := everywhere.here name (mem_names listed)
      rw [List.forall_mem_cons]
      refine ⟨here, ?_⟩
      cases entry with
      | directory inner => exact ih (everywhere.inside listed) below
      | file content =>
          obtain ⟨rfl, -⟩ := Prod.mk.inj (List.mem_singleton.mp below)
          simp
      | link target =>
          obtain ⟨rfl, -⟩ := Prod.mk.inj (List.mem_singleton.mp below)
          simp

-- The same tree, listed in another order: neighbours change places, in any directory.
inductive Relisted : Listing → Listing → Prop
  | refl (entries : Listing) : Relisted entries entries
  | swap (first second : FileName × Entry) (rest : Listing) :
      Relisted (first :: second :: rest) (second :: first :: rest)
  | cons (first : FileName × Entry) {rest others : Listing} :
      Relisted rest others → Relisted (first :: rest) (first :: others)
  | inside (name : FileName) {inner other : Listing} (rest : Listing) :
      Relisted inner other →
        Relisted ((name, .directory inner) :: rest) ((name, .directory other) :: rest)
  | trans {first second third : Listing} :
      Relisted first second → Relisted second third → Relisted first third

namespace Relisted

theorem symm {entries others : Listing} (relisted : Relisted entries others) :
    Relisted others entries := by
  induction relisted with
  | refl entries => exact .refl entries
  | swap first second rest => exact .swap second first rest
  | cons first _ ih => exact .cons first ih
  | inside name rest _ ih => exact .inside name rest ih
  | trans _ _ first second => exact .trans second first

theorem of_perm {entries others : Listing} (perm : entries.Perm others) :
    Relisted entries others := by
  induction perm with
  | nil => exact .refl []
  | cons first _ ih => exact .cons first ih
  | swap first second rest => exact .swap second first rest
  | trans _ _ first second => exact .trans first second

theorem names_perm {entries others : Listing} (relisted : Relisted entries others) :
    (names entries).Perm (names others) := by
  induction relisted with
  | refl entries => exact .refl _
  | swap first second rest => exact .swap _ _ _
  | cons first _ ih => exact .cons _ ih
  | inside name rest _ ih => exact .refl _
  | trans _ _ first second => exact first.trans second

theorem leaves_perm {entries others : Listing} (relisted : Relisted entries others) :
    (leaves entries).Perm (leaves others) := by
  induction relisted with
  | refl entries => exact .refl _
  | swap first second rest =>
      simp only [leaves]
      exact List.perm_append_comm_assoc _ _ _
  | cons first _ ih =>
      simp only [leaves]
      exact ih.append_left _
  | inside name rest _ ih =>
      simp only [leaves, Entry.leaves]
      exact (ih.map _).append_right _
  | trans _ _ first second => exact first.trans second

end Relisted

end Listing

inductive Entry.Relisted : Entry → Entry → Prop
  | refl (entry : Entry) : Relisted entry entry
  | directory {inner other : Listing} :
      Listing.Relisted inner other → Relisted (.directory inner) (.directory other)

theorem Entry.Relisted.trans {first second third : Entry} (former : Relisted first second)
    (latter : Relisted second third) : Relisted first third := by
  cases former with
  | refl => exact latter
  | directory former =>
      cases latter with
      | refl => exact .directory former
      | directory latter => exact .directory (former.trans latter)

namespace Listing.Relisted

theorem exists_mem {entries others : Listing} (relisted : Relisted entries others)
    {name : FileName} {entry : Entry} (member : (name, entry) ∈ entries) :
    ∃ other, (name, other) ∈ others ∧ entry.Relisted other := by
  induction relisted generalizing entry with
  | refl entries => exact ⟨entry, member, .refl entry⟩
  | swap first second rest =>
      refine ⟨entry, ?_, .refl entry⟩
      exact (List.Perm.swap second first rest).mem_iff.mp member
  | cons first _ ih =>
      rcases List.mem_cons.mp member with rfl | later
      · exact ⟨entry, List.mem_cons_self, .refl entry⟩
      · obtain ⟨other, there, same⟩ := ih later
        exact ⟨other, List.mem_cons_of_mem first there, same⟩
  | @inside directory inner other rest relisted ih =>
      rcases List.mem_cons.mp member with same | later
      · obtain ⟨rfl, rfl⟩ := Prod.mk.inj same
        exact ⟨.directory other, List.mem_cons_self, .directory relisted⟩
      · exact ⟨entry, List.mem_cons_of_mem _ later, .refl entry⟩
  | trans _ _ former latter =>
      obtain ⟨middle, there, first⟩ := former member
      obtain ⟨last, found, second⟩ := latter there
      exact ⟨last, found, first.trans second⟩

theorem everywhere {holds : List FileName → Prop}
    (respects : ∀ some others : List FileName, some.Perm others → holds some → holds others)
    {entries others : Listing} (relisted : Relisted entries others)
    (before : Everywhere holds entries) : Everywhere holds others := by
  induction before generalizing others with
  | intro here inside ih =>
      refine .intro (respects _ _ relisted.names_perm here) ?_
      intro name inner member
      obtain ⟨entry, listed, same⟩ := relisted.symm.exists_mem member
      cases same with
      | refl => exact inside name inner listed
      | directory inner => exact ih name _ listed inner.symm

theorem distinct {entries others : Listing} (relisted : Relisted entries others)
    (before : Distinct entries) : Distinct others :=
  relisted.everywhere (fun _ _ perm unique => perm.nodup_iff.mp unique) before

theorem find?_eq_some {entries others : Listing} (relisted : Relisted entries others)
    (unique : Distinct entries) {name : FileName} {entry : Entry}
    (found : find? name entries = some entry) :
    ∃ other, find? name others = some other ∧ entry.Relisted other := by
  obtain ⟨other, there, same⟩ := relisted.exists_mem ((find?_eq_some_iff unique.here).mp found)
  exact ⟨other, (find?_eq_some_iff (relisted.distinct unique).here).mpr there, same⟩

theorem find?_eq_none {entries others : Listing} (relisted : Relisted entries others)
    {name : FileName} (absent : find? name entries = none) : find? name others = none := by
  rw [find?_eq_none_iff] at absent ⊢
  rwa [← relisted.names_perm.mem_iff]

theorem listing?_eq_some {entries others : Listing} (relisted : Relisted entries others)
    (unique : Distinct entries) {way : List FileName} {inner : Listing}
    (reached : listing? way entries = some inner) :
    ∃ other, listing? way others = some other ∧ Relisted inner other := by
  induction way generalizing entries others with
  | nil =>
      obtain rfl := Option.some.inj reached
      exact ⟨others, rfl, relisted⟩
  | cons name way ih =>
      obtain ⟨middle, found, later⟩ := listing?_cons_eq_some_iff.mp reached
      obtain ⟨other, there, same⟩ := relisted.find?_eq_some unique found
      have inside := unique.inside ((find?_eq_some_iff unique.here).mp found)
      cases same with
      | refl => exact ⟨inner, listing?_cons_eq_some_iff.mpr ⟨middle, there, later⟩, .refl inner⟩
      | directory relisted =>
          obtain ⟨last, reached, same⟩ := ih relisted inside later
          exact ⟨last, listing?_cons_eq_some_iff.mpr ⟨_, there, reached⟩, same⟩

theorem listing?_eq_none {entries others : Listing} (relisted : Relisted entries others)
    (unique : Distinct entries) {way : List FileName} (lost : listing? way entries = none) :
    listing? way others = none := by
  cases reached : listing? way others with
  | none => rfl
  | some inner =>
      obtain ⟨other, there, -⟩ := relisted.symm.listing?_eq_some (relisted.distinct unique) reached
      rw [lost] at there
      cases there

end Listing.Relisted

namespace Listing

def insertByName (entry : FileName × Entry) : Listing → Listing
  | [] => [entry]
  | first :: rest =>
      if first.1 < entry.1 then first :: insertByName entry rest else entry :: first :: rest

end Listing

mutual

def Entry.arranged : Entry → Entry
  | .directory entries => .directory (Listing.arranged entries)
  | .file content => .file content
  | .link target => .link target

def Listing.arranged : List (FileName × Entry) → List (FileName × Entry)
  | [] => []
  | (name, entry) :: rest =>
      Listing.insertByName (name, Entry.arranged entry) (Listing.arranged rest)

end

namespace Listing

theorem insertByName_perm (entry : FileName × Entry) (entries : Listing) :
    (insertByName entry entries).Perm (entry :: entries) := by
  induction entries with
  | nil => exact .refl _
  | cons first rest ih =>
      rw [insertByName]
      split
      · exact (ih.cons first).trans (.swap entry first rest)
      · exact .refl _

theorem relisted_arranged (entries : Listing) : Relisted entries (arranged entries) := by
  induction entries using tree_induction with
  | nil => exact .refl []
  | file name content rest ih =>
      exact (ih.cons (name, .file content)).trans (.of_perm (insertByName_perm _ _).symm)
  | link name target rest ih =>
      exact (ih.cons (name, .link target)).trans (.of_perm (insertByName_perm _ _).symm)
  | directory name inner rest inside ih =>
      exact ((ih.cons (name, .directory inner)).trans (.inside name _ inside)).trans
        (.of_perm (insertByName_perm _ _).symm)

def Arranged (entries : Listing) : Prop := Everywhere (List.Pairwise (· < ·)) entries

theorem pairwise_insertByName {entry : FileName × Entry} {entries : Listing}
    (sorted : (names entries).Pairwise (· < ·)) (fresh : entry.1 ∉ names entries) :
    (names (insertByName entry entries)).Pairwise (· < ·) := by
  induction entries with
  | nil => simp [insertByName]
  | cons first rest ih =>
      obtain ⟨least, later⟩ := List.pairwise_cons.mp sorted
      rw [names_cons, List.mem_cons, not_or] at fresh
      rw [insertByName]
      split
      next before =>
        rw [names_cons, List.pairwise_cons]
        refine ⟨?_, ih later fresh.2⟩
        intro name member
        have among : name ∈ names (entry :: rest) :=
          ((insertByName_perm entry rest).map Prod.fst).mem_iff.mp member
        rcases List.mem_cons.mp among with rfl | other
        · exact before
        · exact least name other
      next after =>
        have smaller : entry.1 < first.1 := by
          by_contra larger
          exact fresh.1 (List.le_antisymm after larger)
        rw [names_cons, List.pairwise_cons]
        refine ⟨?_, sorted⟩
        intro name member
        rcases List.mem_cons.mp member with rfl | other
        · exact smaller
        · exact List.lt_trans smaller (least name other)

theorem arranged_insertByName {entry : FileName × Entry} {entries : Listing}
    (sorted : Arranged entries) (fresh : entry.1 ∉ names entries)
    (inside : ∀ inner, entry.2 = .directory inner → Arranged inner) :
    Arranged (insertByName entry entries) := by
  refine .intro (pairwise_insertByName sorted.here fresh) ?_
  intro name inner member
  rcases List.mem_cons.mp ((insertByName_perm entry entries).mem_iff.mp member) with same | later
  · exact inside inner (by rw [← same])
  · exact sorted.inside later

theorem arranged_arranged {entries : Listing} (distinct : Distinct entries) :
    Arranged (arranged entries) := by
  have fresh {name : FileName} {entry : Entry} {rest : Listing}
      (distinct : Distinct ((name, entry) :: rest)) : name ∉ names (arranged rest) := by
    rw [← (relisted_arranged rest).names_perm.mem_iff]
    exact (List.nodup_cons.mp distinct.here).1
  induction entries using tree_induction with
  | nil => exact .intro (by simp [arranged]) (by simp [arranged])
  | file name content rest ih =>
      exact arranged_insertByName (ih distinct.tail) (fresh distinct) (by simp [Entry.arranged])
  | link name target rest ih =>
      exact arranged_insertByName (ih distinct.tail) (fresh distinct) (by simp [Entry.arranged])
  | directory name inner rest inside ih =>
      refine arranged_insertByName (ih distinct.tail) (fresh distinct) ?_
      rintro _ same
      obtain rfl := Entry.directory.inj same
      exact inside (distinct.inside List.mem_cons_self)

theorem Arranged.tail {first : FileName × Entry} {rest : Listing}
    (sorted : Arranged (first :: rest)) : Arranged rest :=
  .intro (List.pairwise_cons.mp sorted.here).2 fun _ _ member =>
    sorted.inside (List.mem_cons_of_mem first member)

theorem Arranged.leaves_increasing {entries : Listing} (sorted : Arranged entries) :
    (leaves entries).Pairwise fun first second => first.1 < second.1 := by
  have prepend {name : FileName} {entry : Entry} {rest : Listing}
      (sorted : Arranged ((name, entry) :: rest))
      (here : entry.leaves.Pairwise fun first second => first.1 < second.1)
      (later : (leaves rest).Pairwise fun first second => first.1 < second.1) :
      (leaves ((name, entry) :: rest)).Pairwise fun first second => first.1 < second.1 := by
    rw [leaves, List.pairwise_append]
    refine ⟨?_, later, ?_⟩
    · rw [List.pairwise_map]
      exact here.imp fun before => List.cons_lt_cons_iff.mpr (.inr ⟨rfl, before⟩)
    · rintro first among ⟨way, leaf⟩ member
      obtain ⟨deeper, -, rfl⟩ := List.mem_map.mp among
      obtain ⟨other, entry, below, rfl, listed, -⟩ := mem_leaves.mp member
      have least := (List.pairwise_cons.mp sorted.here).1 other (mem_names listed)
      exact List.cons_lt_cons_iff.mpr (.inl least)
  induction entries using tree_induction with
  | nil => simp [leaves]
  | file name content rest ih => exact prepend sorted (by simp [Entry.leaves]) (ih sorted.tail)
  | link name target rest ih => exact prepend sorted (by simp [Entry.leaves]) (ih sorted.tail)
  | directory name inner rest inside ih =>
      have here := inside (sorted.inside List.mem_cons_self)
      exact prepend sorted (by simpa [Entry.leaves] using here) (ih sorted.tail)

end Listing

end NodeFeed

import Mathlib.Algebra.GroupWithZero.Nat
import Mathlib.Data.List.Nodup
import Mathlib.Tactic.MkIffOfInductiveProp
import NodeFeed.File.Path
import NodeFeed.Proofs.Text.Utf8

set_option autoImplicit false

namespace NodeFeed

-- What a directory can call an entry.
@[mk_iff]
structure FileName.Proper (name : FileName) : Prop where
  nonempty : name ≠ []
  whole : Path.slash ∉ name
  notHere : name ≠ [Path.dot]
  notParent : name ≠ [Path.dot, Path.dot]

instance (name : FileName) : Decidable name.Proper :=
  decidable_of_iff' _ (FileName.proper_iff name)

namespace Path

def descend (root : Path) (way : List FileName) : Path := way.foldl child root

@[simp] theorem descend_nil (root : Path) : root.descend [] = root := rfl

@[simp] theorem descend_cons (root : Path) (name : FileName) (way : List FileName) :
    root.descend (name :: way) = (root.child name).descend way := rfl

theorem pieces_of_whole {name : List UInt8} (whole : slash ∉ name) : pieces name = [name] := by
  induction name with
  | nil => rfl
  | cons byte rest ih =>
      have apart : byte ≠ slash := fun same => whole (by simp [same])
      have later := ih fun member => whole (List.mem_cons_of_mem byte member)
      rw [pieces, if_neg apart, later]

theorem pieces_ne_nil (bytes : List UInt8) : pieces bytes ≠ [] := by
  cases bytes with
  | nil => simp [pieces]
  | cons byte rest =>
      rw [pieces]
      split
      · simp
      · split <;> simp

theorem pieces_append_slash (first second : List UInt8) :
    pieces (first ++ slash :: second) = pieces first ++ pieces second := by
  induction first with
  | nil => simp [pieces]
  | cons byte rest ih =>
      by_cases slashed : byte = slash
      · simp [pieces, slashed, ih]
      · rw [List.cons_append, pieces, if_neg slashed, ih, pieces, if_neg slashed]
        cases split : pieces rest with
        | nil => exact absurd split (pieces_ne_nil rest)
        | cons piece others => rfl

theorem componentOf_proper {name : FileName} (proper : name.Proper) :
    componentOf name = .name name := by
  simp [componentOf, proper.nonempty, proper.notHere, proper.notParent]

def leading (bytes : List UInt8) : List Component :=
  (if (bytes ++ [slash]).head? = some slash then [.root] else []) ++
    (pieces bytes).map componentOf

theorem leading_ne_nil (bytes : List UInt8) : leading bytes ≠ [] := by
  simp [leading, pieces_ne_nil]

theorem steps_append_slash (first second : List UInt8) :
    steps ⟨first ++ slash :: second⟩ = leading first ++ (pieces second).map componentOf := by
  have start : (first ++ slash :: second).head? = (first ++ [slash]).head? := by
    cases first <;> rfl
  simp only [steps, leading, start, pieces_append_slash]
  split <;> simp

theorem steps_eq_leading {bytes : List UInt8} (nonempty : bytes ≠ []) :
    steps ⟨bytes⟩ = leading bytes := by
  have start : (bytes ++ [slash]).head? = bytes.head? := by
    cases bytes with
    | nil => exact absurd rfl nonempty
    | cons byte rest => rfl
  simp only [steps, leading, start]
  split <;> simp

theorem components_eq (path : Path) (nonempty : path.bytes ≠ []) {begin : List Component}
    (some : begin ≠ []) (ending : List Component) (followed : path.steps = begin ++ ending) :
    path.components =
      begin.head some :: begin.tail.filter (fun component => component ≠ .here) ++
        ending.filter (fun component => component ≠ .here) := by
  cases begin with
  | nil => exact absurd rfl some
  | cons first rest => simp [components, nonempty, followed]

theorem components_child {directory : Path} (nonempty : directory.bytes ≠ []) {name : FileName}
    (proper : name.Proper) :
    (directory.child name).components = directory.components ++ [.name name] := by
  have last : (pieces name).map componentOf = [.name name] := by
    rw [pieces_of_whole proper.whole, List.map_singleton, componentOf_proper proper]
  obtain ⟨bytes⟩ := directory
  obtain rfl | ⟨before, byte, rfl⟩ := List.eq_nil_or_concat' bytes
  · exact absurd rfl nonempty
  · by_cases slashed : byte = slash
    · -- After a slash at the end stands an empty piece, which is no component.
      subst slashed
      have below : child ⟨before ++ [slash]⟩ name = ⟨before ++ slash :: name⟩ := by
        simp [child]
      have upper := components_eq ⟨before ++ [slash]⟩ nonempty (leading_ne_nil before) _
        (steps_append_slash before [])
      have lower := components_eq ⟨before ++ slash :: name⟩ (by simp) (leading_ne_nil before) _
        (steps_append_slash before name)
      rw [below, upper, lower, last]
      simp [pieces, componentOf]
    · have below : child ⟨before ++ [byte]⟩ name = ⟨before ++ [byte] ++ slash :: name⟩ := by
        simp [child, slashed]
      have whole := steps_eq_leading nonempty
      have upper := components_eq ⟨before ++ [byte]⟩ nonempty (leading_ne_nil _) []
        (by rw [whole, List.append_nil])
      have lower := components_eq ⟨before ++ [byte] ++ slash :: name⟩ (by simp)
        (leading_ne_nil _) _ (steps_append_slash (before ++ [byte]) name)
      rw [below, upper, lower, last]
      simp

theorem child_ne_nil (directory : Path) {name : FileName} (proper : name.Proper) :
    (directory.child name).bytes ≠ [] := by
  have nonempty := proper.nonempty
  unfold child
  split
  · exact nonempty
  · split <;> simp [nonempty]

theorem length_child (directory : Path) (name : FileName) :
    directory.bytes.length + name.length ≤ (directory.child name).bytes.length := by
  unfold child
  split
  next empty =>
    have nothing : directory.bytes = [] := List.getLast?_eq_none_iff.mp empty
    simp [nothing]
  next => split <;> simp

theorem length_descend (root : Path) (way : List FileName) :
    root.bytes.length + (way.map List.length).sum ≤ (root.descend way).bytes.length := by
  induction way generalizing root with
  | nil => simp
  | cons name way ih =>
      have first := length_child root name
      have later := ih (root.child name)
      rw [List.map_cons, List.sum_cons, descend_cons]
      omega

theorem fileName?_child {directory : Path} (nonempty : directory.bytes ≠ []) {name : FileName}
    (proper : name.Proper) : (directory.child name).fileName? = some name := by
  simp [fileName?, components_child nonempty proper]

theorem descend_ne_nil {root : Path} (nonempty : root.bytes ≠ []) {way : List FileName}
    (proper : ∀ name ∈ way, name.Proper) : (root.descend way).bytes ≠ [] := by
  induction way generalizing root with
  | nil => exact nonempty
  | cons name way ih =>
      exact ih (child_ne_nil root (proper name (by simp)))
        fun other member => proper other (List.mem_cons_of_mem name member)

theorem descend_concat (root : Path) (way : List FileName) (name : FileName) :
    root.descend (way ++ [name]) = (root.descend way).child name := by
  simp [descend]

theorem key_descend {root : Path} (nonempty : root.bytes ≠ []) {way : List FileName}
    (proper : ∀ name ∈ way, name.Proper) :
    (root.descend way).key = root.key ++ way.map (fun name => 3 :: name) := by
  induction way generalizing root with
  | nil => simp
  | cons name way ih =>
      have here := proper name (by simp)
      have later := ih (child_ne_nil root here)
        fun other member => proper other (List.mem_cons_of_mem name member)
      rw [descend_cons, later]
      simp [key, components_child nonempty here, rank]

theorem key_descend_lt {root : Path} (nonempty : root.bytes ≠ []) {way other : List FileName}
    (proper : ∀ name ∈ way, name.Proper) (decent : ∀ name ∈ other, name.Proper)
    (before : way < other) : (root.descend way).key < (root.descend other).key := by
  rw [key_descend nonempty proper, key_descend nonempty decent]
  refine List.append_left_lt (List.map_lt ?_ before)
  intro first second less
  exact List.cons_lt_cons_iff.mpr (.inr ⟨rfl, less⟩)

theorem pairwise_mergeSort (found : List Path) :
    (found.mergeSort le).Pairwise fun first second => first.key ≤ second.key := by
  have sorts := List.pairwise_mergeSort
    (fun first second third (before : le first second = true) after =>
      decide_eq_true (List.le_trans (of_decide_eq_true before) (of_decide_eq_true after)))
    (fun first second => by simpa [le] using List.le_total first.key second.key) found
  exact sorts.imp fun before => of_decide_eq_true before

theorem mergeSort_eq {found sorted : List Path} (perm : found.Perm sorted)
    (increasing : sorted.Pairwise fun first second => first.key < second.key) :
    found.mergeSort le = sorted := by
  have unique : (sorted.map key).Nodup := by
    rw [List.Nodup, List.pairwise_map]
    refine increasing.imp ?_
    intro first second before same
    rw [same] at before
    exact List.lt_irrefl _ before
  refine List.Perm.eq_of_pairwise ?_ (pairwise_mergeSort found)
    (increasing.imp List.le_of_lt) ((List.mergeSort_perm _ _).trans perm)
  intro first second here there before after
  have member := perm.mem_iff.mp ((List.mergeSort_perm _ _).mem_iff.mp here)
  exact List.inj_on_of_nodup_map unique member there (List.le_antisymm before after)

theorem splitAtLastDot_eq_none_iff {name : FileName} :
    splitAtLastDot name = none ↔ dot ∉ name := by
  induction name with
  | nil => simp [splitAtLastDot]
  | cons byte rest ih =>
      cases split : splitAtLastDot rest with
      | some parts =>
          have later : dot ∈ rest := by
            by_contra absent
            rw [ih.mpr absent] at split
            cases split
          simp [splitAtLastDot, split, later]
      | none =>
          have absent := ih.mp split
          by_cases dotted : byte = dot <;> simp [splitAtLastDot, split, absent, dotted, eq_comm]

theorem splitAtLastDot_eq_some_iff {name stem extension : FileName} :
    splitAtLastDot name = some (stem, extension) ↔
      name = stem ++ dot :: extension ∧ dot ∉ extension := by
  constructor
  · intro split
    induction name generalizing stem with
    | nil => simp [splitAtLastDot] at split
    | cons byte rest ih =>
        rw [splitAtLastDot] at split
        split at split
        next before after later =>
          obtain ⟨rfl, rfl⟩ := Prod.mk.inj (Option.some.inj split)
          obtain ⟨same, absent⟩ := ih later
          exact ⟨by rw [same, List.cons_append], absent⟩
        next none =>
          split at split
          next dotted =>
            obtain ⟨rfl, rfl⟩ := Prod.mk.inj (Option.some.inj split)
            exact ⟨by rw [dotted, List.nil_append], splitAtLastDot_eq_none_iff.mp none⟩
          next => cases split
  · rintro ⟨rfl, absent⟩
    have last := splitAtLastDot_eq_none_iff.mpr absent
    induction stem with
    | nil => simp [splitAtLastDot, last]
    | cons byte stem ih => simp [splitAtLastDot, ih]

theorem extensionOf_eq_some_iff {name extension : FileName} :
    extensionOf name = some extension ↔
      ∃ stem, stem ≠ [] ∧ name = stem ++ dot :: extension ∧ dot ∉ extension := by
  unfold extensionOf
  constructor
  · intro named
    split at named
    next byte stem after split =>
      obtain rfl := Option.some.inj named
      exact ⟨byte :: stem, by simp, splitAtLastDot_eq_some_iff.mp split⟩
    next => cases named
  · rintro ⟨stem, nonempty, named⟩
    rw [splitAtLastDot_eq_some_iff.mpr named]
    cases stem with
    | nil => exact absurd rfl nonempty
    | cons byte stem => rfl

def Extended (extension : String) (name : FileName) : Prop :=
  ∃ stem, stem ≠ [] ∧ name = stem ++ dot :: Text.Utf8.encode extension.toList ∧
    '.' ∉ extension.toList

theorem hasExtension_iff (path : Path) (extension : String) :
    path.hasExtension extension = true ↔
      ∃ name, path.fileName? = some name ∧ Extended extension name := by
  have dotted := Text.Utf8.mem_encode_iff (show dot.toNat ≤ 0x7f by decide) (c := '.') rfl
    extension.toList
  simp only [hasExtension, beq_iff_eq, Option.bind_eq_some_iff, extensionOf_eq_some_iff,
    Text.Utf8.decode?_eq_some_iff, Extended, ← dotted]
  constructor
  · rintro ⟨_, ⟨name, named, stem, nonempty, split, absent⟩, rfl⟩
    exact ⟨name, named, stem, nonempty, split, absent⟩
  · rintro ⟨name, named, stem, nonempty, split, absent⟩
    exact ⟨_, ⟨name, named, stem, nonempty, split, absent⟩, rfl⟩

end Path

end NodeFeed

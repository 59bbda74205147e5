import NodeFeed.Diagnostic

set_option autoImplicit false

namespace NodeFeed

def firstKnown (texts : List String) : String :=
  (texts.find? (· ≠ "")).getD ""

theorem firstKnown_cons (text : String) (texts : List String) :
    firstKnown (text :: texts) = if text = "" then firstKnown texts else text := by
  by_cases unknown : text = "" <;> simp [firstKnown, unknown]

theorem firstKnown_append (first second : List String) :
    firstKnown (first ++ second) = firstKnown (firstKnown first :: second) := by
  induction first with
  | nil => rfl
  | cons text others ih =>
      rw [List.cons_append, firstKnown_cons, ih, firstKnown_cons text others]
      split
      next => rfl
      next known => rw [firstKnown_cons, if_neg known]

theorem firstKnown_singleton (text : String) : firstKnown [text] = text := by
  rw [firstKnown_cons]
  split
  next unknown => exact unknown.symm
  next => rfl

theorem firstKnown_eq_empty_iff (texts : List String) :
    firstKnown texts = "" ↔ ∀ text ∈ texts, text = "" := by
  induction texts with
  | nil => simp [firstKnown]
  | cons text others ih => by_cases unknown : text = "" <;> simp [firstKnown_cons, unknown, ih]

theorem firstKnown_concat_of_mem {text : String} {texts : List String} (among : text ∈ texts) :
    firstKnown (texts ++ [text]) = firstKnown texts := by
  rw [firstKnown_append, firstKnown_cons, firstKnown_singleton]
  split
  next unknown => rw [unknown, (firstKnown_eq_empty_iff texts).mp unknown text among]
  next => rfl

namespace Diagnostic

def attachAll (diagnostic : Diagnostic) (sources : List SourceText) : Diagnostic :=
  sources.foldl attach diagnostic

theorem attach_eq (diagnostic : Diagnostic) (source : SourceText) :
    diagnostic.attach source =
      { diagnostic with
        file := firstKnown [diagnostic.file, source.name]
        sourceLine := firstKnown (diagnostic.sourceLine :: (diagnostic.lineIn source).toList) } := by
  have line : firstKnown (diagnostic.lineIn source).toList = (diagnostic.lineIn source).getD "" := by
    cases diagnostic.lineIn source with
    | none => rfl
    | some line => exact firstKnown_singleton line
  simp only [attach, firstKnown_cons diagnostic.file, firstKnown_cons diagnostic.sourceLine, line,
    firstKnown_singleton]

-- The two fields are filled apart from each other. The span that picks the line stays as it is.
theorem attachAll_eq (diagnostic : Diagnostic) (sources : List SourceText) :
    diagnostic.attachAll sources =
      { diagnostic with
        file := firstKnown (diagnostic.file :: sources.map SourceText.name)
        sourceLine :=
          firstKnown (diagnostic.sourceLine :: sources.filterMap diagnostic.lineIn) } := by
  induction sources generalizing diagnostic with
  | nil => simp [attachAll, firstKnown_singleton]
  | cons source rest ih =>
      have listed : (source :: rest).filterMap diagnostic.lineIn =
          (diagnostic.lineIn source).toList ++ rest.filterMap diagnostic.lineIn := by
        rw [List.filterMap_cons]
        cases diagnostic.lineIn source <;> rfl
      have later := ih (diagnostic.attach source)
      have lines : (diagnostic.attach source).lineIn = diagnostic.lineIn := rfl
      rw [lines, attach_eq, ← firstKnown_append, ← firstKnown_append] at later
      rw [listed, attachAll, List.foldl_cons, attach_eq]
      exact later

theorem attach_of_mem (diagnostic : Diagnostic) {sources : List SourceText} {source : SourceText}
    (among : source ∈ sources) :
    (diagnostic.attachAll sources).attach source = diagnostic.attachAll sources := by
  have again : (diagnostic.attachAll sources).attach source =
      diagnostic.attachAll (sources ++ [source]) := by
    simp [attachAll]
  have file : firstKnown (diagnostic.file :: (sources ++ [source]).map SourceText.name) =
      firstKnown (diagnostic.file :: sources.map SourceText.name) := by
    have named : source.name ∈ diagnostic.file :: sources.map SourceText.name :=
      List.mem_cons_of_mem _ (List.mem_map_of_mem among)
    simpa using firstKnown_concat_of_mem named
  have line : firstKnown
        (diagnostic.sourceLine :: (sources ++ [source]).filterMap diagnostic.lineIn) =
      firstKnown (diagnostic.sourceLine :: sources.filterMap diagnostic.lineIn) := by
    cases found : diagnostic.lineIn source with
    | none => simp [found]
    | some line =>
        have listed : line ∈ diagnostic.sourceLine :: sources.filterMap diagnostic.lineIn :=
          List.mem_cons_of_mem _ (List.mem_filterMap.mpr ⟨source, among, found⟩)
        simpa [found] using firstKnown_concat_of_mem listed
  rw [again, attachAll_eq, attachAll_eq, file, line]

theorem attachments_fill (diagnostic : Diagnostic) (sources : List SourceText) :
    diagnostic.attachAll sources =
        { diagnostic with
          file :=
            if diagnostic.file = "" then firstKnown (sources.map SourceText.name)
            else diagnostic.file
          sourceLine :=
            if diagnostic.sourceLine = "" then
              match diagnostic.span with
              | some span => firstKnown (sources.filterMap (·.line span.startLine))
              | none => ""
            else diagnostic.sourceLine } ∧
      (∀ source, (diagnostic.attach source).attach source = diagnostic.attach source) ∧
      ((diagnostic.attachAll sources).file ≠ "" → (diagnostic.attachAll sources).sourceLine ≠ "" →
        ∀ later, (diagnostic.attachAll sources).attachAll later = diagnostic.attachAll sources) := by
  refine ⟨?_, ?_, ?_⟩
  · have offered : firstKnown (sources.filterMap diagnostic.lineIn) =
        match diagnostic.span with
        | some span => firstKnown (sources.filterMap (·.line span.startLine))
        | none => "" := by
      unfold lineIn
      cases diagnostic.span with
      | some span => rfl
      | none => simp [firstKnown]
    rw [attachAll_eq, firstKnown_cons, firstKnown_cons, offered]
  · intro source
    exact diagnostic.attach_of_mem (List.mem_singleton_self source)
  · intro file line later
    rw [attachAll_eq (diagnostic.attachAll sources), firstKnown_cons, if_neg file,
      firstKnown_cons, if_neg line]

end Diagnostic

end NodeFeed

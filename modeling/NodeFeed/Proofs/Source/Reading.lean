import Mathlib.Data.List.DropRight
import NodeFeed.Proofs.Source.Lookup
import NodeFeed.Proofs.Text.Utf8
import NodeFeed.Source.Load

set_option autoImplicit false

namespace NodeFeed

open SourceText Text

theorem cutLines_more {bytes : List UInt8} (whole : 0x0a ∉ bytes) (rest : List UInt8) :
    cutLines (bytes ++ 0x0a :: rest) = (bytes ++ [0x0a]) :: cutLines rest := by
  induction bytes with
  | nil => simp [cutLines]
  | cons byte bytes ih =>
      have apart : byte ≠ 0x0a := fun same => whole (by simp [same])
      have later := ih fun member => whole (List.mem_cons_of_mem byte member)
      rw [List.cons_append, cutLines, if_neg apart, later]
      rfl

theorem cutLines_last {bytes : List UInt8} (whole : 0x0a ∉ bytes) :
    cutLines bytes = if bytes = [] then [] else [bytes] := by
  induction bytes with
  | nil => rfl
  | cons byte bytes ih =>
      have apart : byte ≠ 0x0a := fun same => whole (by simp [same])
      have later := ih fun member => whole (List.mem_cons_of_mem byte member)
      rw [cutLines, if_neg apart, later]
      by_cases empty : bytes = [] <;> simp [empty]

theorem flatten_cutLines (bytes : List UInt8) : (cutLines bytes).flatten = bytes := by
  induction bytes with
  | nil => rfl
  | cons byte bytes ih =>
      rw [cutLines]
      split
      · simp [ih]
      · split
        next none =>
          rw [none] at ih
          simp [← ih]
        next line others some =>
          rw [some] at ih
          simp [← ih]

theorem newline_not_mem_encode {piece : List Char} (whole : '\n' ∉ piece) :
    0x0a ∉ Utf8.encode piece := fun member =>
  whole ((Utf8.mem_encode_iff (show (0x0a : UInt8).toNat ≤ 0x7f by decide) rfl piece).mp member)

theorem encode_newline (rest : List Char) :
    Utf8.encode ('\n' :: rest) = 0x0a :: Utf8.encode rest := rfl

def stripReturn (piece : List Char) : List Char :=
  if piece.getLast? = some '\r' then piece.dropLast else piece

theorem stripTerminator_more (piece : List Char) :
    stripTerminator (piece ++ ['\n']) = stripReturn piece := by
  obtain rfl | ⟨before, c, rfl⟩ := List.eq_nil_or_concat' piece
  · rfl
  · by_cases returns : c = '\r'
    · simp [stripTerminator, stripReturn, returns]
    · simp [stripTerminator, stripReturn, returns]

theorem stripTerminator_last {piece : List Char} (whole : '\n' ∉ piece) :
    stripTerminator piece = piece := by
  obtain rfl | ⟨before, c, rfl⟩ := List.eq_nil_or_concat' piece
  · rfl
  · have apart : c ≠ '\n' := fun same => whole (by simp [same])
    simp [stripTerminator, apart]

-- The lines that are read from a text's pieces: all but the last piece had a newline after them,
-- and an empty last piece is no line.
def linesRead : List (List Char) → List (List Char)
  | [] => []
  | [last] => if last = [] then [] else [last]
  | piece :: next :: rest => stripReturn piece :: linesRead (next :: rest)

theorem linesRead_cons (piece : List Char) {rest : List (List Char)} (more : rest ≠ []) :
    linesRead (piece :: rest) = stripReturn piece :: linesRead rest := by
  cases rest with
  | nil => exact absurd rfl more
  | cons next others => rfl

theorem decodeLines?_encode (text : List Char) :
    decodeLines? (Utf8.encode text) =
      some ((linesRead (pieces text)).map String.ofList) := by
  induction text using lines_induction with
  | last piece whole =>
      have decoded := Utf8.decode?_encode piece
      have stripped := stripTerminator_last whole
      rw [decodeLines?, cutLines_last (newline_not_mem_encode whole), pieces_last whole]
      by_cases empty : piece = []
      · simp [empty, Utf8.encode, linesRead]
      · have written : Utf8.encode piece ≠ [] := fun none => empty (Utf8.encode_inj none)
        simp [empty, written, decoded, stripped, linesRead]
  | more piece rest whole ih =>
      have decoded := Utf8.decode?_encode (piece ++ ['\n'])
      rw [Utf8.encode_append, encode_newline] at decoded
      rw [decodeLines?] at ih
      rw [Utf8.encode_append, encode_newline, decodeLines?,
        cutLines_more (newline_not_mem_encode whole), pieces_more whole,
        linesRead_cons piece (pieces_ne_nil rest), List.mapM_cons, ih]
      simp only [Utf8.encode, List.flatMap_nil] at decoded ⊢
      simp [decoded, stripTerminator_more]

theorem encoded_of_mapM {lines : List (List UInt8)} {strip : List Char → String}
    {read : List String}
    (decoded : lines.mapM (fun line => (Utf8.decode? line).map strip) = some read) :
    ∃ text, lines.flatten = Utf8.encode text := by
  induction lines generalizing read with
  | nil => exact ⟨[], rfl⟩
  | cons line others ih =>
      simp only [List.mapM_cons, Option.bind_eq_bind, Option.bind_eq_some_iff,
        Option.map_eq_some_iff, Utf8.decode?_eq_some_iff] at decoded
      obtain ⟨_, ⟨first, rfl, _⟩, later, rest, _⟩ := decoded
      obtain ⟨text, spelled⟩ := ih rest
      exact ⟨first ++ text, by rw [List.flatten_cons, spelled, Utf8.encode_append]⟩

theorem decodeLines?_eq_some_iff {content : List UInt8} {lines : List String} :
    decodeLines? content = some lines ↔
      ∃ text, content = Utf8.encode text ∧
        lines = (linesRead (pieces text)).map String.ofList := by
  constructor
  · intro decoded
    obtain ⟨text, spelled⟩ := encoded_of_mapM decoded
    rw [flatten_cutLines] at spelled
    rw [spelled, decodeLines?_encode] at decoded
    exact ⟨text, spelled, (Option.some.inj decoded).symm⟩
  · rintro ⟨text, rfl, rfl⟩
    exact decodeLines?_encode text

theorem decodeLines?_eq_none_iff {content : List UInt8} :
    decodeLines? content = none ↔ ∀ text, content ≠ Utf8.encode text := by
  constructor
  · rintro refused text rfl
    rw [decodeLines?_encode] at refused
    cases refused
  · intro none
    cases decoded : decodeLines? content with
    | none => rfl
    | some lines =>
        obtain ⟨text, spelled, -⟩ := decodeLines?_eq_some_iff.mp decoded
        exact absurd spelled (none text)

theorem FileSystem.opened_eq_ok_iff {files : FileSystem} {path : Path} {file : OpenFile} :
    files.opened path = .ok file ↔
      files.resolve path = .ok (.file (.ok file)) ∨
        (∃ entries, files.resolve path = .ok (.directory entries)) ∧
          file = ⟨[], some .isDirectory⟩ := by
  unfold opened
  cases resolved : files.resolve path with
  | error fault => simp
  | ok entry =>
      cases entry with
      | file opening => simp
      | link target => simp
      | directory entries => simp [eq_comm]

theorem OpenFile.lines_of_fault (bytes : List UInt8) (fault : Fault) :
    ∃ met, (OpenFile.mk bytes (some fault)).lines = .error met := by
  cases decoded : decodeLines? (OpenFile.mk bytes (some fault)).ended with
  | none => exact ⟨.invalidText, by simp [lines, decoded]⟩
  | some read => exact ⟨fault, by simp [lines, decoded]⟩

-- Everything the two readers can do with a path. A fault met while reading is the one place where
-- they go different ways.
theorem FileSystem.read_cases (files : FileSystem) (path : Path) :
    (∃ fault, files.opened path = .error fault ∧
      files.loadSource path = .error (.ofFault path fault) ∧
      files.readLines path = .error (.ofFault path fault)) ∨
    (∃ bytes fault met, files.opened path = .ok ⟨bytes, some fault⟩ ∧
      files.loadSource path = .error (.ofFault path fault) ∧
      files.readLines path = .error (.unreadable path met)) ∨
    (∃ bytes, files.opened path = .ok ⟨bytes, none⟩ ∧ (∀ text, bytes ≠ Utf8.encode text) ∧
      files.loadSource path = .error (.unreadable path .invalidText) ∧
      files.readLines path = .error (.unreadable path .invalidText)) ∨
    (∃ text, files.opened path = .ok ⟨Utf8.encode text, none⟩ ∧
      files.loadSource path = .ok ⟨path.display, String.ofList text⟩ ∧
      files.readLines path = .ok ((linesRead (pieces text)).map String.ofList)) := by
  cases opened : files.opened path with
  | error fault =>
      have read : files.read path = .error fault := by simp [FileSystem.read, opened, Except.bind]
      exact .inl ⟨fault, rfl, by simp [loadSource, read], by simp [readLines, opened]⟩
  | ok file =>
      have read : files.read path = file.all := by simp [FileSystem.read, opened, Except.bind]
      obtain ⟨bytes, fault⟩ := file
      cases fault with
      | some fault =>
          obtain ⟨met, broken⟩ := OpenFile.lines_of_fault bytes fault
          exact .inr (.inl ⟨bytes, fault, met, rfl, by simp [loadSource, read, OpenFile.all],
            by simp [readLines, opened, broken]⟩)
      | none =>
          cases decoded : Utf8.decode? bytes with
          | none =>
              have unspelled : ∀ text, bytes ≠ Utf8.encode text := by
                rintro text rfl
                rw [Utf8.decode?_encode] at decoded
                cases decoded
              have refused := decodeLines?_eq_none_iff.mpr unspelled
              exact .inr (.inr (.inl ⟨bytes, rfl, unspelled,
                by simp [loadSource, read, OpenFile.all, decoded],
                by simp [readLines, opened, OpenFile.lines, OpenFile.ended, refused]⟩))
          | some text =>
              obtain rfl := Utf8.decode?_eq_some_iff.mp decoded
              have lines := decodeLines?_encode text
              exact .inr (.inr (.inr ⟨text, rfl,
                by simp [loadSource, read, OpenFile.all, decoded],
                by simp [readLines, opened, OpenFile.lines, OpenFile.ended, lines]⟩))

theorem length_linesRead {parts : List (List Char)} (some : parts ≠ []) :
    (linesRead parts).length =
      if parts.getLast? = Option.some [] then parts.length - 1 else parts.length := by
  induction parts with
  | nil => exact absurd rfl some
  | cons piece rest ih =>
      by_cases last : rest = []
      · by_cases empty : piece = [] <;> simp [last, linesRead, empty]
      · have count : 0 < rest.length := List.length_pos_iff.mpr last
        rw [linesRead_cons piece last, List.length_cons, ih last, List.getLast?_cons_of_ne_nil last]
        rw [List.length_cons]
        split <;> omega

theorem getElem?_linesRead {parts : List (List Char)} {index : Nat} {line : List Char}
    (read : (linesRead parts)[index]? = some line) :
    ∃ piece, parts[index]? = some piece ∧
      line = if index + 1 < parts.length then stripReturn piece else piece := by
  induction parts generalizing index with
  | nil => simp [linesRead] at read
  | cons piece rest ih =>
      by_cases last : rest = []
      · subst last
        by_cases empty : piece = []
        · simp [linesRead, empty] at read
        · cases index with
          | zero => simpa [linesRead, empty, eq_comm] using read
          | succ index => simp [linesRead, empty] at read
      · rw [linesRead_cons piece last] at read
        have count : 0 < rest.length := List.length_pos_iff.mpr last
        cases index with
        | zero =>
            refine ⟨piece, rfl, ?_⟩
            simpa [count, eq_comm] using read
        | succ index =>
            obtain ⟨found, there, same⟩ := ih read
            exact ⟨found, there, by simpa using same⟩

theorem getLast?_pieces (text : List Char) :
    (pieces text).getLast? = some [] ↔ text = [] ∨ text.getLast? = some '\n' := by
  induction text using lines_induction with
  | last piece whole =>
      have unended : piece.getLast? ≠ some '\n' := fun last =>
        whole (List.mem_of_getLast? last)
      simp [pieces_last whole, unended]
  | more piece rest whole ih =>
      rw [pieces_more whole, List.getLast?_cons_of_ne_nil (pieces_ne_nil rest), ih]
      cases rest with
      | nil => simp
      | cons c others => simp [List.getLast?_cons]

theorem concat_suffix_concat_iff (ends before : List Char) (c last : Char) :
    ends ++ [c] <:+ before ++ [last] ↔ last = c ∧ ends <:+ before := by
  rw [List.suffix_concat_iff]
  constructor
  · rintro (none | ⟨rest, same, within⟩)
    · simp at none
    · obtain ⟨rfl, once⟩ := List.append_inj' same rfl
      exact ⟨(List.singleton_inj.mp once).symm, within⟩
  · rintro ⟨rfl, within⟩
    exact .inr ⟨ends, rfl, within⟩

theorem rdropWhile_stripReturn (piece : List Char) :
    (stripReturn piece).rdropWhile (· == '\r') = piece.rdropWhile (· == '\r') := by
  obtain rfl | ⟨before, c, rfl⟩ := List.eq_nil_or_concat' piece
  · rfl
  · by_cases returns : c = '\r'
    · simp [stripReturn, returns]
    · simp [stripReturn, returns]

theorem rdropWhile_eq_self (piece : List Char) :
    piece.rdropWhile (· == '\r') = piece ↔ ¬['\r'] <:+ piece := by
  obtain rfl | ⟨before, c, rfl⟩ := List.eq_nil_or_concat' piece
  · simp
  · have ends := concat_suffix_concat_iff [] before '\r' c
    rw [List.nil_append] at ends
    rw [List.rdropWhile_eq_self_iff, ends]
    simp

theorem rdropWhile_eq_stripReturn (piece : List Char) :
    piece.rdropWhile (· == '\r') = stripReturn piece ↔ ¬['\r', '\r'] <:+ piece := by
  obtain rfl | ⟨before, c, rfl⟩ := List.eq_nil_or_concat' piece
  · simp [stripReturn]
  · have ends := concat_suffix_concat_iff ['\r'] before '\r' c
    rw [List.singleton_append] at ends
    rw [ends]
    by_cases returns : c = '\r'
    · have kept := rdropWhile_eq_self before
      simpa [stripReturn, returns] using kept
    · simp [stripReturn, returns]

-- The lines of a source as a reader gets them one by one. It keeps the carriage returns that the
-- source's own lines lose, but for one before a newline.
structure SourceText.ReadAs (source : SourceText) (lines : List String) : Prop where
  count : lines.length =
    if source.text = "" ∨ source.text.toList.getLast? = some '\n' then source.lineCount - 1
    else source.lineCount
  line : ∀ index read, lines[index]? = some read → ∀ number : UInt32, number.toNat = index + 1 →
    source.line number = some (String.ofList (read.toList.rdropWhile (· == '\r'))) ∧
      ∃ piece, (source.text.toList.splitOn '\n')[index]? = some piece ∧
        (source.line number = some read ↔
          if index + 1 < (source.text.toList.splitOn '\n').length then ¬['\r', '\r'] <:+ piece
          else ¬['\r'] <:+ piece)

theorem readAs_linesRead (name : String) (text : List Char) :
    SourceText.ReadAs ⟨name, String.ofList text⟩
      ((linesRead (pieces text)).map String.ofList) where
  count := by
    rw [List.length_map, length_linesRead (pieces_ne_nil text), lineCount_eq]
    simp [getLast?_pieces, String.toList_ofList]
  line index read found number same := by
    rw [List.getElem?_map] at found
    obtain ⟨line, listed, rfl⟩ := Option.map_eq_some_iff.mp found
    obtain ⟨piece, there, rfl⟩ := getElem?_linesRead listed
    have counted : number ≠ 0 := by
      rintro rfl
      simp at same
    have shown : SourceText.line ⟨name, String.ofList text⟩ number =
        some (String.ofList (piece.rdropWhile (· == '\r'))) := by
      rw [line_eq, if_neg counted, same, Nat.add_sub_cancel, String.toList_ofList, there]
      rfl
    have split : (String.ofList text).toList.splitOn '\n' = pieces text := by
      rw [String.toList_ofList]
      rfl
    rw [shown, split]
    refine ⟨?_, piece, there, ?_⟩
    · by_cases more : index + 1 < (pieces text).length
      · simp [more, rdropWhile_stripReturn]
      · simp [more]
    · rw [Option.some.injEq, String.ofList_inj]
      by_cases more : index + 1 < (pieces text).length
      · rw [if_pos more, if_pos more, rdropWhile_eq_stripReturn]
      · rw [if_neg more, if_neg more, rdropWhile_eq_self]

theorem SourceError.path_ofFault (path : Path) (fault : Fault) :
    (SourceError.ofFault path fault).path = path := by
  cases fault <;> rfl

theorem SourceError.ofFault_eq_notFound_iff {path : Path} {fault : Fault} :
    SourceError.ofFault path fault = .notFound path ↔ fault = .missing := by
  cases fault <;> simp [SourceError.ofFault]

theorem readers_agree_iff (files : FileSystem) (path : Path) :
    (∀ bytes, files.resolve path = .ok (.ofBytes bytes) →
      ((∃ source, files.loadSource path = .ok source) ↔ ∃ text, bytes = Utf8.encode text) ∧
      ((∃ lines, files.readLines path = .ok lines) ↔ ∃ text, bytes = Utf8.encode text)) ∧
    match files.loadSource path, files.readLines path with
    | .error first, .error second =>
        first.path = path ∧ second.path = path ∧
          ((first = .notFound path ↔ second = .notFound path) ↔
            ∀ bytes, files.resolve path ≠ .ok (.file (.ok ⟨bytes, some .missing⟩)))
    | .ok source, .ok lines => source.ReadAs lines
    | _, _ => False := by
  have whole (bytes) : files.resolve path = .ok (.ofBytes bytes) ↔
      files.opened path = .ok ⟨bytes, none⟩ := by
    simp [FileSystem.opened_eq_ok_iff, Entry.ofBytes]
  have broken (bytes) : files.resolve path = .ok (.file (.ok ⟨bytes, some .missing⟩)) ↔
      files.opened path = .ok ⟨bytes, some .missing⟩ := by
    simp [FileSystem.opened_eq_ok_iff]
  simp only [ne_eq, whole, broken]
  rcases files.read_cases path with ⟨fault, opened, loaded, lines⟩ |
    ⟨bytes, fault, met, opened, loaded, lines⟩ | ⟨bytes, opened, unspelled, loaded, lines⟩ |
    ⟨text, opened, loaded, lines⟩
  · simp [opened, loaded, lines, SourceError.path_ofFault]
  · have named : (SourceError.unreadable path met).path = path := rfl
    simp [opened, loaded, lines, named, SourceError.path_ofFault,
      SourceError.ofFault_eq_notFound_iff]
  · simp [opened, loaded, lines, unspelled, SourceError.path]
  · have agree := readAs_linesRead path.display text
    simpa [opened, loaded, lines] using agree

def trafficClass : Path := .ofString "/sys/class/net/lo/queues/tx-0/traffic_class"

theorem readers_differ :
    FileSystem.fresh.loadSource trafficClass = .error (.notFound trafficClass) ∧
      FileSystem.fresh.readLines trafficClass = .error (.unreadable trafficClass .missing) := by
  decide +kernel

end NodeFeed

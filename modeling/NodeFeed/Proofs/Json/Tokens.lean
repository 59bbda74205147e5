import Mathlib.Tactic.SplitIfs
import NodeFeed.Json.Reader
import NodeFeed.Json.Text

set_option autoImplicit false

namespace NodeFeed.Json

section Strings

theorem skipBlanks_cons (c : Char) (rest : List Char) (visible : isBlank c = false) :
    skipBlanks (c :: rest) = c :: rest := by
  simp [skipBlanks, visible]

theorem hexDigit?_digitChar (n : Nat) (small : n < 16) :
    hexDigit? (Nat.digitChar n) = some n := by
  revert n
  decide

theorem unit?_control (n : Nat) (small : n < 0x20) :
    unit? '0' '0' (Nat.digitChar (n / 16)) (Nat.digitChar (n % 16)) = some n := by
  have high := hexDigit?_digitChar (n / 16) (by omega)
  have low := hexDigit?_digitChar (n % 16) (by omega)
  have zero : hexDigit? '0' = some 0 := by decide
  simp only [unit?, zero, high, low, Option.bind_some, Option.map_some]
  congr 1
  omega

theorem takeString_control (scrutiny : Scrutiny) (c : Char) (rest : List Char)
    (control : c.toNat < 0x20) :
    takeString scrutiny
        ('\\' :: 'u' :: '0' :: '0' :: Nat.digitChar (c.toNat / 16) ::
          Nat.digitChar (c.toNat % 16) :: rest) =
      (takeString scrutiny rest).map fun (text, rest) => (c :: text, rest) := by
  have high : isHighSurrogate c.toNat = false := by
    simp only [isHighSurrogate]
    grind
  have low : isLowSurrogate c.toNat = false := by
    simp only [isLowSurrogate]
    grind
  rw [takeString]
  simp [unit?_control c.toNat control, high, low, Char.ofNat_toNat]

theorem takeString_plain (scrutiny : Scrutiny) (c : Char) (rest : List Char)
    (notQuote : c ≠ '"') (notBackslash : c ≠ '\\') (visible : ¬c.toNat < 0x20) :
    takeString scrutiny (c :: rest) =
      (takeString scrutiny rest).map fun (text, rest) => (c :: text, rest) := by
  rw [takeString]
  · simp [notBackslash, visible]
  · exact notQuote
  · intro _ _ _ _ _ same
    exact absurd same notBackslash
  · intro _ _ same
    exact absurd same notBackslash

theorem takeString_escaped (scrutiny : Scrutiny) (letter c : Char) (rest : List Char)
    (notUnit : letter ≠ 'u') (escaped : escapedChar? letter = some c) :
    takeString scrutiny ('\\' :: letter :: rest) =
      (takeString scrutiny rest).map fun (text, rest) => (c :: text, rest) := by
  rw [takeString, escaped]
  intro _ _ _ _ _ same
  exact absurd same notUnit

theorem takeString_escapeChar (scrutiny : Scrutiny) (c : Char) (rest : List Char) :
    takeString scrutiny (escapeChar c ++ rest) =
      (takeString scrutiny rest).map fun (text, rest) => (c :: text, rest) := by
  unfold escapeChar
  split_ifs with quote backslash backspace formFeed newline carriageReturn tab control
  · subst quote; exact takeString_escaped scrutiny '"' '"' rest (by decide) rfl
  · subst backslash; exact takeString_escaped scrutiny '\\' '\\' rest (by decide) rfl
  · subst backspace; exact takeString_escaped scrutiny 'b' '\x08' rest (by decide) rfl
  · subst formFeed; exact takeString_escaped scrutiny 'f' '\x0c' rest (by decide) rfl
  · subst newline; exact takeString_escaped scrutiny 'n' '\n' rest (by decide) rfl
  · subst carriageReturn; exact takeString_escaped scrutiny 'r' '\r' rest (by decide) rfl
  · subst tab; exact takeString_escaped scrutiny 't' '\t' rest (by decide) rfl
  · exact takeString_control scrutiny c rest control
  · exact takeString_plain scrutiny c rest quote backslash control

theorem takeString_escaped_text (scrutiny : Scrutiny) (text rest : List Char) :
    takeString scrutiny (text.flatMap escapeChar ++ '"' :: rest) = some (text, rest) := by
  induction text with
  | nil => rfl
  | cons c text ih =>
      rw [List.flatMap_cons, List.append_assoc, takeString_escapeChar, ih]
      rfl

theorem takeKey_writeString (scrutiny : Scrutiny) (key : String) (rest : List Char) :
    takeKey scrutiny (writeString key ++ ':' :: rest) = some (key, rest) := by
  have text := takeString_escaped_text scrutiny key.toList (':' :: rest)
  simp only [takeKey, writeString, List.cons_append, List.append_assoc, List.nil_append]
  rw [skipBlanks_cons '"' _ (by decide)]
  simp only [text, Option.bind_some, skipBlanks_cons ':' _ (by decide), String.ofList_toList]

end Strings

section Numbers

-- What may follow a number: nothing that a number could go on with.
def Ends (rest : List Char) : Prop :=
  ∀ c ∈ rest.head?, c.isDigit = false ∧ c ≠ '.' ∧ c ≠ 'e' ∧ c ≠ 'E'

theorem takeDigits_append (digits rest : List Char) (nonempty : digits ≠ [])
    (all : ∀ c ∈ digits, c.isDigit = true) (ends : Ends rest) :
    takeDigits (digits ++ rest) = some (digits, rest) := by
  have stop : rest.takeWhile Char.isDigit = [] ∧ rest.dropWhile Char.isDigit = rest := by
    cases rest with
    | nil => exact ⟨rfl, rfl⟩
    | cons c rest =>
        have other := (ends c rfl).1
        simp [other]
  simp only [takeDigits, List.takeWhile_append_of_pos all, List.dropWhile_append_of_pos all, stop,
    List.append_nil]

theorem isDigit_toDigits {n : Nat} {c : Char} (member : c ∈ Nat.toDigits 10 n) :
    c.isDigit = true :=
  Nat.isDigit_of_mem_toDigits (by decide) (by decide) member

theorem head?_toDigits (n : Nat) (positive : 0 < n) : (Nat.toDigits 10 n).head? ≠ some '0' := by
  induction n using Nat.strongRecOn with
  | ind n ih =>
      by_cases small : n < 10
      · rw [Nat.toDigits_of_lt_base small]
        have digits : ∀ n < 10, 0 < n → [Nat.digitChar n].head? ≠ some '0' := by decide
        exact digits n small positive
      · rw [Nat.toDigits_of_base_le (by decide) (by omega), List.head?_append]
        have shorter := ih (n / 10) (by omega) (by omega)
        cases first : (Nat.toDigits 10 (n / 10)).head? with
        | none => simp at first
        | some c => simpa [first] using shorter

theorem takeWhole_toDigits (n : Nat) (rest : List Char) (ends : Ends rest) :
    takeWhole (Nat.toDigits 10 n ++ rest) = some (Nat.toDigits 10 n, rest) := by
  have digits := takeDigits_append (Nat.toDigits 10 n) rest Nat.toDigits_ne_nil
    (fun _ => isDigit_toDigits) ends
  -- Zero is a single digit, and no other number starts with a zero.
  have single (more : List Char) : Nat.toDigits 10 n = '0' :: more → more = [] := by
    intro leading
    by_cases positive : 0 < n
    · exact absurd (by rw [leading]; rfl) (head?_toDigits n positive)
    · have zero : n = 0 := by omega
      rw [zero, Nat.toDigits_zero] at leading
      exact (List.cons.inj leading).2.symm
  unfold takeWhole
  rw [digits]
  split
  next second more other same =>
    have leading : Nat.toDigits 10 n = '0' :: second :: more := by
      simp only [Option.some.injEq, Prod.mk.injEq] at same
      exact same.1
    exact absurd (single _ leading) (by simp)
  next => rfl

theorem takeFraction_of_ends (rest : List Char) (ends : Ends rest) :
    takeFraction rest = some ([], rest) := by
  unfold takeFraction
  split
  next rest => exact absurd rfl (ends '.' rfl).2.1
  next => rfl

theorem takeExponent_of_ends (rest : List Char) (ends : Ends rest) :
    takeExponent rest = some (none, rest) := by
  unfold takeExponent
  split
  next rest => exact absurd rfl (ends 'e' rfl).2.2.1
  next rest => exact absurd rfl (ends 'E' rfl).2.2.2
  next => rfl

def Literal.ofNat (n : Nat) : Literal := ⟨false, Nat.toDigits 10 n, [], none⟩

theorem takeNumber_toDigits (n : Nat) (rest : List Char) (ends : Ends rest) :
    takeNumber (Nat.toDigits 10 n ++ rest) = some (.ofNat n, rest) := by
  have magnitude : takeMagnitude false (Nat.toDigits 10 n ++ rest) = some (.ofNat n, rest) := by
    simp only [takeMagnitude, takeWhole_toDigits n rest ends, Option.bind_some,
      takeFraction_of_ends rest ends, takeExponent_of_ends rest ends, Option.map_some]
    rfl
  unfold takeNumber
  split
  next rest signed =>
    cases whole : Nat.toDigits 10 n with
    | nil => exact absurd whole Nat.toDigits_ne_nil
    | cons c more =>
        rw [whole, List.cons_append] at signed
        have minus : c.isDigit = true := isDigit_toDigits (by rw [whole]; simp)
        rw [(List.cons.inj signed).1] at minus
        exact absurd minus (by decide)
  next => exact magnitude

theorem toNumber_ofNat (n : Nat) : (Literal.ofNat n).toNumber = .ofNat n := by
  simp [Literal.ofNat, Literal.toNumber, Number.ofNat]

theorem appendDigits_of_lt (digits : List Char) (n : Nat)
    (fits : Nat.ofDigitChars 10 digits n < UInt64.size) :
    appendDigits n digits = (Nat.ofDigitChars 10 digits n, []) := by
  induction digits generalizing n with
  | nil => rfl
  | cons digit rest ih =>
      rw [Nat.ofDigitChars_cons] at fits ⊢
      have grows : 10 * n + (digit.toNat - '0'.toNat) ≤
          Nat.ofDigitChars 10 rest (10 * n + (digit.toNat - '0'.toNat)) := by
        rw [Nat.ofDigitChars_eq_ofDigitChars_zero]
        have power : 0 < 10 ^ rest.length := Nat.pow_pos (by decide)
        exact Nat.le_add_right_of_le (Nat.le_mul_of_pos_left _ power)
      have appended : appendDigit? n digit = some (10 * n + (digit.toNat - '0'.toNat)) := by
        unfold appendDigit?
        exact if_pos (Nat.lt_of_le_of_lt grows fits)
      simp only [appendDigits, appended]
      exact ih _ fits

theorem leading_ofNat (n : Nat) (fits : n < UInt64.size) :
    (Literal.ofNat n).leading = (n, 0) := by
  have digits := appendDigits_of_lt (Nat.toDigits 10 n) 0 (by simpa using fits)
  simp [Literal.leading, Literal.ofNat, digits, appendDigits]

theorem isFinite_ofNat (n : Nat) (fits : n < UInt64.size) : (Literal.ofNat n).isFinite = true := by
  rw [Literal.isFinite, leading_ofNat n fits]
  exact if_pos (.inr (Int.le_refl 0))

end Numbers

end NodeFeed.Json

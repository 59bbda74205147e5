import Mathlib.Tactic.SplitIfs
import NodeFeed.Text.Quoted

set_option autoImplicit false

namespace NodeFeed.Text

section Digits

variable {base : Nat}

theorem digitChar_inj :
    ∀ first < 16, ∀ second < 16, Nat.digitChar first = Nat.digitChar second → first = second := by
  decide

theorem toDigits_inj (lower : 1 < base) (upper : base ≤ 16) {first second : Nat}
    (same : Nat.toDigits base first = Nat.toDigits base second) : first = second := by
  induction first using Nat.strongRecOn generalizing second with
  | ind first ih =>
      rw [Nat.toDigits_eq_if lower, Nat.toDigits_eq_if lower (n := second)] at same
      split_ifs at same with short single single
      · exact digitChar_inj first (by omega) second (by omega) (List.singleton_inj.mp same)
      · simp [List.singleton_eq_append_iff] at same
      · simp [List.append_eq_singleton_iff] at same
      · obtain ⟨leading, last⟩ := List.append_inj' same rfl
        have quotient := ih (first / base) (Nat.div_lt_self (by omega) lower) leading
        have below (n : Nat) : n % base < 16 :=
          Nat.lt_of_lt_of_le (Nat.mod_lt n (by omega)) upper
        have remainder := digitChar_inj (first % base) (below first) (second % base) (below second)
          (List.singleton_inj.mp last)
        rw [← Nat.div_add_mod first base, quotient, remainder, Nat.div_add_mod]

theorem forall_mem_toDigits {p : Char → Prop} (digits : ∀ digit < 16, p (Nat.digitChar digit))
    (lower : 1 < base) (upper : base ≤ 16) (n : Nat) : ∀ c ∈ Nat.toDigits base n, p c := by
  induction n using Nat.strongRecOn with
  | ind n ih =>
      rw [Nat.toDigits_eq_if lower]
      split_ifs with single
      · simpa using digits n (by omega)
      · have last : n % base < base := Nat.mod_lt n (by omega)
        have leading := ih (n / base) (Nat.div_lt_self (by omega) lower)
        simpa [or_imp, forall_and] using ⟨leading, digits (n % base) (by omega)⟩

theorem not_mem_toDigits {c : Char} (other : ∀ digit < 16, Nat.digitChar digit ≠ c)
    (lower : 1 < base) (upper : base ≤ 16) (n : Nat) : c ∉ Nat.toDigits base n := by
  have apart : ∀ d ∈ Nat.toDigits base n, d ≠ c := forall_mem_toDigits other lower upper n
  exact fun among => apart c among rfl

end Digits

theorem separated_inj {separator : Char} {first second rest other : List Char}
    (absent : separator ∉ first) (missing : separator ∉ second)
    (same : first ++ separator :: rest = second ++ separator :: other) :
    first = second ∧ rest = other := by
  rcases List.append_eq_append_iff.mp same with ⟨more, rfl, later⟩ | ⟨more, rfl, later⟩
  all_goals
    cases more with
    | nil => simpa [eq_comm] using later
    | cons c more =>
        obtain rfl : separator = c := (List.cons.inj later).1
        simp at absent missing

def Shown (c : Char) : Prop := 0x20 ≤ c.toNat ∧ c.toNat ≠ 0x7f

instance (c : Char) : Decidable (Shown c) := inferInstanceAs (Decidable (_ ∧ _))

def letters : List (Char × Char) :=
  [('\x00', '0'), ('\t', 't'), ('\r', 'r'), ('\n', 'n'), ('"', '"'), ('\\', '\\')]

theorem letters_inj :
    ∀ first ∈ letters, ∀ second ∈ letters, first.2 = second.2 → first.1 = second.1 := by
  decide

theorem shown_letters : ∀ pair ∈ letters, Shown pair.2 ∧ pair.2 ≠ 'u' := by
  decide

inductive Written (c : Char) : List Char → Prop
  | raw (shown : Shown c) (notQuote : c ≠ '"') (notBackslash : c ≠ '\\') : Written c [c]
  | letter {name : Char} (listed : (c, name) ∈ letters) : Written c ['\\', name]
  | codePoint : Written c (codePointEscape c)

theorem written_quoteChar (c : Char) : Written c (quoteChar c) := by
  unfold quoteChar
  split_ifs with null tab carriageReturn newline quote backslash hidden
  · subst null; exact .letter (by decide)
  · subst tab; exact .letter (by decide)
  · subst carriageReturn; exact .letter (by decide)
  · subst newline; exact .letter (by decide)
  · subst quote; exact .letter (by decide)
  · subst backslash; exact .letter (by decide)
  · exact .codePoint
  · have shown : Shown c := by
      simp only [isHidden, Bool.or_eq_true, decide_eq_true_eq, not_or] at hidden
      exact ⟨by omega, hidden.1.1.2⟩
    exact .raw shown quote backslash

namespace Written

variable {c : Char} {text : List Char}

theorem ne_nil (written : Written c text) : text ≠ [] := by
  cases written <;> simp [codePointEscape]

theorem shown (written : Written c text) : ∀ d ∈ text, Shown d := by
  cases written with
  | raw shown _ _ => simpa using shown
  | letter listed =>
      have name := (shown_letters _ listed).1
      have backslash : Shown '\\' := by decide
      simpa using ⟨backslash, name⟩
  | codePoint =>
      have digits : ∀ d ∈ Nat.toDigits 16 c.toNat, Shown d :=
        forall_mem_toDigits (by decide) (by decide) (by decide) c.toNat
      have marks : Shown '\\' ∧ Shown 'u' ∧ Shown '\x7b' ∧ Shown '\x7d' := by decide
      simpa [codePointEscape, or_imp, forall_and, marks] using digits

-- No form begins another, so that a written character can be cut off in one way only.
theorem append_inj {d : Char} {second rest other : List Char} (written : Written c text)
    (next : Written d second) (same : text ++ rest = second ++ other) : c = d ∧ rest = other := by
  cases written with
  | raw _ _ notBackslash =>
      cases next with
      | raw => simpa using same
      | letter => exact absurd (List.cons.inj same).1 notBackslash
      | codePoint => exact absurd (List.cons.inj same).1 notBackslash
  | letter listed =>
      have name := (shown_letters _ listed).2
      cases next with
      | raw _ _ notBackslash => exact absurd (List.cons.inj same).1.symm notBackslash
      | letter also =>
          simp only [List.cons_append, List.nil_append, List.cons.injEq, true_and] at same
          exact ⟨letters_inj _ listed _ also same.1, same.2⟩
      | codePoint => exact absurd (List.cons.inj (List.cons.inj same).2).1 name
  | codePoint =>
      cases next with
      | raw _ _ notBackslash => exact absurd (List.cons.inj same).1.symm notBackslash
      | letter listed =>
          exact absurd (List.cons.inj (List.cons.inj same).2).1.symm (shown_letters _ listed).2
      | codePoint =>
          have brace (n : Nat) : '\x7d' ∉ Nat.toDigits 16 n :=
            not_mem_toDigits (by decide) (by decide) (by decide) n
          simp only [codePointEscape, List.cons_append, List.append_assoc, List.nil_append,
            List.cons.injEq, true_and] at same
          obtain ⟨number, later⟩ := separated_inj (brace c.toNat) (brace d.toNat) same
          exact ⟨Char.toNat_inj.mp (toDigits_inj (by decide) (by decide) number), later⟩

end Written

theorem flatMap_quoteChar_inj {first second : List Char}
    (same : first.flatMap quoteChar = second.flatMap quoteChar) : first = second := by
  induction first generalizing second with
  | nil =>
      cases second with
      | nil => rfl
      | cons d second => simp [(written_quoteChar d).ne_nil] at same
  | cons c first ih =>
      cases second with
      | nil => simp [(written_quoteChar c).ne_nil] at same
      | cons d second =>
          rw [List.flatMap_cons, List.flatMap_cons] at same
          obtain ⟨rfl, later⟩ := (written_quoteChar c).append_inj (written_quoteChar d) same
          rw [ih later]

theorem toList_quote (text : String) :
    (quote text).toList = '"' :: text.toList.flatMap quoteChar ++ ['"'] := by
  rw [quote, String.toList_ofList]

theorem quote_injective : Function.Injective quote := by
  intro first second same
  have lists := congrArg String.toList same
  rw [toList_quote, toList_quote, List.append_left_inj, List.cons.injEq] at lists
  exact String.toList_inj.mp (flatMap_quoteChar_inj lists.2)

-- Whether the character after `text` is escaped: there is a backslash before it, and that one is
-- not escaped itself.
def escapesNext (text : List Char) : Bool :=
  text.foldl (fun escaped c => c == '\\' && !escaped) false

structure Settled (text : List Char) : Prop where
  inside : ∀ before after, text = before ++ '"' :: after → escapesNext before = true
  after : escapesNext text = false

namespace Settled

theorem escapesNext_append {first : List Char} (settled : Settled first) (second : List Char) :
    escapesNext (first ++ second) = escapesNext second := by
  have ended := settled.after
  unfold escapesNext at ended ⊢
  rw [List.foldl_append, ended]

theorem append {first second : List Char} (settled : Settled first) (later : Settled second) :
    Settled (first ++ second) := by
  constructor
  · intro before after split
    rcases List.append_eq_append_iff.mp split with ⟨more, rfl, within⟩ | ⟨more, rfl, within⟩
    · rw [settled.escapesNext_append]
      exact later.inside more after within
    · cases more with
      | nil => exact absurd (later.inside [] after within.symm) (by decide)
      | cons c more =>
          obtain rfl : '"' = c := (List.cons.inj within).1
          exact settled.inside before more rfl
  · rw [settled.escapesNext_append]
    exact later.after

end Settled

theorem settled_nil : Settled [] := ⟨by simp, rfl⟩

theorem settled_plain {c : Char} (notQuote : c ≠ '"') (notBackslash : c ≠ '\\') :
    Settled [c] := by
  constructor
  · intro before after split
    rcases List.singleton_eq_append_iff.mp split with ⟨-, same⟩ | ⟨-, same⟩
    · exact absurd (List.cons.inj same).1.symm notQuote
    · cases same
  · simp [escapesNext, notBackslash]

theorem settled_escape (c : Char) : Settled ['\\', c] := by
  constructor
  · intro before after split
    match before with
    | [] => simp at split
    | [first] =>
        obtain rfl : '\\' = first := (List.cons.inj split).1
        rfl
    | _ :: _ :: _ => simp at split
  · simp [escapesNext]

theorem settled_flatMap {α : Type} {write : α → List Char} {elements : List α}
    (settled : ∀ element ∈ elements, Settled (write element)) :
    Settled (elements.flatMap write) := by
  induction elements with
  | nil => exact settled_nil
  | cons element rest ih =>
      rw [List.forall_mem_cons] at settled
      exact settled.1.append (ih settled.2)

theorem Written.settled {c : Char} {text : List Char} (written : Written c text) :
    Settled text := by
  cases written with
  | raw _ notQuote notBackslash => exact settled_plain notQuote notBackslash
  | letter => exact settled_escape _
  | codePoint =>
      have digits : ∀ d ∈ Nat.toDigits 16 c.toNat, d ≠ '"' ∧ d ≠ '\\' :=
        forall_mem_toDigits (by decide) (by decide) (by decide) c.toNat
      have number : Settled (Nat.toDigits 16 c.toNat) := by
        simpa using settled_flatMap fun d among =>
          settled_plain (digits d among).1 (digits d among).2
      have opening : Settled ['\x7b'] := settled_plain (by decide) (by decide)
      have closing : Settled ['\x7d'] := settled_plain (by decide) (by decide)
      exact (settled_escape 'u').append (opening.append (number.append closing))

theorem settled_quoted (text : String) : Settled (text.toList.flatMap quoteChar) :=
  settled_flatMap fun c _ => (written_quoteChar c).settled

theorem shown_quoted (text : String) : ∀ c ∈ (quote text).toList, Shown c := by
  have quoted : ∀ c ∈ text.toList.flatMap quoteChar, Shown c := by
    intro c among
    obtain ⟨origin, -, written⟩ := List.mem_flatMap.mp among
    exact (written_quoteChar origin).shown c written
  have mark : Shown '"' := by decide
  simpa [toList_quote, or_imp, forall_and, mark] using quoted

end NodeFeed.Text

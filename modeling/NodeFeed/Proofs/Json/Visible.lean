import NodeFeed.Proofs.Json.Tokens

set_option autoImplicit false

namespace NodeFeed.Json

def Visible (text : List Char) : Prop := ∀ c ∈ text, 0x20 ≤ c.toNat

@[simp] theorem visible_nil : Visible [] := by simp [Visible]

@[simp] theorem visible_cons (c : Char) (text : List Char) :
    Visible (c :: text) ↔ 0x20 ≤ c.toNat ∧ Visible text := by
  simp [Visible]

@[simp] theorem visible_append (first second : List Char) :
    Visible (first ++ second) ↔ Visible first ∧ Visible second := by
  simp [Visible, or_imp, forall_and]

theorem visible_toDigits (n : Nat) : Visible (Nat.toDigits 10 n) := by
  intro c member
  have digit := isDigit_toDigits member
  simp only [Char.isDigit, Bool.and_eq_true, decide_eq_true_eq] at digit
  have lower : 0x30 ≤ c.toNat := digit.1
  omega

theorem visible_digitChar (n : Nat) (small : n < 16) : 0x20 ≤ (Nat.digitChar n).toNat := by
  revert n
  decide

theorem visible_escapeChar (c : Char) : Visible (escapeChar c) := by
  unfold escapeChar
  split_ifs with quote backslash backspace formFeed newline carriageReturn tab control
  all_goals simp only [visible_cons, visible_nil, and_true]
  any_goals decide
  · have high := visible_digitChar (c.toNat / 16) (by omega)
    have low := visible_digitChar (c.toNat % 16) (by omega)
    exact ⟨by decide, by decide, by decide, by decide, high, low⟩
  · omega

theorem visible_writeString (text : String) : Visible (writeString text) := by
  have content : Visible (text.toList.flatMap escapeChar) := by
    intro c member
    obtain ⟨origin, -, escaped⟩ := List.mem_flatMap.mp member
    exact visible_escapeChar origin c escaped
  simp [writeString, content]

theorem visible_sign (negative : Bool) : Visible (if negative then ['-'] else []) := by
  cases negative <;> simp

theorem visible_number (number : Number) : Visible number.write := by
  obtain ⟨negative, significand, exponent⟩ := number
  have sign := visible_sign negative
  have digits := visible_toDigits significand
  cases exponent with
  | none => simp [Number.write, sign, digits]
  | some exponent =>
      have power := visible_toDigits exponent.natAbs
      have below := visible_sign (decide (exponent < 0))
      simp only [decide_eq_true_eq] at below
      simp [Number.write, sign, digits, below, power]

mutual

theorem visible_write (value : Value) : Visible value.write := by
  cases value with
  | null => simp [Value.write]
  | bool value => cases value <;> simp [Value.write]
  | number value => exact visible_number value
  | string value => exact visible_writeString value
  | array elements =>
      cases elements with
      | nil => simp [Value.write]
      | cons first others =>
          simp [Value.write, visible_write first, visible_writeElements others]
  | object members =>
      cases members with
      | nil => simp [Value.write]
      | cons first others =>
          simp [Value.write, visible_writeString first.1, visible_write first.2,
            visible_writeMembers others]

theorem visible_writeElements (elements : List Value) : Visible (writeElements elements) := by
  cases elements with
  | nil => simp [writeElements]
  | cons first others =>
      simp [writeElements, visible_write first, visible_writeElements others]

theorem visible_writeMembers (members : List (String × Value)) :
    Visible (writeMembers members) := by
  cases members with
  | nil => simp [writeMembers]
  | cons first others =>
      simp [writeMembers, visible_writeString first.1, visible_write first.2,
        visible_writeMembers others]

end

end NodeFeed.Json

import NodeFeed.Json.Value

set_option autoImplicit false

namespace NodeFeed.Json

structure Literal where
  negative : Bool
  whole : List Char
  fraction : List Char
  power : Option Int

/-- A double keeps 53 binary digits, and a half goes to the even neighbour. -/
def roundToDouble (n : Nat) : Nat :=
  let unit := Nat.pow 2 (n.log2 + 1 - 53)
  let quotient := n / unit
  let twice := 2 * (n % unit)
  if unit < twice ∨ unit = twice ∧ quotient % 2 = 1 then (quotient + 1) * unit
  else quotient * unit

-- Irreducible, or the equations of `appendDigits` would be sought by counting up to the bound.
@[irreducible] def appendDigit? (n : Nat) (digit : Char) : Option Nat :=
  let appended := 10 * n + (digit.toNat - '0'.toNat)
  if appended < UInt64.size then some appended else none

def appendDigits : Nat → List Char → Nat × List Char
  | n, [] => (n, [])
  | n, digit :: rest =>
      match appendDigit? n digit with
      | some appended => appendDigits appended rest
      | none => (n, digit :: rest)

namespace Literal

def toNumber (literal : Literal) : Number :=
  let significand := Nat.ofDigitChars 10 (literal.whole ++ literal.fraction) 0
  if literal.fraction = [] ∧ literal.power = none then ⟨literal.negative, significand, none⟩
  else ⟨literal.negative, significand, some (literal.power.getD 0 - literal.fraction.length)⟩

/-- The fraction goes on where the whole digits left off, also when not all of them fitted. -/
def leading (literal : Literal) : Nat × Int :=
  let (whole, dropped) := appendDigits 0 literal.whole
  let (significand, ignored) := appendDigits whole literal.fraction
  let places := literal.fraction.length - ignored.length
  (significand, literal.power.getD 0 + dropped.length - places)

/-- The leading digits and their power of ten are each rounded before they are multiplied. No power
of ten past the 308th is a double. -/
def isFinite (literal : Literal) : Bool :=
  let (significand, exponent) := literal.leading
  if significand = 0 ∨ exponent ≤ 0 then true
  else if 308 < exponent then false
  else
    roundToDouble (roundToDouble significand * roundToDouble (Nat.pow 10 exponent.toNat)) <
      Nat.pow 2 1024

end Literal

end NodeFeed.Json

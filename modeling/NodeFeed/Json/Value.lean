set_option autoImplicit false

namespace NodeFeed.Json

/-- Without an exponent it was written with neither a fraction nor a power. -/
structure Number where
  negative : Bool
  significand : Nat
  exponent : Option Int
deriving DecidableEq

namespace Number

def ofNat (n : Nat) : Number := ⟨false, n, none⟩

def toNat? : Number → Option Nat
  | ⟨false, significand, none⟩ => some significand
  | _ => none

end Number

inductive Value
  | null
  | bool (value : Bool)
  | number (value : Number)
  | string (value : String)
  | array (elements : List Value)
  | object (members : List (String × Value))

namespace Value

def ofNat (n : Nat) : Value := .number (.ofNat n)

def toNat? : Value → Option Nat
  | .number value => value.toNat?
  | _ => none

def toString? : Value → Option String
  | .string value => some value
  | _ => none

end Value

end NodeFeed.Json

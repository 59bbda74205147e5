import NodeFeed.Json.Literal

set_option autoImplicit false

namespace NodeFeed.Json

/-- A value that will be used is read in full, through `depth` arrays and objects at most; one that
will be thrown away is skimmed for its form. -/
inductive Scrutiny
  | full (depth : Nat)
  | skim

namespace Scrutiny

def inner? : Scrutiny → Option Scrutiny
  | .full 0 => none
  | .full (depth + 1) => some (.full depth)
  | .skim => some .skim

def allows : Scrutiny → Literal → Bool
  | .full _, literal => literal.isFinite
  | .skim, _ => true

end Scrutiny

def isBlank (c : Char) : Bool :=
  c = ' ' || c = '\t' || c = '\n' || c = '\r'

def skipBlanks (text : List Char) : List Char :=
  text.dropWhile isBlank

def takeDigits (text : List Char) : Option (List Char × List Char) :=
  match text.takeWhile Char.isDigit with
  | [] => none
  | digits => some (digits, text.dropWhile Char.isDigit)

def takeWhole (text : List Char) : Option (List Char × List Char) :=
  match takeDigits text with
  | some ('0' :: _ :: _, _) => none
  | taken => taken

def takeFraction : List Char → Option (List Char × List Char)
  | '.' :: rest => takeDigits rest
  | text => some ([], text)

def takePower (negative : Bool) (text : List Char) : Option (Option Int × List Char) :=
  (takeDigits text).map fun (digits, rest) =>
    let power : Int := Nat.ofDigitChars 10 digits 0
    (some (if negative then -power else power), rest)

def takeSignedPower : List Char → Option (Option Int × List Char)
  | '-' :: rest => takePower true rest
  | '+' :: rest => takePower false rest
  | text => takePower false text

def takeExponent : List Char → Option (Option Int × List Char)
  | 'e' :: rest => takeSignedPower rest
  | 'E' :: rest => takeSignedPower rest
  | text => some (none, text)

def takeMagnitude (negative : Bool) (text : List Char) : Option (Literal × List Char) :=
  (takeWhole text).bind fun (whole, text) =>
    (takeFraction text).bind fun (fraction, text) =>
      (takeExponent text).map fun (power, text) => (⟨negative, whole, fraction, power⟩, text)

def takeNumber : List Char → Option (Literal × List Char)
  | '-' :: rest => takeMagnitude true rest
  | text => takeMagnitude false text

def hexDigit? (c : Char) : Option Nat :=
  if '0' ≤ c ∧ c ≤ '9' then some (c.toNat - '0'.toNat)
  else if 'a' ≤ c ∧ c ≤ 'f' then some (c.toNat - 'a'.toNat + 10)
  else if 'A' ≤ c ∧ c ≤ 'F' then some (c.toNat - 'A'.toNat + 10)
  else none

def unit? (a b c d : Char) : Option Nat :=
  (hexDigit? a).bind fun a => (hexDigit? b).bind fun b => (hexDigit? c).bind fun c =>
    (hexDigit? d).map fun d => ((a * 16 + b) * 16 + c) * 16 + d

def isHighSurrogate (n : Nat) : Bool := 0xd800 ≤ n && n < 0xdc00

def isLowSurrogate (n : Nat) : Bool := 0xdc00 ≤ n && n < 0xe000

def pairedChar (high low : Nat) : Char :=
  Char.ofNat (0x10000 + (high - 0xd800) * 1024 + (low - 0xdc00))

def escapedChar? (c : Char) : Option Char :=
  if c = '"' then some '"'
  else if c = '\\' then some '\\'
  else if c = '/' then some '/'
  else if c = 'b' then some '\x08'
  else if c = 'f' then some '\x0c'
  else if c = 'n' then some '\n'
  else if c = 'r' then some '\r'
  else if c = 't' then some '\t'
  else none

/-- Skimmed text may hold half a surrogate pair, which is kept as a replacement character. -/
def takeString (scrutiny : Scrutiny) : List Char → Option (List Char × List Char)
  | [] => none
  | '"' :: rest => some ([], rest)
  | '\\' :: 'u' :: a :: b :: c :: d :: rest =>
      match unit? a b c d with
      | none => none
      | some unit =>
          if isHighSurrogate unit || isLowSurrogate unit then
            match scrutiny with
            | .skim => (takeString scrutiny rest).map fun (text, rest) => ('\ufffd' :: text, rest)
            | .full _ =>
                match rest with
                | '\\' :: 'u' :: e :: f :: g :: h :: rest =>
                    match unit? e f g h with
                    | none => none
                    | some second =>
                        if isHighSurrogate unit && isLowSurrogate second then
                          (takeString scrutiny rest).map fun (text, rest) =>
                            (pairedChar unit second :: text, rest)
                        else none
                | _ => none
          else (takeString scrutiny rest).map fun (text, rest) => (Char.ofNat unit :: text, rest)
  | '\\' :: c :: rest =>
      match escapedChar? c with
      | none => none
      | some escaped => (takeString scrutiny rest).map fun (text, rest) => (escaped :: text, rest)
  | c :: rest =>
      if c = '\\' || c.toNat < 0x20 then none
      else (takeString scrutiny rest).map fun (text, rest) => (c :: text, rest)

def takeKey (scrutiny : Scrutiny) (text : List Char) : Option (String × List Char) :=
  match skipBlanks text with
  | '"' :: rest =>
      (takeString scrutiny rest).bind fun (key, rest) =>
        match skipBlanks rest with
        | ':' :: rest => some (String.ofList key, rest)
        | _ => none
  | _ => none

mutual

/-- The first argument bounds the steps. Twice the length of the text is enough, as every second
step takes a character. -/
def takeValue : Nat → Scrutiny → List Char → Option (Value × List Char)
  | 0, _, _ => none
  | steps + 1, scrutiny, text =>
      match skipBlanks text with
      | 'n' :: 'u' :: 'l' :: 'l' :: rest => some (.null, rest)
      | 't' :: 'r' :: 'u' :: 'e' :: rest => some (.bool true, rest)
      | 'f' :: 'a' :: 'l' :: 's' :: 'e' :: rest => some (.bool false, rest)
      | '"' :: rest =>
          (takeString scrutiny rest).map fun (text, rest) => (.string (String.ofList text), rest)
      | '[' :: rest =>
          scrutiny.inner?.bind fun inner =>
            match skipBlanks rest with
            | ']' :: rest => some (.array [], rest)
            | _ => (takeElements steps inner rest).map fun (elements, rest) =>
                (.array elements, rest)
      | '\x7b' :: rest =>
          scrutiny.inner?.bind fun inner =>
            match skipBlanks rest with
            | '\x7d' :: rest => some (.object [], rest)
            | _ => (takeMembers steps inner (fun _ => inner) rest).map fun (members, rest) =>
                (.object members, rest)
      | text =>
          (takeNumber text).bind fun (literal, rest) =>
            if scrutiny.allows literal then some (.number literal.toNumber, rest) else none

def takeElements : Nat → Scrutiny → List Char → Option (List Value × List Char)
  | 0, _, _ => none
  | steps + 1, scrutiny, text =>
      (takeValue steps scrutiny text).bind fun (first, rest) =>
        match skipBlanks rest with
        | ']' :: rest => some ([first], rest)
        | ',' :: rest => (takeElements steps scrutiny rest).map fun (others, rest) =>
            (first :: others, rest)
        | _ => none

def takeMembers : Nat → Scrutiny → (String → Scrutiny) → List Char →
    Option (List (String × Value) × List Char)
  | 0, _, _, _ => none
  | steps + 1, keys, inside, text =>
      (takeKey keys text).bind fun (key, rest) =>
        (takeValue steps (inside key) rest).bind fun (value, rest) =>
          match skipBlanks rest with
          | '\x7d' :: rest => some ([(key, value)], rest)
          | ',' :: rest => (takeMembers steps keys inside rest).map fun (others, rest) =>
              ((key, value) :: others, rest)
          | _ => none

end

def maxDepth : Nat := 127

def takeDocument (skims : String → Bool) (text : List Char) : Option (Value × List Char) :=
  let steps := 2 * text.length + 2
  match skipBlanks text with
  | '\x7b' :: rest =>
      match skipBlanks rest with
      | '\x7d' :: rest => some (.object [], rest)
      | _ =>
          let inner := Scrutiny.full (maxDepth - 1)
          (takeMembers steps inner (fun key => if skims key then .skim else inner) rest).map
            fun (members, rest) => (.object members, rest)
  | _ => takeValue steps (.full maxDepth) text

def read? (skims : String → Bool) (text : String) : Option Value :=
  match takeDocument skims text.toList with
  | some (value, rest) => if skipBlanks rest = [] then some value else none
  | none => none

end NodeFeed.Json

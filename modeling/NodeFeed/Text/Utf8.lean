set_option autoImplicit false

namespace NodeFeed.Text.Utf8

def encode (text : List Char) : List UInt8 :=
  text.flatMap String.utf8EncodeChar

structure Lead where
  tails : Nat
  low : UInt8
  high : UInt8
  bits : Nat

/-- The bounds after E0, ED, F0 and F4 keep out long forms, surrogates and what is past the last
code point. -/
def Lead.of? (byte : UInt8) : Option Lead :=
  if byte ≤ 0x7f then some ⟨0, 0x80, 0xbf, byte.toNat⟩
  else if byte < 0xc2 then none
  else if byte ≤ 0xdf then some ⟨1, 0x80, 0xbf, byte.toNat - 0xc0⟩
  else if byte = 0xe0 then some ⟨2, 0xa0, 0xbf, 0⟩
  else if byte = 0xed then some ⟨2, 0x80, 0x9f, 13⟩
  else if byte ≤ 0xef then some ⟨2, 0x80, 0xbf, byte.toNat - 0xe0⟩
  else if byte = 0xf0 then some ⟨3, 0x90, 0xbf, 0⟩
  else if byte ≤ 0xf3 then some ⟨3, 0x80, 0xbf, byte.toNat - 0xf0⟩
  else if byte = 0xf4 then some ⟨3, 0x80, 0x8f, 4⟩
  else none

def takeTails : Nat → UInt8 → UInt8 → Nat → List UInt8 → Option Char × List UInt8
  | 0, _, _, bits, rest => (some (Char.ofNat bits), rest)
  | _ + 1, _, _, _, [] => (none, [])
  | tails + 1, low, high, bits, byte :: rest =>
      if low ≤ byte ∧ byte ≤ high then
        takeTails tails 0x80 0xbf (bits * 64 + (byte.toNat - 0x80)) rest
      else (none, byte :: rest)

def takeChar (byte : UInt8) (rest : List UInt8) : Option Char × List UInt8 :=
  match Lead.of? byte with
  | none => (none, rest)
  | some lead => takeTails lead.tails lead.low lead.high lead.bits rest

theorem length_takeTails_le (tails : Nat) (low high : UInt8) (bits : Nat) (rest : List UInt8) :
    (takeTails tails low high bits rest).2.length ≤ rest.length := by
  induction tails generalizing low high bits rest with
  | zero => simp [takeTails]
  | succ tails ih =>
      cases rest with
      | nil => simp [takeTails]
      | cons byte rest =>
          simp only [takeTails]
          split
          · exact Nat.le_succ_of_le (ih _ _ _ _)
          · simp

theorem length_takeChar_le (byte : UInt8) (rest : List UInt8) :
    (takeChar byte rest).2.length ≤ rest.length := by
  unfold takeChar
  split
  · simp
  · exact length_takeTails_le _ _ _ _ _

/-- One gap for each longest run of bytes that starts no character. -/
def scan : List UInt8 → List (Option Char)
  | [] => []
  | byte :: rest => (takeChar byte rest).1 :: scan (takeChar byte rest).2
termination_by bytes => bytes.length
decreasing_by
  have shorter := length_takeChar_le byte rest
  simp only [List.length_cons]
  omega

def decode? (bytes : List UInt8) : Option (List Char) :=
  (scan bytes).mapM id

def display (bytes : List UInt8) : String :=
  String.ofList ((scan bytes).map (·.getD '\ufffd'))

end NodeFeed.Text.Utf8

import Mathlib.Tactic.SplitIfs
import NodeFeed.Text.Utf8

set_option autoImplicit false

namespace NodeFeed.Text.Utf8

section Lead

variable {byte : UInt8}

theorem Lead.of?_one (below : byte.toNat ≤ 0x7f) :
    of? byte = some ⟨0, 0x80, 0xbf, byte.toNat⟩ := by
  have ascii : byte ≤ 0x7f := UInt8.le_iff_toNat_le.mpr below
  simp [of?, ascii]

theorem Lead.of?_two (low : 0xc2 ≤ byte.toNat) (high : byte.toNat ≤ 0xdf) :
    of? byte = some ⟨1, 0x80, 0xbf, byte.toNat - 0xc0⟩ := by
  simp only [of?, UInt8.le_iff_toNat_le, UInt8.lt_iff_toNat_lt, UInt8.reduceToNat]
  rw [if_neg (by omega), if_neg (by omega), if_pos high]

theorem Lead.of?_three (low : 0xe0 ≤ byte.toNat) (high : byte.toNat ≤ 0xef) :
    of? byte = some ⟨2, if byte.toNat = 0xe0 then 0xa0 else 0x80,
      if byte.toNat = 0xed then 0x9f else 0xbf, byte.toNat - 0xe0⟩ := by
  simp only [of?, UInt8.le_iff_toNat_le, UInt8.lt_iff_toNat_lt, ← UInt8.toNat_inj,
    UInt8.reduceToNat]
  rw [if_neg (by omega), if_neg (by omega), if_neg (by omega)]
  by_cases first : byte.toNat = 0xe0
  · simp [first]
  · by_cases surrogate : byte.toNat = 0xed
    · simp [surrogate]
    · simp [first, surrogate, high]

theorem Lead.of?_four (low : 0xf0 ≤ byte.toNat) (high : byte.toNat ≤ 0xf4) :
    of? byte = some ⟨3, if byte.toNat = 0xf0 then 0x90 else 0x80,
      if byte.toNat = 0xf4 then 0x8f else 0xbf, byte.toNat - 0xf0⟩ := by
  simp only [of?, UInt8.le_iff_toNat_le, UInt8.lt_iff_toNat_lt, ← UInt8.toNat_inj,
    UInt8.reduceToNat]
  rw [if_neg (by omega), if_neg (by omega), if_neg (by omega), if_neg (by omega),
    if_neg (by omega), if_neg (by omega)]
  by_cases first : byte.toNat = 0xf0
  · simp [first]
  · by_cases last : byte.toNat = 0xf4
    · simp [last]
    · have middle : byte.toNat ≤ 0xf3 := by omega
      simp [first, last, middle]

theorem Lead.of?_none (above : 0x7f < byte.toNat)
    (outside : byte.toNat < 0xc2 ∨ 0xf4 < byte.toNat) : of? byte = none := by
  simp only [of?, UInt8.le_iff_toNat_le, UInt8.lt_iff_toNat_lt, ← UInt8.toNat_inj,
    UInt8.reduceToNat]
  rw [if_neg (by omega)]
  rcases outside with below | beyond
  · rw [if_pos below]
  · rw [if_neg (by omega), if_neg (by omega), if_neg (by omega), if_neg (by omega),
      if_neg (by omega), if_neg (by omega), if_neg (by omega), if_neg (by omega)]

end Lead

theorem takeTails_zero_eq_some {low high : UInt8} {bits : Nat} {rest left : List UInt8} {c : Char} :
    takeTails 0 low high bits rest = (some c, left) ↔ Char.ofNat bits = c ∧ rest = left := by
  simp [takeTails]

theorem takeTails_succ_eq_some {tails : Nat} {low high : UInt8} {bits : Nat}
    {rest left : List UInt8} {c : Char} :
    takeTails (tails + 1) low high bits rest = (some c, left) ↔
      ∃ byte later, rest = byte :: later ∧ (low.toNat ≤ byte.toNat ∧ byte.toNat ≤ high.toNat) ∧
        takeTails tails 0x80 0xbf (bits * 64 + (byte.toNat - 0x80)) later = (some c, left) := by
  cases rest with
  | nil => simp [takeTails]
  | cons byte later =>
      simp only [takeTails, UInt8.le_iff_toNat_le, List.cons.injEq]
      constructor
      · intro taken
        split at taken
        next within => exact ⟨byte, later, ⟨rfl, rfl⟩, within, taken⟩
        next => cases taken
      · rintro ⟨_, _, ⟨rfl, rfl⟩, within, taken⟩
        rw [if_pos within]
        exact taken

theorem toNat_ofNat {n : Nat} (valid : n.isValidChar) : (Char.ofNat n).toNat = n := by
  rw [Char.ofNat, dif_pos valid]
  rfl

theorem ofNat_eq {n : Nat} (byte : UInt8) (same : n = byte.toNat) : UInt8.ofNat n = byte := by
  rw [same, UInt8.ofNat_toNat]

section Encode

variable {c : Char}

theorem utf8EncodeChar_one (below : c.toNat ≤ 0x7f) :
    String.utf8EncodeChar c = [UInt8.ofNat c.toNat] := by
  simp only [String.utf8EncodeChar, Char.toNat_val]
  rw [if_pos below]

theorem utf8EncodeChar_two (low : 0x80 ≤ c.toNat) (high : c.toNat ≤ 0x7ff) :
    String.utf8EncodeChar c =
      [UInt8.ofNat (c.toNat / 64 % 32 + 192), UInt8.ofNat (c.toNat % 64 + 128)] := by
  simp only [String.utf8EncodeChar, Char.toNat_val]
  rw [if_neg (by omega), if_pos high]

theorem utf8EncodeChar_three (low : 0x800 ≤ c.toNat) (high : c.toNat ≤ 0xffff) :
    String.utf8EncodeChar c =
      [UInt8.ofNat (c.toNat / 4096 % 16 + 224), UInt8.ofNat (c.toNat / 64 % 64 + 128),
        UInt8.ofNat (c.toNat % 64 + 128)] := by
  simp only [String.utf8EncodeChar, Char.toNat_val]
  rw [if_neg (by omega), if_neg (by omega), if_pos high]

theorem utf8EncodeChar_four (low : 0x10000 ≤ c.toNat) :
    String.utf8EncodeChar c =
      [UInt8.ofNat (c.toNat / 262144 % 8 + 240), UInt8.ofNat (c.toNat / 4096 % 64 + 128),
        UInt8.ofNat (c.toNat / 64 % 64 + 128), UInt8.ofNat (c.toNat % 64 + 128)] := by
  simp only [String.utf8EncodeChar, Char.toNat_val]
  rw [if_neg (by omega), if_neg (by omega), if_neg (by omega)]

end Encode

theorem eq_encode_of_takeChar {byte : UInt8} {rest left : List UInt8} {c : Char}
    (taken : takeChar byte rest = (some c, left)) :
    byte :: rest = String.utf8EncodeChar c ++ left := by
  by_cases one : byte.toNat ≤ 0x7f
  · simp only [takeChar, Lead.of?_one one, takeTails_zero_eq_some] at taken
    obtain ⟨rfl, rfl⟩ := taken
    have code := toNat_ofNat (n := byte.toNat) (.inl (by omega))
    rw [utf8EncodeChar_one (by omega), ofNat_eq byte code]
    rfl
  by_cases two : 0xc2 ≤ byte.toNat ∧ byte.toNat ≤ 0xdf
  · simp only [takeChar, Lead.of?_two two.1 two.2, takeTails_zero_eq_some, takeTails_succ_eq_some,
      UInt8.reduceToNat] at taken
    obtain ⟨second, later, rfl, within, rfl, rfl⟩ := taken
    have code := toNat_ofNat (n := (byte.toNat - 0xc0) * 64 + (second.toNat - 0x80))
      (.inl (by omega))
    rw [utf8EncodeChar_two (by omega) (by omega), ofNat_eq byte (by omega),
      ofNat_eq second (by omega)]
    rfl
  by_cases three : 0xe0 ≤ byte.toNat ∧ byte.toNat ≤ 0xef
  · simp only [takeChar, Lead.of?_three three.1 three.2, takeTails_zero_eq_some,
      takeTails_succ_eq_some, apply_ite UInt8.toNat, UInt8.reduceToNat] at taken
    obtain ⟨second, _, rfl, bounds, third, later, rfl, within, rfl, rfl⟩ := taken
    have code := toNat_ofNat
      (n := ((byte.toNat - 0xe0) * 64 + (second.toNat - 0x80)) * 64 + (third.toNat - 0x80))
      (by unfold Nat.isValidChar; split_ifs at bounds <;> omega)
    have range : 0x80 ≤ second.toNat ∧ second.toNat ≤ 0xbf ∧
        (byte.toNat = 0xe0 → 0xa0 ≤ second.toNat) := by
      split_ifs at bounds <;> omega
    rw [utf8EncodeChar_three (by omega) (by omega), ofNat_eq byte (by omega),
      ofNat_eq second (by omega), ofNat_eq third (by omega)]
    rfl
  by_cases four : 0xf0 ≤ byte.toNat ∧ byte.toNat ≤ 0xf4
  · simp only [takeChar, Lead.of?_four four.1 four.2, takeTails_zero_eq_some,
      takeTails_succ_eq_some, apply_ite UInt8.toNat, UInt8.reduceToNat] at taken
    obtain ⟨second, _, rfl, bounds, third, _, rfl, within, fourth, later, rfl, last, rfl, rfl⟩ :=
      taken
    have range : 0x80 ≤ second.toNat ∧ second.toNat ≤ 0xbf ∧
        (byte.toNat = 0xf0 → 0x90 ≤ second.toNat) ∧
        (byte.toNat = 0xf4 → second.toNat ≤ 0x8f) := by
      split_ifs at bounds <;> omega
    have code := toNat_ofNat
      (n := (((byte.toNat - 0xf0) * 64 + (second.toNat - 0x80)) * 64 + (third.toNat - 0x80)) * 64 +
        (fourth.toNat - 0x80)) (.inr (by omega))
    rw [utf8EncodeChar_four (by omega), ofNat_eq byte (by omega), ofNat_eq second (by omega),
      ofNat_eq third (by omega), ofNat_eq fourth (by omega)]
    rfl
  · simp [takeChar, Lead.of?_none (show 0x7f < byte.toNat by omega) (by omega)] at taken

theorem exists_byte {n : Nat} (fits : n < 256) :
    ∃ byte : UInt8, UInt8.ofNat n = byte ∧ byte.toNat = n :=
  ⟨_, rfl, UInt8.toNat_ofNat_of_lt' fits⟩

theorem ofNat_code {c : Char} {n : Nat} (same : n = c.toNat) : Char.ofNat n = c := by
  rw [same, Char.ofNat_toNat]

theorem takeChar_encode (c : Char) (rest : List UInt8) :
    ∃ byte tails, String.utf8EncodeChar c = byte :: tails ∧
      takeChar byte (tails ++ rest) = (some c, rest) := by
  have scalar : c.toNat < 0xd800 ∨ 0xdfff < c.toNat ∧ c.toNat < 0x110000 := c.valid
  by_cases one : c.toNat ≤ 0x7f
  · obtain ⟨first, written, lead⟩ := exists_byte (n := c.toNat) (by omega)
    refine ⟨first, [], by rw [utf8EncodeChar_one one, written], ?_⟩
    rw [takeChar, Lead.of?_one (by omega)]
    exact takeTails_zero_eq_some.mpr ⟨ofNat_code lead, rfl⟩
  by_cases two : c.toNat ≤ 0x7ff
  · obtain ⟨first, leads, lead⟩ := exists_byte (n := c.toNat / 64 % 32 + 192) (by omega)
    obtain ⟨second, ends, tail⟩ := exists_byte (n := c.toNat % 64 + 128) (by omega)
    refine ⟨first, [second], by rw [utf8EncodeChar_two (by omega) two, leads, ends], ?_⟩
    simp only [takeChar, Lead.of?_two (show 0xc2 ≤ first.toNat by omega) (by omega)]
    refine takeTails_succ_eq_some.mpr ⟨second, rest, rfl, ?_, takeTails_zero_eq_some.mpr ⟨?_, rfl⟩⟩
    · simp only [UInt8.reduceToNat]
      omega
    · exact ofNat_code (by omega)
  by_cases three : c.toNat ≤ 0xffff
  · obtain ⟨first, leads, lead⟩ := exists_byte (n := c.toNat / 4096 % 16 + 224) (by omega)
    obtain ⟨second, follows, next⟩ := exists_byte (n := c.toNat / 64 % 64 + 128) (by omega)
    obtain ⟨third, ends, tail⟩ := exists_byte (n := c.toNat % 64 + 128) (by omega)
    refine ⟨first, [second, third],
      by rw [utf8EncodeChar_three (by omega) three, leads, follows, ends], ?_⟩
    simp only [takeChar, Lead.of?_three (show 0xe0 ≤ first.toNat by omega) (by omega)]
    refine takeTails_succ_eq_some.mpr ⟨second, third :: rest, rfl, ?_,
      takeTails_succ_eq_some.mpr ⟨third, rest, rfl, ?_, takeTails_zero_eq_some.mpr ⟨?_, rfl⟩⟩⟩
    · simp only [apply_ite UInt8.toNat, UInt8.reduceToNat]
      split_ifs <;> omega
    · simp only [UInt8.reduceToNat]
      omega
    · exact ofNat_code (by omega)
  · obtain ⟨first, leads, lead⟩ := exists_byte (n := c.toNat / 262144 % 8 + 240) (by omega)
    obtain ⟨second, follows, next⟩ := exists_byte (n := c.toNat / 4096 % 64 + 128) (by omega)
    obtain ⟨third, goesOn, later⟩ := exists_byte (n := c.toNat / 64 % 64 + 128) (by omega)
    obtain ⟨fourth, ends, tail⟩ := exists_byte (n := c.toNat % 64 + 128) (by omega)
    refine ⟨first, [second, third, fourth],
      by rw [utf8EncodeChar_four (by omega), leads, follows, goesOn, ends], ?_⟩
    simp only [takeChar, Lead.of?_four (show 0xf0 ≤ first.toNat by omega) (by omega)]
    refine takeTails_succ_eq_some.mpr ⟨second, third :: fourth :: rest, rfl, ?_,
      takeTails_succ_eq_some.mpr ⟨third, fourth :: rest, rfl, ?_,
        takeTails_succ_eq_some.mpr ⟨fourth, rest, rfl, ?_,
          takeTails_zero_eq_some.mpr ⟨?_, rfl⟩⟩⟩⟩
    · simp only [apply_ite UInt8.toNat, UInt8.reduceToNat]
      split_ifs <;> omega
    · simp only [UInt8.reduceToNat]
      omega
    · simp only [UInt8.reduceToNat]
      omega
    · exact ofNat_code (by omega)

theorem toNat_of_mem_utf8EncodeChar {byte : UInt8} {c : Char}
    (member : byte ∈ String.utf8EncodeChar c) (ascii : byte.toNat ≤ 0x7f) :
    c.toNat = byte.toNat := by
  by_cases one : c.toNat ≤ 0x7f
  · rw [utf8EncodeChar_one one, List.mem_singleton] at member
    rw [member, UInt8.toNat_ofNat_of_lt' (show c.toNat < 256 by omega)]
  · have long {n : Nat} (fits : n < 256) (high : 0x80 ≤ n) : byte ≠ UInt8.ofNat n := by
      intro same
      rw [same, UInt8.toNat_ofNat_of_lt' fits] at ascii
      omega
    exfalso
    by_cases two : c.toNat ≤ 0x7ff
    · rw [utf8EncodeChar_two (by omega) two] at member
      simp only [List.mem_cons, List.not_mem_nil, or_false] at member
      rcases member with same | same <;> exact long (by omega) (by omega) same
    by_cases three : c.toNat ≤ 0xffff
    · rw [utf8EncodeChar_three (by omega) three] at member
      simp only [List.mem_cons, List.not_mem_nil, or_false] at member
      rcases member with same | same | same <;> exact long (by omega) (by omega) same
    · rw [utf8EncodeChar_four (by omega)] at member
      simp only [List.mem_cons, List.not_mem_nil, or_false] at member
      rcases member with same | same | same | same <;> exact long (by omega) (by omega) same

theorem encode_cons (c : Char) (text : List Char) :
    encode (c :: text) = String.utf8EncodeChar c ++ encode text := rfl

theorem encode_append (first second : List Char) :
    encode (first ++ second) = encode first ++ encode second :=
  List.flatMap_append

theorem toList_toUTF8 (text : String) :
    text.toUTF8.data.toList = encode text.toList := by
  rw [String.toUTF8, ← String.utf8Encode_toList, List.utf8Encode, List.data_toByteArray]
  rfl

theorem mem_encode_iff {c : Char} {byte : UInt8} (ascii : byte.toNat ≤ 0x7f)
    (code : c.toNat = byte.toNat) (text : List Char) : byte ∈ encode text ↔ c ∈ text := by
  constructor
  · intro member
    obtain ⟨origin, among, written⟩ := List.mem_flatMap.mp member
    have same : origin.toNat = c.toNat :=
      (toNat_of_mem_utf8EncodeChar written ascii).trans code.symm
    rwa [← Char.toNat_inj.mp same]
  · intro member
    refine List.mem_flatMap.mpr ⟨c, member, ?_⟩
    rw [utf8EncodeChar_one (by omega), ofNat_eq byte code]
    exact List.mem_singleton_self byte

theorem decode?_cons (byte : UInt8) (rest : List UInt8) :
    decode? (byte :: rest) =
      (takeChar byte rest).1.bind fun c =>
        (decode? (takeChar byte rest).2).map fun text => c :: text := by
  simp only [decode?]
  rw [scan]
  cases (takeChar byte rest).1 with
  | none => rfl
  | some c =>
      rw [List.mapM_cons, Option.bind_some, Option.map_eq_bind]
      rfl

theorem decode?_encode (text : List Char) : decode? (encode text) = some text := by
  induction text with
  | nil => simp [encode, decode?, scan]
  | cons c text ih =>
      obtain ⟨byte, tails, written, taken⟩ := takeChar_encode c (encode text)
      rw [encode_cons, written, List.cons_append, decode?_cons, taken]
      simp [ih]

theorem eq_encode_of_decode? {bytes : List UInt8} {text : List Char}
    (decoded : decode? bytes = some text) : bytes = encode text := by
  induction bytes using scan.induct generalizing text with
  | case1 =>
      obtain rfl : [] = text := by simpa [decode?, scan] using decoded
      rfl
  | case2 byte rest ih =>
      rw [decode?_cons] at decoded
      obtain ⟨c, first, others⟩ := Option.bind_eq_some_iff.mp decoded
      obtain ⟨text, later, rfl⟩ := Option.map_eq_some_iff.mp others
      have written := eq_encode_of_takeChar (c := c) (Prod.ext first rfl)
      rw [written, encode_cons, ← ih later]

theorem decode?_eq_some_iff {bytes : List UInt8} {text : List Char} :
    decode? bytes = some text ↔ bytes = encode text :=
  ⟨eq_encode_of_decode?, fun written => written ▸ decode?_encode text⟩

theorem encode_inj {first second : List Char} (same : encode first = encode second) :
    first = second := by
  have decoded := decode?_encode first
  rw [same, decode?_encode] at decoded
  exact (Option.some.inj decoded).symm

end NodeFeed.Text.Utf8

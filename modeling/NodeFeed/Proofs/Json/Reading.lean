import NodeFeed.Proofs.Json.Tokens

set_option autoImplicit false

namespace NodeFeed.Json

-- Values within the reader's limits: arrays and objects at most `depth` deep, and no number but a
-- natural one of at most 64 bits.
inductive Plain : Nat → Value → Prop
  | null (depth : Nat) : Plain depth .null
  | bool (depth : Nat) (value : Bool) : Plain depth (.bool value)
  | number (depth n : Nat) (fits : n < UInt64.size) : Plain depth (.ofNat n)
  | string (depth : Nat) (value : String) : Plain depth (.string value)
  | array (depth : Nat) (elements : List Value)
      (plain : ∀ element ∈ elements, Plain depth element) : Plain (depth + 1) (.array elements)
  | object (depth : Nat) (members : List (String × Value))
      (plain : ∀ member ∈ members, Plain depth member.2) : Plain (depth + 1) (.object members)

def Reads (depth : Nat) (value : Value) : Prop :=
  ∀ (steps : Nat) (rest : List Char), 2 * value.write.length ≤ steps → Ends rest →
    takeValue steps (.full depth) (value.write ++ rest) = some (value, rest)

theorem ends_cons (c : Char) (rest : List Char) (digit : c.isDigit = false) (point : c ≠ '.')
    (lower : c ≠ 'e') (upper : c ≠ 'E') : Ends (c :: rest) := by
  intro first same
  obtain rfl : c = first := Option.some.inj same
  exact ⟨digit, point, lower, upper⟩

theorem write_ofNat (n : Nat) : (Value.ofNat n).write = Nat.toDigits 10 n := by
  simp [Value.ofNat, Number.ofNat, Value.write, Number.write]

theorem ne_of_isDigit {c other : Char} (digit : c.isDigit = true) (letter : other.isDigit = false) :
    c ≠ other := by
  rintro rfl
  simp [digit] at letter

theorem isBlank_of_isDigit {c : Char} (digit : c.isDigit = true) : isBlank c = false := by
  have other (letter : Char) (plain : letter.isDigit = false) : c ≠ letter :=
    ne_of_isDigit digit plain
  simp [isBlank, other ' ' rfl, other '\t' rfl, other '\n' rfl, other '\r' rfl]

theorem reads_ofNat (depth n : Nat) (fits : n < UInt64.size) : Reads depth (.ofNat n) := by
  intro steps rest enough ends
  have number := takeNumber_toDigits n rest ends
  rw [write_ofNat] at enough ⊢
  have some : 0 < (Nat.toDigits 10 n).length := Nat.length_toDigits_pos
  obtain ⟨steps, rfl⟩ := Nat.exists_eq_add_one.mpr (show 0 < steps by omega)
  cases digits : Nat.toDigits 10 n with
  | nil => exact absurd digits Nat.toDigits_ne_nil
  | cons c more =>
      rw [digits] at number
      have digit : c.isDigit = true := isDigit_toDigits (by rw [digits]; simp)
      have other (letter : Char) (plain : letter.isDigit = false) : c ≠ letter :=
        ne_of_isDigit digit plain
      rw [takeValue, List.cons_append, skipBlanks_cons c _ (isBlank_of_isDigit digit)]
      -- No other form of a value starts with a digit.
      split
      next same => exact absurd (List.cons.inj same).1 (other 'n' rfl)
      next same => exact absurd (List.cons.inj same).1 (other 't' rfl)
      next same => exact absurd (List.cons.inj same).1 (other 'f' rfl)
      next same => exact absurd (List.cons.inj same).1 (other '"' rfl)
      next same => exact absurd (List.cons.inj same).1 (other '[' rfl)
      next same => exact absurd (List.cons.inj same).1 (other '\x7b' rfl)
      next =>
        rw [← List.cons_append, number]
        simp [Scrutiny.allows, isFinite_ofNat n fits, toNumber_ofNat, Value.ofNat]

theorem reads_string (depth : Nat) (text : String) : Reads depth (.string text) := by
  intro steps rest enough ends
  have content := takeString_escaped_text (.full depth) text.toList rest
  simp only [Value.write, writeString, List.cons_append, List.length_cons] at enough
  obtain ⟨steps, rfl⟩ := Nat.exists_eq_add_one.mpr (show 0 < steps by omega)
  rw [takeValue]
  simp only [Value.write, writeString, List.cons_append, List.append_assoc, List.nil_append]
  rw [skipBlanks_cons '"' _ (by decide)]
  simp [content]

-- A value never starts with a blank or with the bracket that would end its array, and only an
-- object starts with a brace.
theorem Plain.head {depth : Nat} {value : Value} (plain : Plain depth value) :
    ∃ c more, value.write = c :: more ∧ isBlank c = false ∧ c ≠ ']' ∧
      (c = '\x7b' → ∃ members, value = .object members) := by
  cases plain with
  | null => exact ⟨_, _, rfl, by decide, by decide, by simp⟩
  | bool _ value => cases value <;> exact ⟨_, _, rfl, by decide, by decide, by simp⟩
  | number _ n fits =>
      rw [write_ofNat]
      cases digits : Nat.toDigits 10 n with
      | nil => exact absurd digits Nat.toDigits_ne_nil
      | cons c more =>
          have digit : c.isDigit = true := isDigit_toDigits (by rw [digits]; simp)
          exact ⟨c, more, rfl, isBlank_of_isDigit digit, ne_of_isDigit digit rfl,
            fun brace => absurd brace (ne_of_isDigit digit rfl)⟩
  | string _ value => exact ⟨_, _, rfl, by decide, by decide, by simp⟩
  | array depth elements all =>
      cases elements <;> exact ⟨_, _, rfl, by decide, by decide, by simp⟩
  | object depth members all =>
      cases members <;> exact ⟨_, _, rfl, by decide, by decide, fun _ => ⟨_, rfl⟩⟩

theorem ends_writeElements (elements : List Value) (rest : List Char) :
    Ends (writeElements elements ++ rest) := by
  cases elements with
  | nil => exact ends_cons ']' rest rfl (by decide) (by decide) (by decide)
  | cons first others => exact ends_cons ',' _ rfl (by decide) (by decide) (by decide)

theorem ends_writeMembers (members : List (String × Value)) (rest : List Char) :
    Ends (writeMembers members ++ rest) := by
  cases members with
  | nil => exact ends_cons '\x7d' rest rfl (by decide) (by decide) (by decide)
  | cons first others => exact ends_cons ',' _ rfl (by decide) (by decide) (by decide)

theorem takeElements_write (depth : Nat) (first : Value) (others : List Value)
    (reads : ∀ element ∈ first :: others, Reads depth element) (steps : Nat) (rest : List Char)
    (enough : 2 * (first.write.length + (writeElements others).length) ≤ steps) :
    takeElements steps (.full depth) (first.write ++ (writeElements others ++ rest)) =
      some (first :: others, rest) := by
  induction others generalizing first steps with
  | nil =>
      simp only [writeElements, List.length_cons] at enough
      obtain ⟨steps, rfl⟩ := Nat.exists_eq_add_one.mpr (show 0 < steps by omega)
      have read := reads first (by simp) steps (writeElements [] ++ rest) (by omega)
        (ends_writeElements [] rest)
      rw [takeElements, read]
      simp [writeElements, skipBlanks_cons ']' _ (show isBlank ']' = false by decide)]
  | cons second others ih =>
      simp only [writeElements, List.cons_append, List.length_cons, List.length_append] at enough
      obtain ⟨steps, rfl⟩ := Nat.exists_eq_add_one.mpr (show 0 < steps by omega)
      have read := reads first (by simp) steps (writeElements (second :: others) ++ rest) (by omega)
        (ends_writeElements (second :: others) rest)
      have later := ih second (fun element member => reads element (List.mem_cons_of_mem _ member))
        steps (by omega)
      rw [takeElements, read]
      simp only [writeElements, List.cons_append, List.append_assoc, Option.bind_some]
      rw [skipBlanks_cons ',' _ (by decide)]
      simp [later]

theorem takeMembers_write (keys : Scrutiny) (inside : String → Scrutiny) (depth : Nat)
    (key : String) (value : Value) (others : List (String × Value))
    (reads : ∀ member ∈ (key, value) :: others, Reads depth member.2)
    (followed : ∀ member ∈ (key, value) :: others, inside member.1 = .full depth)
    (steps : Nat) (rest : List Char)
    (enough : 2 * (value.write.length + (writeMembers others).length) ≤ steps) :
    takeMembers steps keys inside
        (writeString key ++ ':' :: (value.write ++ (writeMembers others ++ rest))) =
      some ((key, value) :: others, rest) := by
  induction others generalizing key value steps with
  | nil =>
      simp only [writeMembers, List.length_cons] at enough
      obtain ⟨steps, rfl⟩ := Nat.exists_eq_add_one.mpr (show 0 < steps by omega)
      have read := reads (key, value) (by simp) steps (writeMembers [] ++ rest)
        (show 2 * value.write.length ≤ steps by omega) (ends_writeMembers [] rest)
      have full := followed (key, value) (by simp)
      rw [takeMembers, takeKey_writeString]
      simp only [Option.bind_some, full, read]
      simp [writeMembers, skipBlanks_cons '\x7d' _ (show isBlank '\x7d' = false by decide)]
  | cons second others ih =>
      obtain ⟨secondKey, secondValue⟩ := second
      simp only [writeMembers, List.cons_append, List.length_cons, List.length_append] at enough
      obtain ⟨steps, rfl⟩ := Nat.exists_eq_add_one.mpr (show 0 < steps by omega)
      have read := reads (key, value) (by simp) steps
        (writeMembers ((secondKey, secondValue) :: others) ++ rest)
        (show 2 * value.write.length ≤ steps by omega)
        (ends_writeMembers ((secondKey, secondValue) :: others) rest)
      have full := followed (key, value) (by simp)
      have later := ih secondKey secondValue
        (fun member inside => reads member (List.mem_cons_of_mem _ inside))
        (fun member inside => followed member (List.mem_cons_of_mem _ inside)) steps (by omega)
      rw [takeMembers, takeKey_writeString]
      simp only [Option.bind_some, full, read]
      simp only [writeMembers, List.cons_append, List.append_assoc]
      rw [skipBlanks_cons ',' _ (by decide)]
      simp [later]

theorem reads_array (depth : Nat) (elements : List Value)
    (plain : ∀ element ∈ elements, Plain depth element)
    (reads : ∀ element ∈ elements, Reads depth element) :
    Reads (depth + 1) (.array elements) := by
  intro steps rest enough ends
  cases elements with
  | nil =>
      simp only [Value.write, List.length_cons] at enough
      obtain ⟨steps, rfl⟩ := Nat.exists_eq_add_one.mpr (show 0 < steps by omega)
      rfl
  | cons first others =>
      simp only [Value.write, List.cons_append, List.length_cons, List.length_append] at enough
      obtain ⟨steps, rfl⟩ := Nat.exists_eq_add_one.mpr (show 0 < steps by omega)
      have taken := takeElements_write depth first others reads steps rest (by omega)
      obtain ⟨c, more, written, visible, inside, -⟩ := (plain first (by simp)).head
      rw [takeValue]
      simp only [Value.write, List.cons_append, List.append_assoc]
      rw [skipBlanks_cons '[' _ (by decide)]
      simp only [Scrutiny.inner?, Option.bind_some, taken]
      rw [written, List.cons_append, skipBlanks_cons c _ visible]
      split
      next same => exact absurd (List.cons.inj same).1 inside
      next => rfl

theorem reads_object (depth : Nat) (members : List (String × Value))
    (reads : ∀ member ∈ members, Reads depth member.2) :
    Reads (depth + 1) (.object members) := by
  intro steps rest enough ends
  cases members with
  | nil =>
      simp only [Value.write, List.length_cons] at enough
      obtain ⟨steps, rfl⟩ := Nat.exists_eq_add_one.mpr (show 0 < steps by omega)
      rfl
  | cons first others =>
      obtain ⟨key, value⟩ := first
      simp only [Value.write, List.cons_append, List.length_cons, List.length_append] at enough
      obtain ⟨steps, rfl⟩ := Nat.exists_eq_add_one.mpr (show 0 < steps by omega)
      have taken := takeMembers_write (.full depth) (fun _ => .full depth) depth key value others
        reads (fun _ _ => rfl) steps rest (by omega)
      rw [takeValue]
      simp only [Value.write, List.cons_append, List.append_assoc]
      rw [skipBlanks_cons '\x7b' _ (by decide)]
      simp only [Scrutiny.inner?, Option.bind_some, taken]
      rfl

theorem Plain.reads {depth : Nat} {value : Value} (plain : Plain depth value) :
    Reads depth value := by
  induction plain with
  | null depth =>
      intro steps rest enough ends
      simp only [Value.write, List.length_cons] at enough
      obtain ⟨steps, rfl⟩ := Nat.exists_eq_add_one.mpr (show 0 < steps by omega)
      rfl
  | bool depth value =>
      intro steps rest enough ends
      have some : 0 < (Value.bool value).write.length := by cases value <;> decide
      obtain ⟨steps, rfl⟩ := Nat.exists_eq_add_one.mpr (show 0 < steps by omega)
      cases value <;> rfl
  | number depth n fits => exact reads_ofNat depth n fits
  | string depth value => exact reads_string depth value
  | array depth elements plain ih => exact reads_array depth elements plain ih
  | object depth members plain ih => exact reads_object depth members ih

theorem takeDocument_object (skims : String → Bool) (members : List (String × Value))
    (plain : ∀ member ∈ members, Plain (maxDepth - 1) member.2)
    (followed : ∀ member ∈ members, skims member.1 = false) :
    takeDocument skims (Value.object members).write = some (.object members, []) := by
  cases members with
  | nil => rfl
  | cons first others =>
      obtain ⟨key, value⟩ := first
      let inside (key : String) : Scrutiny := if skims key then .skim else .full (maxDepth - 1)
      have taken := takeMembers_write (.full (maxDepth - 1)) inside (maxDepth - 1) key value others
        (fun member among => (plain member among).reads)
        (fun member among => by simp [inside, followed member among])
        (2 * (Value.object ((key, value) :: others)).write.length + 2) []
        (by simp only [Value.write, List.cons_append, List.length_cons, List.length_append]; omega)
      have brace (rest : List Char) : skipBlanks ('\x7b' :: rest) = '\x7b' :: rest :=
        skipBlanks_cons '\x7b' rest (by decide)
      simp only [List.append_nil] at taken
      simp only [takeDocument]
      simp only [Value.write, List.cons_append, List.append_assoc, brace] at taken ⊢
      rw [taken]
      rfl

theorem takeDocument_plain (skims : String → Bool) (value : Value) (plain : Plain maxDepth value)
    (bare : ∀ members, value ≠ .object members) :
    takeDocument skims value.write = some (value, []) := by
  obtain ⟨c, more, written, visible, -, brace⟩ := plain.head
  have reads := plain.reads (2 * value.write.length + 2) [] (by omega) (by simp [Ends])
  rw [List.append_nil, written] at reads
  rw [takeDocument, written, skipBlanks_cons c more visible]
  split
  next same =>
    obtain ⟨members, object⟩ := brace (List.cons.inj same).1
    exact absurd object (bare members)
  next => exact reads

theorem read?_render (skims : String → Bool) (value : Value) (plain : Plain maxDepth value)
    (followed : ∀ members, value = .object members → ∀ member ∈ members, skims member.1 = false) :
    read? skims value.render = some value := by
  have taken : takeDocument skims value.write = some (value, []) := by
    by_cases object : ∃ members, value = .object members
    · obtain ⟨members, rfl⟩ := object
      cases plain with
      | object depth members plain =>
          exact takeDocument_object skims members plain (followed members rfl)
    · exact takeDocument_plain skims value plain (fun members same => object ⟨members, same⟩)
  simp only [read?, Value.render, String.toList_ofList, taken]
  rfl

end NodeFeed.Json

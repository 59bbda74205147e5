import NodeFeed.Proofs.Json.RoundTrip

set_option autoImplicit false

namespace NodeFeed.Kind

section Names

variable {text : String}

theorem kindOfTag?_eq_some_iff {kind : Kind} :
    Json.kindOfTag? text = some kind ↔ text = kind.name := by
  constructor
  · intro known
    unfold Json.kindOfTag? at known
    split at known <;> cases known <;> rfl
  · rintro rfl
    cases kind with
    | pending kind => cases kind <;> rfl
    | error => rfl
    | finish => rfl

theorem kindOfTag?_eq_none_iff :
    Json.kindOfTag? text = none ↔ ∀ kind : Kind, text ≠ kind.name := by
  simp only [Option.eq_none_iff_forall_ne_some, ne_eq, kindOfTag?_eq_some_iff]

theorem mem_all (kind : Kind) : kind ∈ all := by
  cases kind with
  | pending kind => cases kind <;> decide
  | error => decide
  | finish => decide

theorem find?_name (text : String) :
    all.find? (fun kind => kind.name == text) = Json.kindOfTag? text := by
  cases found : all.find? (fun kind => kind.name == text) with
  | some kind =>
      have named : kind.name = text := by simpa using List.find?_some found
      exact (kindOfTag?_eq_some_iff.mpr named.symm).symm
  | none =>
      have unnamed : ∀ kind : Kind, text ≠ kind.name := by
        intro kind same
        have passed := List.find?_eq_none.mp found kind (mem_all kind)
        simp [same] at passed
      exact (kindOfTag?_eq_none_iff.mpr unnamed).symm

theorem ofName_eq_ok_iff {kind : Kind} : ofName text = .ok kind ↔ text = kind.name := by
  rw [← kindOfTag?_eq_some_iff, ofName, find?_name]
  cases Json.kindOfTag? text <;> simp

theorem ofName_eq_error (unnamed : ∀ kind : Kind, text ≠ kind.name) :
    ofName text = .error (.unknownName text) := by
  rw [ofName, find?_name, kindOfTag?_eq_none_iff.mpr unnamed]

end Names

section Documents

theorem decode?_render {value : Json.Value} (plain : Json.Plain Json.maxDepth value) :
    Json.decode? value.render = (Json.tag? value).bind Json.kindOfTag? := by
  have read := Json.read?_render (Json.Codec.skims Kind) value plain fun _ _ _ _ => rfl
  rw [Json.decode?, read]
  rfl

theorem decode?_tag (text : String) :
    Json.decode? (Json.Value.string text).render = Json.kindOfTag? text :=
  decode?_render (.string _ text)

theorem decode?_key (text : String) :
    Json.decode? (Json.Value.object [(text, .null)]).render = Json.kindOfTag? text :=
  decode?_render (.object _ _ (by simp [Json.Plain.null]))

end Documents

section Ordinals

theorem map_index_all : all.map index = List.range count := rfl

theorem getElem?_all_eq_some_iff {ordinal : Nat} {kind : Kind} :
    all[ordinal]? = some kind ↔ kind.index = ordinal := by
  constructor
  · intro listed
    have place : (all.map index)[ordinal]? = some kind.index := by
      rw [List.getElem?_map, listed]
      rfl
    rw [map_index_all] at place
    obtain ⟨_, same⟩ := List.getElem?_eq_some_iff.mp place
    simpa using same.symm
  · rintro rfl
    cases kind with
    | pending kind => cases kind <;> rfl
    | error => rfl
    | finish => rfl

theorem ofIndex_eq_ok_iff {ordinal : Nat} {kind : Kind} :
    ofIndex ordinal = .ok kind ↔ kind.index = ordinal := by
  rw [← getElem?_all_eq_some_iff, ofIndex]
  cases all[ordinal]? <;> simp

theorem ofIndex_eq_error {ordinal : Nat} (unlisted : ∀ kind : Kind, kind.index ≠ ordinal) :
    ofIndex ordinal = .error (.outOfRange ordinal count) := by
  have past : all[ordinal]? = none := by
    simpa only [Option.eq_none_iff_forall_ne_some, ne_eq, getElem?_all_eq_some_iff] using unlisted
  rw [ofIndex, past]

end Ordinals

structure ReadByName (text : String) : Prop where
  parsed (kind : Kind) : ofName text = .ok kind ↔ text = kind.name
  decoded (kind : Kind) :
    Json.decode? (Json.Value.string text).render = some kind ↔ text = kind.name
  keyed (kind : Kind) :
    Json.decode? (Json.Value.object [(text, .null)]).render = some kind ↔ text = kind.name
  unknown : (∀ kind : Kind, text ≠ kind.name) →
    ofName text = .error (.unknownName text) ∧
      Json.decode? (Json.Value.string text).render = (none : Option Kind) ∧
      Json.decode? (Json.Value.object [(text, .null)]).render = (none : Option Kind)

structure ReadByIndex (ordinal : Nat) : Prop where
  found (kind : Kind) : ofIndex ordinal = .ok kind ↔ kind.index = ordinal
  named (kind : Kind) : kind.index = ordinal →
    ∀ text, nameAt ordinal = .ok text ↔ ofName text = .ok kind
  beyond : (∀ kind : Kind, kind.index ≠ ordinal) →
    ofIndex ordinal = .error (.outOfRange ordinal 9) ∧
      nameAt ordinal = .error (.outOfRange ordinal 9)

theorem readByName (text : String) : ReadByName text where
  parsed kind := ofName_eq_ok_iff
  decoded kind := by rw [decode?_tag, kindOfTag?_eq_some_iff]
  keyed kind := by rw [decode?_key, kindOfTag?_eq_some_iff]
  unknown unnamed := by
    rw [decode?_tag, decode?_key, kindOfTag?_eq_none_iff]
    exact ⟨ofName_eq_error unnamed, unnamed, unnamed⟩

theorem readByIndex (ordinal : Nat) : ReadByIndex ordinal where
  found kind := ofIndex_eq_ok_iff
  named kind has text := by
    rw [nameAt, ofIndex_eq_ok_iff.mpr has, ofName_eq_ok_iff]
    simp [Except.map, eq_comm]
  beyond unlisted := by
    rw [nameAt, ofIndex_eq_error unlisted]
    exact ⟨rfl, rfl⟩

theorem tables_agree : (∀ text, ReadByName text) ∧ ∀ ordinal, ReadByIndex ordinal :=
  ⟨readByName, readByIndex⟩

end NodeFeed.Kind

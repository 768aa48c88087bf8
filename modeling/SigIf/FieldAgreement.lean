import SigIf.InterfaceDocuments
import SigIf.Request
import SigIf.Samples

/-!
# The field tests against the published interface

For a value that fits the document of a type, the tests of the branch labelled
with the type should all hold, and each documented field should be tested. The
field names are spelled twice, by hand. They agree for all types but five: the
version is a string in its document, and in four arrays a name is misspelt or
missing, which shows as soon as the array has an element.
-/

namespace SigIf.FieldAgreement

open Programs JsonValue Constants Request Samples InterfaceDocuments

/-- No test of the branch finds a bad field in the data, on any element either. -/
def TestsHold : FieldTests → Json → Prop
  | .integers fields, data => (exec (rejectsFields fields) data).1 = .ok false
  | .arrayOf field elementFields, data =>
    (exec (notKind Json.isArray [field]) data).1 = .ok false ∧
      ∀ elems, data.at? [field] = some (.array elems) →
        ∀ elem ∈ elems, (exec (elementLambda elementFields) elem).1 = .ok none

/-- The tests accept the value, and notice every way to spoil it. -/
structure Agrees (tests : FieldTests) (sample value : Json) : Prop where
  accepts : TestsHold tests value
  rejects : ∀ spoiled, Spoils sample value spoiled → ¬ TestsHold tests spoiled

/-- The document describes data of the shape that the tests are for: an object
of integers, or one array of objects of integers. -/
inductive Documented : FieldTests → Json → List (String × ℤ) → Prop where
  | integers {fields : List String} {documented : List (String × ℤ)} :
      Documented (.integers fields) (record documented) documented
  | arrayOf {field : String} {elementFields : List String} {documented : List (String × ℤ)}
      {rest : List Json} :
      Documented (.arrayOf field elementFields)
        (.object [(field, .array (record documented :: rest))]) documented

/-- The integer fields that the tests name. -/
def testedFields : FieldTests → List String
  | .integers fields => fields
  | .arrayOf _ elementFields => elementFields

/-- The data consists of an array without elements. -/
def EmptyArray (data : Json) : Prop := ∃ field, data.at? [field] = some (.array [])

theorem integerSamples_integerMembers (documented : List (String × ℤ)) :
    IntegerSamples (integerMembers documented) := by
  intro key sample h
  induction documented with
  | nil => simp [integerMembers, find] at h
  | cons head rest ih =>
    by_cases hk : head.1 = key
    · simp only [integerMembers, List.map_cons, find, if_pos hk, Option.some.injEq] at h
      exact ⟨head.2, h.symm⟩
    · simp only [integerMembers, List.map_cons, find, if_neg hk] at h
      exact ih h

theorem testsHold_integers_iff (fields : List String) (members : List (String × Json)) :
    TestsHold (.integers fields) (.object members) ↔ HasIntegers fields members :=
  rejectsFields_eq_false_iff fields members

theorem testsHold_arrayOf_iff (field : String) (elementFields : List String)
    (members : List (String × Json)) :
    TestsHold (.arrayOf field elementFields) (.object members) ↔
      ∃ elems, find field members = some (.array elems) ∧
        ∀ elem ∈ elems, (exec (elementLambda elementFields) elem).1 = .ok none := by
  have hread : fetch [field] (.object members) = .ok ((find field members).getD .null) := by
    simp [fetch]
  simp only [TestsHold, at?_singleton, exec_notKind Json.isArray rfl, hread, Except.map]
  cases hf : find field members with
  | none => simp [Json.isArray]
  | some v => cases v <;> simp [Json.isArray]

/-- The object of integers is tested as documented exactly if the tests name
the documented fields. -/
theorem agrees_integers_iff {documented : List (String × ℤ)} {value : Json}
    (hfits : Fits (record documented) value) (fields : List String) :
    Agrees (.integers fields) (record documented) value ↔
      SameKeys fields (integerMembers documented) := by
  obtain ⟨members, rfl⟩ := hfits.exists_object
  rw [← exact_on_object_iff (integerSamples_integerMembers documented) hfits]
  constructor
  · intro h
    refine ⟨(testsHold_integers_iff fields members).mp h.accepts, ?_⟩
    intro spoiled hspoils hall
    exact h.rejects _ hspoils ((testsHold_integers_iff fields spoiled).mpr hall)
  · rintro ⟨haccepts, hrejects⟩
    refine ⟨(testsHold_integers_iff fields members).mpr haccepts, ?_⟩
    intro spoiled hspoils hall
    obtain ⟨spoiledMembers, rfl⟩ := hspoils.exists_object
    exact hrejects _ hspoils ((testsHold_integers_iff fields spoiledMembers).mp hall)

/-- The lambda tests an element as a branch tests an object of integers. -/
theorem lambda_of_elementTests {elementFields : List String} {elem : Json}
    (hobject : ∃ members, elem = .object members) (h : TestsHold (.integers elementFields) elem) :
    (exec (elementLambda elementFields) elem).1 = .ok none := by
  obtain ⟨members, rfl⟩ := hobject
  rw [elementLambda_eq_none_iff]
  exact (testsHold_integers_iff _ _).mp h

theorem elementTests_of_lambda {elementFields : List String} {elem : Json}
    (hobject : ∃ members, elem = .object members)
    (h : (exec (elementLambda elementFields) elem).1 = .ok none) :
    TestsHold (.integers elementFields) elem := by
  obtain ⟨members, rfl⟩ := hobject
  exact (testsHold_integers_iff _ _).mpr ((elementLambda_eq_none_iff _ _).mp h)

/-- What fits the document of an array is an object with that array. -/
theorem exists_array_of_fits {field : String} {documented : List (String × ℤ)} {rest : List Json}
    {value : Json}
    (hfits : Fits (.object [(field, .array (record documented :: rest))]) value) :
    ∃ members elems, value = .object members ∧ find field members = some (.array elems) ∧
      ∀ elem ∈ elems, Fits (record documented) elem := by
  obtain ⟨members, rfl⟩ := hfits.exists_object
  obtain ⟨v, hv, hfit⟩ := hfits.exists_member (find_singleton_iff.mpr ⟨rfl, rfl⟩)
  cases hfit with
  | @array _ _ elems helems => exact ⟨members, elems, rfl, hv, helems⟩

/-- Such data is spoiled in its array field, or inside of one element. -/
theorem spoils_array_cases {field : String} {documented : List (String × ℤ)} {rest elems : List Json}
    {members : List (String × Json)} {spoiled : Json}
    (harray : find field members = some (.array elems))
    (h : Spoils (.object [(field, .array (record documented :: rest))]) (.object members) spoiled)
    (elementFields : List String) :
    ¬ TestsHold (.arrayOf field elementFields) spoiled ∨
      ∃ (i : ℕ) (elem spoiledElem : Json), elems[i]? = some elem ∧
        Spoils (record documented) elem spoiledElem ∧
        spoiled = .object (put field (.array (elems.set i spoiledElem)) members) := by
  cases h with
  | removed hfind =>
    obtain ⟨rfl, rfl⟩ := find_singleton_iff.mp hfind
    left
    rw [testsHold_arrayOf_iff, find_erase_self]
    simp
  | @replaced _ _ key sample value hfind hkind =>
    obtain ⟨rfl, rfl⟩ := find_singleton_iff.mp hfind
    left
    rw [testsHold_arrayOf_iff, find_put_self]
    rintro ⟨elems', he, _⟩
    cases he
    simp [sameKind] at hkind
  | inMember hfind hvalue hinner =>
    obtain ⟨rfl, rfl⟩ := find_singleton_iff.mp hfind
    obtain rfl := Option.some.inj (harray.symm.trans hvalue)
    cases hinner with
    | inElement helem hspoils => exact Or.inr ⟨_, _, _, helem, hspoils, rfl⟩

section

variable {field : String} {documented : List (String × ℤ)} {rest elems : List Json}
  {members : List (String × Json)} {elementFields : List String}

/-- The tests of an array agree on its first element. -/
theorem agrees_head {elem : Json} {others : List Json}
    (harray : find field members = some (.array (elem :: others)))
    (hfits : Fits (record documented) elem)
    (h : Agrees (.arrayOf field elementFields)
      (.object [(field, .array (record documented :: rest))]) (.object members)) :
    Agrees (.integers elementFields) (record documented) elem := by
  obtain ⟨_, he, hpasses⟩ := (testsHold_arrayOf_iff _ _ _).mp h.accepts
  obtain rfl := Json.array.inj (Option.some.inj (harray.symm.trans he))
  refine ⟨elementTests_of_lambda hfits.exists_object (hpasses elem List.mem_cons_self), ?_⟩
  intro spoiled hspoils hall
  -- a spoiled first element spoils the data, and only its tests can tell
  have hinner : Spoils (.array (record documented :: rest)) (.array (elem :: others))
      (.array ((elem :: others).set 0 spoiled)) := .inElement rfl hspoils
  refine h.rejects _ (.inMember (find_singleton_iff.mpr ⟨rfl, rfl⟩) harray hinner) ?_
  refine (testsHold_arrayOf_iff _ _ _).mpr ⟨_, find_put_self _ _ _, ?_⟩
  intro other hother
  rcases List.mem_cons.mp hother with rfl | hrest
  · exact lambda_of_elementTests hspoils.exists_object hall
  · exact hpasses other (List.mem_cons_of_mem _ hrest)

/-- They agree on the array if they agree on each element. -/
theorem agrees_of_elements (harray : find field members = some (.array elems))
    (hfits : ∀ elem ∈ elems, Fits (record documented) elem)
    (h : ∀ elem ∈ elems, Agrees (.integers elementFields) (record documented) elem) :
    Agrees (.arrayOf field elementFields) (.object [(field, .array (record documented :: rest))])
      (.object members) := by
  constructor
  · refine (testsHold_arrayOf_iff _ _ _).mpr ⟨elems, harray, ?_⟩
    intro elem helem
    exact lambda_of_elementTests (hfits elem helem).exists_object (h elem helem).accepts
  · intro spoiled hspoils
    rcases spoils_array_cases harray hspoils elementFields with
      hfails | ⟨i, elem, spoiledElem, helem, hinner, rfl⟩
    · exact hfails
    · intro hall
      obtain ⟨_, he, hpasses⟩ := (testsHold_arrayOf_iff _ _ _).mp hall
      rw [find_put_self] at he
      cases he
      obtain ⟨hlt, hget⟩ := List.getElem?_eq_some_iff.mp helem
      have hlambda := hpasses spoiledElem (List.mem_set hlt spoiledElem)
      exact (h elem (List.mem_of_getElem? helem)).rejects spoiledElem hinner
        (elementTests_of_lambda hinner.exists_object hlambda)

/-- The array of objects of integers is tested as documented exactly if it has
no elements or the tests name the documented fields. -/
theorem agrees_arrayOf_iff (harray : find field members = some (.array elems))
    (hfits : ∀ elem ∈ elems, Fits (record documented) elem) :
    Agrees (.arrayOf field elementFields) (.object [(field, .array (record documented :: rest))])
        (.object members) ↔
      elems = [] ∨ SameKeys elementFields (integerMembers documented) := by
  constructor
  · intro h
    cases elems with
    | nil => exact Or.inl rfl
    | cons elem others =>
      have hfit := hfits elem List.mem_cons_self
      exact Or.inr ((agrees_integers_iff hfit elementFields).mp (agrees_head harray hfit h))
  · intro h
    refine agrees_of_elements harray hfits ?_
    intro elem helem
    rcases h with rfl | hkeys
    · cases helem
    · exact (agrees_integers_iff (hfits elem helem) elementFields).mpr hkeys

end

/-- An object of integers has no array. -/
theorem not_emptyArray_of_fits {documented : List (String × ℤ)} {value : Json}
    (hfits : Fits (record documented) value) : ¬ EmptyArray value := by
  rintro ⟨field, hempty⟩
  obtain ⟨members, rfl⟩ := hfits.exists_object
  rw [at?_singleton] at hempty
  obtain ⟨sample, hsample, hfit⟩ := hfits.exists_sample hempty
  obtain ⟨n, rfl⟩ := integerSamples_integerMembers documented field sample hsample
  cases hfit

/-- The only array of the data is the documented one. -/
theorem emptyArray_iff_of_fits {field : String} {sample : Json} {elems : List Json}
    {members : List (String × Json)}
    (hfits : Fits (.object [(field, sample)]) (.object members))
    (harray : find field members = some (.array elems)) :
    EmptyArray (.object members) ↔ elems = [] := by
  constructor
  · rintro ⟨other, hempty⟩
    rw [at?_singleton] at hempty
    obtain ⟨_, hsample, _⟩ := hfits.exists_sample hempty
    obtain ⟨rfl, rfl⟩ := find_singleton_iff.mp hsample
    exact Json.array.inj (Option.some.inj (harray.symm.trans hempty))
  · rintro rfl
    exact ⟨field, by rw [at?_singleton, harray]⟩

/-- What the documents say is tested as documented exactly if the data has an
empty array or the tests name the documented fields. -/
theorem agrees_iff {tests : FieldTests} {sample value : Json} {documented : List (String × ℤ)}
    (h : Documented tests sample documented) (hfits : Fits sample value) :
    Agrees tests sample value ↔
      EmptyArray value ∨ SameKeys (testedFields tests) (integerMembers documented) := by
  cases h with
  | integers =>
    rw [agrees_integers_iff hfits]
    exact (or_iff_right (not_emptyArray_of_fits hfits)).symm
  | arrayOf =>
    obtain ⟨members, elems, rfl, harray, helems⟩ := exists_array_of_fits hfits
    rw [agrees_arrayOf_iff harray helems, emptyArray_iff_of_fits hfits harray]
    rfl

/-- The types for whose array the tests name other fields than the document. -/
def mismatched : List IfType := [.Detector, .Phase, .PriorityConfig, .TimingScheme]

/-- Apart from the version the documents have the shape that the tests are for,
and the names agree outside of the four types. -/
theorem documented_of_dataSample {type : IfType} {sample : Json}
    (h : dataSample type = some sample) (hversion : type ≠ .Version) :
    ∃ documented, Documented (fieldTests type) sample documented ∧
      (SameKeys (testedFields (fieldTests type)) (integerMembers documented) ↔
        type ∉ mismatched) := by
  cases type with
  | Version => exact absurd rfl hversion
  | SchemaTable => cases h
  | ActionTable | CharacterParameterVersion | IdentificationCode | RemoteControl | Time
  | UnitParameter | WorkMode | WorkStatus =>
    obtain rfl := Option.some.inj h
    exact ⟨_, .integers, by decide⟩
  | _ =>
    obtain rfl := Option.some.inj h
    exact ⟨_, .arrayOf, by decide⟩

/-- The version is a string in its document, and the test asks for an integer. -/
theorem not_agrees_version {sample value : Json} (h : dataSample .Version = some sample)
    (hfits : Fits sample value) : ¬ Agrees (fieldTests .Version) sample value := by
  intro hagrees
  obtain rfl := Option.some.inj h
  obtain ⟨members, rfl⟩ := hfits.exists_object
  obtain ⟨n, hn⟩ := (testsHold_integers_iff _ members).mp hagrees.accepts "version"
    (List.mem_singleton_self _)
  cases hfits with
  | object _ hall =>
    have hstring := hall "version" (.string "") _ (by simp [find]) hn
    cases hstring

/-- For data that fits the document of a type, the tests of its branch agree
with the document exactly if the type is not the version and, for the types
whose names differ, the array has no elements. -/
theorem tests_agree_iff {type : IfType} {sample value : Json}
    (hsample : dataSample type = some sample) (hfits : Fits sample value) :
    Agrees (fieldTests type) sample value ↔
      type ≠ .Version ∧ (type ∈ mismatched → EmptyArray value) := by
  by_cases hversion : type = .Version
  · subst hversion
    exact iff_of_false (not_agrees_version hsample hfits) fun h => h.1 rfl
  · obtain ⟨documented, hdocumented, hsame⟩ := documented_of_dataSample hsample hversion
    rw [agrees_iff hdocumented hfits, hsame]
    constructor
    · intro h
      exact ⟨hversion, fun hmember => h.resolve_right fun hnot => hnot hmember⟩
    · rintro ⟨_, hempty⟩
      by_cases hmember : type ∈ mismatched
      · exact Or.inl (hempty hmember)
      · exact Or.inr hmember

/-- A document fits itself. -/
theorem record_fits (documented : List (String × ℤ)) :
    Fits (record documented) (record documented) := by
  refine .object (fun _ => rfl) ?_
  intro key sample value hsample hvalue
  obtain rfl := Option.some.inj (hsample.symm.trans hvalue)
  obtain ⟨n, rfl⟩ := integerSamples_integerMembers documented key sample hsample
  exact .integer n n

theorem array_fits (field : String) (documented : List (String × ℤ)) :
    Fits (.object [(field, .array [record documented])])
      (.object [(field, .array [record documented])]) := by
  refine .object (fun _ => rfl) ?_
  intro key sample value hsample hvalue
  obtain rfl := Option.some.inj (hsample.symm.trans hvalue)
  obtain ⟨_, rfl⟩ := find_singleton_iff.mp hsample
  refine .array ?_
  intro elem helem
  obtain rfl := List.mem_singleton.mp helem
  exact record_fits documented

/-- The failures as they are published. -/
theorem failure_tests_agree :
    ∃ sample, dataSample .Failure = some sample ∧ Agrees (fieldTests .Failure) sample sample :=
  ⟨_, rfl, (tests_agree_iff rfl (array_fits _ _)).mpr ⟨by decide, fun h => absurd h (by decide)⟩⟩

/-- The published sample of the detector fails the tests of its own branch. -/
theorem detector_sample_fails :
    ∃ sample, dataSample .Detector = some sample ∧ Fits sample sample ∧
      ¬ Agrees (fieldTests .Detector) sample sample := by
  refine ⟨_, rfl, array_fits _ _, ?_⟩
  intro h
  have hpasses := h.accepts.2 _ rfl _ (List.mem_singleton_self _)
  -- the tests ask for `no_reponse`, the sample has `no_response`
  obtain ⟨n, hn⟩ := (elementLambda_eq_none_iff _ _).mp hpasses "no_reponse" (by decide)
  simp [integerMembers, find] at hn

end SigIf.FieldAgreement

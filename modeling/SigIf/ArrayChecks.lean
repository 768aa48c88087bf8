import SigIf.Dispatch

/-!
# The tests of array elements

A branch with an array runs a lambda over the elements. The lambda returns
false on a bad element, but `std::for_each` drops that, and on an element that
cannot be indexed the lambda throws. So no bad element makes the function
return false, and the tests only show where there is nothing to find.
-/

namespace SigIf.ArrayChecks

open Programs JsonValue Constants Request Dispatch

/-- An object with an integer in every one of the fields. -/
def GoodElement (fields : List String) (elem : Json) : Prop :=
  ∃ members, elem = .object members ∧ HasIntegers fields members

/-- The branch has been entered with a local copy of the data, in which the
array of the branch is present. -/
structure EnteredWith (label : IfType) (doc : Json) (members : List (String × Json))
    (field : String) (elementFields : List String) (elems : List Json) : Prop where
  tests : fieldTests label = .arrayOf field elementFields
  data : fetch ["data"] doc = .ok (.object members)
  array : find field members = some (.array elems)

/-- From there on the function returns false exactly if some element is bad,
and it does not throw. -/
structure SpoiledByAny (label : IfType) (doc : Json) (members : List (String × Json))
    (elementFields : List String) (elems : List Json) : Prop where
  rejects : (exec (afterChain (.object members) (some label)) doc).1 = .ok (.returned false) ↔
    ∃ elem ∈ elems, ¬ GoodElement elementFields elem
  returns : ∀ e, (exec (afterChain (.object members) (some label)) doc).1 ≠ .error e

/-- Over good elements the loop comes to its end. -/
theorem forEach_of_good {fields : List String} {elems : List Json}
    (h : ∀ elem ∈ elems, GoodElement fields elem) :
    (forEach (elementLambda fields) elems).1 = .ok () := by
  induction elems with
  | nil => rfl
  | cons elem rest ih =>
    obtain ⟨members, rfl, hall⟩ := h elem List.mem_cons_self
    have hlambda := (elementLambda_eq_none_iff fields members).mpr hall
    have hrest := ih fun other hother => h other (List.mem_cons_of_mem _ hother)
    rw [forEach]
    revert hlambda
    rcases exec (elementLambda fields) (.object members) with ⟨result, elem'⟩
    rintro rfl
    exact hrest

/-- A branch with its array present rejects nothing: either the loop throws, or
the branch lets the data pass. -/
theorem branchRejects_arrayOf {field : String} {members : List (String × Json)}
    {elems : List Json} (h : find field members = some (.array elems))
    (elementFields : List String) :
    (exec (branchRejects (.arrayOf field elementFields)) (.object members)).1 =
      (forEach (elementLambda elementFields) elems).1.map fun _ => false := by
  have hread : fetch [field] (.object members) = .ok (.array elems) := by simp [fetch, h]
  have hagain : fetch [field] (touch [field] (.object members)) = .ok (.array elems) := by
    rw [fetch_touch (by simp), hread]
  have hloop : (exec (forEachIn field (elementLambda elementFields))
      (touch [field] (.object members))).1 = (forEach (elementLambda elementFields) elems).1 := by
    change (forEachIn field _ _).1 = _
    rw [forEachIn, hagain]
  simp only [branchRejects, exec_bind, exec_notKind Json.isArray rfl, hread, Except.map,
    Json.isArray, Bool.not_true, Bool.false_eq_true, if_false]
  revert hloop
  rcases exec (forEachIn field (elementLambda elementFields))
    (touch [field] (.object members)) with ⟨result, doc'⟩
  rintro rfl
  cases (forEach (elementLambda elementFields) elems).1 <;> rfl

/-- After the chain such a branch ends without a verdict, or throws. -/
theorem exec_afterChain_array {label : IfType} {doc : Json} {members : List (String × Json)}
    {field : String} {elementFields : List String} {elems : List Json}
    (h : EnteredWith label doc members field elementFields elems) :
    (exec (afterChain (.object members) (some label)) doc).1 =
      (forEach (elementLambda elementFields) elems).1.map fun _ => .noVerdict (some label) := by
  have hbranch := branchRejects_arrayOf h.array elementFields
  simp only [afterChain, h.tests, exec_bind]
  have hcopy : exec (onCopy (.object members) (branchRejects (.arrayOf field elementFields))) doc =
      ((forEach (elementLambda elementFields) elems).1.map fun _ => false, doc) := by
    change (_, doc) = _
    rw [hbranch]
  rw [hcopy]
  cases (forEach (elementLambda elementFields) elems).1 with
  | error e => rfl
  | ok _ => simp [Except.map, exec_test, h.data, Json.isNull]

/-- It never returns false. -/
theorem afterChain_ne_false {label : IfType} {doc : Json} {members : List (String × Json)}
    {field : String} {elementFields : List String} {elems : List Json}
    (h : EnteredWith label doc members field elementFields elems) :
    (exec (afterChain (.object members) (some label)) doc).1 ≠ .ok (.returned false) := by
  rw [exec_afterChain_array h]
  cases (forEach (elementLambda elementFields) elems).1 <;> simp [Except.map]

/-- Bad elements spoil an array as they should exactly when there are none. -/
theorem spoiled_by_any_iff {label : IfType} {doc : Json} {members : List (String × Json)}
    {field : String} {elementFields : List String} {elems : List Json}
    (h : EnteredWith label doc members field elementFields elems) :
    SpoiledByAny label doc members elementFields elems ↔
      ∀ elem ∈ elems, GoodElement elementFields elem := by
  have hnever := afterChain_ne_false h
  constructor
  · intro hspoiled elem helem
    by_contra hbad
    exact hnever (hspoiled.rejects.mpr ⟨elem, helem, hbad⟩)
  · intro hgood
    have hends := exec_afterChain_array h
    rw [forEach_of_good hgood] at hends
    refine ⟨⟨fun hfalse => absurd hfalse hnever, ?_⟩, ?_⟩
    · rintro ⟨elem, helem, hbad⟩
      exact absurd (hgood elem helem) hbad
    · rw [hends]
      simp [Except.map]

/-- Data for the light groups, with these elements. -/
def lightData (elems : List Json) : List (String × Json) := [("light_group", .array elems)]

/-- A request with that data. -/
def lightRequest (elems : List Json) : Json :=
  .object [("meta", .object [("action", .string "setting"), ("ipv4", .string "172.10.2.13"),
      ("type", .string "LightStatus")]),
    ("data", .object (lightData elems))]

theorem lightRequest_entered (elems : List Json) :
    EnteredWith .LightStatus (lightRequest elems) (lightData elems) "light_group" ["status"]
      elems := ⟨rfl, rfl, rfl⟩

/-- An array of one good element passes. -/
theorem one_good_light :
    SpoiledByAny .LightStatus (lightRequest [.object [("status", .integer 1)]])
      (lightData [.object [("status", .integer 1)]]) ["status"]
      [.object [("status", .integer 1)]] :=
  (spoiled_by_any_iff (lightRequest_entered _)).mpr
    (by simp [GoodElement, HasIntegers, find])

/-- An element without its only field passes as well. -/
theorem light_without_status_passes :
    EnteredWith .LightStatus (lightRequest [.object []]) (lightData [.object []]) "light_group"
        ["status"] [.object []] ∧
      ¬ SpoiledByAny .LightStatus (lightRequest [.object []]) (lightData [.object []]) ["status"]
        [.object []] := by
  have hentered := lightRequest_entered [.object []]
  refine ⟨hentered, fun hspoiled => afterChain_ne_false hentered (hspoiled.rejects.mpr ?_)⟩
  refine ⟨.object [], List.mem_singleton_self _, ?_⟩
  rintro ⟨members, he, hall⟩
  cases he
  obtain ⟨n, hn⟩ := hall "status" (List.mem_singleton_self _)
  simp [find] at hn

end SigIf.ArrayChecks

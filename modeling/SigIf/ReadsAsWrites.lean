import SigIf.Dispatch
import SigIf.Insertions

/-!
# What validation does to a request

The validator reads through the inserting index operator, so each of its two
stages may leave null members behind. They come to five paths, they are read
like absent members, and the stages take the same course on what they leave.
-/

namespace SigIf.ReadsAsWrites

open Programs JsonValue Constants Request Dispatch Insertions

/-- The members that the validator may insert. -/
def insertable : List (List String) :=
  [["meta"], ["meta", "action"], ["meta", "ipv4"], ["meta", "type"], ["data"]]

/-- A stage leaves a document that means the same: nothing but null members at
the five paths is new, the stage ends as before on it and then changes nothing
more, and the handler ends as before. -/
structure KeepsMeaning {α : Type} (stage : Access α) (doc : Json) : Prop where
  inserted : OnlyNulls insertable doc (exec stage doc).2
  again : exec stage (exec stage doc).2 = exec stage doc
  handled : (exec handleRqs (exec stage doc).2).1 = (exec handleRqs doc).1

/-- How the handler ends, from what it reads. -/
def handlerOutcome (action data : Except JsonError Json) (type : Except JsonError String) :
    Except JsonError Exit :=
  action.bind fun action =>
    if action.isNull then .ok (.returned false)
    else data.bind fun data =>
      if data.isObject then type.map fun t => .noVerdict (some (takenBranch t))
      else .ok (.returned false)

/-- The handler reads three members, each of them as it was. -/
theorem exec_handleRqs_fst (doc : Json) :
    (exec handleRqs doc).1 =
      handlerOutcome (fetch ["meta", "action"] doc) (fetch ["data"] doc)
        ((fetch ["meta", "type"] doc).bind Json.getString) := by
  have hdata : fetch ["data"] (touch ["meta", "action"] doc) = fetch ["data"] doc :=
    fetch_touch (by simp) doc
  have htype : fetch ["meta", "type"] (touch ["data"] (touch ["meta", "action"] doc)) =
      fetch ["meta", "type"] doc := by
    rw [fetch_touch (by simp), fetch_touch (by simp)]
  have hchain := exec_chain (touch ["data"] (touch ["meta", "action"] doc))
  rw [htype] at hchain
  generalize (fetch ["meta", "type"] doc).bind Json.getString = type at hchain ⊢
  cases haction : fetch ["meta", "action"] doc with
  | error e => simp [handleRqs, handlerOutcome, exec_test, haction, Except.map, Except.bind]
  | ok action =>
    cases hnull : action.isNull with
    | true => simp [handleRqs, handlerOutcome, exec_test, haction, hnull, Except.map, Except.bind]
    | false =>
      cases hread : fetch ["data"] doc with
      | error e =>
        simp [handleRqs, handlerOutcome, exec_test, exec_notKind Json.isObject rfl, haction,
          hnull, hdata, hread, Except.map, Except.bind]
      | ok data =>
        cases hobject : data.isObject with
        | false =>
          simp [handleRqs, handlerOutcome, exec_test, exec_notKind Json.isObject rfl, haction,
            hnull, hdata, hread, hobject, Except.map, Except.bind]
        | true =>
          cases type <;>
            simp [handleRqs, handlerOutcome, exec_test, exec_notKind Json.isObject rfl, haction,
              hnull, hdata, hread, hobject, hchain, Except.map, Except.bind]

/-- So it ends alike after a read that none of these members lies above. -/
theorem handleRqs_touch {path : List String}
    (haction : ∀ key rest, path ≠ ["meta", "action"] ++ key :: rest)
    (hdata : ∀ key rest, path ≠ ["data"] ++ key :: rest)
    (htype : ∀ key rest, path ≠ ["meta", "type"] ++ key :: rest) (doc : Json) :
    (exec handleRqs (touch path doc)).1 = (exec handleRqs doc).1 := by
  rw [exec_handleRqs_fst, exec_handleRqs_fst, fetch_touch haction, fetch_touch hdata,
    fetch_touch htype]

/-- No member that the validator may insert is below one of the three. -/
theorem handleRqs_touch_insertable {path : List String} (h : path ∈ insertable) (doc : Json) :
    (exec handleRqs (touch path doc)).1 = (exec handleRqs doc).1 := by
  simp only [insertable, List.mem_cons, List.not_mem_nil, or_false] at h
  rcases h with rfl | rfl | rfl | rfl | rfl
  all_goals exact handleRqs_touch (by simp) (by simp) (by simp) doc

theorem ne_null_of_isNull {v : Json} (h : v.isNull = false) : v ≠ .null := by
  rintro rfl
  simp [Json.isNull] at h

/-- The member of the metadata under a key. -/
theorem fetch_meta_key {doc : Json} {members : List (String × Json)}
    (h : fetch ["meta"] doc = .ok (.object members)) (key : String) :
    fetch ["meta", key] doc = .ok ((find key members).getD .null) :=
  (fetch_append ["meta"] [key] h).trans (by simp [fetch])

/-- The member of the metadata that the check reads last. -/
def lastRead (action : Json) : String := if action.isNull then "action" else "ipv4"

/-- On metadata that is an object the check answers false. -/
theorem exec_metaCheck_object {doc action : Json} {members : List (String × Json)}
    (h : fetch ["meta"] doc = .ok (.object members))
    (haction : fetch ["meta", "action"] doc = .ok action) :
    exec metaCheck doc = (.ok (some (.returned false)), touch ["meta", lastRead action] doc) := by
  have hmeta : touch ["meta"] doc = doc := touch_of_fetch h (by simp)
  have hkind : (Json.object members).isNull = false ∧ (Json.object members).isObject = true :=
    ⟨rfl, rfl⟩
  have hipv4 := fetch_meta_key h "ipv4"
  generalize (find "ipv4" members).getD .null = ipv4 at hipv4
  cases hnull : action.isNull with
  | true =>
    simp [metaCheck, lastRead, exec_orM, exec_test, h, hmeta, hkind, haction, hnull, Except.map]
  | false =>
    have hpresent := touch_of_fetch haction (ne_null_of_isNull hnull)
    cases hnull4 : ipv4.isNull with
    | true =>
      simp [metaCheck, lastRead, exec_orM, exec_test, h, hmeta, hkind, haction, hpresent, hipv4,
        hnull, hnull4, Except.map]
    | false =>
      have hpresent4 := touch_of_fetch hipv4 (ne_null_of_isNull hnull4)
      simp [metaCheck, lastRead, exec_orM, exec_test, h, hmeta, hkind, haction, hpresent, hipv4,
        hpresent4, hnull, hnull4, Except.map]

/-- Where it reads as null the check answers false after its first test. -/
theorem exec_metaCheck_null {doc : Json} (h : fetch ["meta"] doc = .ok .null) :
    exec metaCheck doc = (.ok (some (.returned false)), touch ["meta"] doc) := by
  simp [metaCheck, exec_orM, exec_test, h, Except.map, Json.isNull]

/-- Everywhere else one of its first two tests throws. -/
theorem exec_metaCheck_throws {doc : Json} (hnull : fetch ["meta"] doc ≠ .ok .null)
    (hobject : ∀ members, fetch ["meta"] doc ≠ .ok (.object members)) :
    ∃ e, exec metaCheck doc = (.error e, doc) := by
  cases hmeta : fetch ["meta"] doc with
  | error e =>
    refine ⟨e, ?_⟩
    simp [metaCheck, exec_orM, exec_test, hmeta, touch_of_error hmeta, Except.map]
  | ok v =>
    have hv : v ≠ .null := fun he => hnull (he ▸ hmeta)
    have hkind : v.isNull = false := by
      cases v with
      | null => exact absurd rfl hv
      | _ => rfl
    have hthrow : fetch ["meta", "action"] doc = .error (.typeError 305) := by
      refine (fetch_append ["meta"] ["action"] hmeta).trans ?_
      cases v with
      | null => exact absurd rfl hv
      | object members => exact absurd hmeta (hobject members)
      | _ => rfl
    refine ⟨.typeError 305, ?_⟩
    simp [metaCheck, exec_orM, exec_test, hmeta, touch_of_fetch hmeta hv, hkind, hthrow,
      touch_of_error hthrow, Except.map]

/-- A stage that leaves the document alone keeps its meaning. -/
theorem KeepsMeaning.of_same {α : Type} {stage : Access α} {doc : Json}
    {outcome : Except JsonError α} (h : exec stage doc = (outcome, doc)) :
    KeepsMeaning stage doc := by
  refine ⟨?_, ?_, ?_⟩
  · rw [h]
    exact .refl _ _
  · rw [h, h]
  · rw [h]

/-- So does one that makes a single read, if it takes the same course after it. -/
theorem KeepsMeaning.of_read {α : Type} {stage : Access α} {doc : Json}
    {outcome : Except JsonError α} {path : List String}
    (h : exec stage doc = (outcome, touch path doc))
    (hagain : exec stage (touch path doc) = (outcome, touch path (touch path doc)))
    (hinserted : OnlyNulls [path] doc (touch path doc)) (hpath : path ∈ insertable) :
    KeepsMeaning stage doc := by
  refine ⟨?_, ?_, ?_⟩
  · rw [h]
    exact hinserted.mono (by simpa using hpath)
  · rw [h, hagain, touch_touch]
  · rw [h]
    exact handleRqs_touch_insertable hpath doc

/-- The meta check keeps the meaning of every document. -/
theorem metaCheck_keepsMeaning (doc : Json) : KeepsMeaning metaCheck doc := by
  by_cases hnull : fetch ["meta"] doc = .ok .null
  · have hafter : fetch ["meta"] (touch ["meta"] doc) = .ok .null := by
      rw [fetch_touch (by simp), hnull]
    exact .of_read (exec_metaCheck_null hnull) (exec_metaCheck_null hafter)
      (onlyNulls_touch_top "meta" doc) (by decide)
  · by_cases hobject : ∃ members, fetch ["meta"] doc = .ok (.object members)
    · obtain ⟨members, hmembers⟩ := hobject
      have hthere : doc.at? ["meta"] = some (.object members) := at?_of_fetch hmembers (by simp)
      have haction := fetch_meta_key hmembers "action"
      generalize (find "action" members).getD .null = action at haction
      obtain ⟨members', hafter⟩ := fetch_touch_object hmembers ["meta", lastRead action]
      have haction' : fetch ["meta", "action"] (touch ["meta", lastRead action] doc) =
          .ok action := by
        rw [fetch_touch (by simp), haction]
      refine .of_read (exec_metaCheck_object hmembers haction)
        (exec_metaCheck_object hafter haction') (onlyNulls_touch hthere _) ?_
      unfold lastRead
      split <;> decide
    · push Not at hobject
      obtain ⟨e, hrun⟩ := exec_metaCheck_throws hnull hobject
      exact .of_same hrun

/-- How the data check ends from its chain on. -/
def dataVerdict (data : Json) (type : Except JsonError String) : Except JsonError Exit :=
  type.bind fun t =>
    (exec (branchRejects (fieldTests (takenBranch t))) data).1.map fun rejected =>
      if rejected then .returned false else .noVerdict (some (takenBranch t))

/-- From its chain on the check changes the document no more. -/
theorem exec_afterChain {doc : Json} {members : List (String × Json)}
    (h : fetch ["data"] doc = .ok (.object members)) (label : IfType) :
    exec (afterChain (.object members) (some label)) doc =
      ((exec (branchRejects (fieldTests label)) (.object members)).1.map fun rejected =>
        if rejected then .returned false else .noVerdict (some label), doc) := by
  have hcopy : exec (onCopy (.object members) (branchRejects (fieldTests label))) doc =
      ((exec (branchRejects (fieldTests label)) (.object members)).1, doc) := rfl
  have hkind : (Json.object members).isNull = false := rfl
  simp only [afterChain, exec_bind, hcopy]
  cases (exec (branchRejects (fieldTests label)) (.object members)).1 with
  | error e => rfl
  | ok rejected =>
    cases rejected with
    | true => rfl
    | false => simp [exec_test, h, hkind, touch_of_fetch h, Except.map]

/-- On data that is an object the check goes on to its chain, which reads the type. -/
theorem exec_dataChain {doc : Json} {members : List (String × Json)}
    (h : fetch ["data"] doc = .ok (.object members)) :
    exec (do
        let data ← index ["data"]
        let branch ← validatorChain
        afterChain data branch) doc =
      (dataVerdict (.object members) ((fetch ["meta", "type"] doc).bind Json.getString),
        touch ["meta", "type"] doc) := by
  have hthere : touch ["data"] doc = doc := touch_of_fetch h (by simp)
  have hafter : fetch ["data"] (touch ["meta", "type"] doc) = .ok (.object members) := by
    rw [fetch_touch (by simp), h]
  have hchain : exec validatorChain doc = _ := exec_chain doc
  simp only [exec_bind, exec_index, h, hthere]
  generalize (fetch ["meta", "type"] doc).bind Json.getString = type at hchain ⊢
  cases type with
  | error e =>
    rw [hchain]
    rfl
  | ok t =>
    rw [hchain]
    exact exec_afterChain hafter (takenBranch t)

/-- What the data check returns and leaves. -/
theorem exec_dataCheck {doc : Json} {action : String}
    (haction : fetch ["meta", "action"] doc = .ok (.string action)) :
    exec dataCheck doc =
      if action = "query" then (.ok (.returned false), doc)
      else match fetch ["data"] doc with
        | .error e => (.error e, doc)
        | .ok (.object members) =>
          (dataVerdict (.object members) ((fetch ["meta", "type"] doc).bind Json.getString),
            touch ["meta", "type"] doc)
        | .ok _ => (.ok (.returned false), touch ["data"] doc) := by
  have hpresent : touch ["meta", "action"] doc = doc := touch_of_fetch haction (by simp)
  have hread : exec (getString ["meta", "action"]) doc = (.ok action, doc) := by
    rw [exec_getString, haction, hpresent]
    rfl
  rw [dataCheck_eq, exec_bind, hread]
  by_cases hquery : action = "query"
  · simp [hquery, stringCompare]
  · have hne : stringCompare action "query" ≠ 0 := (stringCompare_ne_zero_iff _ _).mpr hquery
    simp only [if_pos hne, if_neg hquery]
    rw [exec_bind, exec_notKind Json.isObject rfl]
    cases hdata : fetch ["data"] doc with
    | error e => simp [Except.map, touch_of_error hdata]
    | ok data =>
      cases data with
      | object members =>
        rw [touch_of_fetch hdata (by simp)]
        exact exec_dataChain hdata
      | _ => simp [Except.map, Json.isObject]

/-- The metadata is an object with a string as its action. -/
def HasStringAction (doc : Json) : Prop :=
  ∃ action, doc.at? ["meta", "action"] = some (.string action)

theorem HasStringAction.meta {doc : Json} (h : HasStringAction doc) :
    ∃ members, doc.at? ["meta"] = some (.object members) := by
  obtain ⟨action, hat⟩ := h
  cases doc with
  | object members =>
    obtain ⟨w, hw, haction⟩ := Option.bind_eq_some_iff.mp hat
    cases w with
    | object inner => exact ⟨inner, by rw [at?_singleton, hw]⟩
    | _ => cases haction
  | _ => cases hat

/-- The data check keeps the meaning of such a document. -/
theorem dataCheck_keepsMeaning {doc : Json} (h : HasStringAction doc) :
    KeepsMeaning dataCheck doc := by
  obtain ⟨members, hmeta⟩ := h.meta
  obtain ⟨action, hat⟩ := h
  have haction := fetch_of_at? hat
  have hrun := exec_dataCheck haction
  by_cases hquery : action = "query"
  · rw [if_pos hquery] at hrun
    exact .of_same hrun
  · -- the course is decided by members that read alike before and after
    have hagain {path : List String}
        (hpath : ∀ key rest, path ≠ ["meta", "action"] ++ key :: rest) :=
      exec_dataCheck ((fetch_touch hpath doc).trans haction)
    have htype : fetch ["meta", "type"] (touch ["meta", "type"] doc) = fetch ["meta", "type"] doc :=
      fetch_touch (by simp) doc
    rw [if_neg hquery] at hrun
    cases hdata : fetch ["data"] doc with
    | error e =>
      simp only [hdata] at hrun
      exact .of_same hrun
    | ok data =>
      cases data with
      | object dataMembers =>
        simp only [hdata] at hrun
        refine .of_read hrun ?_ (onlyNulls_touch hmeta "type") (by decide)
        rw [hagain (by simp), if_neg hquery, fetch_touch (by simp), hdata]
        simp only [htype]
      | _ =>
        simp only [hdata] at hrun
        refine .of_read hrun ?_ (onlyNulls_touch_top "data" doc) (by decide)
        rw [hagain (by simp), if_neg hquery, fetch_touch (by simp), hdata]

/-- Each of the two stages leaves a document that means the same. -/
theorem validation_keeps_meaning (doc : Json) :
    KeepsMeaning metaCheck doc ∧ (HasStringAction doc → KeepsMeaning dataCheck doc) :=
  ⟨metaCheck_keepsMeaning doc, dataCheck_keepsMeaning⟩

/-- A request without a type and without data: the data check leaves it with a
null member for its data, and the handler refuses it as before. -/
theorem untyped_request_keeps_meaning :
    KeepsMeaning metaCheck (.object [("meta", .object [("action", .string "setting")])]) ∧
      KeepsMeaning dataCheck (.object [("meta", .object [("action", .string "setting")])]) := by
  obtain ⟨hmeta, hdata⟩ :=
    validation_keeps_meaning (.object [("meta", .object [("action", .string "setting")])])
  exact ⟨hmeta, hdata ⟨"setting", rfl⟩⟩

end SigIf.ReadsAsWrites

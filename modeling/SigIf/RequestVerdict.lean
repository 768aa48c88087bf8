import SigIf.Request

/-!
# Verdicts of the validator and of the handler

What a well-formed query document is, stated over member paths alone, and
what the two functions answer on every document. The validator's two metadata
guards have opposite polarity and together reject every object, so its data
check is not reached. The handler has no return statement after its branches
and lets the exceptions of the index operator escape.
-/

namespace SigIf.RequestVerdict

open Programs JsonValue Constants Request

/-- The data members have the kinds that the tests of a branch demand. -/
def Demands : FieldTests → List (String × Json) → Prop
  | .integers fields, members => ∀ field ∈ fields, ∃ n, find field members = some (.integer n)
  | .arrayOf field elementFields, members =>
    ∃ elems, find field members = some (.array elems) ∧
      ∀ elem ∈ elems, ∃ elemMembers, elem = .object elemMembers ∧
        ∀ f ∈ elementFields, ∃ n, find f elemMembers = some (.integer n)

/-- A query whose type is an interface name and whose data meets its branch. -/
def WellFormedQuery (doc : Json) : Prop :=
  doc.at? ["meta", "action"] = some (.string "query") ∧
  (∃ ip, doc.at? ["meta", "ipv4"] = some (.string ip)) ∧
  ∃ label members, doc.at? ["meta", "type"] = some (.string (IfType.name label)) ∧
    doc.at? ["data"] = some (.object members) ∧ Demands (fieldTests label) members

/-- Metadata, a metadata string, the data object or a demanded field is
missing or of the wrong kind. -/
def MalformedQuery (doc : Json) : Prop :=
  (∀ members, doc.at? ["meta"] ≠ some (.object members)) ∨
  (∃ key ∈ ["action", "ipv4", "type"], ∀ s, doc.at? ["meta", key] ≠ some (.string s)) ∨
  (∀ members, doc.at? ["data"] ≠ some (.object members)) ∨
  ∃ label members, doc.at? ["meta", "type"] = some (.string (IfType.name label)) ∧
    doc.at? ["data"] = some (.object members) ∧ ¬ Demands (fieldTests label) members

/-- The validator accepts exactly the well-formed queries, and answers false,
rather than throwing or giving no verdict, on the malformed ones. -/
def ValidatorContract (doc : Json) : Prop :=
  ((exec checkIfValid doc).1 = .ok (.returned true) ↔ WellFormedQuery doc) ∧
    (MalformedQuery doc → (exec checkIfValid doc).1 = .ok (.returned false))

/-- Null, or an object whose meta member is missing, null or an object. -/
def MetaIndexable : Json → Prop
  | .null => True
  | .object members =>
    match (find "meta" members).getD .null with
    | .null => True
    | .object _ => True
    | _ => False
  | _ => False

/-- Where the metadata can be indexed, its member reads as null or an object. -/
theorem fetch_meta_of_indexable {doc : Json} (h : MetaIndexable doc) :
    fetch ["meta"] doc = .ok .null ∨ ∃ members, fetch ["meta"] doc = .ok (.object members) := by
  cases doc with
  | null => exact Or.inl (by simp)
  | object members =>
    simp only [MetaIndexable] at h
    cases hm : (find "meta" members).getD .null with
    | null => exact Or.inl (by simp [fetch, hm])
    | object ms => exact Or.inr ⟨ms, by simp [fetch, hm]⟩
    | _ => simp [hm] at h
  | _ => exact h.elim

/-- Where it cannot, every member of the metadata throws a type error. -/
theorem fetch_meta_key_of_not_indexable {doc : Json} (h : ¬ MetaIndexable doc) (key : String) :
    fetch ["meta", key] doc = .error (.typeError 305) := by
  cases doc with
  | null => exact absurd trivial h
  | object members =>
    simp only [MetaIndexable] at h
    cases hm : (find "meta" members).getD .null with
    | null => simp [hm] at h
    | object ms => simp [hm] at h
    | _ => simp [fetch, hm]
  | _ => rfl

/-- Where it can, no member of the metadata throws. -/
theorem fetch_meta_key_of_indexable {doc : Json} (h : MetaIndexable doc) (key : String) :
    fetch ["meta", key] doc = .ok ((doc.at? ["meta", key]).getD .null) := by
  have hok : ∃ v, fetch ["meta", key] doc = .ok v := by
    cases doc with
    | null => exact ⟨.null, by simp⟩
    | object members =>
      simp only [MetaIndexable] at h
      cases hm : (find "meta" members).getD .null with
      | null => exact ⟨.null, by simp [fetch, hm]⟩
      | object ms => exact ⟨(find key ms).getD .null, by simp [fetch, hm]⟩
      | _ => simp [hm] at h
    | _ => exact h.elim
  obtain ⟨v, hv⟩ := hok
  rw [hv, fetch_eq_at? hv]

/-- The metadata reads as an object. -/
def MetaIsObject (doc : Json) : Prop := ∃ members, fetch ["meta"] doc = .ok (.object members)

/-- A test of a metadata member neither throws nor spoils the metadata. -/
theorem triple_test_meta_key (kind : Json → Bool) (key : String) :
    Triple MetaIsObject (test kind ["meta", key]) fun _ doc => MetaIsObject doc := by
  apply Triple.test
  rintro doc ⟨members, hm⟩
  have hfetch : ∃ v, fetch ["meta", key] doc = .ok v := by
    cases doc with
    | object ms =>
      have hfind : (find "meta" ms).getD .null = .object members := by simpa [fetch] using hm
      exact ⟨(find key members).getD .null, by simp [fetch, hfind]⟩
    | null => exact ⟨.null, by simp⟩
    | _ => simp [fetch] at hm
  obtain ⟨v, hv⟩ := hfetch
  exact ⟨v, hv, fetch_touch_object hm _⟩

/-- The first metadata test sees that the member is an object. -/
theorem triple_test_meta (kind : Json → Bool) :
    Triple MetaIsObject (test kind ["meta"])
      fun b doc => (∃ members, b = kind (.object members)) ∧ MetaIsObject doc := by
  apply Triple.test
  rintro doc ⟨members, hm⟩
  exact ⟨.object members, hm, ⟨members, rfl⟩, fetch_touch_object hm _⟩

/-- On an object the two guards reject: whatever passes the first one is
caught by the second, which asks for the kinds with the polarity reversed. -/
theorem triple_metaCheck :
    Triple MetaIsObject metaCheck fun exit _ => exit = some (.returned false) := by
  have hkey := triple_test_meta_key
  refine Triple.bind (fun _ doc => MetaIsObject doc) ?_ ?_
  · refine Triple.orM MetaIsObject ?_ (Triple.orM MetaIsObject ?_
      (Triple.orM MetaIsObject ?_ (hkey _ _)))
    · intro doc hdoc
      obtain ⟨b, doc', he, ⟨ms, hb⟩, hm⟩ := triple_test_meta Json.isNull doc hdoc
      exact ⟨b, doc', he, by simpa [hb, Json.isNull] using hm⟩
    · intro doc hdoc
      obtain ⟨b, doc', he, hm⟩ := hkey Json.isNull "action" doc hdoc
      exact ⟨b, doc', he, by simpa using hm⟩
    · intro doc hdoc
      obtain ⟨b, doc', he, hm⟩ := hkey Json.isNull "action" doc hdoc
      exact ⟨b, doc', he, by simpa using hm⟩
  · intro b
    cases b with
    | true => exact Triple.pure fun _ _ => rfl
    | false =>
      refine Triple.bind (fun b _ => b = true) ?_ ?_
      · refine Triple.orM (fun _ => False) ?_ ?_
        · intro doc hdoc
          obtain ⟨b, doc', he, ⟨ms, hb⟩, _⟩ := triple_test_meta Json.isObject doc hdoc
          exact ⟨b, doc', he, by simp [hb, Json.isObject]⟩
        · exact fun doc hdoc => hdoc.elim
      · intro b
        cases b with
        | true => exact Triple.pure fun _ _ => rfl
        | false => exact fun doc hdoc => absurd hdoc Bool.false_ne_true

/-- Where the metadata can be indexed, the validator always answers false. -/
theorem checkIfValid_of_indexable {doc : Json} (h : MetaIndexable doc) :
    (exec checkIfValid doc).1 = .ok (.returned false) := by
  rcases fetch_meta_of_indexable h with hnull | hobject
  · have hmeta : exec metaCheck doc = (.ok (some (.returned false)), touch ["meta"] doc) := by
      simp [metaCheck, exec_orM, exec_test, hnull, Except.map, Json.isNull]
    simp [checkIfValid, hmeta]
  · obtain ⟨exit, doc', he, rfl⟩ := triple_metaCheck doc hobject
    simp [checkIfValid, he]

/-- Where it cannot, the first two tests throw between them. -/
theorem checkIfValid_of_not_indexable {doc : Json} (h : ¬ MetaIndexable doc) :
    (exec checkIfValid doc).1 = .error (.typeError 305) := by
  have haction := fetch_meta_key_of_not_indexable h "action"
  have hafter : fetch ["meta", "action"] (touch ["meta"] doc) = .error (.typeError 305) := by
    rw [fetch_touch (by simp), haction]
  cases hmeta : fetch ["meta"] doc with
  | error e =>
    have he := fetch_error hmeta
    simp [checkIfValid, metaCheck, exec_orM, exec_test, hmeta, he, Except.map]
  | ok v =>
    have hchain : fetch ["action"] v = .error (.typeError 305) := by
      rw [← fetch_append ["meta"] ["action"] hmeta]
      exact haction
    have hv : v.isNull = false := by
      cases v with
      | null => simp at hchain
      | _ => rfl
    simp [checkIfValid, metaCheck, exec_orM, exec_test, hmeta, hv, hafter, Except.map]

/-- The validator never answers true. -/
theorem checkIfValid_ne_true (doc : Json) :
    (exec checkIfValid doc).1 ≠ .ok (.returned true) := by
  by_cases h : MetaIndexable doc
  · simp [checkIfValid_of_indexable h]
  · simp [checkIfValid_of_not_indexable h]

/-- Metadata that cannot be indexed is not an object. -/
theorem malformed_of_not_indexable {doc : Json} (h : ¬ MetaIndexable doc) :
    MalformedQuery doc := by
  left
  intro members hmeta
  cases doc with
  | object ms =>
    have hfind : find "meta" ms = some (.object members) := by
      simpa [Json.at?, Option.bind_eq_some_iff] using hmeta
    exact h (by simp [MetaIndexable, hfind])
  | _ => simp [Json.at?] at hmeta

/-- The validator meets its contract exactly on the documents whose metadata
it can index and which are not well-formed queries. -/
theorem validatorContract_iff (doc : Json) :
    ValidatorContract doc ↔ MetaIndexable doc ∧ ¬ WellFormedQuery doc := by
  have hnever := checkIfValid_ne_true doc
  constructor
  · rintro ⟨haccepts, hrejects⟩
    refine ⟨?_, fun hwf => hnever (haccepts.mpr hwf)⟩
    by_contra hmeta
    have hfalse := hrejects (malformed_of_not_indexable hmeta)
    rw [checkIfValid_of_not_indexable hmeta] at hfalse
    cases hfalse
  · rintro ⟨hmeta, hwf⟩
    exact ⟨⟨fun htrue => absurd htrue hnever, fun h => absurd h hwf⟩,
      fun _ => checkIfValid_of_indexable hmeta⟩

/-- A query for the clock, with everything that the interface asks for. -/
def timeQuery : Json :=
  .object [("meta", .object [("action", .string "query"), ("ipv4", .string "172.10.2.13"),
      ("type", .string "Time")]),
    ("data", .object [("timestamp", .integer 2194832)])]

/-- The well-formed query for the clock is answered with false. -/
theorem timeQuery_rejected : ¬ ValidatorContract timeQuery := by
  rintro ⟨haccepts, _⟩
  have hwf : WellFormedQuery timeQuery := by
    refine ⟨rfl, ⟨_, rfl⟩, .Time, _, rfl, rfl, ?_⟩
    intro field hfield
    have hf : field = "timestamp" := by simpa using hfield
    exact ⟨2194832, by rw [hf]; rfl⟩
  have hfalse : (exec checkIfValid timeQuery).1 = .ok (.returned false) :=
    checkIfValid_of_indexable (by simp [MetaIndexable, timeQuery, find])
  rw [haccepts.mpr hwf] at hfalse
  cases hfalse

/-- What the handler is to refuse: metadata, action, type or data missing or
of the wrong kind, or a type that is no interface name. -/
def BadRequest (doc : Json) : Prop :=
  (∀ members, doc.at? ["meta"] ≠ some (.object members)) ∨
  (∀ s, doc.at? ["meta", "action"] ≠ some (.string s)) ∨
  (∀ members, doc.at? ["data"] ≠ some (.object members)) ∨
  ∀ label, doc.at? ["meta", "type"] ≠ some (.string (IfType.name label))

/-- The handler ends with a definite boolean on the document: false where it
is to refuse, true where a branch handles the request. -/
def HandlerContract (doc : Json) : Prop :=
  (BadRequest doc → (exec handleRqs doc).1 = .ok (.returned false)) ∧
    (¬ BadRequest doc → (exec handleRqs doc).1 = .ok (.returned true))

/-- The metadata can be indexed, and the action is missing or null, or the
data is missing or no object. -/
def RefusedEarly (doc : Json) : Prop :=
  MetaIndexable doc ∧ ((doc.at? ["meta", "action"]).getD .null = .null ∨
    ∀ members, doc.at? ["data"] ≠ some (.object members))

/-- Metadata that cannot be indexed makes the handler throw. -/
theorem handleRqs_of_not_indexable {doc : Json} (h : ¬ MetaIndexable doc) :
    (exec handleRqs doc).1 = .error (.typeError 305) := by
  have haction := fetch_meta_key_of_not_indexable h "action"
  simp [handleRqs, exec_test, haction, Except.map]

/-- What the data guard reads, once the action could be read. -/
theorem fetch_data_of_indexable {doc : Json} (h : MetaIndexable doc) :
    fetch ["data"] doc = .ok ((doc.at? ["data"]).getD .null) := by
  have hok : ∃ v, fetch ["data"] doc = .ok v := by
    cases doc with
    | null => exact ⟨.null, by simp⟩
    | object members => exact ⟨(find "data" members).getD .null, by simp [fetch]⟩
    | _ => exact h.elim
  obtain ⟨v, hv⟩ := hok
  rw [hv, fetch_eq_at? hv]

/-- The two early returns of the handler answer false. -/
theorem handleRqs_of_refusedEarly {doc : Json} (h : RefusedEarly doc) :
    (exec handleRqs doc).1 = .ok (.returned false) := by
  obtain ⟨hmeta, hearly⟩ := h
  have haction := fetch_meta_key_of_indexable hmeta "action"
  rcases hearly with hnull | hdata
  · rw [hnull] at haction
    simp [handleRqs, exec_test, haction, Except.map, Json.isNull]
  · have hfetch : fetch ["data"] (touch ["meta", "action"] doc) =
        .ok ((doc.at? ["data"]).getD .null) := by
      rw [fetch_touch (by simp), fetch_data_of_indexable hmeta]
    have hkind : ((doc.at? ["data"]).getD .null).isObject = false := by
      cases hd : doc.at? ["data"] with
      | none => rfl
      | some v =>
        cases v with
        | object members => exact absurd hd (hdata members)
        | _ => rfl
    cases hnull : ((doc.at? ["meta", "action"]).getD .null).isNull <;>
      simp [handleRqs, exec_test, exec_notKind Json.isObject rfl, haction, hfetch,
        hnull, hkind, Except.map]

/-- Past the early returns the handler ends as the else-if chain does, and it
adds no verdict to the branch. -/
theorem handleRqs_of_not_refusedEarly {doc : Json} (hmeta : MetaIndexable doc)
    (h : ¬ RefusedEarly doc) :
    ∃ doc', (exec handleRqs doc).1 =
      (exec (enteredBranch IfType.chain) doc').1.map Exit.noVerdict := by
  have hlate : ¬ ((doc.at? ["meta", "action"]).getD .null = .null ∨
      ∀ members, doc.at? ["data"] ≠ some (.object members)) := fun hor => h ⟨hmeta, hor⟩
  push Not at hlate
  obtain ⟨hnonnull, members, hdata⟩ := hlate
  have haction := fetch_meta_key_of_indexable hmeta "action"
  have hnull : ((doc.at? ["meta", "action"]).getD .null).isNull = false := by
    cases hv : (doc.at? ["meta", "action"]).getD .null with
    | null => exact absurd hv hnonnull
    | _ => rfl
  have hfetch : fetch ["data"] (touch ["meta", "action"] doc) = .ok (.object members) := by
    rw [fetch_touch (by simp), fetch_data_of_indexable hmeta, hdata]
    rfl
  refine ⟨touch ["data"] (touch ["meta", "action"] doc), ?_⟩
  simp [handleRqs, exec_test, exec_notKind Json.isObject rfl, haction, hnull,
    hfetch, Json.isObject, Except.map]

/-- The handler never answers true. -/
theorem handleRqs_ne_true (doc : Json) : (exec handleRqs doc).1 ≠ .ok (.returned true) := by
  by_cases hmeta : MetaIndexable doc
  · by_cases hearly : RefusedEarly doc
    · simp [handleRqs_of_refusedEarly hearly]
    · obtain ⟨doc', he⟩ := handleRqs_of_not_refusedEarly hmeta hearly
      rw [he]
      cases (exec (enteredBranch IfType.chain) doc').1 <;> simp [Except.map]
  · simp [handleRqs_of_not_indexable hmeta]

/-- The handler answers false exactly on its early returns. -/
theorem handleRqs_false_iff (doc : Json) :
    (exec handleRqs doc).1 = .ok (.returned false) ↔ RefusedEarly doc := by
  refine ⟨fun hfalse => ?_, handleRqs_of_refusedEarly⟩
  by_contra hearly
  by_cases hmeta : MetaIndexable doc
  · obtain ⟨doc', he⟩ := handleRqs_of_not_refusedEarly hmeta hearly
    rw [he] at hfalse
    cases hchain : (exec (enteredBranch IfType.chain) doc').1 <;>
      simp [hchain, Except.map] at hfalse
  · simp [handleRqs_of_not_indexable hmeta] at hfalse

/-- Every early return refuses a request that is to be refused. -/
theorem badRequest_of_refusedEarly {doc : Json} (h : RefusedEarly doc) : BadRequest doc := by
  rcases h.2 with hnull | hdata
  · right; left
    intro s haction
    simp [haction] at hnull
  · exact Or.inr (Or.inr (Or.inl hdata))

/-- The handler meets its contract exactly on the documents that one of its
two early returns refuses. -/
theorem handlerContract_iff (doc : Json) : HandlerContract doc ↔ RefusedEarly doc := by
  constructor
  · rintro ⟨hbad, hgood⟩
    by_cases hb : BadRequest doc
    · exact (handleRqs_false_iff doc).mp (hbad hb)
    · exact absurd (hgood hb) (handleRqs_ne_true doc)
  · intro hearly
    exact ⟨fun _ => handleRqs_of_refusedEarly hearly,
      fun hgood => absurd (badRequest_of_refusedEarly hearly) hgood⟩

/-- A request whose metadata is a string escapes the handler as an exception,
where a refusal is asked for. -/
theorem string_meta_throws : ¬ HandlerContract (.object [("meta", .string "query")]) := by
  rintro ⟨hbad, _⟩
  have hrefuse := hbad (Or.inl (by simp [Json.at?, find]))
  have hthrow : (exec handleRqs (.object [("meta", .string "query")])).1 =
      .error (.typeError 305) :=
    handleRqs_of_not_indexable (by simp [MetaIndexable, find])
  rw [hthrow] at hrefuse
  cases hrefuse

end SigIf.RequestVerdict

import SigIf.JsonValue

/-!
# What a read leaves behind

A chain of index operators inserts a null member at its end if there is none,
and nothing else as long as the rest of the chain is there. A member that is
present is left as it is, and so is a document that makes the chain throw.
-/

namespace SigIf.Insertions

open JsonValue

/-- Every member of the first document, at any depth, is in the second one with
the same value, an object perhaps with more members; only a document that is
null may have become an object. What is new in the second one is null and has
one of the paths. -/
structure OnlyNulls (paths : List (List String)) (doc after : Json) : Prop where
  kept : ∀ path v, doc.at? path = some v → ∃ v', after.at? path = some v' ∧
    (v' = v ∨ (v.isObject = true ∧ v'.isObject = true) ∨
      (path = [] ∧ v = .null ∧ v'.isObject = true))
  added : ∀ path v, after.at? path = some v → doc.at? path = none → v = .null ∧ path ∈ paths

theorem OnlyNulls.refl (paths : List (List String)) (doc : Json) : OnlyNulls paths doc doc := by
  refine ⟨fun path v h => ⟨v, h, Or.inl rfl⟩, ?_⟩
  intro path v hafter hdoc
  rw [hdoc] at hafter
  cases hafter

theorem OnlyNulls.mono {paths more : List (List String)} {doc after : Json}
    (h : OnlyNulls paths doc after) (hsub : paths ⊆ more) : OnlyNulls more doc after := by
  refine ⟨h.kept, ?_⟩
  intro path v hafter hdoc
  obtain ⟨hnull, hpath⟩ := h.added path v hafter hdoc
  exact ⟨hnull, hsub hpath⟩

/-- Changing a member to itself changes nothing. -/
theorem adjust_eq_self {key : String} {f : Json → Json} {members : List (String × Json)} {v : Json}
    (h : find key members = some v) (hf : f v = v) : adjust key f members = members := by
  induction members with
  | nil => simp [find] at h
  | cons head rest ih =>
    obtain ⟨k, w⟩ := head
    by_cases hk : k = key
    · simp only [find, if_pos hk, Option.some.injEq] at h
      simp [adjust, hk, h, hf]
    · simp only [find, if_neg hk] at h
      simp [adjust, hk, ih h]

/-- Reading a member that is there inserts nothing. -/
theorem touch_eq_self {path : List String} {doc v : Json} (h : doc.at? path = some v) :
    touch path doc = doc := by
  induction path generalizing doc with
  | nil => simp
  | cons key path ih =>
    cases doc with
    | object members =>
      obtain ⟨w, hw, hrest⟩ := Option.bind_eq_some_iff.mp h
      rw [touch, adjust_eq_self hw (ih hrest)]
    | _ => simp [Json.at?] at h

/-- A member that is there is what is read. -/
theorem fetch_of_at? {path : List String} {doc v : Json} (h : doc.at? path = some v) :
    fetch path doc = .ok v := by
  induction path generalizing doc with
  | nil =>
    obtain rfl := Option.some.inj h
    exact fetch_nil doc
  | cons key path ih =>
    cases doc with
    | object members =>
      obtain ⟨w, hw, hrest⟩ := Option.bind_eq_some_iff.mp h
      rw [fetch, hw]
      exact ih hrest
    | _ => simp [Json.at?] at h

/-- What reads as something else than null is there. -/
theorem at?_of_fetch {path : List String} {doc v : Json} (h : fetch path doc = .ok v)
    (hv : v ≠ .null) : doc.at? path = some v := by
  have hread := fetch_eq_at? h
  cases hat : doc.at? path with
  | none => exact absurd (by rw [hread, hat]; rfl) hv
  | some w =>
    rw [hread, hat]
    rfl

/-- So reading it inserts nothing. -/
theorem touch_of_fetch {path : List String} {doc v : Json} (h : fetch path doc = .ok v)
    (hv : v ≠ .null) : touch path doc = doc := touch_eq_self (at?_of_fetch h hv)

/-- A chain that throws inserts nothing on its way. -/
theorem touch_of_error {path : List String} {doc : Json} {e : JsonError}
    (h : fetch path doc = .error e) : touch path doc = doc := by
  induction path generalizing doc with
  | nil => simp at h
  | cons key path ih =>
    cases doc with
    | null => simp at h
    | object members =>
      have hrest : fetch path ((find key members).getD .null) = .error e := h
      cases hf : find key members with
      | none => simp [hf] at hrest
      | some v =>
        rw [hf] at hrest
        rw [touch, adjust_eq_self hf (ih hrest)]
    | _ => rfl

/-- A path of keys through an object starts with one of its members. -/
theorem at?_cons (key : String) (path : List String) (members : List (String × Json)) :
    (Json.object members).at? (key :: path) = (find key members).bind (Json.at? path) := rfl

/-- Changing one member touches no path that starts with another key. -/
theorem at?_adjust_of_ne {key other : String} (h : other ≠ key) (f : Json → Json)
    (members : List (String × Json)) (path : List String) :
    (Json.object (adjust key f members)).at? (other :: path) =
      (Json.object members).at? (other :: path) := by
  rw [at?_cons, at?_cons, find_adjust_of_ne h]

/-- An object with one member changed, judged by the paths through that member. -/
theorem onlyNulls_adjust {key : String} {f : Json → Json} {members : List (String × Json)}
    {paths : List (List String)}
    (hkept : ∀ path v, (Json.object members).at? (key :: path) = some v →
      ∃ v', (Json.object (adjust key f members)).at? (key :: path) = some v' ∧
        (v' = v ∨ (v.isObject = true ∧ v'.isObject = true)))
    (hadded : ∀ path v, (Json.object (adjust key f members)).at? (key :: path) = some v →
      (Json.object members).at? (key :: path) = none → v = .null ∧ key :: path ∈ paths) :
    OnlyNulls paths (.object members) (.object (adjust key f members)) := by
  constructor
  · intro path v hv
    cases path with
    | nil =>
      obtain rfl := Option.some.inj hv
      exact ⟨_, rfl, Or.inr (Or.inl ⟨rfl, rfl⟩)⟩
    | cons k rest =>
      by_cases hk : k = key
      · subst hk
        obtain ⟨v', hv', hsame⟩ := hkept rest v hv
        exact ⟨v', hv', hsame.imp_right Or.inl⟩
      · exact ⟨v, (at?_adjust_of_ne hk f members rest).trans hv, Or.inl rfl⟩
  · intro path v hafter hdoc
    cases path with
    | nil => cases hdoc
    | cons k rest =>
      by_cases hk : k = key
      · subst hk
        exact hadded rest v hafter hdoc
      · rw [at?_adjust_of_ne hk, hdoc] at hafter
        cases hafter

/-- Reading a key of an object inserts at most that key. -/
theorem onlyNulls_key (key : String) (members : List (String × Json)) :
    OnlyNulls [[key]] (.object members) (touch [key] (.object members)) := by
  rw [touch]
  refine onlyNulls_adjust ?_ ?_
  · intro path v hv
    obtain ⟨w, hw, hrest⟩ := Option.bind_eq_some_iff.mp hv
    refine ⟨v, ?_, Or.inl rfl⟩
    simpa [at?_cons, find_adjust_self, hw] using hrest
  · intro path v hafter hdoc
    rw [at?_cons, find_adjust_self, touch_nil, Option.bind_some] at hafter
    cases hf : find key members with
    | none =>
      -- the new member is null, and no path goes on from it
      rw [hf, Option.getD_none] at hafter
      cases path with
      | nil => exact ⟨(Option.some.inj hafter).symm, List.mem_singleton_self _⟩
      | cons _ _ => cases hafter
    | some w =>
      rw [at?_cons, hf, Option.bind_some] at hdoc
      rw [hf, Option.getD_some, hdoc] at hafter
      cases hafter

/-- What is inserted into a member that is not null is inserted into the object. -/
theorem onlyNulls_member {key : String} {f : Json → Json} {members : List (String × Json)}
    {w : Json} {paths : List (List String)} (hw : find key members = some w) (hne : w ≠ .null)
    (h : OnlyNulls paths w (f w)) :
    OnlyNulls (paths.map (key :: ·)) (.object members) (.object (adjust key f members)) := by
  have hbefore (path : List String) : (Json.object members).at? (key :: path) = w.at? path := by
    rw [at?_cons, hw, Option.bind_some]
  have hafter (path : List String) :
      (Json.object (adjust key f members)).at? (key :: path) = (f w).at? path := by
    rw [at?_cons, find_adjust_self, hw, Option.getD_some, Option.bind_some]
  refine onlyNulls_adjust ?_ ?_
  · intro path v hv
    rw [hbefore] at hv
    obtain ⟨v', hv', hsame⟩ := h.kept path v hv
    refine ⟨v', (hafter path).trans hv', ?_⟩
    rcases hsame with hsame | hsame | ⟨rfl, rfl, _⟩
    · exact Or.inl hsame
    · exact Or.inr hsame
    · exact absurd (Option.some.inj hv) hne
  · intro path v hv hdoc
    obtain ⟨hnull, hpath⟩ := h.added path v ((hafter path).symm.trans hv)
      ((hbefore path).symm.trans hdoc)
    exact ⟨hnull, List.mem_map_of_mem hpath⟩

/-- Reading a member of an object that is there inserts at most that member. -/
theorem onlyNulls_touch {parent : List String} {doc : Json} {members : List (String × Json)}
    (h : doc.at? parent = some (.object members)) (key : String) :
    OnlyNulls [parent ++ [key]] doc (touch (parent ++ [key]) doc) := by
  induction parent generalizing doc with
  | nil =>
    obtain rfl := Option.some.inj h
    exact onlyNulls_key key members
  | cons first parent ih =>
    cases doc with
    | object ms =>
      obtain ⟨w, hw, hparent⟩ := Option.bind_eq_some_iff.mp h
      have hne : w ≠ .null := by
        rintro rfl
        cases parent <;> simp [Json.at?] at hparent
      exact onlyNulls_member hw hne (ih hparent)
    | _ => simp [Json.at?] at h

/-- Reading a key of a null document makes it an object with that key. -/
theorem onlyNulls_touch_null (key : String) : OnlyNulls [[key]] .null (touch [key] .null) := by
  constructor
  · intro path v hv
    cases path with
    | nil =>
      obtain rfl := Option.some.inj hv
      exact ⟨_, rfl, Or.inr (Or.inr ⟨rfl, rfl, rfl⟩)⟩
    | cons _ _ => cases hv
  · intro path v hafter hdoc
    cases path with
    | nil => cases hdoc
    | cons k rest =>
      simp only [touch, at?_cons, find] at hafter
      by_cases hk : key = k
      · rw [if_pos hk] at hafter
        cases rest with
        | nil =>
          subst hk
          exact ⟨(Option.some.inj hafter).symm, List.mem_singleton_self _⟩
        | cons _ _ => cases hafter
      · rw [if_neg hk] at hafter
        cases hafter

/-- Reading a key of any document inserts at most that key. -/
theorem onlyNulls_touch_top (key : String) (doc : Json) :
    OnlyNulls [[key]] doc (touch [key] doc) := by
  cases doc with
  | null => exact onlyNulls_touch_null key
  | object members => exact onlyNulls_key key members
  | _ => exact .refl _ _

end SigIf.Insertions

import SigIf.JsonValue

/-!
# Values that are documented by a sample

A format may be documented by one sample value of it. A value fits the sample
if it has the same keys and kinds, with any number of elements where the sample
has an array. A fitting value is spoiled by removing one documented member, or
by replacing it by a value of another kind, at any depth.
-/

namespace SigIf.Samples

open JsonValue

/-- Remove the member under a key. -/
def erase (key : String) (members : List (String × Json)) : List (String × Json) :=
  members.filter fun member => member.1 ≠ key

/-- Replace the member under a key. -/
def put (key : String) (value : Json) (members : List (String × Json)) : List (String × Json) :=
  adjust key (fun _ => value) members

/-- The two values are of one kind. -/
def sameKind : Json → Json → Bool
  | .null, .null => true
  | .boolean _, .boolean _ => true
  | .integer _, .integer _ => true
  | .float _ _, .float _ _ => true
  | .string _, .string _ => true
  | .array _, .array _ => true
  | .object _, .object _ => true
  | _, _ => false

/-- The value has the form of the sample. The first element of a sample array
stands for all elements. -/
inductive Fits : Json → Json → Prop where
  | integer (m n : ℤ) : Fits (.integer m) (.integer n)
  | string (s t : String) : Fits (.string s) (.string t)
  | array {sample : Json} {rest elems : List Json} (h : ∀ elem ∈ elems, Fits sample elem) :
      Fits (.array (sample :: rest)) (.array elems)
  | object {samples members : List (String × Json)}
      (keys : ∀ key, (find key members).isSome = (find key samples).isSome)
      (h : ∀ key sample value, find key samples = some sample → find key members = some value →
        Fits sample value) : Fits (.object samples) (.object members)

/-- The last value is the second one with one documented member spoiled. -/
inductive Spoils : Json → Json → Json → Prop where
  | removed {samples members : List (String × Json)} {key : String} {sample : Json}
      (h : find key samples = some sample) :
      Spoils (.object samples) (.object members) (.object (erase key members))
  | replaced {samples members : List (String × Json)} {key : String} {sample value : Json}
      (h : find key samples = some sample) (hkind : sameKind sample value = false) :
      Spoils (.object samples) (.object members) (.object (put key value members))
  | inMember {samples members : List (String × Json)} {key : String} {sample value spoiled : Json}
      (h : find key samples = some sample) (hvalue : find key members = some value)
      (hspoils : Spoils sample value spoiled) :
      Spoils (.object samples) (.object members) (.object (put key spoiled members))
  | inElement {sample : Json} {rest elems : List Json} {i : ℕ} {elem spoiled : Json}
      (h : elems[i]? = some elem) (hspoils : Spoils sample elem spoiled) :
      Spoils (.array (sample :: rest)) (.array elems) (.array (elems.set i spoiled))

theorem find_erase_self (key : String) (members : List (String × Json)) :
    find key (erase key members) = none := by
  induction members with
  | nil => rfl
  | cons head rest ih =>
    obtain ⟨k, v⟩ := head
    by_cases hk : k = key
    · simpa [erase, hk] using ih
    · simpa [erase, find, hk] using ih

theorem find_erase_of_ne {key other : String} (h : other ≠ key) (members : List (String × Json)) :
    find other (erase key members) = find other members := by
  induction members with
  | nil => rfl
  | cons head rest ih =>
    obtain ⟨k, v⟩ := head
    by_cases hk : k = key
    · subst hk
      simpa [erase, find, h.symm] using ih
    · by_cases ho : k = other
      · subst ho
        simp [erase, find, hk]
      · simpa [erase, find, hk, ho] using ih

theorem find_put_self (key : String) (value : Json) (members : List (String × Json)) :
    find key (put key value members) = some value := find_adjust_self key _ members

/-- Every documented member is an integer. -/
def IntegerSamples (samples : List (String × Json)) : Prop :=
  ∀ key sample, find key samples = some sample → ∃ n, sample = .integer n

/-- The keys are the documented ones. -/
def SameKeys (keys : List String) (samples : List (String × Json)) : Prop :=
  ∀ key, key ∈ keys ↔ (find key samples).isSome = true

instance (keys : List String) (samples : List (String × Json)) :
    Decidable (SameKeys keys samples) :=
  decidable_of_iff (keys ⊆ samples.map (·.1) ∧ samples.map (·.1) ⊆ keys)
    (by simp only [SameKeys, find_isSome_iff, iff_def, forall_and, List.subset_def])

/-- What fits an object is an object. -/
theorem Fits.exists_object {samples : List (String × Json)} {value : Json}
    (h : Fits (.object samples) value) : ∃ members, value = .object members := by
  cases h with
  | @object _ members _ _ => exact ⟨members, rfl⟩

/-- It stays one when it is spoiled. -/
theorem Spoils.exists_object {samples : List (String × Json)} {value spoiled : Json}
    (h : Spoils (.object samples) value spoiled) : ∃ members, spoiled = .object members := by
  cases h <;> exact ⟨_, rfl⟩

/-- Nothing inside of an integer can be spoiled. -/
theorem not_spoils_integer {n : ℤ} {value spoiled : Json} :
    ¬ Spoils (.integer n) value spoiled := by
  intro h
  cases h

/-- A documented member is there, and fits. -/
theorem Fits.exists_member {samples members : List (String × Json)} {key : String} {sample : Json}
    (hfits : Fits (.object samples) (.object members)) (hsample : find key samples = some sample) :
    ∃ value, find key members = some value ∧ Fits sample value := by
  cases hfits with
  | object hkeys h =>
    have hsome : (find key members).isSome = true := by rw [hkeys, hsample]; rfl
    obtain ⟨value, hvalue⟩ := Option.isSome_iff_exists.mp hsome
    exact ⟨value, hvalue, h key sample value hsample hvalue⟩

/-- Every member is documented, and fits. -/
theorem Fits.exists_sample {samples members : List (String × Json)} {key : String} {value : Json}
    (hfits : Fits (.object samples) (.object members)) (hvalue : find key members = some value) :
    ∃ sample, find key samples = some sample ∧ Fits sample value := by
  cases hfits with
  | object hkeys h =>
    have hsome : (find key samples).isSome = true := by rw [← hkeys, hvalue]; rfl
    obtain ⟨sample, hsample⟩ := Option.isSome_iff_exists.mp hsome
    exact ⟨sample, hsample, h key sample value hsample hvalue⟩

/-- An object that fits a sample of integers has integers, and only there. -/
theorem hasIntegers_iff_of_fits {samples members : List (String × Json)}
    (hint : IntegerSamples samples) (hfits : Fits (.object samples) (.object members))
    (keys : List String) :
    HasIntegers keys members ↔ ∀ key ∈ keys, (find key samples).isSome = true := by
  constructor
  · intro hall key hkey
    obtain ⟨n, hn⟩ := hall key hkey
    obtain ⟨sample, hsample, _⟩ := hfits.exists_sample hn
    exact Option.isSome_iff_exists.mpr ⟨sample, hsample⟩
  · intro hall key hkey
    obtain ⟨sample, hsample⟩ := Option.isSome_iff_exists.mp (hall key hkey)
    obtain ⟨m, rfl⟩ := hint key sample hsample
    obtain ⟨value, hvalue, hfit⟩ := hfits.exists_member hsample
    cases hfit with
    | integer _ n => exact ⟨n, hvalue⟩

/-- Where every documented member is tested, no way to spoil one goes unseen. -/
theorem not_hasIntegers_of_spoils {samples members spoiled : List (String × Json)}
    (hint : IntegerSamples samples) {keys : List String} (hsame : SameKeys keys samples)
    (hspoils : Spoils (.object samples) (.object members) (.object spoiled)) :
    ¬ HasIntegers keys spoiled := by
  intro hall
  have htested {key : String} {sample : Json} (h : find key samples = some sample) :
      ∃ n, find key spoiled = some (.integer n) :=
    hall key ((hsame key).mpr (by rw [h]; rfl))
  cases hspoils with
  | @removed _ _ key sample h =>
    obtain ⟨n, hn⟩ := htested h
    simp [find_erase_self] at hn
  | @replaced _ _ key sample value h hkind =>
    obtain ⟨n, hn⟩ := htested h
    obtain ⟨m, rfl⟩ := hint key sample h
    rw [find_put_self] at hn
    cases hn
    simp [sameKind] at hkind
  | inMember h hvalue hinner =>
    obtain ⟨m, rfl⟩ := hint _ _ h
    exact not_spoils_integer hinner

/-- Tests for integers under some keys accept an object that fits, and reject
every way to spoil it, exactly if the keys are the documented ones. -/
theorem exact_on_object_iff {samples members : List (String × Json)}
    (hint : IntegerSamples samples) (hfits : Fits (.object samples) (.object members))
    (keys : List String) :
    (HasIntegers keys members ∧ ∀ spoiled, Spoils (.object samples) (.object members)
      (.object spoiled) → ¬ HasIntegers keys spoiled) ↔ SameKeys keys samples := by
  rw [hasIntegers_iff_of_fits hint hfits]
  constructor
  · rintro ⟨haccepts, hrejects⟩ key
    refine ⟨haccepts key, ?_⟩
    intro hsome
    by_contra hkey
    obtain ⟨sample, hsample⟩ := Option.isSome_iff_exists.mp hsome
    -- without its test the member can be removed unseen
    refine hrejects _ (.removed hsample) ?_
    intro other hother
    have hne : other ≠ key := fun he => hkey (he ▸ hother)
    obtain ⟨n, hn⟩ := (hasIntegers_iff_of_fits hint hfits keys).mpr haccepts other hother
    exact ⟨n, by rw [find_erase_of_ne hne, hn]⟩
  · intro hsame
    exact ⟨fun key hkey => (hsame key).mp hkey,
      fun spoiled hspoils => not_hasIntegers_of_spoils hint hsame hspoils⟩

end SigIf.Samples

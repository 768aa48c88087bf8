import Mathlib.Data.List.Basic
import Mathlib.Data.Int.Init
import SigIf.Programs

/-!
# JSON values read through an inserting index operator

A value is a tree of the seven JSON kinds. The index operator of a mutable
value finds the member of an object, inserts a null member where the object
has none, turns a null into an object first, and throws on every other kind.
A read is therefore also a write, and the programs that read a document have
the document as their state.
-/

namespace SigIf.JsonValue

open Programs

/-- A JSON value. A member list stands for the map of its first occurrences;
a floating-point number is mantissa times two to the exponent. -/
inductive Json where
  | null
  | boolean (b : Bool)
  | integer (n : ℤ)
  | float (mantissa exponent : ℤ)
  | string (s : String)
  | array (elems : List Json)
  | object (members : List (String × Json))

/-- Exceptions of the library: a type error with its documented number, and
a text that is not JSON. -/
inductive JsonError where
  | typeError (id : ℕ)
  | parseError
  deriving DecidableEq

/-- Whether the value is null. -/
def Json.isNull : Json → Bool
  | .null => true
  | _ => false

/-- Whether the value is an object. -/
def Json.isObject : Json → Bool
  | .object _ => true
  | _ => false

/-- Whether the value is an array. -/
def Json.isArray : Json → Bool
  | .array _ => true
  | _ => false

/-- Whether the value is a string. -/
def Json.isString : Json → Bool
  | .string _ => true
  | _ => false

/-- Whether the value is an integral number, signed or unsigned. -/
def Json.isNumberInteger : Json → Bool
  | .integer _ => true
  | _ => false

/-- The member under a key, if the object has one. -/
def find (key : String) : List (String × Json) → Option Json
  | [] => none
  | (k, v) :: rest => if k = key then some v else find key rest

/-- Change the member under a key, inserting a null one first where the
object has none. -/
def adjust (key : String) (f : Json → Json) : List (String × Json) → List (String × Json)
  | [] => [(key, f .null)]
  | (k, v) :: rest => if k = key then (k, f v) :: rest else (k, v) :: adjust key f rest

/-- A member is found under the keys that occur. -/
theorem find_isSome_iff (key : String) (members : List (String × Json)) :
    (find key members).isSome = true ↔ key ∈ members.map (·.1) := by
  induction members with
  | nil => simp [find]
  | cons head rest ih =>
    obtain ⟨k, v⟩ := head
    by_cases hk : k = key
    · simp [find, hk]
    · simp [find, hk, ih, Ne.symm hk]

theorem find_singleton_iff {key other : String} {value found : Json} :
    find key [(other, value)] = some found ↔ other = key ∧ value = found := by
  simp [find]

theorem find_adjust_self (key : String) (f : Json → Json) (members : List (String × Json)) :
    find key (adjust key f members) = some (f ((find key members).getD .null)) := by
  induction members with
  | nil => simp [adjust, find]
  | cons head rest ih =>
    obtain ⟨k, v⟩ := head
    by_cases hk : k = key
    · simp [adjust, find, hk]
    · simp [adjust, find, hk, ih]

theorem find_adjust_of_ne {key other : String} (h : other ≠ key) (f : Json → Json)
    (members : List (String × Json)) :
    find other (adjust key f members) = find other members := by
  induction members with
  | nil => simp [adjust, find, h.symm]
  | cons head rest ih =>
    obtain ⟨k, v⟩ := head
    by_cases hk : k = key
    · subst hk
      simp [adjust, find, h.symm]
    · simp [adjust, find, hk, ih]

theorem adjust_adjust (key : String) (f g : Json → Json) (members : List (String × Json)) :
    adjust key g (adjust key f members) = adjust key (fun v => g (f v)) members := by
  induction members with
  | nil => simp [adjust]
  | cons head rest ih =>
    obtain ⟨k, v⟩ := head
    by_cases hk : k = key
    · simp [adjust, hk]
    · simp [adjust, hk, ih]

/-- The value that a chain of index operators reads: an absent member reads
as null, and indexing anything but null and objects is type error 305. -/
def fetch : List String → Json → Except JsonError Json
  | [], v => .ok v
  | _ :: path, .null => fetch path .null
  | key :: path, .object members => fetch path ((find key members).getD .null)
  | _ :: _, _ => .error (.typeError 305)

/-- What the same chain leaves behind. It inserts no member where it throws. -/
def touch : List String → Json → Json
  | [], v => v
  | key :: path, .null => .object [(key, touch path .null)]
  | key :: path, .object members => .object (adjust key (touch path) members)
  | _ :: _, v => v

@[simp] theorem fetch_nil (v : Json) : fetch [] v = .ok v := by cases v <;> rfl

@[simp] theorem touch_nil (v : Json) : touch [] v = v := by cases v <;> rfl

@[simp] theorem fetch_null (path : List String) : fetch path .null = .ok .null := by
  induction path with
  | nil => rfl
  | cons key path ih => simpa [fetch] using ih

/-- Reading along a chain a second time inserts nothing more. -/
theorem touch_touch (path : List String) (doc : Json) :
    touch path (touch path doc) = touch path doc := by
  induction path generalizing doc with
  | nil => simp
  | cons key path ih =>
    cases doc with
    | null => simp [touch, adjust, ih]
    | object members => simp [touch, adjust_adjust, ih]
    | _ => rfl

/-- Touching an object leaves an object. -/
theorem touch_object (path : List String) (members : List (String × Json)) :
    ∃ members', touch path (.object members) = .object members' := by
  cases path with
  | nil => exact ⟨members, rfl⟩
  | cons key path => exact ⟨_, rfl⟩

/-- Where a chain reads an object, it still reads one after any other chain
has inserted its nulls. -/
theorem fetch_touch_object {path : List String} {doc : Json} {members : List (String × Json)}
    (h : fetch path doc = .ok (.object members)) (other : List String) :
    ∃ members', fetch path (touch other doc) = .ok (.object members') := by
  induction path generalizing doc other with
  | nil =>
    have hdoc : doc = .object members := by simpa using h
    obtain ⟨members', hm⟩ := touch_object other members
    exact ⟨members', by rw [hdoc, hm]; rfl⟩
  | cons key path ih =>
    cases doc with
    | object ms =>
      have hfetch : fetch path ((find key ms).getD .null) = .ok (.object members) := h
      cases other with
      | nil => exact ⟨members, h⟩
      | cons key' other =>
        by_cases hk : key = key'
        · subst hk
          obtain ⟨members', hm⟩ := ih hfetch other
          exact ⟨members', by simpa [touch, fetch, find_adjust_self] using hm⟩
        · exact ⟨members, by simpa [touch, fetch, find_adjust_of_ne hk] using hfetch⟩
    | null => simp at h
    | boolean b => simp [fetch] at h
    | integer n => simp [fetch] at h
    | float m e => simp [fetch] at h
    | string s => simp [fetch] at h
    | array elems => simp [fetch] at h

/-- An absent member and a null member read alike: what a chain inserts is
seen only by the chains that stop strictly above its end. -/
theorem fetch_touch {path other : List String} (h : ∀ key rest, other ≠ path ++ key :: rest)
    (doc : Json) : fetch path (touch other doc) = fetch path doc := by
  induction path generalizing other doc with
  | nil =>
    cases other with
    | nil => simp
    | cons key rest => exact absurd rfl (h key rest)
  | cons key path ih =>
    cases other with
    | nil => simp
    | cons key' other =>
      by_cases hk : key = key'
      · subst hk
        have htail : ∀ k rest, other ≠ path ++ k :: rest := by
          intro k rest he
          exact h k rest (by rw [he]; rfl)
        cases doc with
        | null => simpa [touch, fetch, find] using ih htail .null
        | object members =>
          simpa [touch, fetch, find_adjust_self] using ih htail ((find key members).getD .null)
        | _ => rfl
      · cases doc with
        | null => simp [touch, fetch, find, Ne.symm hk]
        | object members => simp [touch, fetch, find_adjust_of_ne hk]
        | _ => rfl

/-- Indexing throws no other exception than type error 305. -/
theorem fetch_error {path : List String} {doc : Json} {e : JsonError}
    (h : fetch path doc = .error e) : e = .typeError 305 := by
  induction path generalizing doc with
  | nil => simp at h
  | cons key path ih =>
    cases doc with
    | null => simp at h
    | object members => exact ih h
    | _ => exact (Except.error.inj h).symm

/-- A longer chain goes on from the value that the shorter one reads. -/
theorem fetch_append (path more : List String) {doc v : Json} (h : fetch path doc = .ok v) :
    fetch (path ++ more) doc = fetch more v := by
  induction path generalizing doc with
  | nil =>
    have hv : doc = v := by simpa using h
    simp [hv]
  | cons key path ih =>
    cases doc with
    | null =>
      have hv : Json.null = v := by simpa using h
      simp [← hv]
    | object members => exact ih h
    | _ => simp [fetch] at h

/-- The member that a path of keys leads to, without insertions. -/
def Json.at? : List String → Json → Option Json
  | [], v => some v
  | key :: path, .object members => (find key members).bind (at? path)
  | _ :: _, _ => none

theorem at?_singleton (key : String) (members : List (String × Json)) :
    (Json.object members).at? [key] = find key members := by
  cases hf : find key members <;> simp [Json.at?, hf]

/-- A chain that does not throw reads the member it leads to, or null. -/
theorem fetch_eq_at? {path : List String} {doc v : Json} (h : fetch path doc = .ok v) :
    v = (doc.at? path).getD .null := by
  induction path generalizing doc with
  | nil => simpa [Json.at?] using h.symm
  | cons key path ih =>
    cases doc with
    | null =>
      have hv : Json.null = v := by simpa using h
      simp [Json.at?, hv]
    | object members =>
      have hfetch : fetch path ((find key members).getD .null) = .ok v := h
      cases hf : find key members with
      | none =>
        rw [hf] at hfetch
        have hv : Json.null = v := by simpa using hfetch
        simp [Json.at?, hf, hv]
      | some member =>
        rw [hf] at hfetch
        simpa [Json.at?, hf] using ih hfetch
    | boolean b => simp [fetch] at h
    | integer n => simp [fetch] at h
    | float m e => simp [fetch] at h
    | string s => simp [fetch] at h
    | array elems => simp [fetch] at h

/-- There is an integer under every one of the keys. -/
def HasIntegers (keys : List String) (members : List (String × Json)) : Prop :=
  ∀ key ∈ keys, ∃ n, find key members = some (.integer n)

/-- Reading a member of an object changes no integer in it. -/
theorem find_integer_adjust (key other : String) (members : List (String × Json)) (n : ℤ) :
    find other (adjust key (touch []) members) = some (.integer n) ↔
      find other members = some (.integer n) := by
  by_cases ho : other = key
  · subst ho
    rw [find_adjust_self]
    cases hf : find other members <;> simp
  · rw [find_adjust_of_ne ho]

/-- A program over one mutable document. -/
abbrev Access (α : Type) := Program JsonError Json α

/-- The chain of index operators along a path. -/
def index (path : List String) : Access Json := fun doc => (fetch path doc, touch path doc)

/-- Test a value read along a path. -/
def test (kind : Json → Bool) (path : List String) : Access Bool := do
  return kind (← index path)

/-- `get<std::string>`; every other kind is type error 302. -/
def Json.getString : Json → Except JsonError String
  | .string s => .ok s
  | _ => .error (.typeError 302)

/-- Read a string along a path. -/
def getString (path : List String) : Access String := do
  attempt (← index path).getString

/-- What a range-based loop over a value visits: the elements of an array, the
member values of an object in the order of their keys, nothing of a null, and
any other value itself. -/
def Json.elements : Json → List Json
  | .null => []
  | .array elems => elems
  | .object members =>
    ((members.eraseDupsBy fun a b => a.1 == b.1).mergeSort fun a b => a.1 ≤ b.1).map (·.2)
  | v => [v]

/-- Run a program on a local copy of a value, which is dropped afterwards. -/
def onCopy {α : Type} (copy : Json) (program : Access α) : Access α :=
  fun doc => ((exec program copy).1, doc)

@[simp] theorem exec_index (path : List String) (doc : Json) :
    exec (index path) doc = (fetch path doc, touch path doc) := rfl

/-- A test reads along its path and inserts what the chain inserts. -/
theorem exec_test (kind : Json → Bool) (path : List String) (doc : Json) :
    exec (test kind path) doc = ((fetch path doc).map kind, touch path doc) := by
  simp only [test, exec_bind, exec_index]
  cases fetch path doc <;> rfl

/-- The rule of a single test. -/
theorem Triple.test {pre : Json → Prop} {kind : Json → Bool} {path : List String}
    {post : Bool → Json → Prop}
    (h : ∀ doc, pre doc → ∃ v, fetch path doc = .ok v ∧ post (kind v) (touch path doc)) :
    Triple pre (JsonValue.test kind path) post := by
  intro doc hdoc
  obtain ⟨v, hv, hpost⟩ := h doc hdoc
  exact ⟨kind v, touch path doc, by rw [exec_test, hv]; rfl, hpost⟩

end SigIf.JsonValue

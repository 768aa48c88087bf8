import SigIf.Request

/-!
# Dispatch on the message type

The data check and the handler each choose their branch by an else-if chain on
the type. `compare` is zero on equality and the chains enter a branch where it
is not zero, so they take the first constant that the type is not. That is one
of the first two constants, whatever the type.
-/

namespace SigIf.Dispatch

open Programs JsonValue Constants Request

/-- The else-if chain of the data check. -/
def validatorChain : Access (Option IfType) := enteredBranch IfType.chain

/-- The else-if chain of `HandleRqs`. -/
def handlerChain : Access (Option IfType) := enteredBranch IfType.chain

/-- The rest of the data check once its chain has chosen a branch. -/
def afterChain (data : Json) (branch : Option IfType) : Access Exit := do
  let rejected ← match branch with
    | some label => onCopy data (branchRejects (fieldTests label))
    | none => pure false
  if rejected then return .returned false
  if ← test Json.isNull ["data"] then return .returned false
  return .noVerdict branch

/-- The data check up to its chain, the chain, and the rest. -/
theorem dataCheck_eq : dataCheck = (do
    if stringCompare (← getString ["meta", "action"]) "query" ≠ 0 then
      if ← notKind Json.isObject ["data"] then
        return .returned false
      let data ← index ["data"]
      let branch ← validatorChain
      afterChain data branch
    else
      return .returned false) := rfl

/-- The handler up to its chain, the chain, and no verdict. -/
theorem handleRqs_eq : handleRqs = (do
    if ← test Json.isNull ["meta", "action"] then return .returned false
    if ← notKind Json.isObject ["data"] then
      return .returned false
    let branch ← handlerChain
    return .noVerdict branch) := rfl

/-- On a document with this type the chain enters the branch of a constant
exactly if the type is that constant, and none if it is no constant. -/
structure ExactOn (chain : Access (Option IfType)) (t : String) (doc : Json) : Prop where
  enters : ∀ label, (exec chain doc).1 = .ok (some label) ↔ t = IfType.name label
  ignores : (∀ label, t ≠ IfType.name label) → (exec chain doc).1 = .ok none

theorem stringCompare_ne_zero_iff (s literal : String) :
    stringCompare s literal ≠ 0 ↔ s ≠ literal := by
  unfold stringCompare
  split
  · simp_all
  · split <;> simp_all

theorem exec_getString (path : List String) (doc : Json) :
    exec (getString path) doc = ((fetch path doc).bind Json.getString, touch path doc) := by
  simp only [getString, exec_bind, exec_index]
  cases fetch path doc <;> rfl

/-- A chain reads the type as often as it has to, and takes the first constant
that differs from it. -/
theorem exec_enteredBranch (label : IfType) (rest : List IfType) (doc : Json) :
    exec (enteredBranch (label :: rest)) doc =
      (((fetch ["meta", "type"] doc).bind Json.getString).map fun t =>
        (label :: rest).find? fun l => t ≠ l.name, touch ["meta", "type"] doc) := by
  induction rest generalizing label doc with
  | nil =>
    simp only [enteredBranch, exec_bind, exec_getString]
    cases (fetch ["meta", "type"] doc).bind Json.getString with
    | error e => rfl
    | ok t =>
      simp only [stringCompare_ne_zero_iff]
      by_cases ht : t = label.name <;> simp [ht, Except.map]
  | cons next rest ih =>
    have hagain : fetch ["meta", "type"] (touch ["meta", "type"] doc) =
        fetch ["meta", "type"] doc := fetch_touch (by simp) doc
    rw [enteredBranch, exec_bind, exec_getString]
    cases hread : (fetch ["meta", "type"] doc).bind Json.getString with
    | error e => rfl
    | ok t =>
      simp only [stringCompare_ne_zero_iff]
      by_cases ht : t = label.name
      · simp only [ht, ne_eq, not_true_eq_false, if_false]
        rw [ih, hagain, hread, touch_touch]
        simp [Except.map, ht]
      · simp [ht, Except.map]

/-- The branch that is taken for a type. -/
def takenBranch (t : String) : IfType :=
  if t = IfType.name .ActionTable then .CharacterParameterVersion else .ActionTable

theorem find_chain (t : String) :
    IfType.chain.find? (fun label => t ≠ label.name) = some (takenBranch t) := by
  unfold takenBranch
  by_cases ht : t = IfType.name .ActionTable
  · subst ht
    rfl
  · rw [if_neg ht, IfType.chain, List.find?_cons_of_pos (by simpa using ht)]

/-- The whole chain: whatever the type is, some branch is entered. -/
theorem exec_chain (doc : Json) :
    exec (enteredBranch IfType.chain) doc =
      (((fetch ["meta", "type"] doc).bind Json.getString).map fun t => some (takenBranch t),
        touch ["meta", "type"] doc) := by
  have h := exec_enteredBranch .ActionTable IfType.chain.tail doc
  simp only [← find_chain]
  exact h

/-- The branch that is taken is never the one of the type. -/
theorem takenBranch_name_ne (t : String) : t ≠ (takenBranch t).name := by
  unfold takenBranch
  by_cases ht : t = IfType.name .ActionTable
  · rw [if_pos ht, ht]
    decide
  · rw [if_neg ht]
    exact ht

/-- Both chains take the same branch for every type. -/
theorem enters_takenBranch {t : String} {doc : Json}
    (h : fetch ["meta", "type"] doc = .ok (.string t)) :
    (exec validatorChain doc).1 = .ok (some (takenBranch t)) ∧
      (exec handlerChain doc).1 = .ok (some (takenBranch t)) := by
  have hchain : (exec (enteredBranch IfType.chain) doc).1 = .ok (some (takenBranch t)) := by
    rw [exec_chain, h]
    rfl
  exact ⟨hchain, hchain⟩

/-- A chain that enters some branch which is not the one of the type is not exact. -/
theorem not_exactOn_of_enters {chain : Access (Option IfType)} {t : String} {doc : Json}
    {label : IfType} (h : (exec chain doc).1 = .ok (some label)) (hne : t ≠ label.name) :
    ¬ ExactOn chain t doc := fun hexact => hne ((hexact.enters label).mp h)

/-- For no type is the dispatch exact, in the validator or in the handler. -/
theorem dispatch_never_exact {t : String} {doc : Json}
    (h : fetch ["meta", "type"] doc = .ok (.string t)) :
    ¬ ExactOn validatorChain t doc ∧ ¬ ExactOn handlerChain t doc := by
  obtain ⟨hvalidator, hhandler⟩ := enters_takenBranch h
  have hne := takenBranch_name_ne t
  exact ⟨not_exactOn_of_enters hvalidator hne, not_exactOn_of_enters hhandler hne⟩

/-- A request of this type, with data for the clock. -/
def typedRequest (t : String) : Json :=
  .object [("meta", .object [("action", .string "setting"), ("ipv4", .string "172.10.2.13"),
      ("type", .string t)]),
    ("data", .object [("timestamp", .integer 2194832)])]

/-- A type that is no constant is dispatched as well. -/
theorem dispatch_never_exact_of_unknown :
    fetch ["meta", "type"] (typedRequest "Weather") = .ok (.string "Weather") ∧
      ¬ ExactOn validatorChain "Weather" (typedRequest "Weather") ∧
      ¬ ExactOn handlerChain "Weather" (typedRequest "Weather") :=
  ⟨rfl, dispatch_never_exact rfl⟩

/-- A request for the clock is taken for one for the action table, by both. -/
theorem time_dispatched_as_action_table :
    (exec validatorChain (typedRequest "Time")).1 = .ok (some .ActionTable) ∧
      (exec handlerChain (typedRequest "Time")).1 = .ok (some .ActionTable) ∧
      ¬ ExactOn validatorChain "Time" (typedRequest "Time") ∧
      ¬ ExactOn handlerChain "Time" (typedRequest "Time") := by
  have hname : "Time" ≠ IfType.name .ActionTable := by decide
  have htype : fetch ["meta", "type"] (typedRequest "Time") = .ok (.string "Time") := rfl
  obtain ⟨hvalidator, hhandler⟩ := enters_takenBranch htype
  rw [takenBranch, if_neg hname] at hvalidator hhandler
  exact ⟨hvalidator, hhandler, not_exactOn_of_enters hvalidator hname,
    not_exactOn_of_enters hhandler hname⟩

end SigIf.Dispatch

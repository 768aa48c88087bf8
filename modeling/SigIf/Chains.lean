import Mathlib.Data.List.Nodup
import Mathlib.Logic.Function.Iterate

/-!
# Chains of linked nodes

Nodes lie in a partial memory, and each has a link to the next one or none. A
chain is the list of the nodes that the links lead through until they end. It
tells where each step from its head arrives, and lasts while links are kept.
-/

namespace SigIf.Chains

variable {ρ ν : Type*} {link : ν → Option ρ} {nodes : ρ → Option ν} {p : Option ρ} {refs : List ρ}

/-- The pointer after a step. A step from nowhere leads nowhere. -/
def follow (link : ν → Option ρ) (nodes : ρ → Option ν) (p : Option ρ) : Option ρ :=
  (p.bind nodes).bind link

/-- The links lead from the pointer through exactly these nodes, and end. -/
def Chain (link : ν → Option ρ) (nodes : ρ → Option ν) : Option ρ → List ρ → Prop
  | p, [] => p = none
  | p, r :: rest => p = some r ∧ ∃ node, nodes r = some node ∧ Chain link nodes (link node) rest

/-- The pointer after some steps is the node at that place, if there is one. -/
theorem Chain.iterate_follow (h : Chain link nodes p refs) (k : ℕ) :
    (follow link nodes)^[k] p = refs[k]? := by
  induction refs generalizing p k with
  | nil =>
    obtain rfl : p = none := h
    rw [List.getElem?_nil]
    exact Function.iterate_fixed rfl k
  | cons r rest ih =>
    obtain ⟨rfl, node, hnode, hrest⟩ := h
    cases k with
    | zero => rfl
    | succ k =>
      have hstep : follow link nodes (some r) = link node := by simp [follow, hnode]
      rw [Function.iterate_succ_apply, hstep, ih hrest k, List.getElem?_cons_succ]

/-- The references of a chain are those of nodes. -/
theorem Chain.exists_node (h : Chain link nodes p refs) {r : ρ} (hr : r ∈ refs) :
    ∃ node, nodes r = some node := by
  induction refs generalizing p with
  | nil => cases hr
  | cons first rest ih =>
    obtain ⟨rfl, node, hnode, hrest⟩ := h
    rcases List.mem_cons.mp hr with rfl | hlater
    · exact ⟨node, hnode⟩
    · exact ih hrest hlater

/-- A pointer has one chain. -/
theorem Chain.unique {others : List ρ} (h : Chain link nodes p refs)
    (hothers : Chain link nodes p others) : refs = others := by
  induction refs generalizing p others with
  | nil =>
    obtain rfl : p = none := h
    cases others with
    | nil => rfl
    | cons r rest => cases hothers.1
  | cons r rest ih =>
    obtain ⟨rfl, node, hnode, hrest⟩ := h
    cases others with
    | nil => cases hothers
    | cons r' rest' =>
      obtain ⟨hsame, node', hnode', hrest'⟩ := hothers
      obtain rfl := Option.some.inj hsame
      obtain rfl := Option.some.inj (hnode.symm.trans hnode')
      rw [ih hrest hrest']

/-- The rest of a chain is the chain of its first node. -/
theorem Chain.of_append {earlier : List ρ} {r : ρ} (h : Chain link nodes p (earlier ++ r :: refs)) :
    Chain link nodes (some r) (r :: refs) := by
  induction earlier generalizing p with
  | nil =>
    obtain ⟨rfl, hrest⟩ := h
    exact ⟨rfl, hrest⟩
  | cons first earlier ih =>
    obtain ⟨_, _, _, hrest⟩ := h
    exact ih hrest

/-- No node comes twice, as the links would never end. -/
theorem Chain.nodup (h : Chain link nodes p refs) : refs.Nodup := by
  induction refs generalizing p with
  | nil => exact List.nodup_nil
  | cons r rest ih =>
    have hsplit := h
    obtain ⟨rfl, node, hnode, hrest⟩ := hsplit
    refine List.nodup_cons.mpr ⟨?_, ih hrest⟩
    intro hagain
    obtain ⟨earlier, later, rfl⟩ := List.append_of_mem hagain
    have hsame := h.unique hrest.of_append
    have hlength := congrArg List.length (List.cons.inj hsame).2
    simp only [List.length_append, List.length_cons] at hlength
    omega

/-- Writing to a node without changing its link keeps every chain. -/
theorem Chain.update [DecidableEq ρ] (h : Chain link nodes p refs) {target : ρ} {old new : ν}
    (hold : nodes target = some old) (hlink : link new = link old) :
    Chain link (Function.update nodes target (some new)) p refs := by
  induction refs generalizing p with
  | nil => exact h
  | cons r rest ih =>
    obtain ⟨rfl, node, hnode, hrest⟩ := h
    refine ⟨rfl, ?_⟩
    by_cases hr : r = target
    · subst hr
      obtain rfl := Option.some.inj (hold.symm.trans hnode)
      exact ⟨new, Function.update_self _ _ _, hlink ▸ ih hrest⟩
    · exact ⟨node, (Function.update_of_ne hr _ _).trans hnode, ih hrest⟩

end SigIf.Chains

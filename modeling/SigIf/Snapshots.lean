import Mathlib.Data.List.Chain

/-!
# A buffer that grows by the parts of a stream

A stream comes in parts, and each part is appended to a buffer. The contents
of the buffer after each part are prefixes of one another, and the last of
them depends on the stream only, not on the parts that it came in.
-/

namespace SigIf.Snapshots

variable {α : Type*}

/-- The contents of the buffer after each part. -/
def snapshots (buffer : List α) : List (List α) → List (List α)
  | [] => []
  | part :: parts => (buffer ++ part) :: snapshots (buffer ++ part) parts

theorem length_snapshots (buffer : List α) (parts : List (List α)) :
    (snapshots buffer parts).length = parts.length := by
  induction parts generalizing buffer with
  | nil => rfl
  | cons part parts ih =>
    have hrest := ih (buffer ++ part)
    simp only [snapshots, List.length_cons, hrest]

/-- The first snapshots are those of the first parts. -/
theorem take_snapshots (buffer : List α) (parts : List (List α)) (k : ℕ) :
    (snapshots buffer parts).take k = snapshots buffer (parts.take k) := by
  induction parts generalizing buffer k with
  | nil => simp [snapshots]
  | cons part parts ih =>
    cases k with
    | zero => rfl
    | succ k =>
      have hrest := ih (buffer ++ part) k
      simp only [snapshots, List.take_succ_cons, hrest]

/-- Each snapshot is a prefix of the next one. -/
theorem isChain_snapshots (buffer : List α) (parts : List (List α)) :
    List.IsChain (· <+: ·) (snapshots buffer parts) := by
  induction parts generalizing buffer with
  | nil => exact .nil
  | cons part parts ih =>
    have hrest := ih (buffer ++ part)
    cases parts with
    | nil => exact .singleton _
    | cons next parts => exact .cons_cons (List.prefix_append _ _) hrest

/-- The last snapshot is the old content and all of the stream. -/
theorem getLast?_snapshots (buffer : List α) {parts : List (List α)} (h : parts ≠ []) :
    (snapshots buffer parts).getLast? = some (buffer ++ parts.flatten) := by
  induction parts generalizing buffer with
  | nil => exact absurd rfl h
  | cons part parts ih =>
    cases parts with
    | nil => simp [snapshots]
    | cons next parts =>
      have hrest := ih (buffer ++ part) (List.cons_ne_nil _ _)
      rw [snapshots] at hrest ⊢
      rw [snapshots, List.getLast?_cons_cons, hrest]
      simp

end SigIf.Snapshots

import SigIf.Ownership

/-!
# What later calls leave of the descriptors that are open

One table extends another if every descriptor that was open is still open and
blocks or does not block as before, and every other open descriptor blocks.
Every call that only hands out descriptors, uses them, or closes what was not
open at first extends the table, whatever it returns.
-/

namespace SigIf.Inheritance

open Posix

/-- The descriptor is open and its status flags contain `O_NONBLOCK`. -/
def Nonblocking (os : Kernel) (fd : ℤ) : Prop :=
  ∃ file, os.file fd = some file ∧ file.nonblock = true

instance (os : Kernel) (fd : ℤ) : Decidable (Nonblocking os fd) :=
  match hf : os.file fd with
  | none => .isFalse fun ⟨file, h, _⟩ => by simp [hf] at h
  | some file => decidable_of_iff (file.nonblock = true) (by simp [Nonblocking, hf])

/-- The second table has what the first one has, and otherwise only descriptors
that block. -/
structure Extends (os next : Kernel) : Prop where
  kept : ∀ fd file, os.file fd = some file →
    ∃ file', next.file fd = some file' ∧ file'.nonblock = file.nonblock
  blocking : ∀ fd file', os.file fd = none → next.file fd = some file' → file'.nonblock = false

variable {os next last : Kernel}

theorem Extends.refl (os : Kernel) : Extends os os := by
  refine ⟨fun fd file h => ⟨file, h, rfl⟩, ?_⟩
  intro fd file' hnone hsome
  rw [hnone] at hsome
  cases hsome

theorem Extends.trans (h : Extends os next) (h' : Extends next last) : Extends os last := by
  constructor
  · intro fd file hf
    obtain ⟨file', hf', he⟩ := h.kept fd file hf
    obtain ⟨file'', hf'', he'⟩ := h'.kept fd file' hf'
    exact ⟨file'', hf'', he'.trans he⟩
  · intro fd file'' hnone hsome
    cases hmid : next.file fd with
    | none => exact h'.blocking fd file'' hmid hsome
    | some file' =>
      obtain ⟨file₂, hf₂, he⟩ := h'.kept fd file' hmid
      have hsame : file₂ = file'' := by rw [hf₂] at hsome; exact Option.some.inj hsome
      rw [← hsame, he]
      exact h.blocking fd file' hnone hmid

theorem Extends.isOpen (h : Extends os next) {fd : ℤ} (hopen : os.IsOpen fd) :
    next.IsOpen fd := by
  obtain ⟨file, hf⟩ := Option.isSome_iff_exists.mp hopen
  obtain ⟨file', hf', _⟩ := h.kept fd file hf
  exact Option.isSome_iff_exists.mpr ⟨file', hf'⟩

/-- No descriptor gains or loses `O_NONBLOCK`. -/
theorem Extends.nonblocking_iff (h : Extends os next) (fd : ℤ) :
    Nonblocking next fd ↔ Nonblocking os fd := by
  constructor
  · rintro ⟨file', hf', hn⟩
    cases hf : os.file fd with
    | none => simp [h.blocking fd file' hf hf'] at hn
    | some file =>
      obtain ⟨file₂, hf₂, he⟩ := h.kept fd file hf
      have hsame : file₂ = file' := by rw [hf₂] at hf'; exact Option.some.inj hf'
      exact ⟨file, hf, by rw [← he, hsame]; exact hn⟩
  · rintro ⟨file, hf, hn⟩
    obtain ⟨file', hf', he⟩ := h.kept fd file hf
    exact ⟨file', hf', he.trans hn⟩

/-- A table that gains one fresh descriptor where none was open. -/
theorem extends_fresh {fd : ℤ} (hfree : ¬ os.IsOpen fd) (hnew : ∀ other, next.file other =
    if other = fd ∧ 0 ≤ fd then some OpenFile.fresh else os.file other) : Extends os next := by
  constructor
  · intro other file hf
    have hne : other ≠ fd := by
      rintro rfl
      exact hfree (Option.isSome_iff_exists.mpr ⟨file, hf⟩)
    exact ⟨file, by rw [hnew, if_neg (fun hc => hne hc.1), hf], rfl⟩
  · intro other file' hnone hsome
    rw [hnew] at hsome
    split at hsome
    · rw [← Option.some.inj hsome]
      rfl
    · rw [hnone] at hsome
      cases hsome

theorem not_isOpen_socket (os : Kernel) (pick : Option ℕ) : ¬ os.IsOpen (os.socket pick).1 := by
  intro hopen
  rcases os.allocate_cases pick with hfail | ⟨_, hfree⟩
  · have hn : 0 ≤ os.allocate pick := hopen.nonneg
    omega
  · have hsome : (os.file (os.allocate pick)).isSome = true := hopen
    simp [hfree] at hsome

theorem extends_socket (os : Kernel) (pick : Option ℕ) : Extends os (os.socket pick).2 :=
  extends_fresh (not_isOpen_socket os pick) fun other => by
    simp only [Kernel.socket, Kernel.file_log, Kernel.file_set]
    rfl

theorem extends_accept (os : Kernel) (fd : ℤ) (pick : Option ℕ) :
    Extends os (os.accept fd pick).2 :=
  extends_fresh (Ownership.not_isOpen_accept os fd pick) fun other => by
    simp only [Kernel.accept, Kernel.file_log, Kernel.file_set]
    rfl

/-- A call that leaves the status flags alone. -/
theorem extends_onFile (os : Kernel) (fd : ℤ) (ok : Bool) {change : OpenFile → OpenFile}
    (hchange : ∀ file, (change file).nonblock = file.nonblock) (call : ℤ → SysCall) :
    Extends os (os.onFile fd ok change call).2 := by
  constructor
  · intro other file hf
    rw [Kernel.onFile_file]
    split
    · exact ⟨change file, by simp [hf], hchange file⟩
    · exact ⟨file, hf, rfl⟩
  · intro other file' hnone hsome
    rw [Kernel.onFile_file, hnone] at hsome
    simp at hsome

/-- `F_SETFD` does not touch the status flags, whatever its argument. -/
theorem extends_setFd (os : Kernel) (fd : ℤ) (arg : ℕ) (ok : Bool) :
    Extends os (os.fcntl fd .F_SETFD arg ok).2 :=
  extends_onFile os fd ok (by intro file; rfl) _

theorem extends_bind (os : Kernel) (fd : ℤ) (addr : SockAddr) (ok : Bool) :
    Extends os (os.bind fd addr ok).2 :=
  extends_onFile os fd ok (by intro file; rfl) _

theorem extends_listen (os : Kernel) (fd backlog : ℤ) (ok : Bool) :
    Extends os (os.listen fd backlog ok).2 :=
  extends_onFile os fd ok (by intro file; rfl) _

/-- Closing what was not open at first takes nothing away. -/
theorem Extends.close (h : Extends os next) {fd : ℤ} (hfd : ¬ os.IsOpen fd) :
    Extends os (next.close fd) := by
  constructor
  · intro other file hf
    have hne : other ≠ fd := by
      rintro rfl
      exact hfd (Option.isSome_iff_exists.mpr ⟨file, hf⟩)
    rw [Kernel.close_file, if_neg hne]
    exact h.kept other file hf
  · intro other file' hnone hsome
    rw [Kernel.close_file] at hsome
    split at hsome
    · cases hsome
    · exact h.blocking other file' hnone hsome

end SigIf.Inheritance

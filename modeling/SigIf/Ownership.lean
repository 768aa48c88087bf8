import SigIf.Posix

/-!
# Ownership of descriptors along a trace of calls

Who a descriptor belongs to is read off the recorded calls: the last call
that handed it out or closed it decides. The lemmas say, for each system call,
what it does to the sockets that the caller owns and whether it was issued on
a descriptor that the caller may still use.
-/

namespace SigIf.Ownership

open Posix

/-- What last happened to a descriptor. -/
inductive Fate where
  | created
  | accepted
  | closed
  deriving DecidableEq

/-- The newest call that handed out or closed the descriptor, if any did. -/
def fate : List SysCall → ℤ → Option Fate
  | [], _ => none
  | .socket result :: earlier, fd => if result = fd then some .created else fate earlier fd
  | .accept _ result :: earlier, fd => if result = fd then some .accepted else fate earlier fd
  | .close closed _ :: earlier, fd => if closed = fd then some .closed else fate earlier fd
  | .fcntl .. :: earlier, fd => fate earlier fd
  | .bind .. :: earlier, fd => fate earlier fd
  | .listen .. :: earlier, fd => fate earlier fd
  | .connect .. :: earlier, fd => fate earlier fd

theorem fate_socket (result : ℤ) (earlier : List SysCall) (fd : ℤ) :
    fate (.socket result :: earlier) fd =
      if result = fd then some .created else fate earlier fd := rfl

theorem fate_accept (listener result : ℤ) (earlier : List SysCall) (fd : ℤ) :
    fate (.accept listener result :: earlier) fd =
      if result = fd then some .accepted else fate earlier fd := rfl

theorem fate_close (closed result : ℤ) (earlier : List SysCall) (fd : ℤ) :
    fate (.close closed result :: earlier) fd =
      if closed = fd then some .closed else fate earlier fd := rfl

/-- An open descriptor that the caller got from `socket` and has not closed. -/
def OwnSocket (os : Kernel) (fd : ℤ) : Prop :=
  os.IsOpen fd ∧ fate os.trace fd = some .created

/-- An open descriptor that the caller got from `accept` and has not closed. -/
def OwnClient (os : Kernel) (fd : ℤ) : Prop :=
  os.IsOpen fd ∧ fate os.trace fd = some .accepted

/-- An address was bound to the descriptor. -/
def IsBound (os : Kernel) (fd : ℤ) : Prop := ∃ file, os.file fd = some file ∧ file.bound.isSome

/-- The descriptor listens. -/
def IsListening (os : Kernel) (fd : ℤ) : Prop :=
  ∃ file, os.file fd = some file ∧ file.listening = true

/-- The descriptor that a close, listen or accept is issued on. -/
def target : SysCall → Option ℤ
  | .close fd _ => some fd
  | .listen fd _ _ => some fd
  | .accept fd _ => some fd
  | _ => none

/-- No close, listen or accept was issued on a negative descriptor or on one
that the caller had already closed. -/
def SoundCalls : List SysCall → Prop
  | [] => True
  | call :: earlier =>
    SoundCalls earlier ∧ ∀ fd, target call = some fd → 0 ≤ fd ∧ fate earlier fd ≠ some .closed

/-- A call without a target adds no demand. -/
theorem soundCalls_cons_of_none {call : SysCall} (h : target call = none)
    (earlier : List SysCall) : SoundCalls (call :: earlier) ↔ SoundCalls earlier := by
  refine and_iff_left fun fd hfd => ?_
  rw [h] at hfd
  cases hfd

/-- The others demand that the caller may use their target. -/
theorem soundCalls_cons_of_some {call : SysCall} {fd : ℤ} (h : target call = some fd)
    (earlier : List SysCall) :
    SoundCalls (call :: earlier) ↔
      SoundCalls earlier ∧ 0 ≤ fd ∧ fate earlier fd ≠ some .closed := by
  refine and_congr_right fun _ => ⟨fun hall => hall fd h, fun husable other hother => ?_⟩
  obtain rfl := Option.some.inj (h.symm.trans hother)
  exact husable

/-- A descriptor that may be used as the target of a call. -/
def Usable (os : Kernel) (fd : ℤ) : Prop := 0 ≤ fd ∧ fate os.trace fd ≠ some .closed

theorem OwnSocket.usable {os : Kernel} {fd : ℤ} (h : OwnSocket os fd) : Usable os fd :=
  ⟨h.1.nonneg, by simp [h.2]⟩

theorem not_ownSocket_of_neg (os : Kernel) {fd : ℤ} (h : fd < 0) : ¬ OwnSocket os fd := by
  intro hown
  have hn := hown.1.nonneg
  omega

section Calls

variable (os : Kernel)

/-- A socket that was handed out is owned, and the others stay as they were. -/
theorem ownSocket_socket (pick : Option ℕ) (other : ℤ) :
    OwnSocket (os.socket pick).2 other ↔
      OwnSocket os other ∨ (other = (os.socket pick).1 ∧ 0 ≤ other) := by
  unfold OwnSocket
  rw [Kernel.isOpen_socket]
  by_cases he : other = os.allocate pick
  · have hfate : fate (os.socket pick).2.trace other = some .created := by
      simp [Kernel.socket, fate_socket, he]
    have hfd : (os.socket pick).1 = other := he.symm
    constructor
    · rintro ⟨hopen | ⟨_, hn⟩, _⟩
      · exact Or.inr ⟨hfd.symm, hopen.nonneg⟩
      · exact Or.inr ⟨hfd.symm, hn⟩
    · rintro (⟨hopen, _⟩ | hnew)
      · exact ⟨Or.inl hopen, hfate⟩
      · exact ⟨Or.inr hnew, hfate⟩
  · have hfate : fate (os.socket pick).2.trace other = fate os.trace other := by
      simp [Kernel.socket, fate_socket, Ne.symm he]
    have hfd : other ≠ (os.socket pick).1 := he
    simp [hfate, hfd]

/-- A call that hands out nothing and closes nothing leaves ownership alone. -/
theorem ownSocket_onFile (fd : ℤ) (ok : Bool) (change : OpenFile → OpenFile)
    {call : ℤ → SysCall} (hcall : ∀ r earlier other, fate (call r :: earlier) other =
      fate earlier other) (other : ℤ) :
    OwnSocket (os.onFile fd ok change call).2 other ↔ OwnSocket os other := by
  unfold OwnSocket
  rw [Kernel.onFile_isOpen, Kernel.onFile_trace, hcall]

theorem ownSocket_fcntl (fd : ℤ) (cmd : FcntlCmd) (arg : ℕ) (ok : Bool) (other : ℤ) :
    OwnSocket (os.fcntl fd cmd arg ok).2 other ↔ OwnSocket os other :=
  ownSocket_onFile os fd ok _ (fun _ _ _ => rfl) other

theorem ownSocket_bind (fd : ℤ) (addr : SockAddr) (ok : Bool) (other : ℤ) :
    OwnSocket (os.bind fd addr ok).2 other ↔ OwnSocket os other :=
  ownSocket_onFile os fd ok _ (fun _ _ _ => rfl) other

theorem ownSocket_listen (fd backlog : ℤ) (ok : Bool) (other : ℤ) :
    OwnSocket (os.listen fd backlog ok).2 other ↔ OwnSocket os other :=
  ownSocket_onFile os fd ok _ (fun _ _ _ => rfl) other

theorem ownSocket_connect (fd : ℤ) (addr : SockAddr) (ok : Bool) (other : ℤ) :
    OwnSocket (os.connect fd addr ok).2 other ↔ OwnSocket os other :=
  ownSocket_onFile os fd ok _ (fun _ _ _ => rfl) other

/-- A closed descriptor is no longer owned. -/
theorem ownSocket_close (fd other : ℤ) :
    OwnSocket (os.close fd) other ↔ other ≠ fd ∧ OwnSocket os other := by
  unfold OwnSocket Kernel.IsOpen
  rw [Kernel.close_file]
  by_cases he : other = fd
  · simp [he]
  · simp [he, Ne.symm he, Kernel.close, fate_close]

/-- What `accept` hands out was not open before. -/
theorem not_isOpen_accept (fd : ℤ) (pick : Option ℕ) : ¬ os.IsOpen (os.accept fd pick).1 := by
  intro hopen
  have hn := hopen.nonneg
  simp only [Kernel.accept] at hn hopen
  split at hopen
  · rename_i hlisten
    rcases os.allocate_cases pick with hfail | ⟨_, hfree⟩
    · rw [if_pos hlisten, hfail] at hn
      omega
    · simp [Kernel.IsOpen, hfree] at hopen
  · rename_i hlisten
    rw [if_neg hlisten] at hn
    omega

/-- It leaves every open descriptor as it is. -/
theorem file_accept (fd : ℤ) (pick : Option ℕ) {other : ℤ} (h : os.IsOpen other) :
    (os.accept fd pick).2.file other = os.file other := by
  have hne : other ≠ (os.accept fd pick).1 := by
    rintro rfl
    exact not_isOpen_accept os fd pick h
  simp only [Kernel.accept] at hne ⊢
  rw [Kernel.file_log, Kernel.file_set_of_ne _ hne]

/-- The descriptor that `accept` hands out is not an own socket. -/
theorem ownSocket_accept (fd : ℤ) (pick : Option ℕ) (other : ℤ) :
    OwnSocket (os.accept fd pick).2 other ↔ OwnSocket os other := by
  have htrace : fate (os.accept fd pick).2.trace other =
      if (os.accept fd pick).1 = other then some .accepted else fate os.trace other := by
    simp only [Kernel.accept, Kernel.trace_log, Kernel.trace_set, fate_accept]
    rfl
  constructor
  · rintro ⟨hopen, hfate⟩
    rw [htrace] at hfate
    split at hfate
    · cases hfate
    · rename_i hne
      refine ⟨?_, hfate⟩
      unfold Kernel.IsOpen at hopen ⊢
      simp only [Kernel.accept] at hne hopen
      rwa [Kernel.file_log, Kernel.file_set_of_ne _ (Ne.symm hne)] at hopen
  · rintro ⟨hopen, hfate⟩
    have hfile := file_accept os fd pick hopen
    have hne : (os.accept fd pick).1 ≠ other := by
      rintro rfl
      exact not_isOpen_accept os fd pick hopen
    exact ⟨by unfold Kernel.IsOpen; rw [hfile]; exact hopen, by rw [htrace, if_neg hne, hfate]⟩

/-- A client is never made by `socket`. -/
theorem ownClient_socket (pick : Option ℕ) {other : ℤ} (h : OwnClient (os.socket pick).2 other) :
    OwnClient os other := by
  obtain ⟨hopen, hfate⟩ := h
  rw [Kernel.socket_trace] at hfate
  by_cases he : (os.socket pick).1 = other
  · simp [fate_socket, he] at hfate
  · refine ⟨?_, by simpa [fate_socket, he] using hfate⟩
    exact ((Kernel.isOpen_socket os pick other).mp hopen).resolve_right fun hnew => he hnew.1.symm

/-- A call that hands out nothing and closes nothing leaves the clients alone. -/
theorem ownClient_onFile (fd : ℤ) (ok : Bool) (change : OpenFile → OpenFile)
    {call : ℤ → SysCall} (hcall : ∀ r earlier other, fate (call r :: earlier) other =
      fate earlier other) (other : ℤ) :
    OwnClient (os.onFile fd ok change call).2 other ↔ OwnClient os other := by
  unfold OwnClient
  rw [Kernel.onFile_isOpen, Kernel.onFile_trace, hcall]

theorem ownClient_fcntl (fd : ℤ) (cmd : FcntlCmd) (arg : ℕ) (ok : Bool) (other : ℤ) :
    OwnClient (os.fcntl fd cmd arg ok).2 other ↔ OwnClient os other :=
  ownClient_onFile os fd ok _ (fun _ _ _ => rfl) other

theorem ownClient_bind (fd : ℤ) (addr : SockAddr) (ok : Bool) (other : ℤ) :
    OwnClient (os.bind fd addr ok).2 other ↔ OwnClient os other :=
  ownClient_onFile os fd ok _ (fun _ _ _ => rfl) other

theorem ownClient_listen (fd backlog : ℤ) (ok : Bool) (other : ℤ) :
    OwnClient (os.listen fd backlog ok).2 other ↔ OwnClient os other :=
  ownClient_onFile os fd ok _ (fun _ _ _ => rfl) other

theorem ownClient_connect (fd : ℤ) (addr : SockAddr) (ok : Bool) (other : ℤ) :
    OwnClient (os.connect fd addr ok).2 other ↔ OwnClient os other :=
  ownClient_onFile os fd ok _ (fun _ _ _ => rfl) other

/-- A closed client is gone. -/
theorem ownClient_close (fd : ℤ) {other : ℤ} (h : OwnClient (os.close fd) other) :
    other ≠ fd ∧ OwnClient os other := by
  unfold OwnClient Kernel.IsOpen at h ⊢
  rw [Kernel.close_file] at h
  by_cases he : other = fd
  · simp [he] at h
  · exact ⟨he, by simpa [he, Ne.symm he, Kernel.close, fate_close] using h⟩

/-- A new client is what `accept` handed out. -/
theorem ownClient_accept (fd : ℤ) (pick : Option ℕ) {other : ℤ}
    (h : OwnClient (os.accept fd pick).2 other) :
    OwnClient os other ∨ other = (os.accept fd pick).1 := by
  by_cases he : other = (os.accept fd pick).1
  · exact Or.inr he
  · left
    obtain ⟨hopen, hfate⟩ := h
    unfold OwnClient Kernel.IsOpen
    simp only [Kernel.accept, Kernel.IsOpen, Kernel.file_log, Kernel.trace_log, Kernel.trace_set,
      fate_accept] at he hopen hfate
    rw [Kernel.file_set_of_ne _ he] at hopen
    exact ⟨hopen, by rwa [if_neg (Ne.symm he)] at hfate⟩

theorem soundCalls_socket (pick : Option ℕ) :
    SoundCalls (os.socket pick).2.trace ↔ SoundCalls os.trace := by
  rw [Kernel.socket_trace]
  exact soundCalls_cons_of_none rfl os.trace

theorem soundCalls_fcntl (fd : ℤ) (cmd : FcntlCmd) (arg : ℕ) (ok : Bool) :
    SoundCalls (os.fcntl fd cmd arg ok).2.trace ↔ SoundCalls os.trace := by
  rw [Kernel.fcntl, Kernel.onFile_trace]
  exact soundCalls_cons_of_none rfl os.trace

theorem soundCalls_bind (fd : ℤ) (addr : SockAddr) (ok : Bool) :
    SoundCalls (os.bind fd addr ok).2.trace ↔ SoundCalls os.trace := by
  rw [Kernel.bind, Kernel.onFile_trace]
  exact soundCalls_cons_of_none rfl os.trace

theorem soundCalls_connect (fd : ℤ) (addr : SockAddr) (ok : Bool) :
    SoundCalls (os.connect fd addr ok).2.trace ↔ SoundCalls os.trace := by
  rw [Kernel.connect, Kernel.onFile_trace]
  exact soundCalls_cons_of_none rfl os.trace

theorem soundCalls_listen (fd backlog : ℤ) (ok : Bool) :
    SoundCalls (os.listen fd backlog ok).2.trace ↔ SoundCalls os.trace ∧ Usable os fd := by
  rw [Kernel.listen, Kernel.onFile_trace]
  exact soundCalls_cons_of_some rfl os.trace

theorem soundCalls_accept (fd : ℤ) (pick : Option ℕ) :
    SoundCalls (os.accept fd pick).2.trace ↔ SoundCalls os.trace ∧ Usable os fd := by
  rw [Kernel.accept, Kernel.trace_log, Kernel.trace_set]
  exact soundCalls_cons_of_some rfl os.trace

theorem soundCalls_close (fd : ℤ) :
    SoundCalls (os.close fd).trace ↔ SoundCalls os.trace ∧ Usable os fd := by
  rw [Kernel.close, Kernel.trace_log, Kernel.trace_set]
  exact soundCalls_cons_of_some rfl os.trace

end Calls

end SigIf.Ownership

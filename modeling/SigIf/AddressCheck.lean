import SigIf.TcpWrap

/-!
# Which addresses and ports get a socket

`SetAddr` and `Connect` validate their arguments with two helpers before they
create a socket. A socket is created when the trace of calls shows one more of
them afterwards.
-/

namespace SigIf.AddressCheck

open Constants Posix TcpWrap

/-- How many times `socket` was called. -/
def socketCalls (os : Kernel) : ℕ := os.trace.countP fun | .socket _ => true | _ => false

/-- The arguments that the validation is there to let through. -/
def ValidAddress (ip : CString) (port : ℤ) : Prop := strlen ip ≤ 16 ∧ 1 ≤ port ∧ port ≤ 65535

/-- The operation went on to create a socket. -/
def GoesOn (os : Kernel) (after : Answer) : Prop := socketCalls after.os = socketCalls os + 1

/-- The operation goes on exactly with valid arguments, refuses all others
with `ERROR` and without a socket, and wherever it goes on the copy of the
address fits and the port on the wire is the one that was asked for. -/
structure ExactlyValidated (inetAddr : CString → UInt32) (ip : CString) (port : ℤ) (os : Kernel)
    (after : Answer) : Prop where
  creates : GoesOn os after ↔ ValidAddress ip port
  refuses : ¬ ValidAddress ip port → after.value = ERROR ∧ socketCalls after.os = socketCalls os
  fits : GoesOn os after → strlen ip < addrCapacity
  port : GoesOn os after → ntohs (addrStruct inetAddr ip port).sin_port = port

section Calls

variable (os : Kernel)

theorem socketCalls_socket (pick : Option ℕ) :
    socketCalls (os.socket pick).2 = socketCalls os + 1 := by
  rw [socketCalls, Kernel.socket_trace]
  exact List.countP_cons_of_pos rfl

/-- The other calls create no socket. -/
theorem socketCalls_fcntl (fd : ℤ) (cmd : FcntlCmd) (arg : ℕ) (ok : Bool) :
    socketCalls (os.fcntl fd cmd arg ok).2 = socketCalls os := by
  rw [socketCalls, Kernel.fcntl, Kernel.onFile_trace]
  exact List.countP_cons_of_neg Bool.false_ne_true

theorem socketCalls_bind (fd : ℤ) (addr : SockAddr) (ok : Bool) :
    socketCalls (os.bind fd addr ok).2 = socketCalls os := by
  rw [socketCalls, Kernel.bind, Kernel.onFile_trace]
  exact List.countP_cons_of_neg Bool.false_ne_true

theorem socketCalls_connect (fd : ℤ) (addr : SockAddr) (ok : Bool) :
    socketCalls (os.connect fd addr ok).2 = socketCalls os := by
  rw [socketCalls, Kernel.connect, Kernel.onFile_trace]
  exact List.countP_cons_of_neg Bool.false_ne_true

theorem socketCalls_close (fd : ℤ) : socketCalls (os.close fd) = socketCalls os := by
  rw [socketCalls, Kernel.close, Kernel.trace_log, Kernel.trace_set]
  exact List.countP_cons_of_neg Bool.false_ne_true

end Calls

theorem socketCalls_closeOld (w : Wrapper) (os : Kernel) :
    socketCalls (closeOld w os) = socketCalls os := by
  unfold closeOld
  split
  · exact socketCalls_close os w.fd
  · rfl

theorem socketCalls_setAddrOpened (calls : SetAddrCalls) (w : Wrapper) (os : Kernel) :
    socketCalls (setAddrOpened calls w os) = socketCalls os + 1 := by
  rw [setAddrOpened, socketCalls_fcntl, socketCalls_socket, socketCalls_closeOld]

theorem socketCalls_connected (inetAddr : CString → UInt32) (ip : CString) (port : ℤ)
    (calls : ConnectCalls) (os : Kernel) :
    socketCalls (connected inetAddr ip port calls os) = socketCalls os + 1 := by
  rw [connected, socketCalls_connect, socketCalls_socket]

/-- The helpers name valid what is then rejected, so what passes is a long
address with a port that is not positive. -/
theorem passes_iff (ip : CString) (port : ℤ) : Passes ip port ↔ 16 < strlen ip ∧ port ≤ 0 := by
  simp [Passes, isValidIpv4Length, isValidPortNumber]

/-- Of what passes, only port zero goes on the wire as it was asked for. -/
theorem port_of_passes {ip : CString} {port : ℤ} (h : Passes ip port)
    (inetAddr : CString → UInt32) :
    ntohs (addrStruct inetAddr ip port).sin_port = port ↔ port = 0 := by
  have hport := ((passes_iff ip port).mp h).2
  rw [addrStruct, ntohs_htons]
  omega

/-- `SetAddr` goes on with what passes, and refuses the rest. -/
theorem setAddr_goesOn (inetAddr : CString → UInt32) (ip : CString) (port : ℤ)
    (calls : SetAddrCalls) (w : Wrapper) (os : Kernel) :
    if Passes ip port then GoesOn os (setAddr inetAddr ip port calls w os)
    else (setAddr inetAddr ip port calls w os).value = ERROR ∧
      socketCalls (setAddr inetAddr ip port calls w os).os = socketCalls os := by
  rcases setAddr_cases inetAddr ip port calls w os with
    ⟨hpass, he⟩ | ⟨hpass, _, he⟩ | ⟨hpass, _, _, he⟩
  · rw [if_neg hpass, he]
    exact ⟨rfl, socketCalls_closeOld w os⟩
  · rw [if_pos hpass, he, GoesOn, socketCalls_close, socketCalls_setAddrOpened]
  · rw [if_pos hpass, he, GoesOn, socketCalls_bind, socketCalls_setAddrOpened]

/-- So does `Connect` on a wrapper in its first status. -/
theorem connect_goesOn (inetAddr : CString → UInt32) (ip : CString) (port : ℤ)
    (calls : ConnectCalls) {w : Wrapper} (hs : w.status = .ORIGINAL) (os : Kernel) :
    if Passes ip port then GoesOn os (connect inetAddr ip port calls w os)
    else (connect inetAddr ip port calls w os).value = ERROR ∧
      socketCalls (connect inetAddr ip port calls w os).os = socketCalls os := by
  rcases connect_cases inetAddr ip port calls w os with ⟨hpre, he⟩ | ⟨_, hpass, _, he⟩ |
    ⟨_, hpass, _, _, he⟩ | ⟨_, hpass, _, _, _, he⟩ | ⟨_, hpass, _, _, _, he⟩
  · rw [if_neg fun hpass => hpre ⟨hs, hpass⟩, he]
    exact ⟨rfl, rfl⟩
  · rw [if_pos hpass, he, GoesOn, socketCalls_socket]
  · rw [if_pos hpass, he, GoesOn, socketCalls_connected]
  · rw [if_pos hpass, he, GoesOn, socketCalls_close, socketCalls_fcntl, socketCalls_connected]
  · rw [if_pos hpass, he, GoesOn, socketCalls_fcntl, socketCalls_connected]

/-- An operation that goes on with what passes and refuses the rest is exact
where its arguments are neither valid nor pass. -/
theorem exactlyValidated_iff (inetAddr : CString → UInt32) {ip : CString} {port : ℤ} {os : Kernel}
    {after : Answer} (h : if Passes ip port then GoesOn os after
      else after.value = ERROR ∧ socketCalls after.os = socketCalls os) :
    ExactlyValidated inetAddr ip port os after ↔
      (strlen ip ≤ 16 ∧ ¬ (1 ≤ port ∧ port ≤ 65535)) ∨ (16 < strlen ip ∧ 0 < port) := by
  have hpasses := passes_iff ip port
  have hcondition : (strlen ip ≤ 16 ∧ ¬ (1 ≤ port ∧ port ≤ 65535)) ∨ (16 < strlen ip ∧ 0 < port) ↔
      ¬ Passes ip port ∧ ¬ ValidAddress ip port := by
    rw [hpasses, ValidAddress]
    omega
  rw [hcondition]
  by_cases hpass : Passes ip port
  · rw [if_pos hpass] at h
    refine iff_of_false ?_ fun hnot => hnot.1 hpass
    intro hexact
    have hvalid := hexact.creates.mp h
    have hlong := (hpasses.mp hpass).1
    have hshort := hvalid.1
    omega
  · rw [if_neg hpass] at h
    have hstops : ¬ GoesOn os after := by
      rw [GoesOn, h.2]
      omega
    constructor
    · intro hexact
      exact ⟨hpass, fun hvalid => hstops (hexact.creates.mpr hvalid)⟩
    · rintro ⟨_, hinvalid⟩
      exact ⟨iff_of_false hstops hinvalid, fun _ => h, fun hgoes => absurd hgoes hstops,
        fun hgoes => absurd hgoes hstops⟩

/-- `SetAddr` in any status, and `Connect` in the first one, treat an address
and a port as they should exactly when the address is short and the port is no
port, or the address is long and the port is positive. -/
theorem address_check_exact_iff (inetAddr : CString → UInt32) (ip : CString) (port : ℤ)
    (setAddrCalls : SetAddrCalls) (connectCalls : ConnectCalls) (w : Wrapper) (os : Kernel) :
    (ExactlyValidated inetAddr ip port os (setAddr inetAddr ip port setAddrCalls w os) ↔
      (strlen ip ≤ 16 ∧ ¬ (1 ≤ port ∧ port ≤ 65535)) ∨ (16 < strlen ip ∧ 0 < port)) ∧
    (w.status = .ORIGINAL →
      (ExactlyValidated inetAddr ip port os (connect inetAddr ip port connectCalls w os) ↔
        (strlen ip ≤ 16 ∧ ¬ (1 ≤ port ∧ port ≤ 65535)) ∨ (16 < strlen ip ∧ 0 < port))) :=
  ⟨exactlyValidated_iff inetAddr (setAddr_goesOn inetAddr ip port setAddrCalls w os),
    fun hs => exactlyValidated_iff inetAddr (connect_goesOn inetAddr ip port connectCalls hs os)⟩

/-- The loopback address and a usual port are refused, in the state after construction. -/
theorem loopback_refused :
    ¬ ExactlyValidated (fun _ => 0x0100007f) (c_str "127.0.0.1") 6000 ⟨fun _ => none, []⟩
      (setAddr (fun _ => 0x0100007f) (c_str "127.0.0.1") 6000 ⟨some 3, true, true⟩ .new
        ⟨fun _ => none, []⟩) := by
  intro h
  have hgoes := h.creates.mpr ⟨by decide, by decide, by decide⟩
  exact absurd hgoes (by unfold GoesOn; decide)

end SigIf.AddressCheck

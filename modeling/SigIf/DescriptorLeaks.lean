import SigIf.Inheritance
import SigIf.TcpStatus

/-!
# Whether a wrapper leaks descriptors

The life of one wrapper is a run of its four operations that may end with its
destructor. Its sockets are the open descriptors that it last got from
`socket`; it may have one, the one that it holds, and none once it is gone.
-/

namespace SigIf.DescriptorLeaks

open Constants Posix Ownership TcpWrap TcpStatus

/-- A wrapper, the table it works on, and what its `Accept` has returned. -/
structure Life where
  self : Wrapper
  os : Kernel
  returned : List ℤ
  destroyed : Bool

/-- What can be done with a wrapper. -/
inductive Use where
  | call (c : TcpCall)
  | destroy

/-- What a call hands to its caller to close. -/
def handedOver : TcpCall → ℤ → List ℤ
  | .accept _, value => [value]
  | _, _ => []

/-- Any operation may be called until the wrapper is destroyed. -/
def step (inetAddr : CString → UInt32) (s : Life) (use : Use) : Option Life :=
  if s.destroyed then none
  else match use with
    | .call c =>
      let after := answer inetAddr ⟨s.self, s.os⟩ c
      some ⟨after.self, after.os, s.returned ++ handedOver c after.value, false⟩
    | .destroy => some { s with os := destroy s.self s.os, destroyed := true }

/-- A freshly constructed wrapper. -/
def born (table : ℕ → Option OpenFile) : Life := ⟨.new, ⟨table, []⟩, [], false⟩

/-- Every socket of the wrapper is the one that it holds, there is none after
the destructor, and every client is its caller's. -/
structure NoLeak (s : Life) : Prop where
  intact : s.self.intact = true
  sockets : ∀ fd, OwnSocket s.os fd → s.destroyed = false ∧ fd = s.self.fd
  clients : ∀ fd, OwnClient s.os fd → fd ∈ s.returned

/-- The guard of a use. `SetAddr` must not come past its validations while the
wrapper listens, and its copy of the address must fit; the destructor must find
no socket. -/
def Guard (s : Life) : Use → Prop
  | .call (.setAddr ip port calls) => Passes ip port →
    ¬ (s.self.status = .LISTENING ∧ OwnSocket s.os s.self.fd) ∧
      (0 ≤ setAddrFd calls s.self s.os → calls.fcntl = true → strlen ip < addrCapacity)
  | .call _ => True
  | .destroy => ¬ OwnSocket s.os s.self.fd

/-- In its first status a wrapper has no socket. -/
structure Tracked (s : Life) : Prop where
  reached : Reached ⟨s.self, s.os⟩
  original : s.self.status = .ORIGINAL → ¬ OwnSocket s.os s.self.fd

/-- What `SetAddr` has once its `fcntl` is done. -/
theorem ownSocket_setAddrOpened_iff (calls : SetAddrCalls) (w : Wrapper) (os : Kernel) (fd : ℤ) :
    OwnSocket (setAddrOpened calls w os) fd ↔
      OwnSocket (closeOld w os) fd ∨ (fd = setAddrFd calls w os ∧ 0 ≤ fd) := by
  rw [setAddrOpened, ownSocket_fcntl, ownSocket_socket, setAddrFd]

/-- The new socket is none of the old ones. -/
theorem ne_setAddrFd {calls : SetAddrCalls} {w : Wrapper} {os : Kernel} {fd : ℤ}
    (h : OwnSocket (closeOld w os) fd) : fd ≠ setAddrFd calls w os := by
  rintro rfl
  exact Inheritance.not_isOpen_socket (closeOld w os) calls.socket h.1

theorem ownClient_closeOld {w : Wrapper} {os : Kernel} {fd : ℤ}
    (h : OwnClient (closeOld w os) fd) : OwnClient os fd := by
  unfold closeOld at h
  split at h
  · exact (ownClient_close os w.fd h).2
  · exact h

/-- `SetAddr` makes no client. -/
theorem ownClient_setAddrOpened {calls : SetAddrCalls} {w : Wrapper} {os : Kernel} {fd : ℤ}
    (h : OwnClient (setAddrOpened calls w os) fd) : OwnClient os fd := by
  rw [setAddrOpened, ownClient_fcntl] at h
  exact ownClient_closeOld (ownClient_socket _ calls.socket h)

/-- After its first statement the wrapper has a socket left only if it listens. -/
theorem no_socket_closeOld_iff {w : Wrapper} {os : Kernel} {returned : List ℤ} {destroyed : Bool}
    (htracked : Tracked ⟨w, os, returned, destroyed⟩)
    (hsockets : ∀ fd, OwnSocket os fd → fd = w.fd) :
    (∀ fd, ¬ OwnSocket (closeOld w os) fd) ↔ ¬ (w.status = .LISTENING ∧ OwnSocket os w.fd) := by
  obtain ⟨⟨hconnected, hdisconnected⟩, horiginal⟩ := htracked
  simp only at hconnected hdisconnected horiginal
  cases hs : w.status with
  | LISTENING =>
    have hsame : closeOld w os = os := by simp [closeOld, hs, Status.closesOld]
    rw [hsame]
    constructor
    · exact fun hnone hlistening => hnone w.fd hlistening.2
    · rintro hnot fd hown
      exact hnot ⟨rfl, hsockets fd hown ▸ hown⟩
  | ORIGINAL =>
    have hsame : closeOld w os = os := by simp [closeOld, hs, Status.closesOld]
    rw [hsame]
    refine iff_of_true ?_ (by simp)
    intro fd hown
    exact horiginal hs (hsockets fd hown ▸ hown)
  | CONNECTED => exact absurd hs hconnected
  | DISCONNECTED => exact absurd hs hdisconnected
  | _ =>
    have hclosed : closeOld w os = os.close w.fd := by simp [closeOld, hs, Status.closesOld]
    rw [hclosed]
    refine iff_of_true ?_ (by simp)
    intro fd hown
    obtain ⟨hne, hold⟩ := (ownSocket_close os w.fd fd).mp hown
    exact hne (hsockets fd hold)

/-- A rejected `SetAddr` at most closes what the wrapper holds. -/
theorem closeOld_noLeak {w : Wrapper} {os : Kernel} {returned : List ℤ}
    (h : NoLeak ⟨w, os, returned, false⟩) : NoLeak ⟨w, closeOld w os, returned, false⟩ := by
  refine ⟨h.intact, ?_, fun fd hc => h.clients fd (ownClient_closeOld hc)⟩
  intro fd hown
  refine ⟨rfl, (h.sockets fd ?_).2⟩
  unfold closeOld at hown
  split at hown
  · exact ((ownSocket_close os w.fd fd).mp hown).2
  · exact hown

/-- A `SetAddr` that gives up closes its new socket, so it leaks what it had left. -/
theorem givenUp_noLeak_iff {w : Wrapper} {os : Kernel} {returned : List ℤ}
    (h : NoLeak ⟨w, os, returned, false⟩) (calls : SetAddrCalls) :
    NoLeak ⟨{ w with fd := setAddrFd calls w os },
        (setAddrOpened calls w os).close (setAddrFd calls w os), returned, false⟩ ↔
      ∀ fd, ¬ OwnSocket (closeOld w os) fd := by
  constructor
  · intro hafter fd hown
    have hne : fd ≠ setAddrFd calls w os := ne_setAddrFd hown
    have hopened := (ownSocket_setAddrOpened_iff calls w os fd).mpr (Or.inl hown)
    exact hne (hafter.sockets fd ((ownSocket_close _ _ fd).mpr ⟨hne, hopened⟩)).2
  · intro hgone
    refine ⟨h.intact, ?_, ?_⟩
    · intro fd hown
      obtain ⟨hne, hopened⟩ := (ownSocket_close _ _ fd).mp hown
      rcases (ownSocket_setAddrOpened_iff calls w os fd).mp hopened with hold | hnew
      · exact absurd hold (hgone fd)
      · exact absurd hnew.1 hne
    · intro fd hc
      exact h.clients fd (ownClient_setAddrOpened (ownClient_close _ _ hc).2)

/-- A `SetAddr` that goes on to `bind` holds its new socket, and leaks what it had left. -/
theorem bound_noLeak_iff {w after : Wrapper} {os : Kernel} {returned : List ℤ}
    (h : NoLeak ⟨w, os, returned, false⟩) (calls : SetAddrCalls) (addr : SockAddr)
    (hfd : after.fd = setAddrFd calls w os) :
    NoLeak ⟨after, ((setAddrOpened calls w os).bind (setAddrFd calls w os) addr calls.bind).2,
        returned, false⟩ ↔
      (∀ fd, ¬ OwnSocket (closeOld w os) fd) ∧ after.intact = true := by
  constructor
  · intro hafter
    refine ⟨?_, hafter.intact⟩
    intro fd hown
    have hopened := (ownSocket_setAddrOpened_iff calls w os fd).mpr (Or.inl hown)
    have hheld := (hafter.sockets fd ((ownSocket_bind _ _ _ _ fd).mpr hopened)).2
    exact ne_setAddrFd hown (hheld.trans hfd)
  · rintro ⟨hgone, hintact⟩
    refine ⟨hintact, ?_, ?_⟩
    · intro fd hown
      have hopened := (ownSocket_bind _ _ _ _ fd).mp hown
      rcases (ownSocket_setAddrOpened_iff calls w os fd).mp hopened with hold | hnew
      · exact absurd hold (hgone fd)
      · exact ⟨rfl, hnew.1.trans hfd.symm⟩
    · intro fd hc
      exact h.clients fd (ownClient_setAddrOpened ((ownClient_bind _ _ _ _ fd).mp hc))

/-- `SetAddr` leaks nothing exactly under its guard. -/
theorem setAddr_noLeak_iff (inetAddr : CString → UInt32) {w : Wrapper} {os : Kernel}
    {returned : List ℤ} (htracked : Tracked ⟨w, os, returned, false⟩)
    (h : NoLeak ⟨w, os, returned, false⟩) (ip : CString) (port : ℤ) (calls : SetAddrCalls) :
    NoLeak ⟨(setAddr inetAddr ip port calls w os).self, (setAddr inetAddr ip port calls w os).os,
        returned, false⟩ ↔
      Guard ⟨w, os, returned, false⟩ (.call (.setAddr ip port calls)) := by
  have hnone := no_socket_closeOld_iff htracked fun fd hown => (h.sockets fd hown).2
  have hintact : w.intact = true := h.intact
  simp only [Guard]
  rcases setAddr_cases inetAddr ip port calls w os with
    ⟨hpass, he⟩ | ⟨hpass, hfail, he⟩ | ⟨hpass, hfd, hok, he⟩
  · rw [he]
    exact iff_of_true (closeOld_noLeak h) fun hp => absurd hp hpass
  · rw [he, ← hnone]
    refine (givenUp_noLeak_iff h calls).trans ⟨?_, fun hguard => (hguard hpass).1⟩
    intro hgone _
    refine ⟨hgone, ?_⟩
    intro hfd hok
    rcases hfail with hneg | hfalse
    · omega
    · simp [hok] at hfalse
  · rw [he, ← hnone]
    refine (bound_noLeak_iff h calls _ rfl).trans ?_
    simp only [hintact, Bool.true_and, decide_eq_true_eq]
    constructor
    · exact fun hboth _ => ⟨hboth.1, fun _ _ => hboth.2⟩
    · intro hguard
      obtain ⟨hgone, hfits⟩ := hguard hpass
      exact ⟨hgone, hfits hfd hok⟩

/-- With fewer descriptors open under the same held one nothing leaks either. -/
theorem NoLeak.of_fewer {w w' : Wrapper} {os os' : Kernel} {returned : List ℤ}
    (h : NoLeak ⟨w, os, returned, false⟩) (hintact : w'.intact = true) (hfd : w'.fd = w.fd)
    (hsockets : ∀ fd, OwnSocket os' fd → OwnSocket os fd)
    (hclients : ∀ fd, OwnClient os' fd → OwnClient os fd) :
    NoLeak ⟨w', os', returned, false⟩ := by
  refine ⟨hintact, ?_, fun fd hc => h.clients fd (hclients fd hc)⟩
  intro fd hown
  have hheld : fd = w.fd := (h.sockets fd (hsockets fd hown)).2
  exact ⟨rfl, hheld.trans hfd.symm⟩

/-- `Listen` leaks nothing. -/
theorem listen_noLeak {w : Wrapper} {os : Kernel} {returned : List ℤ}
    (h : NoLeak ⟨w, os, returned, false⟩) (maxListenQueue : ℤ) (ok : Bool) :
    NoLeak ⟨(TcpWrap.listen maxListenQueue ok w os).self,
      (TcpWrap.listen maxListenQueue ok w os).os, returned, false⟩ := by
  have hafter (status : Status) : NoLeak ⟨{ w with status := status },
      (os.listen w.fd maxListenQueue ok).2, returned, false⟩ :=
    h.of_fewer h.intact rfl (fun fd => (ownSocket_listen _ _ _ _ fd).mp)
      fun fd => (ownClient_listen _ _ _ _ fd).mp
  rcases listen_cases maxListenQueue ok w os with ⟨_, he⟩ | ⟨_, _, he⟩ | ⟨_, _, he⟩
  · rw [he]
    exact h
  · rw [he]
    exact hafter w.status
  · rw [he]
    exact hafter .LISTENING

/-- `Accept` closes its client or returns it. -/
theorem accept_noLeak {w : Wrapper} {os : Kernel} {returned : List ℤ}
    (h : NoLeak ⟨w, os, returned, false⟩) (calls : AcceptCalls) :
    NoLeak ⟨(TcpWrap.accept calls w os).self, (TcpWrap.accept calls w os).os,
      returned ++ [(TcpWrap.accept calls w os).value], false⟩ := by
  have hsockets (fd : ℤ) (hown : OwnSocket (acceptOpened calls w os) fd) : fd = w.fd := by
    rw [acceptOpened, ownSocket_fcntl, ownSocket_accept] at hown
    exact (h.sockets fd hown).2
  have hclients (fd : ℤ) (hc : OwnClient (acceptOpened calls w os) fd) :
      fd ∈ returned ∨ fd = acceptFd calls w os := by
    rw [acceptOpened, ownClient_fcntl] at hc
    exact (ownClient_accept os w.fd calls.accept hc).imp_left (h.clients fd)
  rcases accept_cases calls w os with
    ⟨_, he⟩ | ⟨_, hneg, he⟩ | ⟨_, _, _, he⟩ | ⟨_, _, _, he⟩
  · rw [he]
    exact ⟨h.intact, h.sockets, fun fd hc => List.mem_append_left _ (h.clients fd hc)⟩
  · rw [he]
    refine ⟨h.intact, ?_, ?_⟩
    · intro fd hown
      exact h.sockets fd ((ownSocket_accept _ _ _ fd).mp hown)
    · intro fd hc
      rcases ownClient_accept os w.fd calls.accept hc with hold | hnew
      · exact List.mem_append_left _ (h.clients fd hold)
      · have hn := hc.1.nonneg
        have hsame : fd = acceptFd calls w os := hnew
        omega
  · rw [he]
    refine ⟨h.intact, ?_, ?_⟩
    · intro fd hown
      exact ⟨rfl, hsockets fd ((ownSocket_close _ _ fd).mp hown).2⟩
    · intro fd hc
      obtain ⟨hne, hold⟩ := ownClient_close _ _ hc
      exact List.mem_append_left _ ((hclients fd hold).resolve_right hne)
  · rw [he]
    refine ⟨h.intact, fun fd hown => ⟨rfl, hsockets fd hown⟩, ?_⟩
    intro fd hc
    rcases hclients fd hc with hold | hnew
    · exact List.mem_append_left _ hold
    · exact List.mem_append_right _ (List.mem_singleton.mpr hnew)

/-- `Connect` starts without a socket, so the one that it gets is the only one. -/
theorem noLeak_socket {w : Wrapper} {os : Kernel} {returned : List ℤ}
    (htracked : Tracked ⟨w, os, returned, false⟩) (h : NoLeak ⟨w, os, returned, false⟩)
    (hs : w.status = .ORIGINAL) (calls : ConnectCalls) :
    NoLeak ⟨{ w with fd := connectFd calls os }, (os.socket calls.socket).2, returned, false⟩ := by
  have hnone (fd : ℤ) : ¬ OwnSocket os fd := by
    intro hown
    have hheld : fd = w.fd := (h.sockets fd hown).2
    exact htracked.original hs (hheld ▸ hown)
  refine ⟨h.intact, ?_, fun fd hc => h.clients fd (ownClient_socket os calls.socket hc)⟩
  intro fd hown
  rw [ownSocket_socket] at hown
  exact ⟨rfl, (hown.resolve_left (hnone fd)).1⟩

/-- It stays the only one, and the wrapper holds it. -/
theorem connect_noLeak (inetAddr : CString → UInt32) {w : Wrapper} {os : Kernel}
    {returned : List ℤ} (htracked : Tracked ⟨w, os, returned, false⟩)
    (h : NoLeak ⟨w, os, returned, false⟩) (ip : CString) (port : ℤ) (calls : ConnectCalls) :
    NoLeak ⟨(TcpWrap.connect inetAddr ip port calls w os).self,
      (TcpWrap.connect inetAddr ip port calls w os).os, returned, false⟩ := by
  have hsocket (hs : w.status = .ORIGINAL) := noLeak_socket htracked h hs calls
  have hconnected (hs : w.status = .ORIGINAL) : NoLeak ⟨{ w with fd := connectFd calls os },
      connected inetAddr ip port calls os, returned, false⟩ :=
    (hsocket hs).of_fewer h.intact rfl (fun fd => (ownSocket_connect _ _ _ _ fd).mp)
      fun fd => (ownClient_connect _ _ _ _ fd).mp
  rcases connect_cases inetAddr ip port calls w os with ⟨_, he⟩ | ⟨hs, _, _, he⟩ |
    ⟨hs, _, _, _, he⟩ | ⟨hs, _, _, _, _, he⟩ | ⟨hs, _, _, _, _, he⟩
  · rw [he]
    exact h
  · rw [he]
    exact hsocket hs
  · rw [he]
    exact (hconnected hs).of_fewer h.intact rfl (fun _ => id) fun _ => id
  · rw [he]
    refine (hconnected hs).of_fewer h.intact rfl ?_ ?_
    · intro fd hown
      rw [ownSocket_close, ownSocket_fcntl] at hown
      exact hown.2
    · intro fd hc
      exact (ownClient_fcntl _ _ _ _ _ fd).mp (ownClient_close _ _ hc).2
  · rw [he]
    exact (hconnected hs).of_fewer h.intact rfl (fun fd => (ownSocket_fcntl _ _ _ _ _ fd).mp)
      fun fd => (ownClient_fcntl _ _ _ _ _ fd).mp

section

variable (inetAddr : CString → UInt32) {w : Wrapper} {os : Kernel}
  (horiginal : w.status = .ORIGINAL → ¬ OwnSocket os w.fd)

include horiginal

/-- `SetAddr` leaves the first status, or closes the socket that it has got. -/
theorem setAddr_original (ip : CString) (port : ℤ) (calls : SetAddrCalls)
    (hs : (setAddr inetAddr ip port calls w os).self.status = .ORIGINAL) :
    ¬ OwnSocket (setAddr inetAddr ip port calls w os).os
      (setAddr inetAddr ip port calls w os).self.fd := by
  rcases setAddr_cases inetAddr ip port calls w os with ⟨_, he⟩ | ⟨_, _, he⟩ | ⟨_, _, _, he⟩
  · rw [he] at hs ⊢
    have hsame : closeOld w os = os := by
      have hfirst : w.status = .ORIGINAL := hs
      simp [closeOld, hfirst, Status.closesOld]
    rw [hsame]
    exact horiginal hs
  · rw [he, ownSocket_close]
    exact fun hown => hown.1 rfl
  · cases hb : calls.bind <;> simp [he, hb] at hs

theorem listen_original (maxListenQueue : ℤ) (ok : Bool)
    (hs : (TcpWrap.listen maxListenQueue ok w os).self.status = .ORIGINAL) :
    ¬ OwnSocket (TcpWrap.listen maxListenQueue ok w os).os
      (TcpWrap.listen maxListenQueue ok w os).self.fd := by
  rcases listen_cases maxListenQueue ok w os with ⟨_, he⟩ | ⟨hinit, _, he⟩ | ⟨_, _, he⟩
  · rw [he] at hs ⊢
    exact horiginal hs
  · simp [he, hinit] at hs
  · simp [he] at hs

theorem accept_original (calls : AcceptCalls)
    (hs : (TcpWrap.accept calls w os).self.status = .ORIGINAL) :
    ¬ OwnSocket (TcpWrap.accept calls w os).os (TcpWrap.accept calls w os).self.fd := by
  rcases accept_cases calls w os with ⟨_, he⟩ | ⟨hl, _, he⟩ | ⟨hl, _, _, he⟩ | ⟨hl, _, _, he⟩
  · rw [he] at hs ⊢
    exact horiginal hs
  all_goals simp [he, hl] at hs

/-- `Connect` leaves the first status unless it has got no socket. -/
theorem connect_original (ip : CString) (port : ℤ) (calls : ConnectCalls)
    (hs : (TcpWrap.connect inetAddr ip port calls w os).self.status = .ORIGINAL) :
    ¬ OwnSocket (TcpWrap.connect inetAddr ip port calls w os).os
      (TcpWrap.connect inetAddr ip port calls w os).self.fd := by
  rcases connect_cases inetAddr ip port calls w os with ⟨_, he⟩ | ⟨_, _, hfd, he⟩ |
    ⟨_, _, _, _, he⟩ | ⟨_, _, _, _, _, he⟩ | ⟨_, _, _, _, _, he⟩
  · rw [he] at hs ⊢
    exact horiginal hs
  · rw [he]
    exact not_ownSocket_of_neg _ hfd
  all_goals simp [he] at hs

/-- No operation gives a wrapper in its first status a socket. -/
theorem answer_original (c : TcpCall)
    (hs : (answer inetAddr ⟨w, os⟩ c).self.status = .ORIGINAL) :
    ¬ OwnSocket (answer inetAddr ⟨w, os⟩ c).os (answer inetAddr ⟨w, os⟩ c).self.fd := by
  cases c with
  | setAddr ip port calls => exact setAddr_original inetAddr horiginal ip port calls hs
  | listen maxListenQueue ok => exact listen_original horiginal maxListenQueue ok hs
  | accept calls => exact accept_original horiginal calls hs
  | connect ip port calls => exact connect_original inetAddr horiginal ip port calls hs

end

/-- What can happen to a living wrapper. -/
theorem step_inv {inetAddr : CString → UInt32} {s next : Life} {use : Use}
    (hnext : step inetAddr s use = some next) : s.destroyed = false ∧
      ((∃ c, use = .call c ∧ next = ⟨(answer inetAddr ⟨s.self, s.os⟩ c).self,
        (answer inetAddr ⟨s.self, s.os⟩ c).os,
        s.returned ++ handedOver c (answer inetAddr ⟨s.self, s.os⟩ c).value, false⟩) ∨
      (use = .destroy ∧ next = { s with destroyed := true })) := by
  unfold step at hnext
  cases hd : s.destroyed with
  | true => simp [hd] at hnext
  | false =>
    rw [hd] at hnext
    refine ⟨rfl, ?_⟩
    cases use with
    | call c => exact Or.inl ⟨c, rfl, (Option.some.inj hnext).symm⟩
    | destroy => exact Or.inr ⟨rfl, (Option.some.inj hnext).symm⟩

theorem step_tracked {inetAddr : CString → UInt32} (s : Life) (use : Use) (next : Life)
    (h : Tracked s) (hnext : step inetAddr s use = some next) : Tracked next := by
  obtain ⟨_, ⟨c, rfl, rfl⟩ | ⟨rfl, rfl⟩⟩ := step_inv hnext
  · have hreached : TcpStatus.step inetAddr ⟨s.self, s.os⟩ c = some _ := rfl
    exact ⟨step_reached ⟨s.self, s.os⟩ c _ h.reached hreached,
      answer_original inetAddr h.original c⟩
  · exact ⟨h.reached, h.original⟩

/-- Each use leaks nothing exactly when it meets its guard. -/
theorem step_noLeak_iff (inetAddr : CString → UInt32) (s : Life) (use : Use) (next : Life)
    (htracked : Tracked s) (h : NoLeak s) (hnext : step inetAddr s use = some next) :
    NoLeak next ↔ Guard s use := by
  obtain ⟨hd, hcases⟩ := step_inv hnext
  obtain ⟨w, os, returned, destroyed⟩ := s
  simp only at hd hcases
  subst hd
  obtain ⟨c, rfl, rfl⟩ | ⟨rfl, rfl⟩ := hcases
  · cases c with
    | setAddr ip port calls =>
      simp only [handedOver, List.append_nil]
      exact setAddr_noLeak_iff inetAddr htracked h ip port calls
    | listen maxListenQueue ok =>
      simp only [handedOver, List.append_nil]
      exact iff_of_true (listen_noLeak h maxListenQueue ok) trivial
    | accept calls => exact iff_of_true (accept_noLeak h calls) trivial
    | connect ip port calls =>
      simp only [handedOver, List.append_nil]
      exact iff_of_true (connect_noLeak inetAddr htracked h ip port calls) trivial
  · constructor
    · intro hafter hown
      cases (hafter.sockets w.fd hown).1
    · intro hguard
      refine ⟨h.intact, ?_, h.clients⟩
      intro fd hown
      have hheld : fd = w.fd := (h.sockets fd hown).2
      exact absurd (hheld ▸ hown) hguard

/-- Over any table, a wrapper leaks no descriptor in its life exactly when each
use of it meets its guard. -/
theorem no_leak_iff_guarded (inetAddr : CString → UInt32) (table : ℕ → Option OpenFile)
    (uses : List Use) :
    Runs.Always (step inetAddr) NoLeak (born table) uses ↔
      Runs.Guarded (step inetAddr) Guard (born table) uses := by
  have hnone (fd : ℤ) : ¬ OwnSocket (born table).os fd := fun hown => by
    simp [OwnSocket, born, fate] at hown
  refine Runs.always_iff_guarded step_tracked (step_noLeak_iff inetAddr) ?_ ?_ uses
  · exact ⟨by simp [Reached, born, Wrapper.new], fun _ => hnone _⟩
  · refine ⟨rfl, fun fd hown => absurd hown (hnone fd), ?_⟩
    intro fd hc
    simp [OwnClient, born, fate] at hc

/-- A wrapper that listens is given a new address. -/
def readdressed : List Use :=
  [.call (.setAddr longAddr 0 ⟨some 3, true, true⟩), .call (.listen maxListenQueue true),
    .call (.setAddr longAddr 0 ⟨some 4, true, true⟩)]

/-- The socket that it listened on stays open, and nothing holds it. -/
theorem listening_socket_leaks :
    ¬ Runs.Always (step fun _ => 0) NoLeak (born fun _ => none) readdressed := by
  intro h
  have hend := h.last rfl
  have hold := (hend.sockets 3 ⟨by decide, by decide⟩).2
  exact absurd hold (by decide)

end SigIf.DescriptorLeaks

import SigIf.Posix

/-!
# An epoll instance

Descriptors are registered edge-triggered, each with a data value of the
caller's choice, and what happens to a descriptor is pending until a wait
reports it. A report hands back the data value, not the descriptor; the
descriptor is kept in the event only to speak about it.
-/

namespace SigIf.Epoll

open Posix

/-- A set of events. -/
structure Events where
  epollin : Bool
  epollerr : Bool
  epollhup : Bool
  deriving DecidableEq

/-- No event. -/
def Events.none : Events := ⟨false, false, false⟩

/-- Whether there is any event. -/
def Events.any (e : Events) : Bool := e.epollin || e.epollerr || e.epollhup

/-- The events of both sets. -/
def Events.merge (e new : Events) : Events :=
  ⟨e.epollin || new.epollin, e.epollerr || new.epollerr, e.epollhup || new.epollhup⟩

/-- A registered descriptor with its data value. -/
structure Interest where
  fd : ℤ
  data : ℤ
  deriving DecidableEq

/-- A reported event. -/
structure ReadyEvent where
  source : ℤ
  data : ℤ
  events : Events
  deriving DecidableEq

/-- The registered descriptors, and the events not reported yet. -/
structure Instance where
  interest : List Interest
  pending : ℤ → Events

/-- A new instance. -/
def Instance.new : Instance := ⟨[], fun _ => .none⟩

namespace Instance

variable (ep : Instance)

/-- The descriptor is registered. -/
def Registered (fd : ℤ) : Prop := ∃ i ∈ ep.interest, i.fd = fd

instance (fd : ℤ) : Decidable (ep.Registered fd) :=
  inferInstanceAs (Decidable (∃ i ∈ ep.interest, i.fd = fd))

/-- A registered descriptor has something to report. -/
def Ready : Prop := ∃ i ∈ ep.interest, (ep.pending i.fd).any = true

instance : Decidable ep.Ready :=
  inferInstanceAs (Decidable (∃ i ∈ ep.interest, (ep.pending i.fd).any = true))

/-- `EPOLL_CTL_ADD`: it fails on a descriptor that is not open or is registered
already. -/
def add (os : Kernel) (fd data : ℤ) : Instance :=
  if os.IsOpen fd ∧ ¬ ep.Registered fd then { ep with interest := ep.interest ++ [⟨fd, data⟩] }
  else ep

/-- Something happens to a descriptor. -/
def arrive (fd : ℤ) (events : Events) : Instance :=
  { ep with pending := Function.update ep.pending fd ((ep.pending fd).merge events) }

/-- There is nothing left to read from a descriptor. -/
def drain (fd : ℤ) : Instance :=
  { ep with pending := Function.update ep.pending fd { ep.pending fd with epollin := false } }

/-- The event that a wait may report for a descriptor, if it has any. -/
def eventOf (fd : ℤ) : Option ReadyEvent :=
  match ep.interest.find? (·.fd = fd) with
  | some i => if (ep.pending fd).any then some ⟨fd, i.data, ep.pending fd⟩ else Option.none
  | Option.none => Option.none

/-- `epoll_wait` returns with events for these descriptors, which it reports
once each and at most so many of them. -/
def report (maxevents : ℕ) (fds : List ℤ) : Option (List ReadyEvent × Instance) :=
  if fds ≠ [] ∧ fds.Nodup ∧ fds.length ≤ maxevents ∧ fds.all fun fd => (ep.eventOf fd).isSome then
    some (fds.filterMap ep.eventOf,
      { ep with pending := fun fd => if fd ∈ fds then .none else ep.pending fd })
  else Option.none

variable {ep}

/-- A registration adds at most the one descriptor, with its data value. -/
theorem mem_add {os : Kernel} {fd data : ℤ} {i : Interest}
    (h : i ∈ (ep.add os fd data).interest) : i ∈ ep.interest ∨ i = ⟨fd, data⟩ := by
  unfold add at h
  split at h
  · simpa using h
  · exact Or.inl h

/-- It keeps those that are registered. -/
theorem Registered.add {fd : ℤ} (h : ep.Registered fd) (os : Kernel) (new data : ℤ) :
    (ep.add os new data).Registered fd := by
  obtain ⟨i, hi, he⟩ := h
  unfold Instance.add
  split
  · exact ⟨i, List.mem_append_left _ hi, he⟩
  · exact ⟨i, hi, he⟩

/-- An open descriptor is registered afterwards, even if the call fails. -/
theorem registered_add {os : Kernel} {fd : ℤ} (h : os.IsOpen fd) (data : ℤ) :
    (ep.add os fd data).Registered fd := by
  by_cases hr : ep.Registered fd
  · exact hr.add os fd data
  · rw [Instance.add, if_pos ⟨h, hr⟩]
    exact ⟨⟨fd, data⟩, List.mem_append_right _ (List.mem_singleton_self _), rfl⟩

/-- What happens to a descriptor only adds to what is pending. -/
theorem Ready.arrive (h : ep.Ready) (fd : ℤ) (events : Events) : (ep.arrive fd events).Ready := by
  obtain ⟨i, hi, hany⟩ := h
  refine ⟨i, hi, ?_⟩
  by_cases he : i.fd = fd
  · subst he
    simp only [Instance.arrive, Function.update_self]
    simp only [Events.any, Events.merge, Bool.or_eq_true] at hany ⊢
    rcases hany with (hin | herr) | hhup
    · exact Or.inl (Or.inl (Or.inl hin))
    · exact Or.inl (Or.inr (Or.inl herr))
    · exact Or.inr (Or.inl hhup)
  · simpa [Instance.arrive, Function.update_of_ne he] using hany

/-- An event carries the data value of a registered descriptor. -/
theorem eventOf_data {fd : ℤ} {e : ReadyEvent} (h : ep.eventOf fd = some e) :
    ⟨e.source, e.data⟩ ∈ ep.interest := by
  unfold eventOf at h
  cases hf : ep.interest.find? (·.fd = fd) with
  | none => simp [hf] at h
  | some i =>
    have hfd : i.fd = fd := by simpa using List.find?_some hf
    have hmem := List.mem_of_find?_eq_some hf
    simp only [hf] at h
    split at h
    · cases h
      subst hfd
      exact hmem
    · cases h

/-- So does every event of a report. -/
theorem report_data {maxevents : ℕ} {fds : List ℤ} {events : List ReadyEvent} {next : Instance}
    (h : ep.report maxevents fds = some (events, next)) {e : ReadyEvent} (he : e ∈ events) :
    ⟨e.source, e.data⟩ ∈ ep.interest := by
  unfold report at h
  split at h
  · cases h
    obtain ⟨fd, _, hfd⟩ := List.mem_filterMap.mp he
    exact eventOf_data hfd
  · cases h

/-- A report changes no registration. -/
theorem report_interest {maxevents : ℕ} {fds : List ℤ} {events : List ReadyEvent}
    {next : Instance} (h : ep.report maxevents fds = some (events, next)) :
    next.interest = ep.interest := by
  unfold report at h
  split at h
  · cases h
    rfl
  · cases h

end Instance

end SigIf.Epoll

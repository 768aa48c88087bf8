import Mathlib.Data.List.Nodup
import Mathlib.Data.List.Range
import SigIf.MachineLists

/-!
# The threads that the leader starts

The leader starts an acceptor, an I/O receiver, the configured number of
workers and a heartbeat keeper for each type of machine that has an entry. The
handles of the workers are kept in an array of ten, and the number of workers
is what the document says.
-/

namespace SigIf.Leader

open Programs JsonValue Posix Config

/-- The threads by their functions. -/
inductive Thread where
  | Acceptor
  | IOReceiver
  | Worker (work_id : ℕ)
  | HBKeeper (type : MachineType)
  deriving DecidableEq

/-- The size of the array `thrd_Worker`. -/
def workerSlots : ℕ := 10

/-- The threads started so far and the indices used into `thrd_Worker`, in order. -/
structure LeaderState where
  started : List Thread
  indices : List ℕ

/-- A part of the leader. -/
abbrev Starting (α : Type) := Program Fault LeaderState α

/-- `std::thread`. -/
def startThread (thread : Thread) : Starting Unit :=
  modify fun s => { s with started := s.started ++ [thread] }

/-- `thrd_Worker[i]`; past the end of the array the behaviour is undefined. -/
def workerSlot (i : ℕ) : Starting Unit := do
  modify fun s => { s with indices := s.indices ++ [i] }
  if workerSlots ≤ i then throw .undefined

/-- The rounds of the loop over the workers that are left from `i` on. The
thread is started before its handle is assigned. -/
def startWorkers : ℕ → ℕ → Starting Unit
  | 0, _ => return ()
  | left + 1, i => do
    startThread (.Worker i)
    workerSlot i
    startWorkers left (i + 1)

/-- One of the statements that start a heartbeat thread. -/
def startKeeper (info : Machine) (type : MachineType) : Starting Unit := do
  if (info.bucket type).number > 0 then startThread (.HBKeeper type)

/-- `Leader` up to the loop in which it only pauses. -/
def leader (config : ConfigManager) : Starting Unit := do
  startThread .Acceptor
  startThread .IOReceiver
  startWorkers config.getWorkerNumber.toNat 0
  let info := config.getMachine
  startKeeper info .XINGZHI
  startKeeper info .HAIXIN
  startKeeper info .HAIKANG
  startKeeper info .XIMENZI
  startKeeper info .DEVICE5

/-- The leader at its start. -/
def start : LeaderState := ⟨[], []⟩

/-- An element of the machine array is an entry of the type. -/
def isEntryOf (type : MachineType) (element : Json) : Bool :=
  match fetch ["MachineType"] element with
  | .ok (.string name) => name == type.name
  | _ => false

/-- The machine array has an entry of the type. -/
def hasEntry (doc : Json) (type : MachineType) : Bool :=
  match fetch ["Machine"] doc with
  | .ok machines => machines.elements.any (isEntryOf type)
  | .error _ => false

/-- The leader starts what a document with `n` workers calls for, and stays
inside of its array. -/
structure StartsAsConfigured (doc : Json) (n : ℤ) (s : LeaderState) : Prop where
  acceptor : s.started.count .Acceptor = 1
  ioReceiver : s.started.count .IOReceiver = 1
  workers : ∀ i : ℕ, s.started.count (.Worker i) = if i < n then 1 else 0
  keepers : ∀ type, s.started.count (.HBKeeper type) = if hasEntry doc type then 1 else 0
  indices : ∀ i ∈ s.indices, i < workerSlots

/-- The workers with ids from `i` on. -/
def workersFrom (i number : ℕ) : List Thread := (List.range' i number).map .Worker

/-- The heartbeat threads for the types that have machines. -/
def keepersOf (info : Machine) : List Thread :=
  MachineType.chain.flatMap fun type =>
    if (info.bucket type).number > 0 then [.HBKeeper type] else []

@[simp] theorem exec_startThread (thread : Thread) (s : LeaderState) :
    exec (startThread thread) s = (.ok (), { s with started := s.started ++ [thread] }) := rfl

theorem exec_workerSlot (i : ℕ) (s : LeaderState) :
    exec (workerSlot i) s =
      (if workerSlots ≤ i then .error .undefined else .ok (),
        { s with indices := s.indices ++ [i] }) := by
  simp only [workerSlot, exec_bind, exec_modify]
  split <;> rfl

/-- As long as there are slots the loop starts all of its workers. -/
theorem startWorkers_within {left i : ℕ} (h : i + left ≤ workerSlots) (s : LeaderState) :
    exec (startWorkers left i) s =
      (.ok (), ⟨s.started ++ workersFrom i left, s.indices ++ List.range' i left⟩) := by
  induction left generalizing i s with
  | zero => simp [startWorkers, workersFrom]
  | succ left ih =>
    have hslot : ¬ workerSlots ≤ i := by omega
    simp only [startWorkers, exec_bind, exec_startThread, exec_workerSlot, if_neg hslot]
    rw [ih (by omega)]
    simp [workersFrom, List.range'_succ]

/-- With more workers than slots it uses the index after the last one. -/
theorem startWorkers_beyond {left i : ℕ} (hi : i ≤ workerSlots) (h : workerSlots < i + left)
    (s : LeaderState) :
    ∃ s', exec (startWorkers left i) s = (.error .undefined, s') ∧ workerSlots ∈ s'.indices := by
  induction left generalizing i s with
  | zero => omega
  | succ left ih =>
    simp only [startWorkers, exec_bind, exec_startThread, exec_workerSlot]
    by_cases hslot : workerSlots ≤ i
    · have he : i = workerSlots := by omega
      exact ⟨_, by rw [if_pos hslot], by simp [he]⟩
    · rw [if_neg hslot]
      exact ih (by omega) (by omega) _

theorem exec_startKeeper (info : Machine) (type : MachineType) (s : LeaderState) :
    exec (startKeeper info type) s = (.ok (), { s with
      started := s.started ++ if (info.bucket type).number > 0 then [.HBKeeper type] else [] }) := by
  unfold startKeeper
  split <;> simp

/-- All threads, with no more workers than slots. -/
def threadsOf (number : ℕ) (info : Machine) : List Thread :=
  [.Acceptor, .IOReceiver] ++ workersFrom 0 number ++ keepersOf info

/-- The leader with no more workers than slots. -/
theorem leader_within {config : ConfigManager}
    (h : config.getWorkerNumber.toNat ≤ workerSlots) :
    exec (leader config) start = (.ok (),
      ⟨threadsOf config.getWorkerNumber.toNat config.getMachine,
        List.range' 0 config.getWorkerNumber.toNat⟩) := by
  have hfits : 0 + config.getWorkerNumber.toNat ≤ workerSlots := by omega
  simp only [leader, exec_bind, exec_startThread, startWorkers_within hfits, exec_startKeeper]
  simp [start, threadsOf, keepersOf, MachineType.chain]

/-- With more of them it writes past the end of its array. -/
theorem leader_beyond {config : ConfigManager}
    (h : workerSlots < config.getWorkerNumber.toNat) :
    workerSlots ∈ (exec (leader config) start).2.indices := by
  have hover : workerSlots < 0 + config.getWorkerNumber.toNat := by omega
  obtain ⟨s', hrun, hindex⟩ := startWorkers_beyond (Nat.zero_le _) hover
    ⟨start.started ++ [.Acceptor] ++ [.IOReceiver], start.indices⟩
  simp only [leader, exec_bind, exec_startThread, hrun]
  exact hindex

theorem mem_keepersOf (info : Machine) (thread : Thread) :
    thread ∈ keepersOf info ↔ ∃ type, thread = .HBKeeper type ∧ (info.bucket type).number > 0 := by
  have hchain (type : MachineType) : type ∈ MachineType.chain := by cases type <;> decide
  simp only [keepersOf, List.mem_flatMap, List.mem_ite_nil_right, List.mem_singleton]
  constructor
  · rintro ⟨type, _, hnumber, he⟩
    exact ⟨type, he, hnumber⟩
  · rintro ⟨type, he, hnumber⟩
    exact ⟨type, hchain type, hnumber, he⟩

theorem mem_workersFrom (i number : ℕ) (thread : Thread) :
    thread ∈ workersFrom i number ↔ ∃ k, thread = .Worker k ∧ i ≤ k ∧ k < i + number := by
  simp only [workersFrom, List.mem_map, List.mem_range'_1]
  constructor
  · rintro ⟨k, hk, rfl⟩
    exact ⟨k, rfl, hk⟩
  · rintro ⟨k, rfl, hk⟩
    exact ⟨k, hk, rfl⟩

/-- No thread is started twice. -/
theorem threadsOf_nodup (number : ℕ) (info : Machine) : (threadsOf number info).Nodup := by
  have hworkers : (workersFrom 0 number).Nodup :=
    List.Nodup.map (fun _ _ he => Thread.Worker.inj he) List.nodup_range'
  have hkeepers : (keepersOf info).Nodup := by
    refine List.nodup_flatMap.mpr ⟨fun type _ => by split <;> simp, ?_⟩
    have hchain : MachineType.chain.Nodup := by decide
    refine List.Pairwise.imp ?_ hchain
    intro type other hne thread hthread hother
    simp only [List.mem_ite_nil_right, List.mem_singleton] at hthread hother
    exact hne (Thread.HBKeeper.inj (hthread.2.symm.trans hother.2))
  refine List.nodup_append.mpr ⟨List.nodup_append.mpr ⟨by decide, hworkers, ?_⟩, hkeepers, ?_⟩
  · rintro thread hfirst _ hworker rfl
    obtain ⟨k, rfl, _⟩ := (mem_workersFrom _ _ _).mp hworker
    simp at hfirst
  · rintro thread hfirst _ hkeeper rfl
    obtain ⟨type, rfl, _⟩ := (mem_keepersOf _ _).mp hkeeper
    simp [mem_workersFrom] at hfirst

theorem mem_threadsOf (number : ℕ) (info : Machine) (thread : Thread) :
    thread ∈ threadsOf number info ↔ thread = .Acceptor ∨ thread = .IOReceiver ∨
      (∃ k, thread = .Worker k ∧ k < number) ∨
      ∃ type, thread = .HBKeeper type ∧ (info.bucket type).number > 0 := by
  simp [threadsOf, mem_workersFrom, mem_keepersOf]

/-- The threads are those that the document calls for, if the configuration
manager has its number of workers and counts its machines. -/
theorem startsAsConfigured_threadsOf {doc : Json} {n : ℤ} {number : ℕ} {info : Machine}
    (hnumber : n = number) (hslots : number ≤ workerSlots)
    (hinfo : ∀ type, (info.bucket type).number > 0 ↔ hasEntry doc type = true) :
    StartsAsConfigured doc n ⟨threadsOf number info, List.range' 0 number⟩ := by
  have hcount (thread : Thread) := (threadsOf_nodup number info).count (a := thread)
  refine ⟨?_, ?_, ?_, ?_, ?_⟩
  · simp [hcount, mem_threadsOf]
  · simp [hcount, mem_threadsOf]
  · simp [hcount, mem_threadsOf, hnumber]
  · simp [hcount, mem_threadsOf, hinfo]
  · intro i hi
    have hlt := (List.mem_range'_1.mp hi).2
    omega

/-- What a load that returns tells the leader: the number of workers as it was
converted, and no machines, as its lists have no nodes to hold any. -/
theorem manager_of_load {parse : Bytes → Option Json} {file : ConfigFile}
    {nodes : NodeRef → Option MachineInfo} {out : List String} {s' : LoadState} {value n : ℤ}
    {doc : Json} (hparse : parseBuffer parse file = .ok doc)
    (hread : exec (readConfig parse file) (MachineLists.fresh nodes out) = (.ok value, s'))
    (hn : fetch ["Server", "WorkerThreadNumber"] doc = .ok (.integer n)) :
    s'.manager.getWorkerNumber = toInt32 n ∧
      (∀ type, (s'.manager.getMachine.bucket type).number = 0) ∧
      ∀ type, hasEntry doc type = false := by
  obtain ⟨server, machines, s₁, s₂, s₃, hserver, hmachines, hmanager, hnumbers, hstore, rfl⟩ :=
    readConfig_eq_ok hparse hread
  obtain ⟨_, port, workers, receivers, _, _, hworkers, _, rfl⟩ :=
    exec_readServer_eq_ok_iff.mp hnumbers
  have hnone : MachineLists.NoNodes { s₁ with
      manager.port := port
      manager.WorkerNumber := workers
      manager.IOReceiveNumber := receivers } := by
    intro type
    change s₁.manager.machine_config.bucket type = _
    rw [hmanager]
    exact MachineLists.fresh_noNodes nodes out type
  have hfetch : fetch ["WorkerThreadNumber"] server = .ok (.integer n) := by
    rw [← fetch_append ["Server"] ["WorkerThreadNumber"] hserver]
    exact hn
  have hint : workers = toInt32 n := by
    rw [intMember_ok hfetch] at hworkers
    exact (Except.ok.inj hworkers).symm
  rcases MachineLists.storeMachines_of_noNodes hnone machines.elements with
    ⟨helements, hrun⟩ | ⟨_, fault, hrun⟩
  · obtain rfl := (Prod.mk.inj (hrun.symm.trans hstore)).2
    refine ⟨hint, fun type => ?_, fun type => ?_⟩
    · exact congrArg EachMachineType.number (hnone type)
    · simp [hasEntry, hmachines, helements]
  · rw [hrun] at hstore
    cases hstore

/-- The leader never starts more workers than there are slots as configured:
one is stored past the end, or one is missing. -/
theorem le_workerSlots_of_starts {config : ConfigManager} {doc : Json} {n : ℤ}
    (h : StartsAsConfigured doc n (exec (leader config) start).2) : n ≤ workerSlots := by
  by_contra hmany
  by_cases hwithin : config.getWorkerNumber.toNat ≤ workerSlots
  · have hmissing := h.workers workerSlots
    rw [leader_within hwithin, if_pos (by omega)] at hmissing
    have hmem := List.count_pos_iff.mp (hmissing ▸ Nat.one_pos)
    have hlt : workerSlots < config.getWorkerNumber.toNat := by
      simpa [mem_threadsOf] using hmem
    omega
  · have hpast := h.indices workerSlots (leader_beyond (by omega))
    omega

/-- After a load that returns, the leader starts what the document calls for
exactly when it calls for no more workers than there are slots. -/
theorem starts_as_configured_iff {parse : Bytes → Option Json} {file : ConfigFile}
    {nodes : NodeRef → Option MachineInfo} {out : List String} {s' : LoadState} {value n : ℤ}
    {doc : Json} (hparse : parseBuffer parse file = .ok doc)
    (hread : exec (readConfig parse file) (MachineLists.fresh nodes out) = (.ok value, s'))
    (hn : fetch ["Server", "WorkerThreadNumber"] doc = .ok (.integer n)) (hnonneg : 0 ≤ n) :
    StartsAsConfigured doc n (exec (leader s'.manager) start).2 ↔ n ≤ workerSlots := by
  refine ⟨le_workerSlots_of_starts, ?_⟩
  intro hfew
  obtain ⟨hnumber, hmachines, hentries⟩ := manager_of_load hparse hread hn
  have hslots : n ≤ 10 := hfew
  have hexact : toInt32 n = n := by
    rw [toInt32, Int.bmod_def]
    omega
  have hwithin : s'.manager.getWorkerNumber.toNat ≤ workerSlots := by
    rw [hnumber, hexact]
    omega
  rw [leader_within hwithin]
  refine startsAsConfigured_threadsOf (by omega) hwithin ?_
  intro type
  simp [hmachines, hentries]

/-- A document with this number of workers and no machines. -/
def exampleDoc (workers : ℤ) : Json :=
  .object [("Server", .object [("Host", .string "127.0.0.1"), ("Port", .integer 6000),
    ("WorkerThreadNumber", .integer workers), ("IOReaderThreadNumber", .integer 1)]),
    ("Machine", .array [])]

/-- Its text. -/
def exampleText (workers : ℤ) : CString :=
  c_str ("\x7b\"Server\":\x7b\"Host\":\"127.0.0.1\",\"Port\":6000,\"WorkerThreadNumber\":" ++
    toString workers ++ ",\"IOReaderThreadNumber\":1\x7d,\"Machine\":[]\x7d")

/-- A parser that knows that text. -/
def exampleParse (workers : ℤ) : Bytes → Option Json :=
  MachineLists.parseOnly (exampleText workers) (exampleDoc workers)

/-- A file with that text, and a NUL right after it. -/
def exampleFile (workers : ℤ) : ConfigFile := .whole (exampleText workers) (c_str "")

theorem exampleParse_text (workers : ℤ) :
    exampleParse workers ((exampleText workers).bytes ++ (c_str "").bytes) =
      some (exampleDoc workers) := if_pos (List.append_nil _)

theorem parseBuffer_example (workers : ℤ) :
    parseBuffer (exampleParse workers) (exampleFile workers) = .ok (exampleDoc workers) := by
  rw [exampleFile, parseBuffer_whole, exampleParse_text]
  rfl

/-- Such a document is read to its end, and its number of workers converted. -/
theorem readConfig_example (workers : ℤ) :
    ∃ s', exec (readConfig (exampleParse workers) (exampleFile workers))
        (MachineLists.fresh (fun _ => none) []) = (.ok 1, s') ∧
      s'.manager.getWorkerNumber = toInt32 workers :=
  ⟨_, by rw [exampleFile, exec_readConfig_whole, exampleParse_text]; rfl, rfl⟩

/-- Three workers, as the comment on the leader has it. -/
theorem three_workers_start :
    ∃ s', exec (readConfig (exampleParse 3) (exampleFile 3))
        (MachineLists.fresh (fun _ => none) []) = (.ok 1, s') ∧
      StartsAsConfigured (exampleDoc 3) 3 (exec (leader s'.manager) start).2 := by
  obtain ⟨s', hread, _⟩ := readConfig_example 3
  exact ⟨s', hread,
    (starts_as_configured_iff (parseBuffer_example 3) hread rfl (by decide)).mpr (by decide)⟩

/-- The eleventh worker is stored past the end of the array. -/
theorem eleven_workers_overflow :
    ∃ s', exec (readConfig (exampleParse 11) (exampleFile 11))
        (MachineLists.fresh (fun _ => none) []) = (.ok 1, s') ∧
      ¬ StartsAsConfigured (exampleDoc 11) 11 (exec (leader s'.manager) start).2 := by
  obtain ⟨s', hread, hnumber⟩ := readConfig_example 11
  refine ⟨s', hread, ?_⟩
  intro hstarts
  have hpast : workerSlots < s'.manager.getWorkerNumber.toNat := by
    rw [hnumber]
    decide
  exact absurd (hstarts.indices workerSlots (leader_beyond hpast)) (lt_irrefl _)

end SigIf.Leader

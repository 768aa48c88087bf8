import SigIf.MachineLists
import SigIf.Runs

/-!
# What a failed load leaves visible

A load that fails should say so and change nothing that the getters return. The
loader stores each number as soon as it has read it, and not all getters wait
for the load to end. The loads before may have failed as well, but not have run
into undefined behaviour.
-/

namespace SigIf.FailedLoads

open Programs JsonValue Posix Config MachineLists

/-- A file, of which so many bytes are delivered, and what follows these in
memory up to the first NUL. A file without content cannot be read. -/
structure FileRead where
  content : Option Bytes
  delivered : ℕ
  spill : CString

/-- What the loader sees of it. -/
def FileRead.file (r : FileRead) : ConfigFile :=
  ⟨r.content.map List.length, (r.content.getD []).take r.delivered, r.spill⟩

/-- The bytes that `json::parse` sees. -/
def FileRead.parsed (r : FileRead) : Bytes := (cString (r.file.got ++ r.file.spill.bytes)).bytes

/-- A load of the file, after which the program goes on unless it is undefined. -/
def load (parse : Bytes → Option Json) (s : LoadState) (r : FileRead) : Option LoadState :=
  match exec (readConfig parse r.file) s with
  | (.error .undefined, _) => none
  | (_, s') => some s'

/-- What the getters return, and the nodes that the lists of `GetMachine` lead to. -/
structure Shown where
  listenIP : CString
  listenPort : ℤ
  machine : Machine
  nodes : NodeRef → Option MachineInfo
  workerNumber : ℤ
  ioReceiveNumber : ℤ

def shown (s : LoadState) : Shown where
  listenIP := s.manager.getListenIP
  listenPort := s.manager.getListenPort
  machine := s.manager.getMachine
  nodes := s.nodes
  workerNumber := s.manager.getWorkerNumber
  ioReceiveNumber := s.manager.getIOReceiveNumber

/-- The load has come to its end, on exactly the bytes of the file. -/
def Completes (r : FileRead) (result : Except Fault ℤ) : Prop :=
  result = .ok 1 ∧ r.content = some r.parsed

/-- The caller is told of a failure, by an exception or by another result. -/
def Reports : Except Fault ℤ → Prop
  | .ok value => value ≠ 1
  | .error fault => fault ≠ .undefined

/-- A load that does not complete reports that, and is not seen by the getters. -/
def FailureInvisible (parse : Bytes → Option Json) (s : LoadState) (r : FileRead) : Prop :=
  Completes r (exec (readConfig parse r.file) s).1 ∨
    (Reports (exec (readConfig parse r.file) s).1 ∧
      shown (exec (readConfig parse r.file) s).2 = shown s)

/-- The numbers of a section that can be read before the first that cannot, and
how the reading ends. -/
def readNumbers (section_json : Json) : List String → List ℤ × Except Fault Unit
  | [] => ([], .ok ())
  | key :: keys =>
    match intMember key section_json with
    | .error fault => ([], .error fault)
    | .ok n => (n :: (readNumbers section_json keys).1, (readNumbers section_json keys).2)

/-- The reads of the server section. -/
def serverReads (config_server_json : Json) : List ℤ × Except Fault Unit :=
  match stringMember "Host" config_server_json with
  | .error fault => ([], .error fault)
  | .ok _ => readNumbers config_server_json ["Port", "WorkerThreadNumber", "IOReaderThreadNumber"]

/-- The reads of a document: the numbers of its server section, and how the
reading ends in a manager whose lists have no nodes. -/
def documentReads (doc : Json) : List ℤ × Except Fault Unit :=
  match member "Server" doc with
  | .error fault => ([], .error fault)
  | .ok server =>
    match serverReads server with
    | (numbers, .error fault) => (numbers, .error fault)
    | (numbers, .ok ()) =>
      (numbers, (member "Machine" doc).bind fun machines => loopWithoutNodes machines.elements)

/-- The numbers that the getters return, in the order in which they are read. -/
def numbersShown (self : ConfigManager) : List ℤ :=
  self.port :: if self.AlreadyRead then [self.WorkerNumber, self.IOReceiveNumber] else []

/-- The file is not parsed; or all of it can be read, it has no machine and
nothing but it is parsed; or the first read that fails throws, and the numbers
read before it are those that the getters return already. -/
def Harmless (parse : Bytes → Option Json) (self : ConfigManager) (r : FileRead) : Prop :=
  ∀ content doc, r.content = some content → parse r.parsed = some doc →
    match documentReads doc with
    | (_, .ok ()) => r.parsed = content
    | (numbers, .error fault) =>
      fault ≠ .undefined ∧ ∀ pair ∈ numbers.zip (numbersShown self), pair.1 = pair.2

/-- The manager with as many numbers of the server section stored as there are. -/
def withFirst (numbers : List ℤ) (self : ConfigManager) : ConfigManager :=
  { self with
    port := numbers[0]?.getD self.port
    WorkerNumber := numbers[1]?.getD self.WorkerNumber
    IOReceiveNumber := numbers[2]?.getD self.IOReceiveNumber }

/-- The section is read as far as it can be, and what was read is stored. -/
theorem exec_readServer (server : Json) (s : LoadState) :
    exec (readServer server) s = ((serverReads server).2,
      { s with manager := withFirst (serverReads server).1 s.manager }) := by
  simp only [readServer, serverReads, exec_bind, exec_attempt]
  cases stringMember "Host" server with
  | error fault => rfl
  | ok host =>
    simp only [readNumbers]
    cases intMember "Port" server with
    | error fault => rfl
    | ok port =>
      simp only [exec_modify]
      cases intMember "WorkerThreadNumber" server with
      | error fault => rfl
      | ok workers =>
        simp only
        cases intMember "IOReaderThreadNumber" server <;> rfl

/-- The getters show nothing of the stored numbers exactly if those that they
show are the same as before. -/
theorem shown_withFirst_iff (numbers : List ℤ) (s : LoadState) (out : List String) :
    shown { s with out := out, manager := withFirst numbers s.manager } = shown s ↔
      ∀ pair ∈ numbers.zip (numbersShown s.manager), pair.1 = pair.2 := by
  simp only [shown, withFirst, numbersShown, Shown.mk.injEq, ConfigManager.getListenIP,
    ConfigManager.getListenPort, ConfigManager.getMachine, ConfigManager.getWorkerNumber,
    ConfigManager.getIOReceiveNumber, true_and]
  obtain ⟨⟨AlreadyRead, WorkerNumber, IOReceiveNumber, machines, ip, port⟩, nodes, old⟩ := s
  -- the first number is always shown, the two others once a load has ended
  rcases numbers with _ | ⟨n, _ | ⟨workers, _ | ⟨receivers, rest⟩⟩⟩
  all_goals cases AlreadyRead <;> simp

theorem noNodes_withFirst {s : LoadState} (h : NoNodes s) (numbers : List ℤ) (out : List String) :
    NoNodes { s with out := out, manager := withFirst numbers s.manager } := h

/-- The state after a load of a parsed document, apart from what it printed. -/
def afterLoad (doc : Json) (s : LoadState) (out : List String) : LoadState :=
  { s with
    out := out
    manager := { withFirst (documentReads doc).1 s.manager with
      AlreadyRead := (documentReads doc).2.isOk || s.manager.AlreadyRead } }

/-- Once its document is parsed, a load into a manager without nodes reads it
as far as it can, and stores the numbers that it has read. -/
theorem exec_sections_of_noNodes (doc : Json) {s : LoadState} (hs : NoNodes s) :
    exec (do
        readServer (← attempt (member "Server" doc))
        let config_machine_json ← attempt (member "Machine" doc)
        storeMachines config_machine_json.elements
        modify fun s : LoadState => { s with manager.AlreadyRead := true }
        return (1 : ℤ)) s =
      ((documentReads doc).2.map fun _ => 1, afterLoad doc s s.out) := by
  simp only [exec_bind, exec_attempt, afterLoad, documentReads]
  cases member "Server" doc with
  | error fault => rfl
  | ok server =>
    simp only [exec_readServer]
    rcases serverReads server with ⟨numbers, fault | _⟩
    · rfl
    · simp only
      cases member "Machine" doc with
      | error fault => rfl
      | ok machines =>
        have hloop := exec_storeMachines_of_noNodes (noNodes_withFirst hs numbers s.out)
          machines.elements
        simp only [Except.bind, hloop]
        cases loopWithoutNodes machines.elements <;> rfl

/-- So the whole load of a document that is parsed does the same, and may print. -/
theorem readConfig_of_noNodes {parse : Bytes → Option Json} {file : ConfigFile} {size : ℕ}
    {doc : Json} (hsize : file.size = some size) (hparse : parseBuffer parse file = .ok doc)
    {s : LoadState} (hs : NoNodes s) :
    ∃ out, exec (readConfig parse file) s =
      ((documentReads doc).2.map fun _ => 1, afterLoad doc s out) := by
  simp only [readConfig, hsize, hparse]
  split
  · refine ⟨"Error here" :: s.out, ?_⟩
    have hprinted : NoNodes { s with out := "Error here" :: s.out } := hs
    rw [exec_bind, exec_modify]
    exact exec_sections_of_noNodes doc hprinted
  · exact ⟨s.out, exec_sections_of_noNodes doc hs⟩

/-- A file that cannot be read or is not parsed is an exception, and nothing is
stored. -/
theorem readConfig_unparsed (parse : Bytes → Option Json) {r : FileRead}
    (h : ∀ content doc, r.content = some content → parse r.parsed ≠ some doc) (s : LoadState) :
    ∃ fault out, fault ≠ .undefined ∧
      exec (readConfig parse r.file) s = (.error fault, { s with out := out }) := by
  cases hcontent : r.content with
  | none =>
    have hsize : r.file.size = none := by simp [FileRead.file, hcontent]
    exact ⟨.badAlloc, s.out, by simp, by simp [readConfig, hsize]⟩
  | some content =>
    have hsize : r.file.size = some content.length := by simp [FileRead.file, hcontent]
    have hnone : parse r.parsed = none := by
      cases hdoc : parse r.parsed with
      | none => rfl
      | some doc => exact absurd hdoc (h content doc hcontent)
    have hparse : parseBuffer parse r.file = .error (.threw .parseError) := by
      change (parse r.parsed).elim _ _ = _
      rw [hnone]
      rfl
    simp only [readConfig, hsize, hparse]
    refine ⟨.threw .parseError, ?_⟩
    split
    · exact ⟨"Error here" :: s.out, by simp, rfl⟩
    · exact ⟨s.out, by simp, rfl⟩

/-- What a load into a manager without nodes can do. -/
theorem readConfig_cases (parse : Bytes → Option Json) (r : FileRead) {s : LoadState}
    (hs : NoNodes s) :
    ((∀ content doc, r.content = some content → parse r.parsed ≠ some doc) ∧
      ∃ fault out, fault ≠ .undefined ∧
        exec (readConfig parse r.file) s = (.error fault, { s with out := out })) ∨
    ∃ content doc out, r.content = some content ∧ parse r.parsed = some doc ∧
      exec (readConfig parse r.file) s =
        ((documentReads doc).2.map fun _ => 1, afterLoad doc s out) := by
  by_cases h : ∃ content doc, r.content = some content ∧ parse r.parsed = some doc
  · obtain ⟨content, doc, hcontent, hdoc⟩ := h
    have hsize : r.file.size = some content.length := by simp [FileRead.file, hcontent]
    have hparse : parseBuffer parse r.file = .ok doc := by
      change (parse r.parsed).elim _ _ = _
      rw [hdoc]
      rfl
    obtain ⟨out, hrun⟩ := readConfig_of_noNodes hsize hparse hs
    exact Or.inr ⟨content, doc, out, hcontent, hdoc, hrun⟩
  · have hnone : ∀ content doc, r.content = some content → parse r.parsed ≠ some doc :=
      fun content doc hcontent hdoc => h ⟨content, doc, hcontent, hdoc⟩
    exact Or.inl ⟨hnone, readConfig_unparsed parse hnone s⟩

/-- The program goes on with what the load has left. -/
theorem load_eq_some {parse : Bytes → Option Json} {s next : LoadState} {r : FileRead}
    (h : load parse s r = some next) : next = (exec (readConfig parse r.file) s).2 := by
  unfold load at h
  split at h
  · cases h
  · rename_i hrun
    rw [hrun]
    exact (Option.some.inj h).symm

/-- No load gives the lists nodes. -/
theorem load_noNodes {parse : Bytes → Option Json} (s : LoadState) (r : FileRead)
    (next : LoadState) (h : NoNodes s) (hnext : load parse s r = some next) : NoNodes next := by
  rw [load_eq_some hnext]
  rcases readConfig_cases parse r h with ⟨_, _, _, _, hrun⟩ | ⟨_, _, _, _, _, hrun⟩
  · rw [hrun]
    exact h
  · rw [hrun]
    exact h

/-- For a file that is parsed only its one document matters. -/
theorem harmless_iff_of_parsed {parse : Bytes → Option Json} {self : ConfigManager} {r : FileRead}
    {content : Bytes} {doc : Json} (hcontent : r.content = some content)
    (hdoc : parse r.parsed = some doc) :
    Harmless parse self r ↔ match documentReads doc with
      | (_, .ok ()) => r.parsed = content
      | (numbers, .error fault) =>
        fault ≠ .undefined ∧ ∀ pair ∈ numbers.zip (numbersShown self), pair.1 = pair.2 := by
  constructor
  · exact fun h => h content doc hcontent hdoc
  · intro h content' doc' hcontent' hdoc'
    obtain rfl := Option.some.inj (hcontent.symm.trans hcontent')
    obtain rfl := Option.some.inj (hdoc.symm.trans hdoc')
    exact h

/-- After any loads, a failed one is invisible exactly when it is harmless. -/
theorem failed_load_invisible_iff (parse : Bytes → Option Json)
    (nodes : NodeRef → Option MachineInfo) (out : List String) {earlier : List FileRead}
    {s : LoadState} (hreach : Runs.run (load parse) (fresh nodes out) earlier = some s)
    (r : FileRead) : FailureInvisible parse s r ↔ Harmless parse s.manager r := by
  have hs : NoNodes s :=
    (Runs.always_of_invariant load_noNodes (fresh_noNodes nodes out) earlier).last hreach
  rcases readConfig_cases parse r hs with
    ⟨hnone, fault, printed, hfault, hrun⟩ | ⟨content, doc, printed, hcontent, hdoc, hrun⟩
  · refine iff_of_true ?_ fun content doc hcontent hdoc => absurd hdoc (hnone content doc hcontent)
    rw [FailureInvisible, hrun]
    exact Or.inr ⟨hfault, rfl⟩
  · rw [harmless_iff_of_parsed hcontent hdoc, FailureInvisible, hrun]
    rcases hreads : documentReads doc with ⟨numbers, fault | _⟩
    · -- the load stops at its first failing read, with the numbers before it stored
      have hafter : afterLoad doc s printed =
          { s with out := printed, manager := withFirst numbers s.manager } := by
        rw [afterLoad, hreads]
        rfl
      rw [hafter]
      simp only [← shown_withFirst_iff numbers s printed]
      exact or_iff_right fun hcompletes => by cases hcompletes.1
    · -- it returns one, so nothing reports that other bytes were loaded
      have hnever : ¬ Reports (.ok 1) := fun hreports => hreports rfl
      refine (or_iff_left fun hreports => hnever hreports.1).trans ?_
      simp [Completes, Except.map, hcontent, eq_comm]

/-- The text of a document with only an address and a port. -/
def portText : CString := c_str "\x7b\"Server\":\x7b\"Host\":\"127.0.0.1\",\"Port\":6000\x7d\x7d"

/-- Its value. -/
def portDoc : Json :=
  .object [("Server", .object [("Host", .string "127.0.0.1"), ("Port", .integer 6000)])]

/-- The file with this text, delivered in full and with a NUL after it. -/
def portFile : FileRead := ⟨some portText.bytes, strlen portText, c_str ""⟩

theorem portFile_parsed : parseBuffer (parseOnly portText portDoc) portFile.file = .ok portDoc := by
  have hfile : portFile.file = .whole portText (c_str "") := by
    simp [FileRead.file, portFile, ConfigFile.whole, strlen]
  rw [hfile, parseBuffer_whole]
  rfl

/-- A document without a number of workers throws, and its port is shown. -/
theorem port_of_failed_load_shown :
    ¬ FailureInvisible (parseOnly portText portDoc) (fresh (fun _ => none) []) portFile := by
  obtain ⟨out, hrun⟩ := readConfig_of_noNodes rfl portFile_parsed
    (fresh_noNodes (fun _ => none) [])
  rw [FailureInvisible, hrun]
  rintro (hcompletes | ⟨_, hshown⟩)
  · cases hcompletes.1
  · have hport : toInt32 6000 = 0 := congrArg Shown.listenPort hshown
    exact absurd hport (by decide)

/-- Loading it once more shows nothing that is not shown already. -/
theorem second_failed_load_invisible :
    ∃ s, Runs.run (load (parseOnly portText portDoc)) (fresh (fun _ => none) []) [portFile] =
      some s ∧ FailureInvisible (parseOnly portText portDoc) s portFile := by
  obtain ⟨out, hrun⟩ := readConfig_of_noNodes rfl portFile_parsed
    (fresh_noNodes (fun _ => none) [])
  have hreach : Runs.run (load (parseOnly portText portDoc)) (fresh (fun _ => none) []) [portFile] =
      some (afterLoad portDoc (fresh (fun _ => none) []) out) := by
    simp only [Runs.run, load, hrun]
    rfl
  refine ⟨_, hreach, (failed_load_invisible_iff _ _ _ hreach _).mpr ?_⟩
  have hparsed : parseOnly portText portDoc portFile.parsed = some portDoc := rfl
  refine (harmless_iff_of_parsed rfl hparsed).mpr ⟨by simp, ?_⟩
  intro pair hpair
  obtain rfl := List.mem_singleton.mp hpair
  rfl

end SigIf.FailedLoads

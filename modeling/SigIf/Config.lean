import Mathlib.Algebra.Ring.Int.Defs
import SigIf.JsonValue
import SigIf.Posix

/-!
# The configuration manager

`ConfigManager::ReadConfig`, statement by statement, on the singleton and the
machine nodes that its lists are made of. The loader never allocates a node.
The JSON parser is a parameter. A load can end with a result, with an
exception, or in undefined behaviour; what it wrote before that stays.
-/

namespace SigIf.Config

open Programs JsonValue Posix

/-- `MachineType`. -/
inductive MachineType where
  | XINGZHI
  | HAIXIN
  | HAIKANG
  | XIMENZI
  | DEVICE5
  deriving DecidableEq

/-- The text of a type in a configuration document. -/
def MachineType.name : MachineType → String
  | .XINGZHI => "XINGZHI"
  | .HAIXIN => "HAIXIN"
  | .HAIKANG => "HAIKANG"
  | .XIMENZI => "XIMENZI"
  | .DEVICE5 => "DEVICE5"

/-- The types in the order in which the loader tests for them. -/
def MachineType.chain : List MachineType := [.XINGZHI, .HAIXIN, .HAIKANG, .XIMENZI, .DEVICE5]

/-- The address of a machine node. -/
abbrev NodeRef := ℕ

/-- The size of the array `ipv4` of a node. -/
def ipv4Capacity : ℕ := 16

/-- `MachineInfo`; a pointer that is null is none. -/
structure MachineInfo where
  ipv4 : CString
  id : ℤ
  next : Option NodeRef

/-- `EachMachineType`. -/
structure EachMachineType where
  number : ℤ
  head : Option NodeRef
  deriving DecidableEq

/-- `Machine`. -/
structure Machine where
  XINGZHI : EachMachineType
  HAIXIN : EachMachineType
  HAIKANG : EachMachineType
  XIMENZI : EachMachineType
  DEVICE5 : EachMachineType
  deriving DecidableEq

/-- The member that `m_type` points to. -/
def Machine.bucket (machine : Machine) : MachineType → EachMachineType
  | .XINGZHI => machine.XINGZHI
  | .HAIXIN => machine.HAIXIN
  | .HAIKANG => machine.HAIKANG
  | .XIMENZI => machine.XIMENZI
  | .DEVICE5 => machine.DEVICE5

/-- `m_type->number++`. -/
def Machine.count (machine : Machine) : MachineType → Machine
  | .XINGZHI => { machine with XINGZHI.number := machine.XINGZHI.number + 1 }
  | .HAIXIN => { machine with HAIXIN.number := machine.HAIXIN.number + 1 }
  | .HAIKANG => { machine with HAIKANG.number := machine.HAIKANG.number + 1 }
  | .XIMENZI => { machine with XIMENZI.number := machine.XIMENZI.number + 1 }
  | .DEVICE5 => { machine with DEVICE5.number := machine.DEVICE5.number + 1 }

/-- The members of `ConfigManager`. -/
structure ConfigManager where
  AlreadyRead : Bool
  WorkerNumber : ℤ
  IOReceiveNumber : ℤ
  machine_config : Machine
  listenAddr : CString
  port : ℤ
  deriving DecidableEq

/-- A list without nodes. -/
def EachMachineType.empty : EachMachineType := ⟨0, none⟩

/-- The singleton after its constructor. -/
def ConfigManager.new : ConfigManager where
  AlreadyRead := false
  WorkerNumber := 0
  IOReceiveNumber := 0
  machine_config := ⟨.empty, .empty, .empty, .empty, .empty⟩
  listenAddr := c_str ""
  port := 0

/-- `GetListenIP`. -/
def ConfigManager.getListenIP (self : ConfigManager) : CString := self.listenAddr

/-- `GetListenPort`. -/
def ConfigManager.getListenPort (self : ConfigManager) : ℤ := self.port

/-- `GetMachine`. -/
def ConfigManager.getMachine (self : ConfigManager) : Machine := self.machine_config

/-- `GetWorkerNumber`. -/
def ConfigManager.getWorkerNumber (self : ConfigManager) : ℤ :=
  if !self.AlreadyRead then -1 else self.WorkerNumber

/-- `GetIOReceiveNumber`. -/
def ConfigManager.getIOReceiveNumber (self : ConfigManager) : ℤ :=
  if !self.AlreadyRead then -1 else self.IOReceiveNumber

/-- Why a load does not return. Undefined behaviour is reading or writing
through a null pointer, a copy over the end of an array, and the conversion of
a floating-point number that no `int` can hold. -/
inductive Fault where
  | threw (e : JsonError)
  | badAlloc
  | undefined
  deriving DecidableEq

/-- The singleton, the machine nodes, and the lines printed, newest first. -/
structure LoadState where
  manager : ConfigManager
  nodes : NodeRef → Option MachineInfo
  out : List String

/-- A part of the loader. -/
abbrev Load (α : Type) := Program Fault LoadState α

/-- What the loader sees of its file. -/
structure ConfigFile where
  /-- The result of the first `lseek`; none if it is -1, as after a failed `open`. -/
  size : Option ℕ
  /-- The bytes that `read` delivers into the buffer. -/
  got : Bytes
  /-- What follows them in memory, up to the first NUL; the loader appends none. -/
  spill : CString

/-- A file that is read to its end. -/
def ConfigFile.whole (text spill : CString) : ConfigFile :=
  ⟨some (strlen text), text.bytes, spill⟩

/-- The conversion of an integer to a 32-bit `int`. -/
def toInt32 (n : ℤ) : ℤ := n.bmod 4294967296

/-- The integral part of mantissa times two to the exponent. -/
def truncate (mantissa exponent : ℤ) : ℤ :=
  if 0 ≤ exponent then mantissa * 2 ^ exponent.toNat else mantissa.tdiv (2 ^ (-exponent).toNat)

/-- `get<int>`; every other kind is type error 302. -/
def getInt : Json → Except Fault ℤ
  | .integer n => .ok (toInt32 n)
  | .boolean b => .ok (if b then 1 else 0)
  | .float mantissa exponent =>
    let n := truncate mantissa exponent
    if -2147483648 ≤ n ∧ n < 2147483648 then .ok n else .error .undefined
  | _ => .error (.threw (.typeError 302))

/-- A member of a value. What the index operators insert on the way is not seen
by the reads that follow, which are of other members or of the same one. -/
def member (key : String) (value : Json) : Except Fault Json :=
  (fetch [key] value).mapError .threw

/-- `value[key].get<int>()`. -/
def intMember (key : String) (value : Json) : Except Fault ℤ := (member key value).bind getInt

/-- `value[key].get<std::string>().c_str()`. -/
def stringMember (key : String) (value : Json) : Except Fault CString :=
  (member key value).bind fun v => (v.getString.map c_str).mapError .threw

/-- The node that a pointer points to. -/
def node (p : Option NodeRef) : Load MachineInfo := do
  let s ← get
  attempt ((p.bind s.nodes).elim (.error .undefined) .ok)

/-- `for(int i=0; i<m_type->number;i++) m_info=m_info->next;`. -/
def walk : ℕ → Option NodeRef → Load (Option NodeRef)
  | 0, m_info => return m_info
  | steps + 1, m_info => do walk steps (← node m_info).next

/-- The if-else chain: the first type whose comparison is nonzero is chosen. -/
def chosenType : List MachineType → Json → Load (Option MachineType)
  | [], _ => return none
  | label :: rest, element => do
    if strcmp (← attempt (stringMember "MachineType" element)) (c_str label.name) ≠ 0 then
      return some label
    chosenType rest element

/-- Write through a pointer to a node. -/
def writeNode (p : Option NodeRef) (info : MachineInfo) : Load Unit :=
  modify fun s => { s with nodes := fun r => if p = some r then some info else s.nodes r }

/-- The body of the loop over the machines. -/
def storeMachine (element : Json) : Load Unit := do
  match ← chosenType MachineType.chain element with
  | none => throw .undefined
  | some m_type =>
    let bucket := (← get).manager.machine_config.bucket m_type
    let m_info ← walk bucket.number.toNat bucket.head
    let id ← attempt (intMember "Id" element)
    let info ← node m_info
    writeNode m_info { info with id := id }
    let ipv4 ← attempt (stringMember "IpAddr" element)
    if ipv4Capacity ≤ strlen ipv4 then throw .undefined
    writeNode m_info { info with id := id, ipv4 := ipv4 }
    modify fun s => { s with
      manager.machine_config := s.manager.machine_config.count m_type }

/-- The loop over the machines. -/
def storeMachines : List Json → Load Unit
  | [] => return ()
  | element :: rest => do
    storeMachine element
    storeMachines rest

/-- `json::parse(buffer)`, which reads up to the first NUL. -/
def parseBuffer (parse : Bytes → Option Json) (file : ConfigFile) : Except Fault Json :=
  (parse (cString (file.got ++ file.spill.bytes)).bytes).elim
    (.error (.threw .parseError)) .ok

/-- The server section: each number is stored as soon as it is read. -/
def readServer (config_server_json : Json) : Load Unit := do
  -- the address is compared with the old one and not copied
  let _ ← attempt (stringMember "Host" config_server_json)
  let port ← attempt (intMember "Port" config_server_json)
  modify fun s => { s with manager.port := port }
  let workers ← attempt (intMember "WorkerThreadNumber" config_server_json)
  modify fun s => { s with manager.WorkerNumber := workers }
  let receivers ← attempt (intMember "IOReaderThreadNumber" config_server_json)
  modify fun s => { s with manager.IOReceiveNumber := receivers }

/-- `ConfigManager::ReadConfig`. -/
def readConfig (parse : Bytes → Option Json) (file : ConfigFile) : Load ℤ := do
  match file.size with
  | none => throw .badAlloc
  | some file_size =>
    if file.got.length ≠ file_size then
      modify fun s => { s with out := "Error here" :: s.out }
    let config_json ← attempt (parseBuffer parse file)
    readServer (← attempt (member "Server" config_json))
    let config_machine_json ← attempt (member "Machine" config_json)
    storeMachines config_machine_json.elements
    modify fun s => { s with manager.AlreadyRead := true }
    return 1

theorem member_ok {key : String} {value v : Json} (h : fetch [key] value = .ok v) :
    member key value = .ok v := by rw [member, h]; rfl

theorem intMember_ok {key : String} {value : Json} {n : ℤ}
    (h : fetch [key] value = .ok (.integer n)) : intMember key value = .ok (toInt32 n) := by
  rw [intMember, member_ok h]
  rfl

theorem stringMember_ok {key : String} {value : Json} {text : String}
    (h : fetch [key] value = .ok (.string text)) : stringMember key value = .ok (c_str text) := by
  rw [stringMember, member_ok h]
  rfl

/-- A file that is read to its end is parsed with what follows it in memory. -/
theorem parseBuffer_whole (parse : Bytes → Option Json) (text spill : CString) :
    parseBuffer parse (.whole text spill) =
      (parse (text.bytes ++ spill.bytes)).elim (.error (.threw .parseError)) .ok := by
  have hnul : ∀ b ∈ text.bytes ++ spill.bytes, decide (b ≠ 0) = true := by
    intro b hb
    rw [decide_eq_true_eq]
    rintro rfl
    exact (List.mem_append.mp hb).elim text.noNul spill.noNul
  have hseen : (cString (text.bytes ++ spill.bytes)).bytes = text.bytes ++ spill.bytes :=
    List.takeWhile_eq_self_iff.mpr hnul
  rw [parseBuffer, ConfigFile.whole, hseen]

/-- What a load of a file that is read to its end does after parsing. -/
theorem exec_readConfig_whole (parse : Bytes → Option Json) (text spill : CString)
    (s : LoadState) :
    exec (readConfig parse (.whole text spill)) s =
      match parse (text.bytes ++ spill.bytes) with
      | none => (.error (.threw .parseError), s)
      | some config_json => exec (do
          readServer (← attempt (member "Server" config_json))
          let config_machine_json ← attempt (member "Machine" config_json)
          storeMachines config_machine_json.elements
          modify fun s => { s with manager.AlreadyRead := true }
          return 1) s := by
  have hparse := parseBuffer_whole parse text spill
  have hread : ¬ text.bytes.length ≠ strlen text := not_not_intro rfl
  simp only [ConfigFile.whole] at hparse
  simp only [readConfig, ConfigFile.whole, hparse, if_neg hread]
  cases parse (text.bytes ++ spill.bytes) with
  | none => rfl
  | some config_json => rfl

/-- A member that is read is what the index operator finds. -/
theorem member_eq_ok_iff {key : String} {value v : Json} :
    member key value = .ok v ↔ fetch [key] value = .ok v := by
  unfold member
  cases fetch [key] value <;> simp [Except.mapError]

/-- The server section is read to its end exactly if its address and its three
numbers can be read, and the numbers are stored. -/
theorem exec_readServer_eq_ok_iff {server : Json} {s s' : LoadState} :
    exec (readServer server) s = (.ok (), s') ↔ ∃ host port workers receivers,
      stringMember "Host" server = .ok host ∧ intMember "Port" server = .ok port ∧
      intMember "WorkerThreadNumber" server = .ok workers ∧
      intMember "IOReaderThreadNumber" server = .ok receivers ∧
      s' = { s with
        manager.port := port
        manager.WorkerNumber := workers
        manager.IOReceiveNumber := receivers } := by
  constructor
  · intro h
    simp only [readServer, exec_bind_eq_ok_iff, exec_attempt_eq_ok_iff, exec_modify,
      Prod.mk.injEq] at h
    obtain ⟨host, _, ⟨hhost, rfl⟩, port, _, ⟨hport, rfl⟩, _, _, ⟨_, rfl⟩, workers, _,
      ⟨hworkers, rfl⟩, _, _, ⟨_, rfl⟩, receivers, _, ⟨hreceivers, rfl⟩, _, rfl⟩ := h
    exact ⟨host, port, workers, receivers, hhost, hport, hworkers, hreceivers, rfl⟩
  · rintro ⟨host, port, workers, receivers, hhost, hport, hworkers, hreceivers, rfl⟩
    simp only [readServer, exec_bind, exec_attempt, exec_modify, hhost, hport, hworkers,
      hreceivers]

/-- What is done once the document is parsed, if it comes to its end. -/
theorem readSections_eq_ok {doc : Json} {s s' : LoadState} {value : ℤ}
    (h : exec (do
      readServer (← attempt (member "Server" doc))
      let config_machine_json ← attempt (member "Machine" doc)
      storeMachines config_machine_json.elements
      modify fun s : LoadState => { s with manager.AlreadyRead := true }
      return (1 : ℤ)) s = (.ok value, s')) :
    ∃ server machines s₂ s₃, fetch ["Server"] doc = .ok server ∧
      fetch ["Machine"] doc = .ok machines ∧ exec (readServer server) s = (.ok (), s₂) ∧
      exec (storeMachines machines.elements) s₂ = (.ok (), s₃) ∧
      s' = { s₃ with manager.AlreadyRead := true } := by
  simp only [exec_bind_eq_ok_iff, exec_attempt_eq_ok_iff, member_eq_ok_iff, exec_modify,
    exec_pure, Prod.mk.injEq] at h
  obtain ⟨server, _, ⟨hserver, rfl⟩, _, s₂, hread, machines, _, ⟨hmachines, rfl⟩, _, s₃, hstore,
    _, _, ⟨_, rfl⟩, _, rfl⟩ := h
  exact ⟨server, machines, s₂, s₃, hserver, hmachines, hread, hstore, rfl⟩

/-- A load that returns has read a document with both of its sections. -/
theorem readConfig_eq_ok {parse : Bytes → Option Json} {file : ConfigFile} {s s' : LoadState}
    {value : ℤ} {doc : Json} (hparse : parseBuffer parse file = .ok doc)
    (h : exec (readConfig parse file) s = (.ok value, s')) :
    ∃ server machines s₁ s₂ s₃, fetch ["Server"] doc = .ok server ∧
      fetch ["Machine"] doc = .ok machines ∧ s₁.manager = s.manager ∧
      exec (readServer server) s₁ = (.ok (), s₂) ∧
      exec (storeMachines machines.elements) s₂ = (.ok (), s₃) ∧
      s' = { s₃ with manager.AlreadyRead := true } := by
  unfold readConfig at h
  cases hsize : file.size with
  | none => simp [hsize] at h
  | some file_size =>
    simp only [hsize, hparse] at h
    split at h
    · obtain ⟨_, s₁, hout, hrun⟩ := exec_bind_eq_ok_iff.mp h
      cases hout
      obtain ⟨server, machines, s₂, s₃, hserver, hmachines, hall⟩ := readSections_eq_ok hrun
      exact ⟨server, machines, { s with out := "Error here" :: s.out }, s₂, s₃, hserver,
        hmachines, rfl, hall⟩
    · obtain ⟨server, machines, s₂, s₃, hserver, hmachines, hall⟩ := readSections_eq_ok h
      exact ⟨server, machines, s, s₂, s₃, hserver, hmachines, rfl, hall⟩

end SigIf.Config

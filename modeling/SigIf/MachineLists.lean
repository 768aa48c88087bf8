import SigIf.Config

/-!
# What a load makes of the configured machines

The configured machines should end up in the list of their type. The loader
has no node to store one in: its lists start without nodes and no code gives
them any, so the first machine of a document already ends the load.
-/

namespace SigIf.MachineLists

open Programs JsonValue Posix Config

/-- A configured machine. -/
structure Entry where
  type : MachineType
  id : ℤ
  ip : String
  deriving DecidableEq

/-- The element of the array describes the machine. -/
structure Describes (element : Json) (entry : Entry) : Prop where
  type : fetch ["MachineType"] element = .ok (.string entry.type.name)
  id : fetch ["Id"] element = .ok (.integer entry.id)
  ip : fetch ["IpAddr"] element = .ok (.string entry.ip)
  short : entry.ip.length ≤ 15

/-- The server section has its address and its three numbers. -/
structure CompleteServer (server : Json) : Prop where
  host : ∃ text, fetch ["Host"] server = .ok (.string text)
  port : ∃ n, fetch ["Port"] server = .ok (.integer n)
  workers : ∃ n, fetch ["WorkerThreadNumber"] server = .ok (.integer n)
  receivers : ∃ n, fetch ["IOReaderThreadNumber"] server = .ok (.integer n)

/-- A complete configuration of these machines, in this order. -/
structure Configures (doc : Json) (entries : List Entry) : Prop where
  server : ∃ server, fetch ["Server"] doc = .ok server ∧ CompleteServer server
  machine : ∃ elems, fetch ["Machine"] doc = .ok (.array elems) ∧
    List.Forall₂ Describes elems entries

/-- The bytes are a text of the document: more bytes after it are white space,
or make it no text at all. -/
structure IsTextOf (parse : Bytes → Option Json) (text : CString) (doc : Json) : Prop where
  parses : parse text.bytes = some doc
  strict : ∀ more, parse (text.bytes ++ more) = some doc ∨ parse (text.bytes ++ more) = none

/-- Following `next` from the pointer yields exactly these machines. -/
def Yields (nodes : NodeRef → Option MachineInfo) : Option NodeRef → List Entry → Prop
  | p, [] => p = none
  | p, entry :: rest => ∃ info, p.bind nodes = some info ∧ info.ipv4 = c_str entry.ip ∧
      info.id = entry.id ∧ Yields nodes info.next rest

/-- The load returned, and each list has the machines of its type. -/
def SortedByType (entries : List Entry) (load : Except Fault ℤ × LoadState) : Prop :=
  (∃ value, load.1 = .ok value) ∧ ∀ type,
    (load.2.manager.machine_config.bucket type).number =
        (entries.filter fun entry => entry.type = type).length ∧
      Yields load.2.nodes (load.2.manager.machine_config.bucket type).head
        (entries.filter fun entry => entry.type = type)

/-- No list has a node. -/
def NoNodes (s : LoadState) : Prop := ∀ type, s.manager.machine_config.bucket type = .empty

/-- The singleton as constructed, in any memory. -/
def fresh (nodes : NodeRef → Option MachineInfo) (out : List String) : LoadState :=
  ⟨.new, nodes, out⟩

theorem fresh_noNodes (nodes : NodeRef → Option MachineInfo) (out : List String) :
    NoNodes (fresh nodes out) := by
  intro type
  cases type <;> rfl

/-- Since the chain takes the first type that differs from the text, it only
ever chooses the first type, or the second one for a machine of the first. -/
theorem exec_chosenType (element : Json) (s : LoadState) :
    exec (chosenType MachineType.chain element) s =
      ((stringMember "MachineType" element).map fun name =>
        some (if name = c_str "XINGZHI" then .HAIXIN else .XINGZHI), s) := by
  have hne : c_str "XINGZHI" ≠ c_str "HAIXIN" := by decide
  cases hm : stringMember "MachineType" element with
  | error fault => simp [MachineType.chain, chosenType, hm, Except.map]
  | ok name =>
    by_cases hx : name = c_str "XINGZHI"
    · simp [MachineType.chain, chosenType, hm, MachineType.name, strcmp_eq_zero_iff, hx, hne,
        Except.map]
    · simp [MachineType.chain, chosenType, hm, MachineType.name, strcmp_eq_zero_iff, hx,
        Except.map]

/-- What ends a round that has no node to write to: the first of its two reads
that fails, or else the write. -/
def faultWithoutNodes (element : Json) : Fault :=
  match stringMember "MachineType" element, intMember "Id" element with
  | .error fault, _ => fault
  | .ok _, .error fault => fault
  | .ok _, .ok _ => .undefined

/-- Without nodes there is nowhere to store a machine. -/
theorem storeMachine_of_noNodes {s : LoadState} (h : NoNodes s) (element : Json) :
    exec (storeMachine element) s = (.error (faultWithoutNodes element), s) := by
  simp only [storeMachine, exec_bind, exec_chosenType, faultWithoutNodes]
  cases stringMember "MachineType" element with
  | error fault => rfl
  | ok name =>
    -- whatever the list, the walk takes no step from its null head
    have hempty := h (if name = c_str "XINGZHI" then .HAIXIN else .XINGZHI)
    simp only [Except.map, exec_bind, exec_get, hempty, EachMachineType.empty, Int.toNat_zero,
      walk, exec_pure, exec_attempt]
    cases intMember "Id" element with
    | error fault => rfl
    | ok id => simp [node]

/-- How a loop without nodes ends: in its first round, if there is one. -/
def loopWithoutNodes : List Json → Except Fault Unit
  | [] => .ok ()
  | element :: _ => .error (faultWithoutNodes element)

theorem exec_storeMachines_of_noNodes {s : LoadState} (h : NoNodes s) (elements : List Json) :
    exec (storeMachines elements) s = (loopWithoutNodes elements, s) := by
  cases elements with
  | nil => rfl
  | cons element rest => simp [storeMachines, storeMachine_of_noNodes h, loopWithoutNodes]

/-- The loop over the machines ends well exactly when there are none. -/
theorem storeMachines_of_noNodes {s : LoadState} (h : NoNodes s) (elements : List Json) :
    (elements = [] ∧ exec (storeMachines elements) s = (.ok (), s)) ∨
      (elements ≠ [] ∧ ∃ fault, exec (storeMachines elements) s = (.error fault, s)) := by
  have hrun := exec_storeMachines_of_noNodes h elements
  cases elements with
  | nil => exact Or.inl ⟨rfl, hrun⟩
  | cons element rest => exact Or.inr ⟨List.cons_ne_nil _ _, _, hrun⟩

/-- The numbers of the server section, stored. -/
def withNumbers (port workers receivers : ℤ) (s : LoadState) : LoadState :=
  { s with
    manager.port := toInt32 port
    manager.WorkerNumber := toInt32 workers
    manager.IOReceiveNumber := toInt32 receivers }

/-- A complete server section is read to its end. -/
theorem exec_readServer_complete {server : Json} (h : CompleteServer server) (s : LoadState) :
    ∃ port workers receivers,
      exec (readServer server) s = (.ok (), withNumbers port workers receivers s) := by
  obtain ⟨⟨host, hhost⟩, ⟨port, hport⟩, ⟨workers, hworkers⟩, ⟨receivers, hreceivers⟩⟩ := h
  refine ⟨port, workers, receivers, exec_readServer_eq_ok_iff.mpr ?_⟩
  exact ⟨c_str host, toInt32 port, toInt32 workers, toInt32 receivers, stringMember_ok hhost,
    intMember_ok hport, intMember_ok hworkers, intMember_ok hreceivers, rfl⟩

/-- A complete document that parses takes the load to its loop, with the
numbers of the server section stored. -/
theorem readConfig_parsed {parse : Bytes → Option Json} {text spill : CString} {doc : Json}
    {entries : List Entry} (hdoc : Configures doc entries)
    (hparse : parse (text.bytes ++ spill.bytes) = some doc) (s : LoadState) :
    ∃ elems port workers receivers, List.Forall₂ Describes elems entries ∧
      exec (readConfig parse (.whole text spill)) s =
        match exec (storeMachines elems) (withNumbers port workers receivers s) with
        | (.ok _, s') => (.ok 1, { s' with manager.AlreadyRead := true })
        | (.error fault, s') => (.error fault, s') := by
  obtain ⟨server, hserver, hcomplete⟩ := hdoc.server
  obtain ⟨elems, hmachine, hall⟩ := hdoc.machine
  obtain ⟨port, workers, receivers, hread⟩ := exec_readServer_complete hcomplete s
  refine ⟨elems, port, workers, receivers, hall, ?_⟩
  rw [exec_readConfig_whole, hparse]
  simp only [exec_bind, exec_attempt, member_ok hserver, hread, member_ok hmachine,
    Json.elements, exec_modify, exec_pure]
  rcases exec (storeMachines elems) (withNumbers port workers receivers s) with ⟨result, s'⟩
  cases result <;> rfl

/-- With a machine configured the load does not return. -/
theorem readConfig_of_entries {parse : Bytes → Option Json} {text spill : CString} {doc : Json}
    {entries : List Entry} (hdoc : Configures doc entries) (hentries : entries ≠ [])
    (hparse : parse (text.bytes ++ spill.bytes) = some doc) {s : LoadState} (hs : NoNodes s) :
    ∃ fault s', exec (readConfig parse (.whole text spill)) s = (.error fault, s') := by
  obtain ⟨elems, port, workers, receivers, hall, hrun⟩ := readConfig_parsed hdoc hparse s
  have hnone : NoNodes (withNumbers port workers receivers s) := hs
  rcases storeMachines_of_noNodes hnone elems with ⟨rfl, _⟩ | ⟨_, fault, hloop⟩
  · cases hall
    exact absurd rfl hentries
  · exact ⟨fault, _, by rw [hrun, hloop]⟩

/-- Without machines it returns, and touches neither a list nor a node. -/
theorem readConfig_of_no_entries {parse : Bytes → Option Json} {text spill : CString}
    {doc : Json} (hdoc : Configures doc [])
    (hparse : parse (text.bytes ++ spill.bytes) = some doc) {s : LoadState} (hs : NoNodes s) :
    ∃ s', exec (readConfig parse (.whole text spill)) s = (.ok 1, s') ∧ NoNodes s' := by
  obtain ⟨elems, port, workers, receivers, hall, hrun⟩ := readConfig_parsed hdoc hparse s
  cases hall
  exact ⟨_, hrun, hs⟩

/-- The machines of a complete configuration end up in their lists exactly
when there are none, and what follows the text in memory leaves it readable. -/
theorem sortedByType_iff {parse : Bytes → Option Json} {text : CString} {doc : Json}
    {entries : List Entry} (htext : IsTextOf parse text doc) (hdoc : Configures doc entries)
    (spill : CString) (nodes : NodeRef → Option MachineInfo) (out : List String) :
    SortedByType entries (exec (readConfig parse (.whole text spill)) (fresh nodes out)) ↔
      entries = [] ∧ parse (text.bytes ++ spill.bytes) = some doc := by
  have hnone := fresh_noNodes nodes out
  rcases htext.strict spill.bytes with hparse | hparse
  · by_cases he : entries = []
    · subst he
      obtain ⟨s', hrun, hs'⟩ := readConfig_of_no_entries hdoc hparse hnone
      rw [hrun]
      refine iff_of_true ⟨⟨1, rfl⟩, ?_⟩ ⟨rfl, hparse⟩
      intro type
      rw [hs' type]
      exact ⟨rfl, rfl⟩
    · obtain ⟨fault, s', hrun⟩ := readConfig_of_entries hdoc he hparse hnone
      rw [hrun]
      refine iff_of_false ?_ (fun h => he h.1)
      rintro ⟨⟨value, hvalue⟩, _⟩
      cases hvalue
  · rw [exec_readConfig_whole, hparse]
    refine iff_of_false ?_ (fun h => by simp at h)
    rintro ⟨⟨value, hvalue⟩, _⟩
    cases hvalue

/-- A server section. -/
def exampleServer : Json :=
  .object [("Host", .string "127.0.0.1"), ("Port", .integer 6000),
    ("WorkerThreadNumber", .integer 1), ("IOReaderThreadNumber", .integer 1)]

/-- The text of a document with that server and the given text of machines. -/
def exampleText (machines : String) : CString :=
  c_str ("\x7b\"Server\":\x7b\"Host\":\"127.0.0.1\",\"Port\":6000,\"WorkerThreadNumber\":1," ++
    "\"IOReaderThreadNumber\":1\x7d,\"Machine\":[" ++ machines ++ "]\x7d")

/-- A parser that knows one text. -/
def parseOnly (text : CString) (doc : Json) (bytes : Bytes) : Option Json :=
  if bytes = text.bytes then some doc else none

theorem parseOnly_isTextOf (text : CString) (doc : Json) :
    IsTextOf (parseOnly text doc) text doc := by
  refine ⟨if_pos rfl, ?_⟩
  intro more
  unfold parseOnly
  split
  · exact Or.inl rfl
  · exact Or.inr rfl

theorem exampleServer_complete : CompleteServer exampleServer :=
  ⟨⟨_, rfl⟩, ⟨_, rfl⟩, ⟨_, rfl⟩, ⟨_, rfl⟩⟩

/-- A configuration without machines, with a NUL right after its text. -/
theorem sortedByType_no_machines :
    SortedByType [] (exec (readConfig (parseOnly (exampleText "")
      (.object [("Server", exampleServer), ("Machine", .array [])]))
      (.whole (exampleText "") (c_str ""))) (fresh (fun _ => none) [])) :=
  (sortedByType_iff (parseOnly_isTextOf _ _)
    ⟨⟨_, rfl, exampleServer_complete⟩, ⟨_, rfl, .nil⟩⟩ _ _ _).mpr ⟨rfl, if_pos rfl⟩

/-- The machine of the example configuration. -/
def exampleMachine : Json :=
  .object [("MachineType", .string "XINGZHI"), ("Id", .integer 1),
    ("IpAddr", .string "172.10.43.10")]

/-- With one machine of the first type the load writes through a null pointer. -/
theorem one_machine_not_sorted :
    let text := exampleText
      "\x7b\"MachineType\":\"XINGZHI\",\"Id\":1,\"IpAddr\":\"172.10.43.10\"\x7d"
    let doc := Json.object [("Server", exampleServer), ("Machine", .array [exampleMachine])]
    ¬ SortedByType [⟨.XINGZHI, 1, "172.10.43.10"⟩]
      (exec (readConfig (parseOnly text doc) (.whole text (c_str ""))) (fresh (fun _ => none) [])) := by
  intro text doc
  have hdoc : Configures doc [⟨.XINGZHI, 1, "172.10.43.10"⟩] :=
    ⟨⟨_, rfl, exampleServer_complete⟩, ⟨_, rfl, .cons ⟨rfl, rfl, rfl, by decide⟩ .nil⟩⟩
  have hparse : parseOnly text doc (text.bytes ++ (c_str "").bytes) = some doc :=
    if_pos (List.append_nil _)
  obtain ⟨fault, s', hrun⟩ := readConfig_of_entries hdoc (List.cons_ne_nil _ _) hparse
    (fresh_noNodes (fun _ => none) [])
  rw [hrun]
  rintro ⟨⟨value, hvalue⟩, _⟩
  cases hvalue

end SigIf.MachineLists

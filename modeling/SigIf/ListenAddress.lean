import SigIf.AddressCheck
import SigIf.MachineLists
import SigIf.RealConnections

/-!
# Where the server listens

The address of the server section should reach `bind` by way of the
configuration manager. The loader compares the text with the array that should
hold it and discards the result, so the acceptor opens with the empty address
of the constructor, and an address that short is what `SetAddr` refuses.
-/

namespace SigIf.ListenAddress

open Programs JsonValue Posix TcpWrap Config Acceptor RealConnections

/-- The calls of `bind`, newest first, each with its descriptor and its address. -/
def bindCalls (os : Kernel) : List (ℤ × SockAddr) :=
  os.trace.filterMap fun | .bind fd addr _ => some (fd, addr) | _ => none

/-- The wrapper listens, after one `bind` to the configured address and port. -/
structure ListensAt (inetAddr : CString → UInt32) (host : String) (port : ℤ) (s : AcceptorRun) :
    Prop where
  bound : ∃ fd addr, bindCalls s.world.os = [(fd, addr)] ∧ addr.s_addr = inetAddr (c_str host) ∧
    ntohs addr.sin_port = port
  status : s.thread.acceptor.status = .LISTENING

/-- The acceptor's opening on a new wrapper, with this configuration, ends so. -/
def OpensAt (setting : Setting) (table : ℕ → Option OpenFile) (calls : SetAddrCalls) (ok : Bool)
    (host : String) (port : ℤ) : Prop :=
  ∃ s, step setting (start table) (.opening calls ok) = some s ∧
    ListensAt setting.inetAddr host port s

/-- A load leaves the array of the address as it was. -/
def SameAddress (s s' : LoadState) : Prop := s'.manager.listenAddr = s.manager.listenAddr

instance : Std.Refl SameAddress := ⟨fun _ => rfl⟩

instance : IsTrans LoadState SameAddress := ⟨fun _ _ _ h h' => Eq.trans h' h⟩

theorem node_sameAddress (p : Option NodeRef) : Moves SameAddress (node p) :=
  .bind .get fun _ => .attempt _

theorem walk_sameAddress (steps : ℕ) (m_info : Option NodeRef) :
    Moves SameAddress (walk steps m_info) := by
  induction steps generalizing m_info with
  | zero => exact .pure m_info
  | succ steps ih => exact .bind (node_sameAddress m_info) fun info => ih info.next

theorem writeNode_sameAddress (p : Option NodeRef) (info : MachineInfo) :
    Moves SameAddress (writeNode p info) := .modify fun _ => rfl

theorem chosenType_sameAddress (labels : List MachineType) (element : Json) :
    Moves SameAddress (chosenType labels element) := by
  induction labels with
  | nil => exact .pure none
  | cons label rest ih =>
    refine .bind (.attempt _) fun name => ?_
    split
    · exact .pure _
    · exact ih

/-- Storing a machine writes nodes and counts, never the address. -/
theorem storeMachine_sameAddress (element : Json) : Moves SameAddress (storeMachine element) := by
  refine .bind (chosenType_sameAddress _ _) fun chosen => ?_
  cases chosen with
  | none => exact .throw _
  | some m_type =>
    refine .bind .get fun _ => .bind (walk_sameAddress _ _) fun m_info => ?_
    refine .bind (.attempt _) fun id => .bind (node_sameAddress _) fun info => ?_
    refine .bind (writeNode_sameAddress _ _) fun _ => .bind (.attempt _) fun ipv4 => ?_
    split
    · exact .bind (.throw _) fun _ => .bind (writeNode_sameAddress _ _) fun _ => .modify fun _ => rfl
    · exact .bind (writeNode_sameAddress _ _) fun _ => .modify fun _ => rfl

theorem storeMachines_sameAddress (elements : List Json) :
    Moves SameAddress (storeMachines elements) := by
  induction elements with
  | nil => exact .pure ()
  | cons element rest ih => exact .bind (storeMachine_sameAddress element) fun _ => ih

/-- Neither does the server section write it: its host is only compared. -/
theorem readServer_sameAddress (server : Json) : Moves SameAddress (readServer server) := by
  refine .bind (.attempt _) fun _ => ?_
  refine .bind (.attempt _) fun _ => .bind (.modify fun _ => rfl) fun _ => ?_
  refine .bind (.attempt _) fun _ => .bind (.modify fun _ => rfl) fun _ => ?_
  exact .bind (.attempt _) fun _ => .modify fun _ => rfl

/-- No load writes the address, whatever its file and however it ends. -/
theorem readConfig_sameAddress (parse : Bytes → Option Json) (file : ConfigFile) :
    Moves SameAddress (readConfig parse file) := by
  unfold readConfig
  cases file.size with
  | none => exact .throw _
  | some file_size =>
    have hrest : Moves SameAddress (do
        let config_json ← attempt (parseBuffer parse file)
        readServer (← attempt (member "Server" config_json))
        let config_machine_json ← attempt (member "Machine" config_json)
        storeMachines config_machine_json.elements
        modify fun s : LoadState => { s with manager.AlreadyRead := true }
        return (1 : ℤ)) := by
      refine .bind (.attempt _) fun _ => .bind (.attempt _) fun server => ?_
      refine .bind (readServer_sameAddress server) fun _ => .bind (.attempt _) fun machines => ?_
      refine .bind (storeMachines_sameAddress _) fun _ => ?_
      exact .bind (.modify fun _ => rfl) fun _ => .pure _
    dsimp only
    split
    · exact .bind (.modify fun _ => rfl) fun _ => hrest
    · exact hrest

/-- The acceptor is given the empty address. -/
theorem getListenIP_of_load (parse : Bytes → Option Json) (file : ConfigFile)
    (nodes : NodeRef → Option MachineInfo) (out : List String) :
    (exec (readConfig parse file) (MachineLists.fresh nodes out)).2.manager.getListenIP =
      c_str "" :=
  readConfig_sameAddress parse file (MachineLists.fresh nodes out)

/-- With an address of at most 16 characters the opening makes no call at all,
and the wrapper stays as it was constructed. -/
theorem afterOpening_short {setting : Setting} (h : strlen setting.config.getListenIP ≤ 16)
    (table : ℕ → Option OpenFile) (calls : SetAddrCalls) (ok : Bool) :
    (afterOpening setting calls ok (start table)).thread.acceptor = .new ∧
      (afterOpening setting calls ok (start table)).world.os = ⟨table, []⟩ := by
  have hpass : ¬ Passes setting.config.getListenIP setting.config.getListenPort := by
    rw [AddressCheck.passes_iff]
    omega
  have hset : setAddr setting.inetAddr setting.config.getListenIP setting.config.getListenPort
      calls .new ⟨table, []⟩ = ⟨Constants.ERROR, .new, ⟨table, []⟩⟩ := by
    rcases setAddr_cases setting.inetAddr setting.config.getListenIP
      setting.config.getListenPort calls .new ⟨table, []⟩ with ⟨_, he⟩ | ⟨hp, _⟩ | ⟨hp, _⟩
    · exact he
    · exact absurd hp hpass
    · exact absurd hp hpass
  simp only [afterOpening, callSetAddr, callListen, start, AcceptorThread.start, hset]
  exact ⟨rfl, rfl⟩

/-- So it does not listen anywhere. -/
theorem not_opensAt_of_short {setting : Setting} (h : strlen setting.config.getListenIP ≤ 16)
    (table : ℕ → Option OpenFile) (calls : SetAddrCalls) (ok : Bool) (host : String) (port : ℤ) :
    ¬ OpensAt setting table calls ok host port := by
  rintro ⟨s, hstep, hlistens⟩
  have hstart : Opened (start table) :=
    ⟨rfl, fun _ => ⟨rfl, rfl⟩, by simp [start, AcceptorThread.start, Wrapper.new]⟩
  obtain ⟨_, rfl⟩ := step_opening hstart hstep
  have hstatus := hlistens.status
  rw [(afterOpening_short h table calls ok).1] at hstatus
  cases hstatus

/-- Whatever the document, and whatever it names as host and port, the server
does not listen there: no load leaves an address that the opening accepts. -/
theorem never_listens_as_configured (parse : Bytes → Option Json) (file : ConfigFile)
    (nodes : NodeRef → Option MachineInfo) (out : List String) (inetAddr : CString → UInt32)
    (fd2ConnectionInfo : Fd2ConnectionInfo) (table : ℕ → Option OpenFile) (calls : SetAddrCalls)
    (ok : Bool) (host : String) (port : ℤ) :
    ¬ OpensAt ⟨inetAddr, fd2ConnectionInfo,
        (exec (readConfig parse file) (MachineLists.fresh nodes out)).2.manager⟩
      table calls ok host port := by
  refine not_opensAt_of_short ?_ table calls ok host port
  rw [getListenIP_of_load]
  decide

/-- A document that is read without an error, with the loopback address, a
usual port and no machines. -/
theorem loopback_not_listened_on :
    let text := MachineLists.exampleText ""
    let doc := Json.object [("Server", MachineLists.exampleServer), ("Machine", .array [])]
    ∃ s', exec (readConfig (MachineLists.parseOnly text doc) (.whole text (c_str "")))
        (MachineLists.fresh (fun _ => none) []) = (.ok 1, s') ∧
      s'.manager.getListenPort = 6000 ∧
      ¬ OpensAt ⟨fun _ => 0x0100007f, .ofFd, s'.manager⟩ (fun _ => none) ⟨some 3, true, true⟩ true
        "127.0.0.1" 6000 := by
  intro text doc
  have hparse : MachineLists.parseOnly text doc (text.bytes ++ (c_str "").bytes) = some doc :=
    if_pos (List.append_nil _)
  refine ⟨_, by rw [exec_readConfig_whole, hparse]; rfl, rfl, ?_⟩
  exact not_opensAt_of_short (by decide) _ _ _ _ _

end SigIf.ListenAddress

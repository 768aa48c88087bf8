import SigIf.Chains
import SigIf.MachineLists

/-!
# The loop over the machines, step by step

In each round the loop should choose a list, walk to the first node of it that
is not filled yet, and write a machine there that fits. What does not fit it
should refuse. How far it gets is decided by the nodes that the lists have, and
as constructed they have none.
-/

namespace SigIf.MachineLoop

open Programs JsonValue Posix Config MachineLists Chains

/-- The three fields of an entry have the right kinds. -/
structure WellKinded (element : Json) : Prop where
  type : ∃ name, fetch ["MachineType"] element = .ok (.string name)
  id : ∃ n, fetch ["Id"] element = .ok (.integer n)
  ip : ∃ ip, fetch ["IpAddr"] element = .ok (.string ip)

/-- The entry has a known type, and an address that fits with its terminator. -/
structure Storable (element : Json) : Prop where
  known : ∃ type : MachineType, stringMember "MachineType" element = .ok (c_str type.name)
  fits : ∃ ipv4, stringMember "IpAddr" element = .ok ipv4 ∧ strlen ipv4 + 1 ≤ ipv4Capacity

/-- The pointer `m_info` after some steps of the inner loop. -/
def m_infoAfter (s : LoadState) (type : MachineType) (steps : ℕ) : Option NodeRef :=
  (follow MachineInfo.next s.nodes)^[steps] (s.manager.machine_config.bucket type).head

/-- A round reads and writes only where there is something: `m_type` points to
a list, every step starts from a node and leads to one in the end, and the copy
of the address fits into it. -/
structure StoresAt (s : LoadState) (element : Json) (type : MachineType) (target : NodeRef) :
    Prop where
  m_type : exec (chosenType MachineType.chain element) s = (.ok (some type), s)
  steps : ∀ k < (s.manager.machine_config.bucket type).number.toNat,
    ∃ info, (m_infoAfter s type k).bind s.nodes = some info
  arrives : m_infoAfter s type (s.manager.machine_config.bucket type).number.toNat = some target
  isNode : ∃ info, s.nodes target = some info
  fits : ∃ ipv4, stringMember "IpAddr" element = .ok ipv4 ∧ strlen ipv4 + 1 ≤ ipv4Capacity

/-- Every round of the loop stores its entry in a node that was not written for
an earlier entry of the list, or refuses an entry that cannot be stored. -/
def NeverStepsOff : List Json → List (MachineType × NodeRef) → LoadState → Prop
  | [], _, _ => True
  | element :: rest, written, s =>
    (Storable element ∧ ∃ type target s', StoresAt s element type target ∧
      (type, target) ∉ written ∧ exec (storeMachine element) s = (.ok (), s') ∧
      NeverStepsOff rest (written ++ [(type, target)]) s') ∨
    (¬ Storable element ∧ ∃ e s', exec (storeMachine element) s = (.error (.threw e), s'))

/-- A configuration with these entries. -/
structure ConfigDocument (doc : Json) (elements : List Json) : Prop where
  machine : fetch ["Machine"] doc = .ok (.array elements)
  kinds : ∀ e ∈ elements, WellKinded e

/-- A load of the document goes through its loop, which it enters once the
server section is read, without stepping off its data. -/
def LoadNeverStepsOff (doc : Json) (s : LoadState) : Prop :=
  ∀ server machines s', fetch ["Server"] doc = .ok server →
    fetch ["Machine"] doc = .ok machines → exec (readServer server) s = (.ok (), s') →
      NeverStepsOff machines.elements [] s'

/-- All that is read of the server section can be read, so that the load comes
to its loop. -/
def ReachesLoop (doc : Json) : Prop :=
  ∃ server, fetch ["Server"] doc = .ok server ∧
    (∃ host, stringMember "Host" server = .ok host) ∧
    (∃ port, intMember "Port" server = .ok port) ∧
    (∃ workers, intMember "WorkerThreadNumber" server = .ok workers) ∧
    ∃ receivers, intMember "IOReaderThreadNumber" server = .ok receivers

/-- The list that the chain chooses for an entry. -/
def listOf (element : Json) : MachineType :=
  match stringMember "MachineType" element with
  | .ok name => if name = c_str "XINGZHI" then .HAIXIN else .XINGZHI
  | .error _ => .XINGZHI

/-- A round that has written a machine. -/
def stored (s : LoadState) (type : MachineType) (target : NodeRef) (info : MachineInfo) :
    LoadState :=
  { s with
    nodes := Function.update s.nodes target (some info)
    manager.machine_config := s.manager.machine_config.count type }

theorem exec_chosenType_of_wellKinded {element : Json} (h : WellKinded element) (s : LoadState) :
    exec (chosenType MachineType.chain element) s = (.ok (some (listOf element)), s) := by
  obtain ⟨name, hname⟩ := h.type
  rw [exec_chosenType, listOf, stringMember_ok hname]
  rfl

/-- A step of the inner loop from a node. -/
theorem exec_walk_succ {p : Option NodeRef} {s : LoadState} {info : MachineInfo}
    (hp : p.bind s.nodes = some info) (steps : ℕ) :
    exec (walk (steps + 1) p) s = exec (walk steps info.next) s := by
  simp [walk, node, hp]

/-- The inner loop arrives, or is undefined where a step starts from no node. -/
theorem exec_walk_cases (steps : ℕ) (p : Option NodeRef) (s : LoadState) :
    ((∀ k < steps, ∃ info, ((follow MachineInfo.next s.nodes)^[k] p).bind s.nodes = some info) ∧
      exec (walk steps p) s = (.ok ((follow MachineInfo.next s.nodes)^[steps] p), s)) ∨
    ((∃ k < steps, ((follow MachineInfo.next s.nodes)^[k] p).bind s.nodes = none) ∧
      exec (walk steps p) s = (.error .undefined, s)) := by
  induction steps generalizing p with
  | zero => exact Or.inl ⟨fun k hk => absurd hk (Nat.not_lt_zero k), rfl⟩
  | succ steps ih =>
    cases hp : p.bind s.nodes with
    | none =>
      refine Or.inr ⟨⟨0, Nat.succ_pos _, hp⟩, ?_⟩
      simp [walk, node, hp]
    | some info =>
      have hnext : follow MachineInfo.next s.nodes p = info.next := by simp [follow, hp]
      rw [exec_walk_succ hp]
      rcases ih info.next with ⟨hall, hrun⟩ | ⟨⟨k, hk, hnone⟩, hrun⟩
      · refine Or.inl ⟨?_, by rw [hrun, Function.iterate_succ_apply, hnext]⟩
        intro k hk
        cases k with
        | zero => exact ⟨info, hp⟩
        | succ k =>
          rw [Function.iterate_succ_apply, hnext]
          exact hall k (Nat.lt_of_succ_lt_succ hk)
      · refine Or.inr ⟨⟨k + 1, Nat.succ_lt_succ hk, ?_⟩, hrun⟩
        rw [Function.iterate_succ_apply, hnext]
        exact hnone

/-- The list is the one that the chain chooses. -/
theorem StoresAt.type_eq {s : LoadState} {element : Json} {type : MachineType} {target : NodeRef}
    (hkinds : WellKinded element) (h : StoresAt s element type target) : type = listOf element := by
  have hchosen := (exec_chosenType_of_wellKinded hkinds s).symm.trans h.m_type
  exact (Option.some.inj (Except.ok.inj (Prod.mk.inj hchosen).1)).symm

/-- What a round does up to its first write. -/
theorem exec_storeMachine {element : Json} {n : ℤ} {ip : String} (hkinds : WellKinded element)
    (hid : fetch ["Id"] element = .ok (.integer n))
    (hip : fetch ["IpAddr"] element = .ok (.string ip)) (s : LoadState) :
    exec (storeMachine element) s =
      match exec (walk (s.manager.machine_config.bucket (listOf element)).number.toNat
          (s.manager.machine_config.bucket (listOf element)).head) s with
      | (.ok m_info, s) => exec (do
          let info ← node m_info
          writeNode m_info { info with id := toInt32 n }
          if ipv4Capacity ≤ strlen (c_str ip) then throw .undefined
          writeNode m_info { info with id := toInt32 n, ipv4 := c_str ip }
          modify fun s => { s with
            manager.machine_config := s.manager.machine_config.count (listOf element) }) s
      | (.error fault, s) => (.error fault, s) := by
  rw [storeMachine, exec_bind, exec_chosenType_of_wellKinded hkinds]
  simp only [exec_bind, exec_get, exec_attempt, intMember_ok hid, stringMember_ok hip]
  rcases exec (walk _ _) s with ⟨result, s'⟩
  cases result <;> rfl

/-- Of two writes to a node the last one stays. -/
theorem nodes_after_writes (nodes : NodeRef → Option MachineInfo) (target : NodeRef)
    (new last : MachineInfo) :
    (fun r => if some target = some r then some last
      else if some target = some r then some new else nodes r) =
        Function.update nodes target (some last) := by
  funext r
  by_cases hr : r = target
  · subst hr
    simp
  · simp [Function.update_of_ne hr, Ne.symm hr]

/-- Through a pointer to a node both writes succeed if the address fits. -/
theorem exec_writes {s : LoadState} {target : NodeRef} {info : MachineInfo}
    (hnode : s.nodes target = some info) (type : MachineType) (id : ℤ) (ipv4 : CString) :
    ∃ s', exec (do
        let info ← node (some target)
        writeNode (some target) { info with id := id }
        if ipv4Capacity ≤ strlen ipv4 then throw .undefined
        writeNode (some target) { info with id := id, ipv4 := ipv4 }
        modify fun s : LoadState => { s with
          manager.machine_config := s.manager.machine_config.count type }) s =
      if ipv4Capacity ≤ strlen ipv4 then (.error .undefined, s')
      else (.ok (), stored s type target { info with id := id, ipv4 := ipv4 }) := by
  have hread : exec (node (some target)) s = (.ok info, s) := by simp [node, hnode]
  simp only [exec_bind, hread, writeNode, exec_modify]
  by_cases hlong : ipv4Capacity ≤ strlen ipv4
  · simp only [if_pos hlong]
    exact ⟨_, rfl⟩
  · simp only [if_neg hlong, exec_bind, exec_modify, nodes_after_writes]
    exact ⟨s, rfl⟩

/-- A round that has somewhere to store its entry stores it. -/
theorem storeMachine_of_storesAt {element : Json} (hkinds : WellKinded element) {s : LoadState}
    {target : NodeRef} (h : StoresAt s element (listOf element) target) :
    ∃ info id ipv4, s.nodes target = some info ∧ exec (storeMachine element) s =
      (.ok (), stored s (listOf element) target { info with id := id, ipv4 := ipv4 }) := by
  obtain ⟨n, hid⟩ := hkinds.id
  obtain ⟨ip, hip⟩ := hkinds.ip
  obtain ⟨info, hnode⟩ := h.isNode
  obtain ⟨ipv4, hread, hfits⟩ := h.fits
  obtain rfl := Except.ok.inj ((stringMember_ok hip).symm.trans hread)
  have harrives := h.arrives
  unfold m_infoAfter at harrives
  obtain ⟨s', hwrites⟩ := exec_writes hnode (listOf element) (toInt32 n) (c_str ip)
  refine ⟨info, toInt32 n, c_str ip, hnode, ?_⟩
  rw [exec_storeMachine hkinds hid hip]
  rcases exec_walk_cases (s.manager.machine_config.bucket (listOf element)).number.toNat
    (s.manager.machine_config.bucket (listOf element)).head s with
    ⟨_, hwalk⟩ | ⟨⟨k, hk, hnone⟩, _⟩
  · rw [hwalk, harrives]
    exact hwrites.trans (if_neg (by omega))
  · obtain ⟨info', hinfo⟩ := h.steps k hk
    rw [m_infoAfter, hnone] at hinfo
    cases hinfo

/-- One that has not is undefined. -/
theorem storeMachine_of_not_storesAt {element : Json} (hkinds : WellKinded element)
    {s : LoadState} (h : ∀ target, ¬ StoresAt s element (listOf element) target) :
    ∃ s', exec (storeMachine element) s = (.error .undefined, s') := by
  obtain ⟨n, hid⟩ := hkinds.id
  obtain ⟨ip, hip⟩ := hkinds.ip
  rw [exec_storeMachine hkinds hid hip]
  rcases exec_walk_cases (s.manager.machine_config.bucket (listOf element)).number.toNat
    (s.manager.machine_config.bucket (listOf element)).head s with ⟨hsteps, hwalk⟩ | ⟨_, hwalk⟩
  · rw [hwalk]
    generalize harrives : (follow MachineInfo.next s.nodes)^[
      (s.manager.machine_config.bucket (listOf element)).number.toNat]
      (s.manager.machine_config.bucket (listOf element)).head = m_info
    cases hnode : m_info.bind s.nodes with
    | none => exact ⟨s, by simp [node, hnode]⟩
    | some info =>
      obtain ⟨target, rfl, hinfo⟩ := Option.bind_eq_some_iff.mp hnode
      obtain ⟨s', hwrites⟩ := exec_writes hinfo (listOf element) (toInt32 n) (c_str ip)
      refine ⟨s', hwrites.trans (if_pos ?_)⟩
      -- only the address can be what does not fit
      by_contra hshort
      exact h target ⟨exec_chosenType_of_wellKinded hkinds s, hsteps, harrives, ⟨info, hinfo⟩,
        c_str ip, stringMember_ok hip, by omega⟩
  · rw [hwalk]
    exact ⟨s, rfl⟩

/-- No round refuses its entry. -/
theorem storeMachine_not_refused {element : Json} (hkinds : WellKinded element)
    (s s' : LoadState) (e : JsonError) :
    exec (storeMachine element) s ≠ (.error (.threw e), s') := by
  intro hrun
  by_cases h : ∃ target, StoresAt s element (listOf element) target
  · obtain ⟨target, hstores⟩ := h
    obtain ⟨_, _, _, _, hok⟩ := storeMachine_of_storesAt hkinds hstores
    rw [hok] at hrun
    cases hrun
  · obtain ⟨_, hundefined⟩ := storeMachine_of_not_storesAt hkinds (not_exists.mp h)
    rw [hundefined] at hrun
    cases hrun

/-- The lists consist of these nodes, and no more of them are filled than there are. -/
structure Lists (s : LoadState) (refs : MachineType → List NodeRef) : Prop where
  chain : ∀ type, Chain MachineInfo.next s.nodes (s.manager.machine_config.bucket type).head
    (refs type)
  nonneg : ∀ type, 0 ≤ (s.manager.machine_config.bucket type).number
  filled : ∀ type, (s.manager.machine_config.bucket type).number ≤ (refs type).length

/-- What has been written are the first nodes of the lists. -/
def WrittenFirst (s : LoadState) (refs : MachineType → List NodeRef)
    (written : List (MachineType × NodeRef)) : Prop :=
  ∀ type target, (type, target) ∈ written →
    ∃ i < (s.manager.machine_config.bucket type).number.toNat, (refs type)[i]? = some target

theorem bucket_count (machine : Machine) (type other : MachineType) :
    (machine.count type).bucket other =
      { machine.bucket other with
        number := (machine.bucket other).number + if other = type then 1 else 0 } := by
  cases type <;> cases other <;> simp [Machine.count, Machine.bucket]

section

variable {s : LoadState} {refs : MachineType → List NodeRef} (h : Lists s refs)

include h

/-- The inner loop arrives at the first node that is not filled, if there is one. -/
theorem Lists.m_infoAfter_eq (type : MachineType) (steps : ℕ) :
    m_infoAfter s type steps = (refs type)[steps]? := (h.chain type).iterate_follow steps

/-- So a round stores its entry there, if the address fits. -/
theorem Lists.storesAt_iff {element : Json} (hkinds : WellKinded element)
    (hstorable : Storable element) (target : NodeRef) :
    StoresAt s element (listOf element) target ↔ (refs (listOf element))[
      (s.manager.machine_config.bucket (listOf element)).number.toNat]? = some target := by
  constructor
  · intro hstores
    rw [← h.m_infoAfter_eq]
    exact hstores.arrives
  · intro htarget
    obtain ⟨hlt, hget⟩ := List.getElem?_eq_some_iff.mp htarget
    have hnode {r : NodeRef} (hr : r ∈ refs (listOf element)) := (h.chain (listOf element)).exists_node hr
    refine ⟨exec_chosenType_of_wellKinded hkinds s, ?_, ?_, ?_, hstorable.fits⟩
    · intro k hk
      have hk' : k < (refs (listOf element)).length := hk.trans hlt
      obtain ⟨info, hinfo⟩ := hnode (List.getElem_mem hk')
      refine ⟨info, ?_⟩
      rw [h.m_infoAfter_eq, List.getElem?_eq_getElem hk']
      exact hinfo
    · rw [h.m_infoAfter_eq]
      exact htarget
    · exact hnode (List.mem_of_getElem? htarget)

/-- Storing an entry keeps the lists, as it changes no link. -/
theorem Lists.stored {type : MachineType} {target : NodeRef} {old new : MachineInfo}
    (hold : s.nodes target = some old) (hnext : new.next = old.next)
    (hroom : (s.manager.machine_config.bucket type).number < (refs type).length) :
    Lists (stored s type target new) refs := by
  constructor
  · intro other
    simp only [MachineLoop.stored, bucket_count]
    exact (h.chain other).update hold hnext
  · intro other
    have hother := h.nonneg other
    simp only [MachineLoop.stored, bucket_count]
    split <;> omega
  · intro other
    have hother := h.filled other
    simp only [MachineLoop.stored, bucket_count]
    split
    · rename_i hsame
      subst hsame
      omega
    · omega

/-- The node that is written next has not been written before. -/
theorem Lists.not_written {written : List (MachineType × NodeRef)}
    (hwritten : WrittenFirst s refs written) {type : MachineType} {target : NodeRef}
    (htarget : (refs type)[(s.manager.machine_config.bucket type).number.toNat]? = some target) :
    (type, target) ∉ written := by
  intro hmem
  obtain ⟨i, hi, hearlier⟩ := hwritten type target hmem
  obtain ⟨hlt, _⟩ := List.getElem?_eq_some_iff.mp hearlier
  have hsame := (List.getElem?_inj hlt (h.chain type).nodup).mp (hearlier.trans htarget.symm)
  omega

/-- And it is one of the first nodes afterwards. -/
theorem Lists.writtenFirst_stored {written : List (MachineType × NodeRef)}
    (hwritten : WrittenFirst s refs written) {type : MachineType} {target : NodeRef}
    (htarget : (refs type)[(s.manager.machine_config.bucket type).number.toNat]? = some target)
    (info : MachineInfo) :
    WrittenFirst (MachineLoop.stored s type target info) refs (written ++ [(type, target)]) := by
  intro other r hmem
  have hnonneg := h.nonneg other
  simp only [MachineLoop.stored, bucket_count]
  rcases List.mem_append.mp hmem with hearlier | hnew
  · obtain ⟨i, hi, hr⟩ := hwritten other r hearlier
    refine ⟨i, ?_, hr⟩
    split <;> omega
  · obtain ⟨rfl, rfl⟩ := Prod.mk.inj (List.mem_singleton.mp hnew)
    refine ⟨_, ?_, htarget⟩
    rw [if_pos rfl]
    omega

/-- A round has somewhere to store its entry exactly if the list has room. -/
theorem Lists.exists_storesAt_iff {element : Json} (hkinds : WellKinded element)
    (hstorable : Storable element) :
    (∃ target, StoresAt s element (listOf element) target) ↔
      (s.manager.machine_config.bucket (listOf element)).number <
        (refs (listOf element)).length := by
  have hnonneg := h.nonneg (listOf element)
  simp only [h.storesAt_iff hkinds hstorable, ← Option.isSome_iff_exists, isSome_getElem?]
  omega

/-- What a round that stores its entry leaves. -/
theorem Lists.round {element : Json} (hkinds : WellKinded element) (hstorable : Storable element)
    {written : List (MachineType × NodeRef)} (hwritten : WrittenFirst s refs written)
    {target : NodeRef} (hstores : StoresAt s element (listOf element) target) :
    (listOf element, target) ∉ written ∧ ∃ s', exec (storeMachine element) s = (.ok (), s') ∧
      Lists s' refs ∧ WrittenFirst s' refs (written ++ [(listOf element, target)]) ∧
      ∀ type, (s'.manager.machine_config.bucket type).number =
        (s.manager.machine_config.bucket type).number + if type = listOf element then 1 else 0 := by
  have htarget := (h.storesAt_iff hkinds hstorable target).mp hstores
  have hroom := (h.exists_storesAt_iff hkinds hstorable).mp ⟨target, hstores⟩
  refine ⟨h.not_written hwritten htarget, ?_⟩
  obtain ⟨info, id, ipv4, hnode, hrun⟩ := storeMachine_of_storesAt hkinds hstores
  refine ⟨_, hrun, h.stored hnode rfl hroom, h.writtenFirst_stored hwritten htarget _, ?_⟩
  intro type
  simp only [MachineLoop.stored, bucket_count]

end

/-- The entry of a round moves from those to come to those stored. -/
theorem needs_after_round {s s' : LoadState} {element : Json} (rest : List Json)
    (type : MachineType) (hnumber : (s'.manager.machine_config.bucket type).number =
      (s.manager.machine_config.bucket type).number + if type = listOf element then 1 else 0) :
    (s'.manager.machine_config.bucket type).number + rest.countP (fun e => type = listOf e) =
      (s.manager.machine_config.bucket type).number +
        (element :: rest).countP (fun e => type = listOf e) := by
  rw [hnumber, List.countP_cons]
  by_cases ht : type = listOf element
  · simp only [ht, decide_true, if_true]
    omega
  · simp [ht]

/-- With these lists the loop never steps off its data exactly when every entry
can be stored and each list has a node for every entry that the chain gives it. -/
theorem neverStepsOff_iff {elements : List Json} (hkinds : ∀ e ∈ elements, WellKinded e)
    {s : LoadState} {refs : MachineType → List NodeRef} (h : Lists s refs)
    {written : List (MachineType × NodeRef)} (hwritten : WrittenFirst s refs written) :
    NeverStepsOff elements written s ↔ (∀ e ∈ elements, Storable e) ∧
      ∀ type, (s.manager.machine_config.bucket type).number +
        elements.countP (fun e => type = listOf e) ≤ (refs type).length := by
  induction elements generalizing s written with
  | nil => simpa [NeverStepsOff] using h.filled
  | cons element rest ih =>
    have hkind := hkinds element List.mem_cons_self
    have hrest := fun e he => hkinds e (List.mem_cons_of_mem _ he)
    rw [List.forall_mem_cons]
    constructor
    · rintro (⟨hstorable, type, target, s', hstores, _, hrun, hnext⟩ | ⟨_, e, s', hrun⟩)
      · obtain rfl := hstores.type_eq hkind
        obtain ⟨_, after, hafter, hlists, hfirst, hnumbers⟩ :=
          h.round hkind hstorable hwritten hstores
        obtain rfl := (Prod.mk.inj (hafter.symm.trans hrun)).2
        obtain ⟨hall, hroom⟩ := (ih hrest hlists hfirst).mp hnext
        refine ⟨⟨hstorable, hall⟩, ?_⟩
        intro type
        rw [← needs_after_round rest type (hnumbers type)]
        exact hroom type
      · exact absurd hrun (storeMachine_not_refused hkind s s' e)
    · rintro ⟨⟨hstorable, hall⟩, hroom⟩
      have hhere := hroom (listOf element)
      rw [List.countP_cons] at hhere
      simp only [decide_true, if_true] at hhere
      obtain ⟨target, hstores⟩ := (h.exists_storesAt_iff hkind hstorable).mpr (by omega)
      obtain ⟨hnew, after, hrun, hlists, hfirst, hnumbers⟩ :=
        h.round hkind hstorable hwritten hstores
      refine Or.inl ⟨hstorable, _, target, after, hstores, hnew, hrun, ?_⟩
      refine (ih hrest hlists hfirst).mpr ⟨hall, ?_⟩
      intro type
      rw [needs_after_round rest type (hnumbers type)]
      exact hroom type

/-- As constructed the lists have no nodes. -/
theorem lists_of_new {s : LoadState}
    (h : s.manager.machine_config = ConfigManager.new.machine_config) :
    Lists s fun _ => [] := by
  constructor
  all_goals
    intro type
    rw [h]
    cases type <;> simp [ConfigManager.new, Machine.bucket, EachMachineType.empty, Chain]

/-- So from there the loop never steps off its data exactly when there are no
machines. -/
theorem neverStepsOff_iff_of_new {elements : List Json} (hkinds : ∀ e ∈ elements, WellKinded e)
    {s : LoadState} (hnew : s.manager.machine_config = ConfigManager.new.machine_config) :
    NeverStepsOff elements [] s ↔ elements = [] := by
  have hzero (type : MachineType) : (s.manager.machine_config.bucket type).number = 0 := by
    rw [hnew]
    cases type <;> rfl
  rw [neverStepsOff_iff hkinds (lists_of_new hnew) (by simp [WrittenFirst])]
  constructor
  · rintro ⟨_, hroom⟩
    cases elements with
    | nil => rfl
    | cons element rest =>
      have hneeds := hroom (listOf element)
      rw [hzero, List.countP_cons] at hneeds
      simp only [decide_true, if_true, List.length_nil] at hneeds
      omega
  · rintro rfl
    simp [hzero]

/-- The loop is reached with the lists as they were, and only if the server
section can be read. -/
theorem reachesLoop_iff {doc : Json} (s : LoadState) :
    ReachesLoop doc ↔ ∃ server s', fetch ["Server"] doc = .ok server ∧
      exec (readServer server) s = (.ok (), s') ∧
      s'.manager.machine_config = s.manager.machine_config := by
  constructor
  · rintro ⟨server, hserver, ⟨host, hhost⟩, ⟨port, hport⟩, ⟨workers, hworkers⟩,
      ⟨receivers, hreceivers⟩⟩
    exact ⟨server, _, hserver, exec_readServer_eq_ok_iff.mpr
      ⟨host, port, workers, receivers, hhost, hport, hworkers, hreceivers, rfl⟩, rfl⟩
  · rintro ⟨server, s', hserver, hread, _⟩
    obtain ⟨host, port, workers, receivers, hhost, hport, hworkers, hreceivers, _⟩ :=
      exec_readServer_eq_ok_iff.mp hread
    exact ⟨server, hserver, ⟨host, hhost⟩, ⟨port, hport⟩, ⟨workers, hworkers⟩,
      ⟨receivers, hreceivers⟩⟩

/-- A load into lists that are zero never steps off its data exactly when no
machine is configured, or the load fails before it comes to the machines. -/
theorem load_never_steps_off_iff {doc : Json} {elements : List Json}
    (hdoc : ConfigDocument doc elements) {s : LoadState}
    (hzero : s.manager.machine_config = ConfigManager.new.machine_config) :
    LoadNeverStepsOff doc s ↔ elements = [] ∨ ¬ ReachesLoop doc := by
  by_cases hreaches : ReachesLoop doc
  · obtain ⟨server, s', hserver, hread, hsame⟩ := (reachesLoop_iff s).mp hreaches
    have hloop := neverStepsOff_iff_of_new hdoc.kinds (hsame.trans hzero)
    rw [or_iff_left (not_not_intro hreaches), ← hloop]
    constructor
    · intro hload
      exact hload server _ s' hserver hdoc.machine hread
    · intro hnever server' machines after hserver' hmachine hread'
      obtain rfl := Except.ok.inj (hserver.symm.trans hserver')
      obtain rfl := Except.ok.inj (hdoc.machine.symm.trans hmachine)
      obtain rfl := (Prod.mk.inj (hread.symm.trans hread')).2
      exact hnever
  · refine iff_of_true ?_ (Or.inr hreaches)
    intro server machines s' hserver _ hread
    obtain ⟨_, _, _, _, _, _, _, _, rfl⟩ := exec_readServer_eq_ok_iff.mp hread
    exact absurd ((reachesLoop_iff s).mpr ⟨server, _, hserver, hread, rfl⟩) hreaches

/-- A document with the server section of the example and these machines. -/
def exampleDoc (elements : List Json) : Json :=
  .object [("Server", exampleServer), ("Machine", .array elements)]

/-- Without machines there is no round. -/
theorem no_machine_never_steps_off :
    LoadNeverStepsOff (exampleDoc []) (fresh (fun _ => none) []) :=
  (load_never_steps_off_iff ⟨rfl, by simp⟩ rfl).mpr (Or.inl rfl)

/-- With one machine of the first type there is no node to write. -/
theorem one_machine_steps_off :
    ¬ LoadNeverStepsOff (exampleDoc [exampleMachine]) (fresh (fun _ => none) []) := by
  intro h
  obtain ⟨port, workers, receivers, hread⟩ :=
    exec_readServer_complete exampleServer_complete (fresh (fun _ => none) [])
  have hkinds : ∀ e ∈ [exampleMachine], WellKinded e := by
    intro e he
    obtain rfl := List.mem_singleton.mp he
    exact ⟨⟨_, rfl⟩, ⟨_, rfl⟩, ⟨_, rfl⟩⟩
  have hloop : NeverStepsOff [exampleMachine] [] _ := h _ _ _ rfl rfl hread
  exact absurd ((neverStepsOff_iff_of_new hkinds rfl).mp hloop) (List.cons_ne_nil _ _)

end SigIf.MachineLoop

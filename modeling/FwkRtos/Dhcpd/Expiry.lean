import FwkRtos.Dhcpd.Exclusive
import FwkRtos.Dhcpd.Linked

/-!
# The expiry sweep

The sweep follows the list that it changes: an unavailable entry whose address is
still in use is inserted again with a new expiry value, and the sweep goes on with
whatever is behind it then.  Only where every such entry comes to stand in its old
place does the sweep see each entry once.
-/

namespace FwkRtos.Dhcpd

open FwkRtos.Transition

/-! ## What the sweep does and what it is to do -/

/-- One pass of the sweep's loop: the item that it looks at, `none` for the list's end
marker, and what a probe of the entry's address found. -/
structure Examined where
  item : Option Nat
  probed : Option Bool
  deriving DecidableEq

/-- What the passes found when they probed the entry. -/
def probesOf (trace : List Examined) (client : Nat) : List Bool :=
  trace.filterMap fun examined => if examined.item = some client then examined.probed else none

/-- The sweep probes the entry. -/
def IpInfo.isProbed (around : Surroundings) (config : Config) (now : UInt64) (info : IpInfo) :
    Bool :=
  around.timeOf info.value ≤ now && info.state = .unavailable &&
    config.unavailableIpProbeInterval ≠ 0

/-- What is to become of an entry, given what its probes found. -/
def Outcome (around : Surroundings) (config : Config) (now : UInt64) (info : IpInfo)
    (probes : List Bool) (after : IpInfo) : Prop :=
  if info.isProbed around config now then
    ∃ inUse, probes = [inUse] ∧
      if inUse then
        ∃ reading, after =
          { info with
            value := (around.seconds reading).toUInt32 + config.unavailableIpProbeInterval }
      else after = { info with state := .available }
  else
    probes = [] ∧
      if around.timeOf info.value ≤ now ∧ (info.state = .leased ∨ info.state = .offered) then
        after = { info with state := .available }
      else after = info

namespace Server

variable (lists : KernelList) (around : Surroundings) (config : Config) (now : UInt64)

/-- A pass of the loop at an entry. -/
def examine (server : Server) (client : Nat) : Server :=
  if around.timeOf (server.infos client).value ≤ now then server.expire lists around config client
  else server

/-- The passes of the loop of `sweep`. -/
def sweepTrace : Nat → Option Nat → Server → List Examined
  | 0, _, _ => []
  | passes + 1, none, server =>
      ⟨none, none⟩ ::
        if around.timeOf portMaxDelay ≤ now then []
        else sweepTrace passes server.pool.head? server
  | passes + 1, some client, server =>
      let swept := server.examine lists around config now client
      let probed :=
        if swept.probes = server.probes then none
        else some (around.inUse server.probes (server.infos client).ip)
      ⟨some client, probed⟩ :: sweepTrace passes (listGetNext swept.pool client) swept

/-- The passes of `dhcp_client_release_expired_leases`. -/
def releaseTrace (server : Server) : List Examined :=
  let now := server.readClock around
  now.2.sweepTrace lists around config now.1 server.pool.length server.pool.head?

/-- The sweep examines each entry once and nothing else, and leaves each as it is to be. -/
def SweepsEachOnce (server : Server) : Prop :=
  ∃ after, server.releaseExpiredLeases lists around config = some after ∧
    ((server.releaseTrace lists around config).map Examined.item).Perm (server.pool.map some) ∧
      (∀ client ∈ server.pool, Outcome around config (around.seconds server.clockReads)
        (server.infos client) (probesOf (server.releaseTrace lists around config) client)
          (after.infos client)) ∧
        ∀ client, client ∉ server.pool → after.infos client = server.infos client

/-- The entries that are inserted again, other than the last one, come to stand where they
were: `previous` is the value before the given entries, and the next probe and the
next reading of the clock are counted. -/
def inPlace (infos : Nat → IpInfo) : Nat → Nat → Option UInt32 → List Nat → Bool
  | _, _, _, [] => true
  | probes, reads, previous, client :: rest =>
      let info := infos client
      if info.isProbed around config now then
        if around.inUse probes info.ip then
          let value := (around.seconds reads).toUInt32 + config.unavailableIpProbeInterval
          (rest.head?.all fun next =>
            previous.all (fun before => before ≤ value) && value < (infos next).value) &&
            inPlace infos (probes + 1) (reads + 1) (some value) rest
        else inPlace infos (probes + 1) reads (some info.value) rest
      else inPlace infos probes reads (some info.value) rest

/-- In the whole list. -/
def staysInPlace (server : Server) : Bool :=
  inPlace around config (around.seconds server.clockReads) server.infos server.probes
    (server.clockReads + 1) none server.pool

/-- No new expiry value is before one whose time is over. -/
def NewExpiryLater (server : Server) : Prop :=
  ∀ reading, server.clockReads < reading →
    ∀ value, around.timeOf value ≤ around.seconds server.clockReads →
      value ≤ (around.seconds reading).toUInt32 + config.unavailableIpProbeInterval

end Server

/-! ## One pass -/

section
variable {lists : KernelList} {around : Surroundings} {config : Config} {now : UInt64}
  {server : Server} {client : Nat}

/-- The item behind one that stands once in the list. -/
theorem listGetNext_split {done rest : List Nat} (nodup : (done ++ client :: rest).Nodup) :
    listGetNext (done ++ client :: rest) client = rest.head? := by
  have notDone : client ∉ done := fun member =>
    List.disjoint_of_nodup_append nodup member List.mem_cons_self
  rw [listGetNext, List.idxOf_append_of_notMem notDone, List.idxOf_cons_self, Nat.add_zero,
    List.getElem?_append_right (Nat.le_succ _), Nat.succ_sub (Nat.le_refl _), Nat.sub_self,
    List.getElem?_cons_succ, List.head?_eq_getElem?]

/-- The item behind an entry of the server's list. -/
theorem Server.Linked.listGetNext (linked : server.Linked) {done ahead : List Nat}
    (pool : server.pool = (done ++ [client]) ++ ahead) :
    Dhcpd.listGetNext server.pool client = ahead.head? := by
  have nodup := linked.nodup
  rw [pool, List.append_assoc] at nodup
  rw [pool, List.append_assoc]
  exact listGetNext_split nodup

/-- Without a probe only the state may change. -/
theorem examine_notProbed (lists : KernelList)
    (notProbed : (server.infos client).isProbed around config now = false) :
    (server.examine lists around config now client).pool = server.pool ∧
      (server.examine lists around config now client).probes = server.probes ∧
      (server.examine lists around config now client).clockReads = server.clockReads ∧
      (server.examine lists around config now client).infos client =
        if around.timeOf (server.infos client).value ≤ now ∧
            ((server.infos client).state = .leased ∨ (server.infos client).state = .offered) then
          { server.infos client with state := .available }
        else server.infos client := by
  by_cases over_ : around.timeOf (server.infos client).value ≤ now
  · rw [Server.examine, if_pos over_]
    cases isState : (server.infos client).state with
    | available | static => simp [Server.expire, isState]
    | leased | offered => simp [Server.expire, isState, over_, Server.setState, Server.modify]
    | unavailable =>
        have noProbe : config.unavailableIpProbeInterval = 0 := by
          simpa [IpInfo.isProbed, over_, isState] using notProbed
        simp [Server.expire, isState, noProbe]
  · simp [Server.examine, over_]

/-- An address that a probe does not find in use is available again. -/
theorem examine_free (lists : KernelList)
    (isProbed : (server.infos client).isProbed around config now = true)
    (free : around.inUse server.probes (server.infos client).ip = false) :
    server.examine lists around config now client =
      (server.addressInUse around (server.infos client).ip).2.setState client .available := by
  simp only [IpInfo.isProbed, Bool.and_eq_true, decide_eq_true_eq] at isProbed
  rcases isProbed with ⟨⟨over_, isState⟩, probes⟩
  have notInUse : (server.addressInUse around (server.infos client).ip).1 = false := free
  simp only [Server.examine, over_, if_true, Server.expire, isState, probes, if_false, notInUse,
    Bool.false_eq_true]

/-- An entry whose address is still in use is inserted again. -/
theorem examine_inUse (lists : KernelList)
    (isProbed : (server.infos client).isProbed around config now = true)
    (inUse : around.inUse server.probes (server.infos client).ip = true) :
    server.examine lists around config now client =
      (server.addressInUse around (server.infos client).ip).2.clientUpdate lists around client
        .unavailable config.unavailableIpProbeInterval := by
  simp only [IpInfo.isProbed, Bool.and_eq_true, decide_eq_true_eq] at isProbed
  rcases isProbed with ⟨⟨over_, isState⟩, probes⟩
  have isInUse : (server.addressInUse around (server.infos client).ip).1 = true := inUse
  simp only [Server.examine, over_, if_true, Server.expire, isState, probes, if_false, isInUse]

theorem examine_other {other : Nat} (different : other ≠ client) :
    (server.examine lists around config now client).infos other = server.infos other := by
  by_cases over_ : around.timeOf (server.infos client).value ≤ now
  · rw [Server.examine, if_pos over_, expire_other different]
  · rw [Server.examine, if_neg over_]

/-- What the pass found when it probed. -/
def Server.probed (lists : KernelList) (around : Surroundings) (config : Config) (now : UInt64)
    (server : Server) (client : Nat) : Option Bool :=
  if (server.examine lists around config now client).probes = server.probes then none
  else some (around.inUse server.probes (server.infos client).ip)

/-- A pass does to its entry what is to become of it. -/
theorem examine_outcome (lists : KernelList) (around : Surroundings) (config : Config)
    (now : UInt64) (server : Server) (client : Nat) :
    Outcome around config now (server.infos client)
      (server.probed lists around config now client).toList
      ((server.examine lists around config now client).infos client) := by
  cases isProbed : (server.infos client).isProbed around config now with
  | false =>
      rcases examine_notProbed lists isProbed with ⟨_, probes, _, infos⟩
      rw [Server.probed, if_pos probes, Outcome, isProbed, if_neg Bool.false_ne_true]
      refine ⟨rfl, ?_⟩
      by_cases freed : around.timeOf (server.infos client).value ≤ now ∧
          ((server.infos client).state = .leased ∨ (server.infos client).state = .offered)
      · rw [if_pos freed] at infos ⊢
        exact infos
      · rw [if_neg freed] at infos ⊢
        exact infos
  | true =>
      cases inUse : around.inUse server.probes (server.infos client).ip with
      | false =>
          have examined := examine_free lists isProbed inUse
          have counted : (server.examine lists around config now client).probes ≠
              server.probes := by
            rw [examined]
            exact Nat.succ_ne_self _
          rw [Server.probed, if_neg counted, Outcome, isProbed, if_pos rfl]
          refine ⟨false, congrArg (fun found => [found]) inUse, ?_⟩
          rw [if_neg Bool.false_ne_true, examined]
          exact Server.modify_self _
      | true =>
          have examined := examine_inUse lists isProbed inUse
          have counted : (server.examine lists around config now client).probes ≠
              server.probes := by
            rw [examined]
            exact Nat.succ_ne_self _
          rw [Server.probed, if_neg counted, Outcome, isProbed, if_pos rfl]
          refine ⟨true, congrArg (fun found => [found]) inUse, ?_⟩
          rw [if_pos rfl, examined, clientUpdate_infos]
          have isState : (server.infos client).state = .unavailable := by
            simp only [IpInfo.isProbed, Bool.and_eq_true, decide_eq_true_eq] at isProbed
            exact isProbed.1.2
          refine ⟨server.clockReads, ?_⟩
          rw [← isState]
          rfl

theorem Server.Linked.examine (linked : server.Linked) (behind : lists.InsertsBehind)
    (member : client ∈ server.pool) : (server.examine lists around config now client).Linked := by
  have probing : (server.addressInUse around (server.infos client).ip).2.Linked :=
    linked.of_values rfl fun _ => rfl
  cases isProbed : (server.infos client).isProbed around config now with
  | false =>
      rcases examine_notProbed lists isProbed with ⟨pool, _, _, infos⟩
      refine linked.of_values pool fun other => ?_
      by_cases same : other = client
      · rw [same, infos]
        split_ifs
        · rfl
        · rfl
      · rw [examine_other same]
  | true =>
      cases inUse : around.inUse server.probes (server.infos client).ip with
      | false =>
          rw [examine_free lists isProbed inUse]
          refine probing.of_values rfl fun other => ?_
          by_cases same : other = client
          · rw [same]
            simp only [Server.setState, Server.modify_self]
          · exact congrArg IpInfo.value (Server.modify_other _ same)
      | true =>
          rw [examine_inUse lists isProbed inUse]
          exact probing.clientUpdate behind member _ _

/-! ## Passes in place -/

/-- Only the values, states and addresses of the given entries matter. -/
theorem inPlace_congr {first second : Nat → IpInfo} {probes reads : Nat}
    {previous : Option UInt32} {rest : List Nat} (agree : ∀ id ∈ rest, first id = second id) :
    Server.inPlace around config now first probes reads previous rest =
      Server.inPlace around config now second probes reads previous rest := by
  induction rest generalizing probes reads previous with
  | nil => rfl
  | cons client rest ih =>
      have inner : ∀ id ∈ rest, first id = second id :=
        fun id member => agree id (List.mem_cons_of_mem _ member)
      have head : (rest.head?.all fun next =>
          previous.all (fun before => before ≤ (around.seconds reads).toUInt32 +
            config.unavailableIpProbeInterval) &&
            (around.seconds reads).toUInt32 + config.unavailableIpProbeInterval <
              (first next).value) =
          rest.head?.all fun next =>
            previous.all (fun before => before ≤ (around.seconds reads).toUInt32 +
              config.unavailableIpProbeInterval) &&
              (around.seconds reads).toUInt32 + config.unavailableIpProbeInterval <
                (second next).value := by
        cases rest with
        | nil => rfl
        | cons next more => rw [List.head?_cons, Option.all_some, Option.all_some,
            inner next List.mem_cons_self]
      simp only [Server.inPlace, agree client List.mem_cons_self, head, ih inner]

/-- The value with which a pass would insert its entry again. -/
def Server.newValue (around : Surroundings) (config : Config) (server : Server) : UInt32 :=
  (around.seconds server.clockReads).toUInt32 + config.unavailableIpProbeInterval

/-- The value of the last of the entries that were examined. -/
def Server.lastValue (server : Server) (done : List Nat) : Option UInt32 :=
  done.getLast?.map fun id => (server.infos id).value

/-- The condition, from the state before a pass on. -/
def Server.goesInPlace (around : Surroundings) (config : Config) (now : UInt64) (server : Server)
    (done rest : List Nat) : Bool :=
  Server.inPlace around config now server.infos server.probes server.clockReads
    (server.lastValue done) rest

theorem Server.lastValue_concat (server : Server) (done : List Nat) (client : Nat) :
    server.lastValue (done ++ [client]) = some (server.infos client).value := by
  rw [Server.lastValue, List.getLast?_concat, Option.map_some]

/-- No entry has a greater value than the last one. -/
theorem Server.Linked.le_last {done rest : List Nat} (linked : server.Linked)
    (pool : server.pool = done ++ rest) {other : Nat} (member : other ∈ done) :
    ∃ last ∈ server.lastValue done, (server.infos other).value ≤ last := by
  have sorted := linked.sorted
  rw [pool] at sorted
  have doneSorted := (List.pairwise_append.mp sorted).1
  rcases List.eq_nil_or_concat' done with rfl | ⟨before, last, rfl⟩
  · cases member
  · refine ⟨(server.infos last).value, server.lastValue_concat before last, ?_⟩
    rcases List.mem_append.mp member with inBefore | isLast
    · exact (List.pairwise_append.mp doneSorted).2.2 other inBefore last List.mem_cons_self
    · rw [List.mem_singleton.mp isLast]
      exact UInt32.le_refl _

/-- The new value of an entry belongs between the entries around it. -/
def Server.Stays (around : Surroundings) (config : Config) (server : Server) (done : List Nat)
    (next : Nat) : Prop :=
  (∀ before ∈ server.lastValue done, before ≤ server.newValue around config) ∧
    server.newValue around config < (server.infos next).value

/-- The condition at an entry that is inserted again. -/
theorem goesInPlace_inUse_iff {done more : List Nat} {next : Nat}
    (isProbed : (server.infos client).isProbed around config now = true)
    (inUse : around.inUse server.probes (server.infos client).ip = true) :
    server.goesInPlace around config now done (client :: next :: more) = true ↔
      server.Stays around config done next ∧
        Server.inPlace around config now server.infos (server.probes + 1)
          (server.clockReads + 1) (some (server.newValue around config)) (next :: more) = true := by
  rw [Server.goesInPlace, Server.inPlace, isProbed, inUse, if_pos rfl, if_pos rfl]
  change (_ && _) = true ↔ _
  rw [Bool.and_eq_true, List.head?_cons, Option.all_some, Bool.and_eq_true, decide_eq_true_eq,
    Option.all_eq_true]
  simp only [decide_eq_true_eq]
  rfl

/-- An entry of the list stands in one place of it only. -/
theorem Server.Linked.place (linked : server.Linked) {done rest : List Nat}
    (pool : server.pool = done ++ client :: rest) :
    client ∈ server.pool ∧ client ∉ done ∧ client ∉ rest := by
  have nodup := linked.nodup
  rw [pool] at nodup ⊢
  refine ⟨List.mem_append_right _ List.mem_cons_self, fun inDone => ?_, ?_⟩
  · exact List.disjoint_of_nodup_append nodup inDone List.mem_cons_self
  · exact (List.nodup_cons.mp (List.nodup_append.mp nodup).2.1).1

/-- Where an entry that is still in use is inserted again. -/
theorem Server.Linked.reinserted (behind : lists.InsertsBehind) (linked : server.Linked)
    {done rest : List Nat} (pool : server.pool = done ++ client :: rest)
    (isProbed : (server.infos client).isProbed around config now = true)
    (inUse : around.inUse server.probes (server.infos client).ip = true) :
    ((server.examine lists around config now client).infos client).value =
        server.newValue around config ∧
      (server.examine lists around config now client).pool =
        insertStable
          (fun id => ((server.examine lists around config now client).infos id).value) client
          (done ++ rest) := by
  rcases linked.place pool with ⟨_, notDone, _⟩
  have probing : (server.addressInUse around (server.infos client).ip).2.Linked :=
    linked.of_values rfl fun _ => rfl
  rw [examine_inUse lists isProbed inUse]
  constructor
  · rw [clientUpdate_infos]
    rfl
  · have erased : (server.addressInUse around (server.infos client).ip).2.pool.erase client =
        done ++ rest := by
      change server.pool.erase client = done ++ rest
      rw [pool, List.erase_append_right _ notDone, List.erase_cons_head]
    rw [← erased]
    exact probing.clientUpdate_pool behind _ _

/-- After a pass either all entries stand where they were, and the condition is the one
on the entries behind, or the entry does not stay where it is. -/
theorem Server.Linked.pass (behind : lists.InsertsBehind) (linked : server.Linked)
    {done more : List Nat} {next : Nat} (pool : server.pool = done ++ client :: next :: more) :
    (server.examine lists around config now client).pool = (done ++ [client]) ++ next :: more ∧
        (server.goesInPlace around config now done (client :: next :: more) = true ↔
          (server.examine lists around config now client).goesInPlace around config now
            (done ++ [client]) (next :: more) = true) ∨
      server.goesInPlace around config now done (client :: next :: more) = false ∧
        (server.infos client).isProbed around config now = true ∧
          around.inUse server.probes (server.infos client).ip = true ∧
            ¬ server.Stays around config done next := by
  rcases linked.place pool with ⟨_, notDone, notBehind⟩
  have agree : ∀ id ∈ next :: more,
      server.infos id = (server.examine lists around config now client).infos id :=
    fun id member =>
      (examine_other fun same : id = client => notBehind (same ▸ member)).symm
  have appended : done ++ client :: next :: more = (done ++ [client]) ++ next :: more := by
    rw [List.append_assoc, List.singleton_append]
  cases isProbed : (server.infos client).isProbed around config now with
  | false =>
      rcases examine_notProbed lists isProbed with ⟨samePool, probes, reads, infos⟩
      have value : ((server.examine lists around config now client).infos client).value =
          (server.infos client).value := by
        rw [infos]
        split_ifs
        · rfl
        · rfl
      refine .inl ⟨by rw [samePool, pool, appended], ?_⟩
      rw [Server.goesInPlace, Server.inPlace, Server.goesInPlace, Server.lastValue_concat, probes,
        reads, value, isProbed, if_neg Bool.false_ne_true, inPlace_congr agree]
  | true =>
      cases inUse : around.inUse server.probes (server.infos client).ip with
      | false =>
          have examined := examine_free lists isProbed inUse
          have value : ((server.examine lists around config now client).infos client).value =
              (server.infos client).value := by
            rw [examined, Server.setState, Server.modify_self]
            rfl
          refine .inl ⟨?_, ?_⟩
          · rw [← appended, ← pool, examined]
            rfl
          · rw [Server.goesInPlace, Server.inPlace, Server.goesInPlace, Server.lastValue_concat,
              value, isProbed, inUse, if_pos rfl, if_neg Bool.false_ne_true, inPlace_congr agree]
            rw [examined]
            rfl
      | true =>
          have examined := examine_inUse lists isProbed inUse
          by_cases stays : server.Stays around config done next
          · rcases linked.reinserted behind pool isProbed inUse with ⟨value, moved⟩
            refine .inl ⟨?_, ?_⟩
            · -- Nothing before has a greater value, and the next entry has one.
              have below : ∀ other ∈ done,
                  ((server.examine lists around config now client).infos other).value ≤
                    ((server.examine lists around config now client).infos client).value := by
                intro other member
                have different : other ≠ client := fun same => notDone (same ▸ member)
                rcases linked.le_last pool member with ⟨last, isLast, atMost⟩
                rw [examine_other different, value]
                exact UInt32.le_trans atMost (stays.1 last isLast)
              have above : ∀ other ∈ (next :: more).head?,
                  ((server.examine lists around config now client).infos client).value <
                    ((server.examine lists around config now client).infos other).value := by
                rintro other ⟨⟩
                rw [← agree next List.mem_cons_self, value]
                exact stays.2
              rw [moved, insertStable_append below, insertStable_before above, appended]
            · rw [goesInPlace_inUse_iff isProbed inUse, and_iff_right stays, Server.goesInPlace,
                Server.lastValue_concat, value, inPlace_congr agree]
              rw [examined]
              rfl
          · refine .inr ⟨?_, rfl, rfl, stays⟩
            exact Bool.eq_false_iff.mpr fun kept =>
              stays ((goesInPlace_inUse_iff isProbed inUse).mp kept).1

/-! ## The whole loop -/

/-- The passes saw exactly the given entries, in their order, and did to each what is to
become of it. -/
structure Sweeps (around : Surroundings) (config : Config) (now : UInt64) (before after : Server)
    (trace : List Examined) (entries : List Nat) : Prop where
  visits : trace.map Examined.item = entries.map some
  outcomes : ∀ client ∈ entries,
    Outcome around config now (before.infos client) (probesOf trace client) (after.infos client)
  others : ∀ client, client ∉ entries → after.infos client = before.infos client

theorem Sweeps.nil (around : Surroundings) (config : Config) (now : UInt64) (server : Server) :
    Sweeps around config now server server [] [] :=
  ⟨rfl, List.forall_mem_nil _, fun _ _ => rfl⟩

theorem probesOf_eq_nil {trace : List Examined} (unseen : some client ∉ trace.map Examined.item) :
    probesOf trace client = [] := by
  refine List.filterMap_eq_nil_iff.mpr fun examined member => ?_
  have different : examined.item ≠ some client :=
    fun same => unseen (same ▸ List.mem_map_of_mem member)
  exact if_neg different

theorem Sweeps.cons {after : Server} {trace : List Examined} {rest : List Nat}
    (notRest : client ∉ rest)
    (sweeps : Sweeps around config now (server.examine lists around config now client) after trace
      rest) :
    Sweeps around config now server after
      (⟨some client, server.probed lists around config now client⟩ :: trace) (client :: rest) := by
  have unseen : some client ∉ trace.map Examined.item := by
    rw [sweeps.visits]
    intro member
    rcases List.mem_map.mp member with ⟨other, inRest, same⟩
    exact notRest (Option.some.inj same ▸ inRest)
  constructor
  case visits => rw [List.map_cons, List.map_cons, sweeps.visits]
  case outcomes =>
    refine List.forall_mem_cons.mpr ⟨?_, fun other inRest => ?_⟩
    · have probes : probesOf
          (⟨some client, server.probed lists around config now client⟩ :: trace) client =
            (server.probed lists around config now client).toList := by
        have none_ := probesOf_eq_nil unseen
        rw [probesOf] at none_
        cases found : server.probed lists around config now client with
        | none => rw [probesOf, List.filterMap_cons_none (by rw [if_pos rfl]), none_]; rfl
        | some inUse => rw [probesOf, List.filterMap_cons_some (by rw [if_pos rfl]), none_]; rfl
      rw [probes, sweeps.others client notRest]
      exact examine_outcome lists around config now server client
    · have different : other ≠ client := fun same => notRest (same ▸ inRest)
      have probes : probesOf
          (⟨some client, server.probed lists around config now client⟩ :: trace) other =
            probesOf trace other := by
        refine List.filterMap_cons_none ?_
        exact if_neg fun same => different (Option.some.inj same).symm
      have outcome := sweeps.outcomes other inRest
      rw [examine_other different] at outcome
      rw [probes]
      exact outcome
  case others =>
    intro other notMember
    rcases not_or.mp fun either => notMember (List.mem_cons.mpr either) with
      ⟨different, notInRest⟩
    rw [sweeps.others other notInRest, examine_other different]

/-- While every entry stays where it is, the loop comes to each of them in turn. -/
theorem Server.Linked.sweep_inPlace (behind : lists.InsertsBehind) (linked : server.Linked)
    {done rest : List Nat} (pool : server.pool = done ++ rest)
    (stays : server.goesInPlace around config now done rest = true) :
    ∃ after, server.sweep lists around config now rest.length rest.head? = some after ∧
      Sweeps around config now server after
        (server.sweepTrace lists around config now rest.length rest.head?) rest := by
  induction rest generalizing done server with
  | nil => exact ⟨server, rfl, .nil around config now server⟩
  | cons client rest ih =>
      rcases linked.place pool with ⟨member, _, notRest⟩
      cases rest with
      | nil =>
          exact ⟨server.examine lists around config now client, rfl,
            (Sweeps.nil around config now _).cons notRest⟩
      | cons next more =>
          rcases linked.pass behind pool with ⟨samePool, goesOn⟩ | ⟨displaced, _⟩
          · have after : (server.examine lists around config now client).Linked :=
              linked.examine behind member
            have isNext := after.listGetNext samePool
            rcases ih after samePool (goesOn.mp stays) with ⟨swept, isSwept, sweeps⟩
            refine ⟨swept, ?_, ?_⟩
            · rw [← isSwept, ← isNext]
              rfl
            · have seen := sweeps.cons notRest
              rw [← isNext] at seen
              exact seen
          · rw [stays] at displaced
            cases displaced

/-! ## What is passed by -/

theorem examine_clockReads (lists : KernelList) (around : Surroundings) (config : Config)
    (now : UInt64) (server : Server) (client : Nat) :
    server.clockReads ≤ (server.examine lists around config now client).clockReads := by
  cases isProbed : (server.infos client).isProbed around config now with
  | false =>
      rw [(examine_notProbed lists isProbed).2.2.1]
  | true =>
      cases inUse : around.inUse server.probes (server.infos client).ip with
      | false =>
          rw [examine_free lists isProbed inUse]
          exact Nat.le_refl _
      | true =>
          rw [examine_inUse lists isProbed inUse]
          exact Nat.le_succ _

/-- From the given reading on, no new expiry value is before one whose time is over. -/
def Surroundings.LaterFrom (around : Surroundings) (config : Config) (now : UInt64)
    (reads : Nat) : Prop :=
  ∀ reading, reads ≤ reading → ∀ value, around.timeOf value ≤ now →
    value ≤ (around.seconds reading).toUInt32 + config.unavailableIpProbeInterval

/-- An entry that is inserted again has no lesser value than before. -/
theorem value_le_newValue (later : around.LaterFrom config now server.clockReads)
    (isProbed : (server.infos client).isProbed around config now = true) :
    (server.infos client).value ≤ server.newValue around config := by
  simp only [IpInfo.isProbed, Bool.and_eq_true, decide_eq_true_eq] at isProbed
  exact later server.clockReads (Nat.le_refl _) _ isProbed.1.1

/-- A pass leaves the entries before it where they are, and goes on behind its own entry,
which may have moved over some of those behind it. -/
theorem Server.Linked.moves_on (behind : lists.InsertsBehind) (linked : server.Linked)
    {done rest : List Nat} (pool : server.pool = done ++ client :: rest)
    (later : around.LaterFrom config now server.clockReads) :
    ∃ skipped ahead, rest = skipped ++ ahead ∧
      (server.examine lists around config now client).pool =
        (done ++ skipped ++ [client]) ++ ahead ∧
      ((server.infos client).isProbed around config now = true →
        around.inUse server.probes (server.infos client).ip = true →
          ∀ next ∈ rest.head?, (server.infos next).value ≤ server.newValue around config →
            next ∈ skipped) := by
  have stays : server.pool = (done ++ [] ++ [client]) ++ rest := by
    rw [pool, List.append_nil, List.append_assoc, List.singleton_append]
  cases isProbed : (server.infos client).isProbed around config now with
  | false =>
      refine ⟨[], rest, rfl, ?_, nofun⟩
      rw [(examine_notProbed lists isProbed).1, stays]
  | true =>
      cases inUse : around.inUse server.probes (server.infos client).ip with
      | false =>
          refine ⟨[], rest, rfl, ?_, fun _ => nofun⟩
          rw [examine_free lists isProbed inUse, ← stays]
          rfl
      | true =>
          rcases linked.reinserted behind pool isProbed inUse with ⟨value, moved⟩
          rcases linked.place pool with ⟨_, notDone, notRest⟩
          have sorted := linked.sorted
          rw [pool] at sorted
          have below : ∀ other ∈ done,
              ((server.examine lists around config now client).infos other).value ≤
                ((server.examine lists around config now client).infos client).value := by
            intro other member
            have different : other ≠ client := fun same => notDone (same ▸ member)
            rw [examine_other different, value]
            exact UInt32.le_trans
              ((List.pairwise_append.mp sorted).2.2 other member client List.mem_cons_self)
              (value_le_newValue later isProbed)
          rw [insertStable_append below] at moved
          rcases insertStable_split
              (fun id => ((server.examine lists around config now client).infos id).value) client
              rest with ⟨skipped, ahead, rfl, _, above, inserted⟩
          refine ⟨skipped, ahead, rfl, ?_, fun _ _ next isNext notAbove => ?_⟩
          · rw [moved, inserted]
            simp only [List.append_assoc, List.singleton_append]
          · cases skipped with
            | cons first skipped =>
                cases isNext
                exact List.mem_cons_self
            | nil =>
                have greater := above next isNext
                have different : next ≠ client := by
                  rintro rfl
                  exact notRest (List.mem_of_mem_head? isNext)
                rw [examine_other different, value] at greater
                exact absurd notAbove (UInt32.not_le.mpr greater)

/-- An entry before the item reached is not seen again before the end marker is. -/
theorem Server.Linked.not_seen (behind : lists.InsertsBehind) (linked : server.Linked)
    {done rest : List Nat} {passes : Nat} (pool : server.pool = done ++ rest)
    (later : around.LaterFrom config now server.clockReads)
    (noMarker : none ∉ (server.sweepTrace lists around config now passes rest.head?).map
      Examined.item) {passed : Nat} (isPassed : passed ∈ done) :
    some passed ∉ (server.sweepTrace lists around config now passes rest.head?).map
      Examined.item := by
  induction passes generalizing server done rest with
  | zero => exact List.not_mem_nil
  | succ passes ih =>
      cases rest with
      | nil => exact absurd List.mem_cons_self noMarker
      | cons client rest =>
          rcases linked.moves_on behind pool later with ⟨skipped, ahead, rfl, moved, _⟩
          rcases linked.place pool with ⟨member, notDone, _⟩
          have different : passed ≠ client := fun same => notDone (same ▸ isPassed)
          have after : (server.examine lists around config now client).Linked :=
            linked.examine behind member
          have isNext := after.listGetNext moved
          have laterOn : around.LaterFrom config now
              (server.examine lists around config now client).clockReads :=
            fun reading atLeast => later reading
              (Nat.le_trans (examine_clockReads lists around config now server client) atLeast)
          have inDone : passed ∈ done ++ skipped ++ [client] :=
            List.mem_append_left _ (List.mem_append_left _ isPassed)
          have noMore : none ∉ ((server.examine lists around config now client).sweepTrace lists
              around config now passes ahead.head?).map Examined.item := by
            rw [← isNext]
            exact fun seen => noMarker (List.mem_cons_of_mem _ seen)
          have unseen := ih after moved laterOn noMore inDone
          rw [← isNext] at unseen
          intro seen
          rcases List.mem_cons.mp seen with same | seen
          · exact different (Option.some.inj same)
          · exact unseen seen

/-- Where an entry does not stay, the loop comes to the end marker or never sees the entry
that was behind. -/
theorem Server.Linked.misses (behind : lists.InsertsBehind) (linked : server.Linked)
    {done rest : List Nat} (pool : server.pool = done ++ rest)
    (later : around.LaterFrom config now server.clockReads)
    (moves : server.goesInPlace around config now done rest = false) :
    none ∈ (server.sweepTrace lists around config now rest.length rest.head?).map Examined.item ∨
      ∃ entry ∈ rest, some entry ∉
        (server.sweepTrace lists around config now rest.length rest.head?).map Examined.item := by
  induction rest generalizing done server with
  | nil => cases moves
  | cons client rest ih =>
      rcases linked.place pool with ⟨member, _, notRest⟩
      have after : (server.examine lists around config now client).Linked :=
        linked.examine behind member
      have laterOn : around.LaterFrom config now
          (server.examine lists around config now client).clockReads :=
        fun reading atLeast => later reading
          (Nat.le_trans (examine_clockReads lists around config now server client) atLeast)
      -- What the later passes miss is missed by all passes.
      have unseen : ∀ {item : Option Nat} {passes : Nat} {entry : Nat}, entry ∈ rest →
          Dhcpd.listGetNext (server.examine lists around config now client).pool client = item →
          some entry ∉ ((server.examine lists around config now client).sweepTrace lists around
            config now passes item).map Examined.item →
          some entry ∉ (server.sweepTrace lists around config now (passes + 1)
            (some client)).map Examined.item := by
        rintro item passes entry inRest rfl notLater seen
        rcases List.mem_cons.mp seen with same | seen
        · exact notRest (Option.some.inj same ▸ inRest)
        · exact notLater seen
      cases rest with
      | nil =>
          exfalso
          rw [Server.goesInPlace, Server.inPlace] at moves
          split_ifs at moves
          all_goals cases moves
      | cons next more =>
          rcases linked.pass behind pool with ⟨samePool, goesOn⟩ | ⟨_, isProbed, inUse, moved⟩
          · have isNext := after.listGetNext samePool
            have movesOn : (server.examine lists around config now client).goesInPlace around
                config now (done ++ [client]) (next :: more) = false :=
              Bool.eq_false_iff.mpr fun stays => Bool.eq_false_iff.mp moves (goesOn.mpr stays)
            rcases ih after samePool laterOn movesOn with marker | ⟨entry, inRest, notSeen⟩
            · rw [← isNext] at marker
              exact .inl (List.mem_cons_of_mem _ marker)
            · exact .inr ⟨entry, List.mem_cons_of_mem _ inRest, unseen inRest isNext notSeen⟩
          · rcases linked.moves_on behind pool later with ⟨skipped, ahead, split, moves, over_⟩
            have atMost : ∀ last ∈ server.lastValue done, last ≤ server.newValue around config := by
              intro last isLast
              rcases Option.map_eq_some_iff.mp isLast with ⟨id, isId, rfl⟩
              have sorted := linked.sorted
              rw [pool] at sorted
              exact UInt32.le_trans ((List.pairwise_append.mp sorted).2.2 id
                (List.mem_of_getLast? isId) client List.mem_cons_self)
                (value_le_newValue later isProbed)
            have notAbove : (server.infos next).value ≤ server.newValue around config :=
              UInt32.not_lt.mp fun above => moved ⟨atMost, above⟩
            have isNext := after.listGetNext moves
            have isPassed : next ∈ done ++ skipped ++ [client] :=
              List.mem_append_left _ (List.mem_append_right _
                (over_ isProbed inUse next rfl notAbove))
            by_cases marker : none ∈ ((server.examine lists around config now client).sweepTrace
                lists around config now (next :: more).length ahead.head?).map Examined.item
            · rw [← isNext] at marker
              exact .inl (List.mem_cons_of_mem _ marker)
            · have notSeen := after.not_seen behind moves laterOn marker isPassed
              exact .inr ⟨next, List.mem_cons_of_mem _ List.mem_cons_self,
                unseen List.mem_cons_self isNext notSeen⟩

end

/-- The sweep examines every entry once, never the list's end marker, and leaves every
entry as it is to be, when each entry that is inserted again, other than the last,
comes to stand where it was; and where no new expiry value is before one whose time
is over, only then. -/
theorem sweeps_each_once_iff (lists : KernelList) (around : Surroundings) (config : Config)
    (behind : lists.InsertsBehind) (server : Server) (linked : server.Linked) :
    (server.staysInPlace around config = true → server.SweepsEachOnce lists around config) ∧
      (server.NewExpiryLater around config →
        (server.SweepsEachOnce lists around config ↔
          server.staysInPlace around config = true)) := by
  have read : (server.readClock around).2.Linked := linked.of_values rfl fun _ => rfl
  have pool : (server.readClock around).2.pool = [] ++ server.pool := rfl
  have enough : server.staysInPlace around config = true →
      server.SweepsEachOnce lists around config := by
    intro stays
    rcases read.sweep_inPlace behind pool stays with ⟨after, swept, sweeps⟩
    exact ⟨after, swept, .of_eq sweeps.visits, sweeps.outcomes, sweeps.others⟩
  refine ⟨enough, fun later => ⟨?_, enough⟩⟩
  rintro ⟨after, _, once, _, _⟩
  by_contra moves
  rcases read.misses behind pool (fun reading atLeast => later reading atLeast)
      (Bool.eq_false_iff.mpr moves) with marker | ⟨entry, inPool, unseen⟩
  · rcases List.mem_map.mp (once.mem_iff.mp marker) with ⟨_, _, impossible⟩
    cases impossible
  · exact unseen (once.mem_iff.mpr (List.mem_map_of_mem inPool))

/-! ## One entry in use, and all of them -/

/-- At 1000 seconds on a network on which every address is in use. -/
def crowded : Surroundings :=
  ⟨fun reading => if reading < 12 then 0 else 1000, fun _ _ => true, UInt32.toUInt64⟩

/-- A lease that has expired, and behind it an address in use whose probe is due. -/
def oneInUse : Server where
  infos := fun client =>
    if client = 0 then ⟨0x0a000002, .leased, firstClient, 600⟩
    else ⟨0x0a000003, .unavailable, zeroMac, 700⟩
  pool := [0, 1]
  clockReads := 12
  probes := 0

theorem oneInUse_swept : oneInUse.SweepsEachOnce .stable crowded defaultConfig :=
  (sweeps_each_once_iff .stable crowded defaultConfig stable_insertsBehind oneInUse
    ⟨by decide, by decide +kernel⟩).1 (by decide +kernel)

/-- A client discovers, every address is found in use, and later the sweep moves the
first entry to the end of the list and goes on at the end marker. -/
theorem allInUse_not_swept :
    ∃ created server, dhcpdIpPoolInit .stable crowded defaultConfig 16 = some created ∧
      run (next .stable crowded defaultConfig) created
          [.handle (clientMessage firstClient 0 [53, 1, 1, 255]) 4] = some server ∧
        ¬ server.SweepsEachOnce .stable crowded defaultConfig := by
  have marked : (dhcpdIpPoolInit .stable crowded defaultConfig 16).map (fun created =>
      (run (next .stable crowded defaultConfig) created
        [.handle (clientMessage firstClient 0 [53, 1, 1, 255]) 4]).map fun server =>
          decide (none ∈ (server.releaseTrace .stable crowded defaultConfig).map
            Examined.item)) = some (some true) := by decide +kernel
  rcases Option.map_eq_some_iff.mp marked with ⟨created, init, marked⟩
  rcases Option.map_eq_some_iff.mp marked with ⟨server, executed, marked⟩
  refine ⟨created, server, init, executed, ?_⟩
  rintro ⟨_, _, once, _, _⟩
  rcases List.mem_map.mp (once.mem_iff.mp (of_decide_eq_true marked)) with ⟨_, _, impossible⟩
  cases impossible

end FwkRtos.Dhcpd

import FwkRtos.Dhcpd.Server
import Mathlib.Data.List.Nodup
import Mathlib.Data.List.Range

/-!
# The pool's invariant

Entries are changed one at a time: a new state or MAC address leaves the list
as it is, and an update takes the entry out of the list and inserts it again
where its new value belongs.  A MAC address is only entered where no entry has
it.
-/

namespace FwkRtos.Dhcpd

open FwkRtos.Transition

/-- What every step keeps, for a pool of `count` entries with the given addresses. -/
structure PoolInv (count : Nat) (address : Nat → InAddr) (server : Server) : Prop where
  linked : server.pool.Perm (List.range count)
  sorted : server.pool.Pairwise fun first second =>
    (server.infos first).value ≤ (server.infos second).value
  addresses : ∀ client, client < count → (server.infos client).ip = address client
  macs : ∀ first second, first < count → second < count →
    (server.infos first).mac ≠ zeroMac →
      (server.infos first).mac = (server.infos second).mac → first = second

/-! ## Changes of one entry -/

namespace Server

variable {server : Server} {client other : Nat}

@[simp]
theorem modify_self (change : IpInfo → IpInfo) :
    (server.modify client change).infos client = change (server.infos client) :=
  Function.update_self _ _ _

theorem modify_other (change : IpInfo → IpInfo) (different : other ≠ client) :
    (server.modify client change).infos other = server.infos other :=
  Function.update_of_ne different _ _

@[simp]
theorem setMac_self (mac : MacAddress) :
    (server.setMac client mac).infos client = { server.infos client with mac := mac } :=
  modify_self _

theorem setMac_other (mac : MacAddress) (different : other ≠ client) :
    (server.setMac client mac).infos other = server.infos other :=
  modify_other _ different

section
variable {lists : KernelList} {around : Surroundings}

/-- After an update the entry has the new state, the same address and the same
client. -/
theorem clientUpdate_self (lists : KernelList) (around : Surroundings) (server : Server)
    (client : Nat) (state : IpState) (expiration : UInt32) :
    let updated := (server.clientUpdate lists around client state expiration).infos client
    updated.state = state ∧ updated.ip = (server.infos client).ip ∧
      updated.mac = (server.infos client).mac := by
  simp [clientUpdate, setState, reinsert, modify, readClock]

theorem clientUpdate_other (state : IpState) (expiration : UInt32) (different : other ≠ client) :
    (server.clientUpdate lists around client state expiration).infos other =
      server.infos other := by
  simp [clientUpdate, setState, reinsert, modify, readClock, Function.update_of_ne different]

end

end Server

section
variable {count : Nat} {address : Nat → InAddr} {server : Server} {client : Nat}

theorem PoolInv.mem_iff (inv : PoolInv count address server) :
    client ∈ server.pool ↔ client < count := by
  rw [inv.linked.mem_iff, List.mem_range]

theorem PoolInv.nodup (inv : PoolInv count address server) : server.pool.Nodup :=
  inv.linked.nodup_iff.mpr List.nodup_range

/-- A change that keeps addresses, values and the list is no matter for them. -/
theorem PoolInv.of_same {after : Server} (inv : PoolInv count address server)
    (pool : after.pool = server.pool)
    (kept : ∀ client, (after.infos client).value = (server.infos client).value ∧
      (after.infos client).ip = (server.infos client).ip)
    (macs : ∀ first second, first < count → second < count →
      (after.infos first).mac ≠ zeroMac →
        (after.infos first).mac = (after.infos second).mac → first = second) :
    PoolInv count address after := by
  refine ⟨by rw [pool]; exact inv.linked, ?_, ?_, macs⟩
  · rw [pool]
    exact inv.sorted.imp fun {first second} order => by
      rw [(kept first).1, (kept second).1]
      exact order
  · intro client inside
    rw [(kept client).2]
    exact inv.addresses client inside

theorem PoolInv.setState (inv : PoolInv count address server) (client : Nat) (state : IpState) :
    PoolInv count address (server.setState client state) := by
  have kept : ∀ other, ((server.setState client state).infos other).value =
        (server.infos other).value ∧
      ((server.setState client state).infos other).ip = (server.infos other).ip ∧
        ((server.setState client state).infos other).mac = (server.infos other).mac := by
    intro other
    by_cases same : other = client
    · subst same
      simp [Server.setState]
    · simp [Server.setState, Server.modify_other _ same]
  refine inv.of_same rfl (fun other => ⟨(kept other).1, (kept other).2.1⟩) ?_
  intro first second firstInside secondInside some_ same
  rw [(kept first).2.2] at some_ same
  rw [(kept second).2.2] at same
  exact inv.macs first second firstInside secondInside some_ same

/-- A MAC address may be entered where no other entry has it. -/
theorem PoolInv.setMac (inv : PoolInv count address server) {mac : MacAddress}
    (fresh : mac ≠ zeroMac → ∀ other, other < count → other ≠ client →
      (server.infos other).mac ≠ mac) :
    PoolInv count address (server.setMac client mac) := by
  refine inv.of_same rfl (fun other => ?_) ?_
  · by_cases same : other = client
    · subst same
      simp
    · rw [Server.setMac_other _ same]
      exact ⟨rfl, rfl⟩
  · intro first second firstInside secondInside some_ equal
    by_cases firstSame : first = client
    · by_cases secondSame : second = client
      · rw [firstSame, secondSame]
      · subst firstSame
        rw [Server.setMac_self] at some_ equal
        rw [Server.setMac_other _ secondSame] at equal
        exact absurd equal.symm (fresh some_ second secondInside secondSame)
    · rw [Server.setMac_other _ firstSame] at some_ equal
      by_cases secondSame : second = client
      · subst secondSame
        rw [Server.setMac_self] at equal
        have isMac : (server.infos first).mac = mac := equal
        rw [isMac] at some_
        exact absurd isMac (fresh some_ first firstInside firstSame)
      · rw [Server.setMac_other _ secondSame] at equal
        exact inv.macs first second firstInside secondInside some_ equal

theorem PoolInv.forget (inv : PoolInv count address server) (client : Nat) :
    PoolInv count address (server.setMac client zeroMac) :=
  inv.setMac fun notZero => absurd rfl notZero

variable {lists : KernelList} {around : Surroundings}

/-- An update links the entry again where it belongs. -/
theorem PoolInv.clientUpdate (inv : PoolInv count address server) (inside : client < count)
    (state : IpState) (expiration : UInt32) :
    PoolInv count address (server.clientUpdate lists around client state expiration) := by
  have member := inv.mem_iff.mpr inside
  refine PoolInv.setState ⟨?_, ?_, ?_, ?_⟩ client state
  · exact ((lists.perm _ _ _).trans (List.perm_cons_erase member).symm).trans inv.linked
  · refine lists.sorted _ _ _ ?_
    have rest := inv.sorted.sublist (List.erase_sublist (a := client))
    have notIn := inv.nodup.not_mem_erase (a := client)
    refine rest.imp_of_mem fun {first second} firstIn secondIn order => ?_
    have firstOther : first ≠ client := fun same => notIn (same ▸ firstIn)
    have secondOther : second ≠ client := fun same => notIn (same ▸ secondIn)
    simpa [Server.reinsert, Server.modify, Server.readClock, Function.update_of_ne firstOther,
      Function.update_of_ne secondOther] using order
  · intro other otherInside
    by_cases same : other = client
    · subst same
      simpa [Server.reinsert, Server.modify, Server.readClock] using inv.addresses other inside
    · simpa [Server.reinsert, Server.modify, Server.readClock, Function.update_of_ne same]
        using inv.addresses other otherInside
  · have sameMac : ∀ other, ((Server.reinsert lists (server.readClock around).2 client
        ((server.readClock around).1.toUInt32 + expiration)).infos other).mac =
          (server.infos other).mac := by
      intro other
      by_cases same : other = client
      · subst same
        simp [Server.reinsert, Server.modify, Server.readClock]
      · simp [Server.reinsert, Server.modify, Server.readClock, Function.update_of_ne same]
    intro first second firstInside secondInside
    rw [sameMac, sameMac]
    exact inv.macs first second firstInside secondInside

theorem PoolInv.addressInUse (inv : PoolInv count address server) (ip : InAddr) :
    PoolInv count address (server.addressInUse around ip).2 :=
  ⟨inv.linked, inv.sorted, inv.addresses, inv.macs⟩

theorem PoolInv.readClock (inv : PoolInv count address server) :
    PoolInv count address (server.readClock around).2 :=
  ⟨inv.linked, inv.sorted, inv.addresses, inv.macs⟩

/-! ## Lookups -/

theorem PoolInv.lookupByMac (inv : PoolInv count address server) {mac : MacAddress}
    (found : server.lookupByMac mac = some client) :
    client < count ∧ (server.infos client).mac = mac :=
  ⟨inv.mem_iff.mp (List.mem_of_find?_eq_some found), by simpa using List.find?_some found⟩

theorem PoolInv.lookupByMac_none (inv : PoolInv count address server) {mac : MacAddress}
    (missing : server.lookupByMac mac = none) (client : Nat) (inside : client < count) :
    (server.infos client).mac ≠ mac := by
  have absent := List.find?_eq_none.mp missing client (inv.mem_iff.mpr inside)
  simpa using absent

theorem PoolInv.lookupByIp (inv : PoolInv count address server) {ip : InAddr}
    (found : server.lookupByIp ip = some client) :
    client < count ∧ (server.infos client).ip = ip :=
  ⟨inv.mem_iff.mp (List.mem_of_find?_eq_some found), by simpa using List.find?_some found⟩

theorem PoolInv.getOldestDisconnected (inv : PoolInv count address server)
    (found : server.getOldestDisconnected = some client) :
    client < count ∧ (server.infos client).state = .available :=
  ⟨inv.mem_iff.mp (List.mem_of_find?_eq_some found), by simpa using List.find?_some found⟩

theorem PoolInv.requestedAvailable (inv : PoolInv count address server) {ip : InAddr}
    (found : server.requestedAvailable ip = some client) :
    client < count ∧ (server.infos client).state = .available := by
  unfold Server.requestedAvailable at found
  by_cases none_ : ip = inaddrAny
  · rw [if_pos none_] at found
    cases found
  · rw [if_neg none_, Option.filter_eq_some_iff] at found
    exact ⟨(inv.lookupByIp found.1).1, by simpa using found.2⟩

end

/-! ## Selecting an address -/

section
variable {count : Nat} {address : Nat → InAddr} {server : Server} {client : Nat}
  {lists : KernelList} {around : Surroundings} {config : Config}

namespace Server

theorem withdraw_other {other : Nat} (different : other ≠ client) :
    (server.withdraw lists around config client).infos other = server.infos other := by
  rw [withdraw, clientUpdate_other _ _ different, setMac_other _ different]

/-- Enter a client and offer it the entry. -/
def grant (lists : KernelList) (around : Surroundings) (config : Config) (server : Server)
    (client : Nat) (mac : MacAddress) : Server :=
  (server.setMac client mac).clientUpdate lists around client .offered config.offerExpirationTime

/-- An offer grants the entry or withdraws it, possibly after a probe. -/
theorem offer_cases (lists : KernelList) (around : Surroundings) (config : Config)
    (server : Server) (client : Nat) (mac : MacAddress) :
    ∃ before : Server, before.infos = server.infos ∧ before.pool = server.pool ∧
      (server.offer lists around config client mac =
          (true, before.grant lists around config client mac) ∨
        server.offer lists around config client mac =
          (false, before.withdraw lists around config client)) := by
  by_cases probes : config.probeNewIpAddresses = true
  · refine ⟨(server.addressInUse around (server.infos client).ip).2, rfl, rfl, ?_⟩
    by_cases inUse : (server.addressInUse around (server.infos client).ip).1 = true
    · right
      simp only [offer, probes, if_true, inUse]
    · left
      simp only [offer, probes, if_true, inUse, if_false, Bool.false_eq_true]
      rfl
  · refine ⟨server, rfl, rfl, .inl ?_⟩
    simp only [offer, probes, if_false, Bool.false_eq_true]
    rfl

theorem grant_self (lists : KernelList) (around : Surroundings) (config : Config)
    (server : Server) (client : Nat) (mac : MacAddress) :
    let granted := (server.grant lists around config client mac).infos client
    granted.state = .offered ∧ granted.ip = (server.infos client).ip ∧ granted.mac = mac := by
  obtain ⟨state, ip, isMac⟩ := clientUpdate_self lists around (server.setMac client mac)
    client .offered config.offerExpirationTime
  rw [setMac_self] at ip isMac
  exact ⟨state, ip, isMac⟩

theorem grant_other (mac : MacAddress) {other : Nat} (different : other ≠ client) :
    (server.grant lists around config client mac).infos other = server.infos other := by
  rw [grant, clientUpdate_other _ _ different, setMac_other _ different]

theorem withdraw_self (lists : KernelList) (around : Surroundings) (config : Config)
    (server : Server) (client : Nat) :
    let withdrawn := (server.withdraw lists around config client).infos client
    withdrawn.state = .unavailable ∧ withdrawn.ip = (server.infos client).ip ∧
      withdrawn.mac = zeroMac := by
  obtain ⟨state, ip, isMac⟩ := clientUpdate_self lists around (server.setMac client zeroMac)
    client .unavailable config.unavailableIpProbeInterval
  rw [setMac_self] at ip isMac
  exact ⟨state, ip, isMac⟩

/-- An offer that is made has entered its client. -/
theorem offer_made (mac : MacAddress)
    (made : (server.offer lists around config client mac).1 = true) :
    let offered := (server.offer lists around config client mac).2.infos client
    offered.state = .offered ∧ offered.ip = (server.infos client).ip ∧ offered.mac = mac := by
  obtain ⟨before, same, _, grants | withdraws⟩ := offer_cases lists around config server
    client mac
  · rw [grants]
    have granted := grant_self lists around config before client mac
    rw [same] at granted
    exact granted
  · rw [withdraws] at made
    cases made

/-- An offer that is not made has made the entry unavailable. -/
theorem offer_not_made (mac : MacAddress)
    (notMade : ¬ (server.offer lists around config client mac).1 = true) :
    let offered := (server.offer lists around config client mac).2.infos client
    offered.state = .unavailable ∧ offered.mac = zeroMac := by
  obtain ⟨before, same, _, grants | withdraws⟩ := offer_cases lists around config server
    client mac
  · rw [grants] at notMade
    exact absurd rfl notMade
  · rw [withdraws]
    obtain ⟨state, _, isMac⟩ := withdraw_self lists around config before client
    exact ⟨state, isMac⟩

theorem offer_other (mac : MacAddress) {other : Nat} (different : other ≠ client) :
    (server.offer lists around config client mac).2.infos other = server.infos other := by
  obtain ⟨before, same, _, grants | withdraws⟩ := offer_cases lists around config server
    client mac
  · rw [grants, grant_other mac different, same]
  · rw [withdraws, withdraw_other different, same]

end Server

theorem PoolInv.withdraw (inv : PoolInv count address server) (inside : client < count) :
    PoolInv count address (server.withdraw lists around config client) :=
  (inv.forget client).clientUpdate inside _ _

theorem PoolInv.of_infos {after : Server} (inv : PoolInv count address server)
    (infos : after.infos = server.infos) (pool : after.pool = server.pool) :
    PoolInv count address after := by
  refine ⟨?_, ?_, ?_, ?_⟩
  · rw [pool]
    exact inv.linked
  · rw [pool, infos]
    exact inv.sorted
  · rw [infos]
    exact inv.addresses
  · rw [infos]
    exact inv.macs

theorem PoolInv.offer (inv : PoolInv count address server) (inside : client < count)
    {mac : MacAddress}
    (fresh : mac ≠ zeroMac → ∀ other, other < count → (server.infos other).mac ≠ mac) :
    PoolInv count address (server.offer lists around config client mac).2 := by
  obtain ⟨before, same, pool, grants | withdraws⟩ := Server.offer_cases lists around config
    server client mac
  · rw [grants]
    refine ((inv.of_infos same pool).setMac fun notZero other otherInside _ => ?_).clientUpdate
      inside _ _
    rw [same]
    exact fresh notZero other otherInside
  · rw [withdraws]
    exact (inv.of_infos same pool).withdraw inside

/-- No entry has the client's MAC address, unless it is zero. -/
def NotHeld (count : Nat) (mac : MacAddress) (server : Server) : Prop :=
  mac ≠ zeroMac → ∀ other, other < count → (server.infos other).mac ≠ mac

/-- What selecting an address for a client leaves: the address, when there is one, is
that of an entry which holds the client, and entries that neither hold it nor are
available are as they were. -/
structure Selects (count : Nat) (address : Nat → InAddr) (mac : MacAddress) (requestType : UInt8)
    (before after : Server) (ip : InAddr) : Prop where
  inv : PoolInv count address after
  holds : ip = inaddrAny ∨ ip = inaddrBroadcast ∨
    ∃ client, client < count ∧ (after.infos client).ip = ip ∧ (after.infos client).mac = mac ∧
      (requestType = dhcpDiscover → (after.infos client).state = .offered) ∧
        (requestType = dhcpRequest → (after.infos client).state = .leased)
  others : ∀ other, (before.infos other).mac ≠ mac → (before.infos other).state ≠ .available →
    after.infos other = before.infos other

/-- What is selected after some other entries have changed. -/
theorem Selects.after {mac : MacAddress} {requestType : UInt8} {before middle after : Server}
    {ip : InAddr} (selects : Selects count address mac requestType middle after ip)
    (others : ∀ other, (before.infos other).mac ≠ mac → (before.infos other).state ≠ .available →
      middle.infos other = before.infos other) :
    Selects count address mac requestType before after ip := by
  refine ⟨selects.inv, selects.holds, fun other notMac notAvailable => ?_⟩
  have same := others other notMac notAvailable
  rw [← same] at notMac notAvailable
  exact (selects.others other notMac notAvailable).trans same

theorem Selects.nothing {mac : MacAddress} {requestType : UInt8}
    (inv : PoolInv count address server) :
    Selects count address mac requestType server server inaddrAny :=
  ⟨inv, .inl rfl, fun _ _ _ => rfl⟩

/-- An entry other than the available one is as it was. -/
theorem ne_of_available {other : Nat} (available : (server.infos client).state = .available)
    (notAvailable : (server.infos other).state ≠ .available) : other ≠ client :=
  fun same => notAvailable (same ▸ available)

theorem Selects.offered {mac : MacAddress} (inv : PoolInv count address server)
    (inside : client < count) (available : (server.infos client).state = .available)
    (notHeld : NotHeld count mac server)
    (made : (server.offer lists around config client mac).1 = true) :
    Selects count address mac dhcpDiscover server
      (server.offer lists around config client mac).2 (server.infos client).ip := by
  obtain ⟨state, ip, isMac⟩ := Server.offer_made mac made
  refine ⟨inv.offer inside notHeld, .inr (.inr ⟨client, inside, ip, isMac, fun _ => state, ?_⟩), ?_⟩
  · intro isRequest
    exact absurd isRequest (by decide)
  · intro other _ notAvailable
    exact Server.offer_other mac (ne_of_available available notAvailable)

/-- An offer that is not made leaves the client without an entry. -/
theorem notHeld_of_not_made {mac : MacAddress} (notHeld : NotHeld count mac server)
    (notMade : ¬ (server.offer lists around config client mac).1 = true) :
    NotHeld count mac (server.offer lists around config client mac).2 := by
  intro notZero other otherInside
  by_cases same : other = client
  · subst same
    rw [(Server.offer_not_made mac notMade).2]
    exact notZero.symm
  · rw [Server.offer_other mac same]
    exact notHeld notZero other otherInside

theorem PoolInv.offerOldest {mac : MacAddress} {passes : Nat} {ip : InAddr} {after : Server}
    (inv : PoolInv count address server) (notHeld : NotHeld count mac server)
    (selected : server.offerOldest lists around config mac passes = some (ip, after)) :
    Selects count address mac dhcpDiscover server after ip := by
  induction passes generalizing server with
  | zero => cases selected
  | succ passes ih =>
      rw [Server.offerOldest] at selected
      cases found : server.getOldestDisconnected with
      | none =>
          rw [found] at selected
          cases selected
          exact .nothing inv
      | some client =>
          obtain ⟨inside, available⟩ := inv.getOldestDisconnected found
          simp only [found] at selected
          by_cases made : (server.offer lists around config client mac).1 = true
          · rw [if_pos made] at selected
            cases selected
            exact .offered inv inside available notHeld made
          · rw [if_neg made] at selected
            refine (ih (inv.offer inside notHeld) (notHeld_of_not_made notHeld made) selected).after
              fun other _ notAvailable => ?_
            exact Server.offer_other mac (ne_of_available available notAvailable)

theorem PoolInv.leaseUnknown {mac : MacAddress} {requestedIp : InAddr} {requestType : UInt8}
    {ip : InAddr} {after : Server} (inv : PoolInv count address server)
    (notHeld : NotHeld count mac server)
    (selected : server.leaseUnknown lists around config mac requestedIp requestType =
      some (ip, after)) :
    Selects count address mac requestType server after ip := by
  unfold Server.leaseUnknown at selected
  by_cases discovers : requestType = dhcpDiscover
  · rw [if_pos discovers] at selected
    subst discovers
    cases found : server.requestedAvailable requestedIp with
    | none =>
        rw [found] at selected
        exact inv.offerOldest notHeld selected
    | some client =>
        obtain ⟨inside, available⟩ := inv.requestedAvailable found
        simp only [found] at selected
        by_cases made : (server.offer lists around config client mac).1 = true
        · rw [if_pos made] at selected
          cases selected
          exact .offered inv inside available notHeld made
        · rw [if_neg made] at selected
          refine ((inv.offer inside notHeld).offerOldest (notHeld_of_not_made notHeld made)
            selected).after fun other _ notAvailable => ?_
          exact Server.offer_other mac (ne_of_available available notAvailable)
  · rw [if_neg discovers] at selected
    by_cases informs : requestType = dhcpInform
    · rw [if_pos informs] at selected
      cases found : server.requestedAvailable requestedIp with
      | none =>
          rw [found] at selected
          cases selected
          exact .nothing inv
      | some client =>
          obtain ⟨inside, available⟩ := inv.requestedAvailable found
          simp only [found, Option.some.injEq, Prod.mk.injEq] at selected
          obtain ⟨rfl, rfl⟩ := selected
          obtain ⟨_, sameIp, isMac⟩ := Server.clientUpdate_self lists around
            (server.setMac client mac) client
            (.ofComparison (requestType == dhcpIpStateStatic)) 0
          rw [Server.setMac_self] at sameIp isMac
          refine ⟨?_, .inr (.inr ⟨client, inside, sameIp, isMac, ?_, ?_⟩), ?_⟩
          · exact (inv.setMac fun notZero other otherInside _ =>
              notHeld notZero other otherInside).clientUpdate inside _ _
          · exact fun isDiscover => absurd isDiscover discovers
          · intro isRequest
            rw [informs] at isRequest
            exact absurd isRequest (by decide)
          · intro other _ notAvailable
            have different := ne_of_available available notAvailable
            rw [Server.clientUpdate_other _ _ different, Server.setMac_other _ different]
    · rw [if_neg informs] at selected
      cases selected
      exact .nothing inv

/-- What the part for a known client leaves to the other one. -/
structure GoesOn (count : Nat) (address : Nat → InAddr) (mac : MacAddress)
    (before after : Server) : Prop where
  inv : PoolInv count address after
  notHeld : NotHeld count mac after
  others : ∀ other, (before.infos other).mac ≠ mac → after.infos other = before.infos other

/-- Forgetting the client of an entry leaves it without one. -/
theorem GoesOn.forget {mac : MacAddress} (before : Server) (inv : PoolInv count address server)
    (infos : before.infos = server.infos) (pool : before.pool = server.pool)
    (inside : client < count) (holds : (server.infos client).mac = mac) (state : IpState)
    (expiration : UInt32) :
    GoesOn count address mac server
      ((before.setMac client zeroMac).clientUpdate lists around client state expiration) := by
  refine ⟨((inv.of_infos infos pool).forget client).clientUpdate inside _ _, ?_, ?_⟩
  · intro notZero other otherInside
    by_cases same : other = client
    · subst same
      rw [(Server.clientUpdate_self _ _ _ _ state expiration).2.2, Server.setMac_self]
      exact notZero.symm
    · rw [Server.clientUpdate_other _ _ same, Server.setMac_other _ same, infos]
      intro alsoHolds
      refine same (inv.macs other client otherInside inside ?_ (alsoHolds.trans holds.symm))
      rw [alsoHolds]
      exact notZero
  · intro other notMac
    have different : other ≠ client := fun same => notMac (same ▸ holds)
    rw [Server.clientUpdate_other _ _ different, Server.setMac_other _ different, infos]

/-- Updating the entry that holds the client selects its address. -/
theorem Selects.updated {mac : MacAddress} (before : Server) {requestType : UInt8}
    {state : IpState} (inv : PoolInv count address server)
    (infos : before.infos = server.infos) (pool : before.pool = server.pool)
    (inside : client < count) (holds : (server.infos client).mac = mac)
    (discovers : requestType = dhcpDiscover → state = .offered)
    (requests : requestType = dhcpRequest → state = .leased) (expiration : UInt32) :
    Selects count address mac requestType server
      (before.clientUpdate lists around client state expiration) (server.infos client).ip := by
  obtain ⟨isState, ip, isMac⟩ :=
    Server.clientUpdate_self lists around before client state expiration
  rw [infos] at ip isMac
  refine ⟨(inv.of_infos infos pool).clientUpdate inside _ _, .inr (.inr ⟨client, inside, ip,
    isMac.trans holds, ?_, ?_⟩), ?_⟩
  · exact fun isDiscover => isState.trans (discovers isDiscover)
  · exact fun isRequest => isState.trans (requests isRequest)
  · intro other notMac _
    have different : other ≠ client := fun same => notMac (same ▸ holds)
    rw [Server.clientUpdate_other _ _ different, infos]

theorem PoolInv.leaseKnown (lists : KernelList) (around : Surroundings) (config : Config)
    {mac : MacAddress} (inv : PoolInv count address server)
    (inside : client < count) (holds : (server.infos client).mac = mac) (requestedIp : InAddr)
    (requestType : UInt8) :
    match server.leaseKnown lists around config client requestedIp requestType with
    | .done ip after => Selects count address mac requestType server after ip
    | .goOn _ after => GoesOn count address mac server after := by
  by_cases mismatch : requestType = dhcpRequest ∧ (server.infos client).ip ≠ requestedIp
  · simp only [Server.leaseKnown, if_pos mismatch]
    exact ⟨inv, .inr (.inl rfl), fun _ _ _ => rfl⟩
  by_cases informs : requestType = dhcpInform
  · by_cases same : (server.infos client).ip = requestedIp
    · simp only [Server.leaseKnown, informs, ne_eq, not_true_eq_false, if_false, if_pos same]
      refine .updated server inv rfl rfl inside holds (fun isDiscover => ?_)
        (fun isRequest => ?_) 0
      · exact absurd isDiscover (by decide)
      · exact absurd isRequest (by decide)
    · simp only [Server.leaseKnown, informs, ne_eq, not_true_eq_false, if_false, if_neg same]
      exact .forget server inv rfl rfl inside holds _ _
  · by_cases probes : config.probeNewIpAddresses = true ∧ requestType = dhcpDiscover ∧
        (server.infos client).state ≠ .leased
    · by_cases inUse : (server.addressInUse around (server.infos client).ip).1 = true
      · simp only [Server.leaseKnown, if_neg mismatch, ne_eq, informs, not_false_eq_true, if_true,
          if_pos probes, inUse]
        exact .forget (server.addressInUse around (server.infos client).ip).2 inv rfl rfl inside
          holds _ _
      · simp only [Server.leaseKnown, if_neg mismatch, ne_eq, informs, not_false_eq_true, if_true,
          if_pos probes, inUse, Bool.false_eq_true, if_false]
        refine .updated (server.addressInUse around (server.infos client).ip).2 inv rfl rfl inside
          holds (fun isDiscover => ?_) (fun isRequest => ?_) _
        · rw [if_pos isDiscover]
        · rw [if_neg (by rw [isRequest]; decide)]
    · simp only [Server.leaseKnown, if_neg mismatch, ne_eq, informs, not_false_eq_true, if_true,
        if_neg probes, Bool.false_eq_true, if_false]
      refine .updated server inv rfl rfl inside holds (fun isDiscover => ?_)
        (fun isRequest => ?_) _
      · rw [if_pos isDiscover]
      · rw [if_neg (by rw [isRequest]; decide)]

theorem PoolInv.clientIpAddressLease {mac : MacAddress} {requestedIp : InAddr}
    {requestType : UInt8} {ip : InAddr} {after : Server} (inv : PoolInv count address server)
    (selected : server.clientIpAddressLease lists around config mac requestedIp requestType =
      some (ip, after)) :
    Selects count address mac requestType server after ip := by
  unfold Server.clientIpAddressLease at selected
  cases found : server.lookupByMac mac with
  | none =>
      rw [found] at selected
      exact inv.leaseUnknown
        (fun _ other inside => inv.lookupByMac_none found other inside) selected
  | some client =>
      obtain ⟨inside, holds⟩ := inv.lookupByMac found
      have known := inv.leaseKnown lists around config inside
        holds requestedIp requestType
      rw [found] at selected
      cases outcome : server.leaseKnown lists around config client requestedIp requestType with
      | done knownIp knownAfter =>
          simp only [outcome, Option.some.injEq, Prod.mk.injEq] at selected known
          obtain ⟨rfl, rfl⟩ := selected
          exact known
      | goOn goOnIp middle =>
          simp only [outcome] at selected known
          exact (known.inv.leaseUnknown known.notHeld selected).after
            fun other notMac _ => known.others other notMac

/-! ## One message -/

theorem PoolInv.giveUp {classified : Classified} (inv : PoolInv count address server)
    (inside : ∀ client, classified.client = some client → client < count) :
    PoolInv count address (server.giveUp lists around config classified) := by
  unfold Server.giveUp
  cases found : classified.client with
  | none => exact inv
  | some client =>
      have clientInside := inside client found
      have forgotten : PoolInv count address
          (if classified.ciaddr = 0 then server.setMac client zeroMac else server) := by
        by_cases zero : classified.ciaddr = 0
        · rw [if_pos zero]
          exact inv.forget client
        · rw [if_neg zero]
          exact inv
      by_cases declines : classified.state = .declining
      · simp only [declines, if_true]
        exact forgotten.clientUpdate clientInside _ _
      · simp only [declines, if_false]
        exact forgotten.clientUpdate clientInside _ _

/-- Giving up an entry leaves the others as they were. -/
theorem giveUp_other {classified : Classified} {other : Nat}
    (different : classified.client ≠ some other) :
    (server.giveUp lists around config classified).infos other = server.infos other := by
  unfold Server.giveUp
  cases found : classified.client with
  | none => rfl
  | some client =>
      have notClient : other ≠ client := fun same => different (found.trans (same ▸ rfl))
      have forgotten : (if classified.ciaddr = 0 then server.setMac client zeroMac
          else server).infos other = server.infos other := by
        by_cases zero : classified.ciaddr = 0
        · rw [if_pos zero, Server.setMac_other _ notClient]
        · rw [if_neg zero]
      by_cases declines : classified.state = .declining
      · simp only [declines, if_true]
        rw [Server.clientUpdate_other _ _ notClient, forgotten]
      · simp only [declines, if_false]
        rw [Server.clientUpdate_other _ _ notClient, forgotten]

/-- A DECLINE or RELEASE of an address, in the form in which the server takes it. -/
def GivesUp (message : DhcpMessage) (requested : Requested) (ip : InAddr) : Prop :=
  requested.serverIdentifier.isSome = true ∧
    (requested.dhcpMsgType = dhcpDecline ∧ requested.requestedIp = some ip ∨
      requested.dhcpMsgType = dhcpRelease ∧ requested.requestedIp = none ∧ message.ciaddr = ip)

instance (message : DhcpMessage) (requested : Requested) (ip : InAddr) :
    Decidable (GivesUp message requested ip) :=
  inferInstanceAs (Decidable (_ ∧ (_ ∧ _ ∨ _ ∧ _ ∧ _)))

/-- Every entry that `classify` finds is one of the pool's: the sender's own, or the
one whose address is given up. -/
theorem PoolInv.classify_inside {message : DhcpMessage} {requested : Requested}
    (inv : PoolInv count address server)
    (found : (server.classify config message requested).client = some client) :
    client < count ∧ ((server.infos client).mac = message.chaddr ∨
      GivesUp message requested (server.infos client).ip) := by
  simp only [Server.classify] at found
  split_ifs at found
  · obtain ⟨inside, holds⟩ := inv.lookupByMac found
    exact ⟨inside, .inl holds⟩
  · next declines given =>
      obtain ⟨inside, isIp⟩ := inv.lookupByIp found
      obtain ⟨requestedIp, isRequested⟩ := Option.isSome_iff_exists.mp given.1
      rw [isRequested, Option.getD_some] at isIp
      exact ⟨inside, .inr ⟨given.2, .inl ⟨declines, isRequested.trans (congrArg some isIp.symm)⟩⟩⟩
  · next releases given =>
      obtain ⟨inside, isIp⟩ := inv.lookupByIp found
      have notRequested : requested.requestedIp = none :=
        Option.not_isSome_iff_eq_none.mp given.1
      exact ⟨inside, .inr ⟨given.2.1, .inr ⟨releases, notRequested, isIp.symm⟩⟩⟩

/-- The states in which an address is selected, with the message types that lead to
them. -/
theorem classify_type (config : Config) (server : Server) (message : DhcpMessage)
    (requested : Requested) :
    match (server.classify config message requested).state with
    | .discover => requested.dhcpMsgType = dhcpDiscover
    | .selecting => requested.dhcpMsgType = dhcpRequest
    | .initReboot => requested.dhcpMsgType = dhcpRequest
    | .renewing => requested.dhcpMsgType = dhcpRequest
    | .informing => requested.dhcpMsgType = dhcpInform
    | _ => True := by
  simp only [Server.classify]
  split_ifs
  all_goals first | assumption | trivial

/-- An accepting answer is an OFFER to a client that discovers and an ACK to others,
and carries `yiaddr` except to a client that informs. -/
theorem acceptingReply_fields (config : Config) (message : DhcpMessage) (state : ClientState)
    (params : List UInt8) :
    (acceptingReply config message state params).messageType =
        (if state = .discover then dhcpOffer else dhcpAck) ∧
      (acceptingReply config message state params).message.yiaddr =
        if state = .informing then 0 else message.yiaddr := by
  refine ⟨rfl, ?_⟩
  by_cases discovers : state = .discover
  · subst discovers
    rfl
  · by_cases informs : state = .informing
    · subst informs
      rfl
    · simp only [acceptingReply, dhcpdSendResponse, DhcpMessage.withOptions, DhcpMessage.asReply,
        if_neg discovers, if_neg informs]

/-- What is left after an answer, or without one. -/
theorem PoolInv.respond (lists : KernelList) (around : Surroundings) (config : Config)
    (inv : PoolInv count address server) (message : DhcpMessage) (state : ClientState)
    (params : List UInt8) :
    let handled := server.respond lists around config message state params
    PoolInv count address handled.server ∧
      (∀ other, (server.infos other).mac ≠ message.chaddr →
        handled.server.infos other = server.infos other) ∧
      ∀ reply ∈ handled.reply, reply.messageType ≠ dhcpNak →
        handled.server = server ∧ message.yiaddr ≠ inaddrAny ∧ message.yiaddr ≠ inaddrBroadcast ∧
          reply.messageType = (if state = .discover then dhcpOffer else dhcpAck) ∧
          reply.message.yiaddr = if state = .informing then 0 else message.yiaddr := by
  unfold Server.respond
  by_cases accepts : message.yiaddr ≠ inaddrAny ∧ message.yiaddr ≠ inaddrBroadcast
  · rw [if_pos accepts]
    refine ⟨inv, fun _ _ => rfl, fun reply isReply _ => ?_⟩
    cases isReply
    obtain ⟨isType, yiaddr⟩ := acceptingReply_fields config message state params
    exact ⟨rfl, accepts.1, accepts.2, isType, yiaddr⟩
  · rw [if_neg accepts]
    by_cases refuses : message.yiaddr = inaddrBroadcast
    · rw [if_pos refuses]
      cases found : server.lookupByMac message.chaddr with
      | none =>
          refine ⟨inv, fun _ _ => rfl, fun reply isReply notNak => ?_⟩
          cases isReply
          exact absurd rfl notNak
      | some client =>
          obtain ⟨inside, holds⟩ := inv.lookupByMac found
          refine ⟨inv.clientUpdate inside _ _, fun other notMac => ?_,
            fun reply isReply notNak => ?_⟩
          · exact Server.clientUpdate_other _ _ fun same => notMac (same ▸ holds)
          · cases isReply
            exact absurd rfl notNak
    · rw [if_neg refuses]
      exact ⟨inv, fun _ _ => rfl, fun _ none => nomatch none⟩

/-- What the handling of a message leaves: entries that neither hold its sender nor
are available, and are not given up, are as they were; and an OFFER or ACK that
does not answer a ping or an INFORM carries the address of an entry that holds the
sender and is offered or leased to it. -/
structure Handles (count : Nat) (address : Nat → InAddr) (chaddr : MacAddress)
    (classified : Classified) (before : Server) (handled : Handled) : Prop where
  inv : PoolInv count address handled.server
  others : ∀ other, (before.infos other).mac ≠ chaddr →
    (before.infos other).state ≠ .available → classified.client ≠ some other →
      handled.server.infos other = before.infos other
  answer : ∀ reply ∈ handled.reply, reply.messageType ≠ dhcpNak →
    classified.state = .pinging ∨ classified.state = .informing ∧ reply.message.yiaddr = 0 ∨
      ∃ client, client < count ∧ (handled.server.infos client).ip = reply.message.yiaddr ∧
        (handled.server.infos client).mac = chaddr ∧
          (reply.messageType = dhcpOffer ∧ (handled.server.infos client).state = .offered ∨
            reply.messageType = dhcpAck ∧ (handled.server.infos client).state = .leased)

/-- The answer with the address that was selected. -/
theorem Selects.respond {message : DhcpMessage} {classified : Classified} {requestType : UInt8}
    {after : Server} {params : List UInt8}
    (selects : Selects count address message.chaddr requestType server after message.yiaddr)
    (isType : match classified.state with
      | .discover => requestType = dhcpDiscover
      | .informing => True
      | _ => requestType = dhcpRequest) :
    Handles count address message.chaddr classified server
      (after.respond lists around config message classified.state params) := by
  obtain ⟨inv, others, answer⟩ :=
    selects.inv.respond lists around config message classified.state params
  refine ⟨inv, ?_, ?_⟩
  · intro other notMac notAvailable _
    have same := selects.others other notMac notAvailable
    rw [← same] at notMac
    exact (others other notMac).trans same
  · intro reply isReply notNak
    obtain ⟨same, notAny, notBroadcast, replyType, yiaddr⟩ := answer reply isReply notNak
    rcases selects.holds with isAny | isBroadcast | ⟨client, inside, ip, holds, offered, leased⟩
    · exact absurd isAny notAny
    · exact absurd isBroadcast notBroadcast
    · rw [same]
      by_cases informs : classified.state = .informing
      · rw [if_pos informs] at yiaddr
        exact .inr (.inl ⟨informs, yiaddr⟩)
      · rw [if_neg informs] at yiaddr
        refine .inr (.inr ⟨client, inside, ip.trans yiaddr.symm, holds, ?_⟩)
        by_cases discovers : classified.state = .discover
        · rw [if_pos discovers] at replyType
          rw [discovers] at isType
          exact .inl ⟨replyType, offered isType⟩
        · rw [if_neg discovers] at replyType
          have isRequest : requestType = dhcpRequest := by
            cases isState : classified.state with
            | discover => exact absurd isState discovers
            | informing => exact absurd isState informs
            | none | selecting | initReboot | renewing | releasing | declining | pinging =>
                rw [isState] at isType
                exact isType
          exact .inr ⟨replyType, leased isRequest⟩

theorem PoolInv.handleOpRequest {message : DhcpMessage} {optionsLength : Nat}
    {handled : Handled} (inv : PoolInv count address server)
    (step : server.handleOpRequest lists around config message optionsLength = some handled) :
    Handles count address message.chaddr
      (server.classify config message (message.requested optionsLength)) server handled := by
  have inside : ∀ client, (server.classify config message
        (message.requested optionsLength)).client = some client → _ :=
    fun client found => inv.classify_inside found
  have isType := classify_type config server message
    (message.requested optionsLength)
  have gaveUp : Handles count address message.chaddr
      (server.classify config message (message.requested optionsLength)) server
      ⟨server.giveUp lists around config
          (server.classify config message (message.requested optionsLength)),
        { message with
          ciaddr := (server.classify config message (message.requested optionsLength)).ciaddr },
        none⟩ :=
    ⟨inv.giveUp fun client found => (inside client found).1,
      fun other _ _ different => giveUp_other different, fun _ none => nomatch none⟩
  have selected : ∀ state, (server.classify config message
        (message.requested optionsLength)).state = state →
      (match state with
        | .discover => (message.requested optionsLength).dhcpMsgType = dhcpDiscover
        | .informing => True
        | _ => (message.requested optionsLength).dhcpMsgType = dhcpRequest) →
      (server.clientIpAddressLease lists around config message.chaddr
          (server.classify config message (message.requested optionsLength)).requestedIp
          (message.requested optionsLength).dhcpMsgType).map (fun leased =>
            leased.2.respond lists around config { message with
              ciaddr := (server.classify config message (message.requested optionsLength)).ciaddr
              yiaddr := leased.1 } state
              (message.requested optionsLength).requestedParams) = some handled →
      Handles count address message.chaddr
        (server.classify config message (message.requested optionsLength)) server handled := by
    rintro state isState isType step
    obtain ⟨⟨ip, after⟩, lease, rfl⟩ := Option.map_eq_some_iff.mp step
    rw [← isState] at isType ⊢
    exact @Selects.respond _ _ _ _ _ _ { message with
        ciaddr := (server.classify config message (message.requested optionsLength)).ciaddr
        yiaddr := ip } _ _ _ _ (inv.clientIpAddressLease lease) isType
  unfold Server.handleOpRequest at step
  cases isState : (server.classify config message (message.requested optionsLength)).state with
  | none =>
      simp only [isState, Option.some.injEq] at step
      subst step
      exact ⟨inv, fun _ _ _ _ => rfl, fun _ none => nomatch none⟩
  | releasing =>
      simp only [isState, Option.some.injEq] at step
      subst step
      exact gaveUp
  | declining =>
      simp only [isState, Option.some.injEq] at step
      subst step
      exact gaveUp
  | pinging =>
      simp only [isState, Option.some.injEq] at step
      subst step
      obtain ⟨after, others, _⟩ := inv.respond lists around config { message with
          ciaddr := (server.classify config message (message.requested optionsLength)).ciaddr
          yiaddr := (server.classify config message
            (message.requested optionsLength)).requestedIp } .pinging
        (message.requested optionsLength).requestedParams
      exact ⟨after, fun other notMac _ _ => others other notMac, fun _ _ _ => .inl isState⟩
  | discover | selecting | initReboot | renewing =>
      simp only [isState] at step isType
      exact selected _ isState isType step
  | informing =>
      simp only [isState] at step
      exact selected _ isState trivial step

end

end FwkRtos.Dhcpd

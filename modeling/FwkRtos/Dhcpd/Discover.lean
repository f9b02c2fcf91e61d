import FwkRtos.Dhcpd.Exclusive
import FwkRtos.Dhcpd.Linked

/-!
# What a client that discovers is offered

The loop that offers an address looks for the first available entry anew in each
pass.  An entry whose address is found in use is moved within the list as it
becomes unavailable, which takes it out of the available entries and leaves the
order of the others as it is.  An address that the client asks for is probed
before all others, wherever its entry is in the order.
-/

namespace FwkRtos.Dhcpd

variable {lists : KernelList} {around : Surroundings} {config : Config} {server : Server}
  {mac : MacAddress}

/-- The available entries in the order of the list. -/
def Server.availableEntries (server : Server) : List Nat :=
  server.pool.filter fun client => (server.infos client).state = .available

/-- The probe that is made after so many others finds the entry's address in use. -/
def Server.foundInUse (around : Surroundings) (config : Config) (server : Server) (probe : Nat)
    (client : Nat) : Bool :=
  config.probeNewIpAddresses && around.inUse (server.probes + probe) (server.infos client).ip

/-- The available entries other than that of the address asked for. -/
def Server.otherEntries (server : Server) (requested : Option Nat) : List Nat :=
  server.availableEntries.filter fun client => requested ≠ some client

/-- The entries in `probed` were probed in turn and all found in use; then the client
was offered the entry `chosen`, if there was one. -/
structure Offered (around : Surroundings) (config : Config) (mac : MacAddress)
    (before after : Server) (ip : InAddr) (probed : List Nat) (chosen : Option Nat) : Prop where
  inUse : ∀ probe client, probed[probe]? = some client →
    before.foundInUse around config probe client = true
  free : ∀ client ∈ chosen, before.foundInUse around config probed.length client = false
  address : ip = (chosen.map fun client => (before.infos client).ip).getD inaddrAny
  withdrawn : ∀ client ∈ probed, (after.infos client).state = .unavailable ∧
    (after.infos client).ip = (before.infos client).ip ∧ (after.infos client).mac = zeroMac
  offered : ∀ client ∈ chosen, (after.infos client).state = .offered ∧
    (after.infos client).ip = (before.infos client).ip ∧ (after.infos client).mac = mac
  others : ∀ client, client ∉ probed → client ∉ chosen →
    after.infos client = before.infos client

/-- The client is offered the first of the entries in `rest`; those in `probed` came
before it and were found in use, and so was the address that it asked for. -/
structure Discovered (around : Surroundings) (config : Config) (mac : MacAddress)
    (requested : Option Nat) (before after : Server) (ip : InAddr) (probed rest : List Nat) :
    Prop where
  entries : before.otherEntries requested = probed ++ rest
  outcome : Offered around config mac before after ip (requested.toList ++ probed) rest.head?

/-! ## One pass -/

theorem getOldestDisconnected_eq (server : Server) :
    server.getOldestDisconnected = server.availableEntries.head? :=
  List.head?_filter.symm

/-- The server after it has found the address of an entry in use. -/
def Server.rejected (lists : KernelList) (around : Surroundings) (config : Config)
    (server : Server) (client : Nat) : Server :=
  (server.addressInUse around (server.infos client).ip).2.withdraw lists around config client

theorem offer_found {client : Nat} (found : server.foundInUse around config 0 client = true) :
    server.offer lists around config client mac =
      (false, server.rejected lists around config client) := by
  rcases Bool.and_eq_true_iff.mp found with ⟨probes, inUse⟩
  have isInUse : (server.addressInUse around (server.infos client).ip).1 = true := inUse
  simp only [Server.offer, probes, if_true, isInUse]
  rfl

theorem offer_free {client : Nat} (free : server.foundInUse around config 0 client = false) :
    ∃ before : Server, before.infos = server.infos ∧
      server.offer lists around config client mac =
        (true, before.grant lists around config client mac) := by
  by_cases probes : config.probeNewIpAddresses = true
  · refine ⟨(server.addressInUse around (server.infos client).ip).2, rfl, ?_⟩
    have notInUse : (server.addressInUse around (server.infos client).ip).1 = false := by
      rw [Server.foundInUse, probes, Bool.true_and] at free
      exact free
    simp only [Server.offer, probes, if_true, notInUse, Bool.false_eq_true, if_false]
    rfl
  · refine ⟨server, rfl, ?_⟩
    simp only [Server.offer, probes, if_false, Bool.false_eq_true]
    rfl

theorem rejected_self (lists : KernelList) (around : Surroundings) (config : Config)
    (server : Server) (client : Nat) :
    ((server.rejected lists around config client).infos client).state = .unavailable ∧
      ((server.rejected lists around config client).infos client).ip =
        (server.infos client).ip ∧
      ((server.rejected lists around config client).infos client).mac = zeroMac :=
  Server.withdraw_self lists around config _ client

theorem rejected_other {client other : Nat} (different : other ≠ client) :
    (server.rejected lists around config client).infos other = server.infos other :=
  Server.withdraw_other different

theorem rejected_ip (lists : KernelList) (around : Surroundings) (config : Config)
    (server : Server) (client other : Nat) :
    ((server.rejected lists around config client).infos other).ip = (server.infos other).ip := by
  by_cases same : other = client
  · rw [same]
    exact (rejected_self lists around config server client).2.1
  · rw [rejected_other same]

/-- The next probe is one further on. -/
theorem foundInUse_rejected (client : Nat) (probe other : Nat) :
    (server.rejected lists around config client).foundInUse around config probe other =
      server.foundInUse around config (probe + 1) other := by
  have counted : (server.rejected lists around config client).probes = server.probes + 1 := rfl
  rw [Server.foundInUse, Server.foundInUse, counted, rejected_ip, Nat.add_assoc,
    Nat.add_comm 1 probe]

/-- The list while the client of the entry is forgotten. -/
theorem Server.Linked.forgotten (linked : server.Linked) (client : Nat) :
    ((server.addressInUse around (server.infos client).ip).2.setMac client zeroMac).Linked := by
  refine linked.of_values rfl fun other => ?_
  by_cases same : other = client
  · rw [same, Server.setMac_self]
    rfl
  · rw [Server.setMac_other _ same]
    rfl

theorem Server.Linked.rejected (linked : server.Linked) (behind : lists.InsertsBehind)
    {client : Nat} (member : client ∈ server.pool) :
    (server.rejected lists around config client).Linked :=
  (linked.forgotten client).clientUpdate behind member _ _

/-- Rejecting an entry leaves the other available ones, in their order. -/
theorem availableEntries_rejected (linked : server.Linked) (behind : lists.InsertsBehind)
    (client : Nat) : (server.rejected lists around config client).availableEntries =
      server.otherEntries (some client) := by
  have unavailable := (rejected_self lists around config server client).1
  have pool : (server.rejected lists around config client).pool = insertStable
      (fun id => ((server.rejected lists around config client).infos id).value) client
        (server.pool.erase client) :=
    (linked.forgotten client).clientUpdate_pool behind .unavailable
      config.unavailableIpProbeInterval
  calc
    (server.rejected lists around config client).availableEntries
      = (server.pool.erase client).filter fun id =>
          ((server.rejected lists around config client).infos id).state = .available := by
        rw [Server.availableEntries, pool]
        exact insertStable_filter _ _ (by rw [unavailable]; decide)
    _ = (server.pool.erase client).filter fun id => (server.infos id).state = .available := by
        refine List.filter_congr fun id member => ?_
        have different : id ≠ client := fun same => linked.nodup.not_mem_erase (same ▸ member)
        rw [rejected_other different]
    _ = server.otherEntries (some client) := by
        rw [linked.nodup.erase_eq_filter, Server.otherEntries, Server.availableEntries,
          List.filter_filter, List.filter_filter]
        refine List.filter_congr fun id _ => ?_
        rw [Bool.and_comm]
        congr 1
        by_cases same : id = client
        · simp [same]
        · simp [same, Ne.symm same]

/-- Without the first one the available entries are those that follow it. -/
theorem otherEntries_of_head (linked : server.Linked) {client : Nat} {rest : List Nat}
    (entries : server.availableEntries = client :: rest) :
    server.otherEntries (some client) = rest := by
  have nodup : server.availableEntries.Nodup := linked.nodup.filter _
  rw [entries] at nodup
  rw [Server.otherEntries, entries, List.filter_cons_of_neg (by simp), List.filter_eq_self]
  intro other member
  have different : other ≠ client := fun same => (List.nodup_cons.mp nodup).1 (same ▸ member)
  simp [different.symm]

/-! ## The whole loop -/

/-- An entry that is rejected comes before what the next pass offers. -/
theorem Offered.cons {client : Nat} {after : Server} {ip : InAddr} {probed : List Nat}
    {chosen : Option Nat} (found : server.foundInUse around config 0 client = true)
    (notProbed : client ∉ probed) (notChosen : client ∉ chosen)
    (offered : Offered around config mac (server.rejected lists around config client) after ip
      probed chosen) :
    Offered around config mac server after ip (client :: probed) chosen := by
  have sameIp := rejected_ip lists around config server client
  constructor
  case inUse =>
    intro probe other isProbed
    cases probe with
    | zero =>
        cases isProbed
        exact found
    | succ probe =>
        rw [← foundInUse_rejected client]
        exact offered.inUse probe other isProbed
  case free =>
    intro other isChosen
    rw [List.length_cons, ← foundInUse_rejected client]
    exact offered.free other isChosen
  case address =>
    rw [offered.address]
    congr 1
    exact Option.map_congr fun other _ => sameIp other
  case withdrawn =>
    refine List.forall_mem_cons.mpr ⟨?_, fun other member => ?_⟩
    · rw [offered.others client notProbed notChosen]
      exact rejected_self lists around config server client
    · rw [← sameIp other]
      exact offered.withdrawn other member
  case offered =>
    intro other isChosen
    rw [← sameIp other]
    exact offered.offered other isChosen
  case others =>
    intro other notWithdrawn notOther
    rcases not_or.mp fun either => notWithdrawn (List.mem_cons.mpr either) with
      ⟨different, notMember⟩
    rw [offered.others other notMember notOther, rejected_other different]

/-- What the loop offers after an entry was rejected. -/
theorem Offered.after_rejected {client : Nat} {after : Server} {ip : InAddr}
    {probed rest : List Nat} (found : server.foundInUse around config 0 client = true)
    (entries : (server.rejected lists around config client).availableEntries = probed ++ rest)
    (offered : Offered around config mac (server.rejected lists around config client) after ip
      probed rest.head?) :
    Offered around config mac server after ip (client :: probed) rest.head? := by
  have notListed : client ∉ probed ++ rest := by
    rw [← entries]
    intro member
    have isAvailable := of_decide_eq_true (List.mem_filter.mp member).2
    rw [(rejected_self lists around config server client).1] at isAvailable
    cases isAvailable
  exact offered.cons found (fun member => notListed (List.mem_append_left _ member)) fun member =>
    notListed (List.mem_append_right _ (List.mem_of_mem_head? member))

/-- With more passes than available entries, the loop comes to an entry that it offers or
has rejected all of them. -/
theorem Server.Linked.offerOldest (behind : lists.InsertsBehind) (mac : MacAddress)
    (linked : server.Linked) {passes : Nat} (enough : server.availableEntries.length < passes) :
    ∃ ip after probed rest, server.offerOldest lists around config mac passes = some (ip, after) ∧
      server.availableEntries = probed ++ rest ∧
        Offered around config mac server after ip probed rest.head? := by
  induction isEntries : server.availableEntries generalizing server passes with
  | nil =>
      rcases Nat.exists_eq_add_one.mpr (Nat.zero_lt_of_lt enough) with ⟨passes, rfl⟩
      refine ⟨inaddrAny, server, [], [], ?_, rfl, ?_⟩
      · rw [Server.offerOldest, getOldestDisconnected_eq, isEntries]
        rfl
      · exact ⟨by simp, by simp, rfl, by simp, by simp, fun _ _ _ => rfl⟩
  | cons client entries ih =>
      rcases Nat.exists_eq_add_one.mpr (Nat.zero_lt_of_lt enough) with ⟨passes, rfl⟩
      have isFirst : server.getOldestDisconnected = some client := by
        rw [getOldestDisconnected_eq, isEntries]
        rfl
      cases found : server.foundInUse around config 0 client with
      | true =>
          have member : client ∈ server.pool := by
            have listed : client ∈ server.availableEntries := by
              rw [isEntries]
              exact List.mem_cons_self
            exact (List.mem_filter.mp listed).1
          have others : (server.rejected lists around config client).availableEntries = entries :=
            (availableEntries_rejected linked behind client).trans
              (otherEntries_of_head linked isEntries)
          have fewer : (server.rejected lists around config client).availableEntries.length <
              passes := by
            rw [isEntries, List.length_cons] at enough
            rw [others]
            exact Nat.lt_of_succ_lt_succ enough
          rcases ih (linked.rejected behind member) fewer others with
            ⟨ip, after, probed, rest, offered, listed, outcome⟩
          refine ⟨ip, after, client :: probed, rest, ?_, ?_, ?_⟩
          · simp only [Server.offerOldest, isFirst, offer_found found, Bool.false_eq_true, if_false]
            exact offered
          · rw [listed, List.cons_append]
          · exact outcome.after_rejected found (others.trans listed)
      | false =>
          have offered : ∃ before : Server, before.infos = server.infos ∧
              server.offer lists around config client mac =
                (true, before.grant lists around config client mac) := offer_free found
          rcases offered with ⟨before, same, offered⟩
          refine ⟨(server.infos client).ip, before.grant lists around config client mac, [],
            client :: entries, ?_, rfl, ?_⟩
          · simp only [Server.offerOldest, isFirst, offered, if_true]
          · refine ⟨by simp, ?_, rfl, by simp, ?_, ?_⟩
            · rintro other ⟨⟩
              exact found
            · rintro other ⟨⟩
              rw [← same]
              exact Server.grant_self lists around config before client mac
            · intro other _ notFirst
              have different : other ≠ client := fun isClient => notFirst (isClient ▸ rfl)
              rw [Server.grant_other mac different, same]

/-- The available entries in the order in which they are probed. -/
def Server.probeOrder (server : Server) (requested : Option Nat) : List Nat :=
  requested.toList ++ server.otherEntries requested

/-- The address is zero exactly when all available entries were rejected. -/
theorem Discovered.eq_any_iff {requested : Option Nat} {after : Server} {ip : InAddr}
    {probed rest : List Nat} (valid : ∀ client ∈ server.pool, (server.infos client).ip ≠ inaddrAny)
    (discovered : Discovered around config mac requested server after ip probed rest) :
    ip = inaddrAny ↔ ∀ probe client, (server.probeOrder requested)[probe]? = some client →
      server.foundInUse around config probe client = true := by
  have isAddress := discovered.outcome.address
  rw [Server.probeOrder, discovered.entries, ← List.append_assoc]
  cases rest with
  | nil =>
      rw [List.append_nil]
      exact iff_of_true isAddress discovered.outcome.inUse
  | cons client rest =>
      have listed : client ∈ server.otherEntries requested := by
        rw [discovered.entries]
        exact List.mem_append_right _ List.mem_cons_self
      have member := List.mem_of_mem_filter (List.mem_of_mem_filter listed)
      have notAny : ip ≠ inaddrAny := by
        rw [isAddress]
        exact valid client member
      refine iff_of_false notAny fun allInUse => ?_
      have found := allInUse (requested.toList ++ probed).length client (by
        rw [List.getElem?_append_right (Nat.le_refl _), Nat.sub_self]
        rfl)
      rw [discovered.outcome.free client rfl] at found
      cases found

/-- A DISCOVER of a client that has no entry and whose requested address, if any, is not
available or is found in use: the client is offered the first available entry in the
order of the list whose address is not found in use.  The available entries before
it and that of the requested address become unavailable and free of any client, and
nothing else changes; the address is zero exactly when every available entry is
found in use. -/
theorem discover_offers_first (lists : KernelList) (around : Surroundings) (config : Config)
    (behind : lists.InsertsBehind) (server : Server) (linked : server.Linked)
    (valid : ∀ client ∈ server.pool, (server.infos client).ip ≠ inaddrAny)
    (mac : MacAddress) (requestedIp : InAddr) (unknown : server.lookupByMac mac = none)
    (unusable : ∀ client ∈ server.requestedAvailable requestedIp,
      server.foundInUse around config 0 client = true) :
    ∃ ip after probed rest,
      server.clientIpAddressLease lists around config mac requestedIp dhcpDiscover =
          some (ip, after) ∧
        Discovered around config mac (server.requestedAvailable requestedIp) server after ip
          probed rest ∧
          (ip = inaddrAny ↔ ∀ probe client,
            (server.probeOrder (server.requestedAvailable requestedIp))[probe]? = some client →
              server.foundInUse around config probe client = true) := by
  have few : ∀ requested, (server.otherEntries requested).length < server.pool.length + 1 :=
    fun _ => Nat.lt_succ_of_le ((List.length_filter_le _ _).trans (List.length_filter_le _ _))
  cases isRequested : server.requestedAvailable requestedIp with
  | none =>
      have all : server.otherEntries none = server.availableEntries :=
        List.filter_eq_self.mpr fun _ _ => rfl
      rcases linked.offerOldest behind mac (all ▸ few none) with
        ⟨ip, after, probed, rest, offered, entries, outcome⟩
      have discovered : Discovered around config mac none server after ip probed rest :=
        ⟨all.trans entries, outcome⟩
      refine ⟨ip, after, probed, rest, ?_, discovered, discovered.eq_any_iff valid⟩
      simp only [Server.clientIpAddressLease, unknown, Server.leaseUnknown, if_true, isRequested]
      exact offered
  | some client =>
      have found := unusable client isRequested
      have member : client ∈ server.pool := by
        rw [Server.requestedAvailable] at isRequested
        split at isRequested
        · cases isRequested
        · exact List.mem_of_find?_eq_some (Option.filter_eq_some_iff.mp isRequested).1
      have others : (server.rejected lists around config client).availableEntries =
          server.otherEntries (some client) := availableEntries_rejected linked behind client
      rcases (linked.rejected behind member).offerOldest behind mac (others ▸ few (some client))
        with ⟨ip, after, probed, rest, offered, entries, outcome⟩
      have discovered : Discovered around config mac (some client) server after ip probed rest :=
        ⟨others.symm.trans entries, outcome.after_rejected found entries⟩
      refine ⟨ip, after, probed, rest, ?_, discovered, discovered.eq_any_iff valid⟩
      simp only [Server.clientIpAddressLease, unknown, Server.leaseUnknown, if_true, isRequested,
        offer_found found, Bool.false_eq_true, if_false]
      exact offered

/-- A network on which somebody uses this address of the pool. -/
def occupied (taken : InAddr) : Surroundings :=
  ⟨fun _ => 0, fun _ ip => ip = taken, UInt32.toUInt64⟩

theorem occupied_offers_first :
    ∃ ip after probed rest,
      defaultPool.clientIpAddressLease .stable (occupied 0x0a000003) defaultConfig firstClient
          0x0a000003 dhcpDiscover = some (ip, after) ∧
        Discovered (occupied 0x0a000003) defaultConfig firstClient
          (defaultPool.requestedAvailable 0x0a000003) defaultPool after ip probed rest ∧
          (ip = inaddrAny ↔ ∀ probe client,
            (defaultPool.probeOrder (defaultPool.requestedAvailable 0x0a000003))[probe]? =
              some client →
                defaultPool.foundInUse (occupied 0x0a000003) defaultConfig probe client = true) :=
  discover_offers_first .stable (occupied 0x0a000003) defaultConfig stable_insertsBehind
    defaultPool ⟨by decide +kernel, by decide +kernel⟩ (by decide +kernel) firstClient 0x0a000003
    (by decide +kernel) (by decide +kernel)

/-- The client asks for 10.0.0.3, which somebody uses, and is offered 10.0.0.2: the
entry of 10.0.0.3 is not before that of 10.0.0.2 in the order and changes. -/
theorem requestedInUse_changes_other :
    ¬ ∃ ip after probed rest,
      defaultPool.clientIpAddressLease .stable (occupied 0x0a000003) defaultConfig firstClient
          0x0a000003 dhcpDiscover = some (ip, after) ∧
        Discovered (occupied 0x0a000003) defaultConfig firstClient none defaultPool after ip
          probed rest := by
  rintro ⟨ip, after, probed, rest, leased, discovered⟩
  have final : (defaultPool.clientIpAddressLease .stable (occupied 0x0a000003) defaultConfig
      firstClient 0x0a000003 dhcpDiscover).map (fun leased => decide
        ((leased.2.infos 0).state = .offered ∧ (leased.2.infos 1).state = .unavailable)) =
          some true := by
    decide +kernel
  rw [leased] at final
  obtain ⟨offered, withdrawn⟩ := of_decide_eq_true (Option.some.inj final)
  have entries : probed ++ rest = [0, 1, 2, 3, 4, 5, 6] := by
    rw [← discovered.entries]
    decide +kernel
  cases probed with
  | nil =>
      rw [List.nil_append] at entries
      have kept := discovered.outcome.others 1 (by simp) (by rw [entries]; decide)
      rw [kept] at withdrawn
      exact absurd withdrawn (by decide +kernel)
  | cons first probed =>
      cases (List.cons.inj entries).1
      have rejected := (discovered.outcome.withdrawn 0 (by simp)).1
      rw [offered] at rejected
      cases rejected

end FwkRtos.Dhcpd

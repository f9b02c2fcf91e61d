import FwkRtos.Dhcpd.Invariant
import Mathlib.Data.Finset.Card
import Mathlib.Data.Fintype.Card
import Mathlib.Order.Interval.Finset.Nat

/-!
# Every run

Messages are always handled to the end, the sweep keeps the pool's invariant,
and the pool is created with it; so it holds in every run.  Only the addresses
of the entries depend on the configuration: a pool that reaches up to the
broadcast address and skips an address on the way begins again from its start.
-/

namespace FwkRtos.Dhcpd

open FwkRtos.Transition

section
variable {count : Nat} {address : Nat → InAddr} {server : Server} {client : Nat}
  {lists : KernelList} {around : Surroundings} {config : Config}

/-! ## Messages are handled to the end -/

/-- The available entries. -/
def available (count : Nat) (server : Server) : Finset Nat :=
  (Finset.range count).filter fun client => (server.infos client).state = .available

theorem available_card_le (count : Nat) (server : Server) : (available count server).card ≤ count :=
  (Finset.card_filter_le _ _).trans (Finset.card_range count).le

/-- An offer that is not made leaves fewer entries available. -/
theorem available_card_lt (lists : KernelList) (around : Surroundings) (config : Config)
    {mac : MacAddress} (inside : client < count)
    (isAvailable : (server.infos client).state = .available)
    (notMade : ¬ (server.offer lists around config client mac).1 = true) :
    (available count (server.offer lists around config client mac).2).card <
      (available count server).card := by
  have gone := (Server.offer_not_made mac notMade).1
  apply Finset.card_lt_card
  rw [Finset.ssubset_iff_of_subset]
  · refine ⟨client, ?_, ?_⟩
    · simp [available, inside, isAvailable]
    · simp [available, gone]
  · intro other member
    obtain ⟨otherInside, otherAvailable⟩ := Finset.mem_filter.mp member
    have different : other ≠ client := by
      rintro rfl
      rw [gone] at otherAvailable
      cases otherAvailable
    rw [Server.offer_other mac different] at otherAvailable
    exact Finset.mem_filter.mpr ⟨otherInside, otherAvailable⟩

/-- The endless loop ends: every pass but the last leaves fewer entries available. -/
theorem PoolInv.offerOldest_isSome {mac : MacAddress} {passes : Nat}
    (inv : PoolInv count address server) (notHeld : NotHeld count mac server)
    (enough : (available count server).card < passes) :
    (server.offerOldest lists around config mac passes).isSome = true := by
  induction passes generalizing server with
  | zero => exact absurd enough (Nat.not_lt_zero _)
  | succ passes ih =>
      rw [Server.offerOldest]
      cases found : server.getOldestDisconnected with
      | none => rfl
      | some client =>
          obtain ⟨inside, isAvailable⟩ := inv.getOldestDisconnected found
          by_cases made : (server.offer lists around config client mac).1 = true
          · simp only [made, if_true, Option.isSome_some]
          · simp only [made, if_false, Bool.false_eq_true]
            have fewer := available_card_lt lists around config inside isAvailable made
            exact ih (inv.offer inside notHeld) (notHeld_of_not_made notHeld made) (by omega)

theorem PoolInv.leaseUnknown_isSome {mac : MacAddress} {requestedIp : InAddr}
    {requestType : UInt8} (inv : PoolInv count address server)
    (notHeld : NotHeld count mac server) :
    (server.leaseUnknown lists around config mac requestedIp requestType).isSome = true := by
  have enough : ∀ other : Server, (available count other).card < server.pool.length + 1 := by
    intro other
    have counted := inv.linked.length_eq
    rw [List.length_range] at counted
    rw [counted]
    exact Nat.lt_succ_of_le (available_card_le count other)
  unfold Server.leaseUnknown
  by_cases discovers : requestType = dhcpDiscover
  · rw [if_pos discovers]
    cases found : server.requestedAvailable requestedIp with
    | none => exact inv.offerOldest_isSome notHeld (enough server)
    | some client =>
        obtain ⟨inside, _⟩ := inv.requestedAvailable found
        by_cases made : (server.offer lists around config client mac).1 = true
        · simp only [made, if_true, Option.isSome_some]
        · simp only [made, if_false, Bool.false_eq_true]
          exact (inv.offer inside notHeld).offerOldest_isSome (notHeld_of_not_made notHeld made)
            (enough _)
  · rw [if_neg discovers]
    by_cases informs : requestType = dhcpInform
    · rw [if_pos informs]
      cases server.requestedAvailable requestedIp with
      | none => rfl
      | some client => rfl
    · rw [if_neg informs]
      rfl

theorem PoolInv.clientIpAddressLease_isSome {mac : MacAddress} {requestedIp : InAddr}
    {requestType : UInt8} (inv : PoolInv count address server) :
    (server.clientIpAddressLease lists around config mac requestedIp requestType).isSome =
      true := by
  unfold Server.clientIpAddressLease
  cases found : server.lookupByMac mac with
  | none =>
      exact inv.leaseUnknown_isSome fun _ other inside => inv.lookupByMac_none found other inside
  | some client =>
      obtain ⟨inside, holds⟩ := inv.lookupByMac found
      have known := inv.leaseKnown lists around config inside
        holds requestedIp requestType
      cases outcome : server.leaseKnown lists around config client requestedIp requestType with
      | done ip after => simp only [outcome, Option.isSome_some]
      | goOn goOnIp middle =>
          simp only [outcome] at known ⊢
          exact known.inv.leaseUnknown_isSome known.notHeld

theorem PoolInv.handleOpRequest_isSome (lists : KernelList) (around : Surroundings)
    (config : Config) (inv : PoolInv count address server) (message : DhcpMessage)
    (optionsLength : Nat) :
    (server.handleOpRequest lists around config message optionsLength).isSome = true := by
  unfold Server.handleOpRequest
  cases isState : (server.classify config message (message.requested optionsLength)).state with
  | none | releasing | declining | pinging => simp only [isState, Option.isSome_some]
  | discover | selecting | initReboot | renewing | informing =>
      simp only [isState, Option.isSome_map]
      exact inv.clientIpAddressLease_isSome

/-! ## The sweep -/

theorem PoolInv.expire (inv : PoolInv count address server) (inside : client < count) :
    PoolInv count address (server.expire lists around config client) := by
  unfold Server.expire
  cases (server.infos client).state with
  | leased => exact inv.setState _ _
  | offered => exact inv.setState _ _
  | available => exact inv
  | static => exact inv
  | unavailable =>
      by_cases noProbe : config.unavailableIpProbeInterval = 0
      · simp only [noProbe, if_true]
        exact inv
      · by_cases inUse : (server.addressInUse around (server.infos client).ip).1 = true
        · simp only [noProbe, if_false, inUse, if_true]
          exact (inv.addressInUse _).clientUpdate inside _ _
        · simp only [noProbe, if_false, inUse, Bool.false_eq_true]
          exact (inv.addressInUse _).setState _ _

/-- Only the entry whose time is over is changed. -/
theorem expire_other {other : Nat} (different : other ≠ client) :
    (server.expire lists around config client).infos other = server.infos other := by
  unfold Server.expire
  cases (server.infos client).state with
  | leased => exact Server.modify_other _ different
  | offered => exact Server.modify_other _ different
  | available => rfl
  | static => rfl
  | unavailable =>
      by_cases noProbe : config.unavailableIpProbeInterval = 0
      · simp only [noProbe, if_true]
      · by_cases inUse : (server.addressInUse around (server.infos client).ip).1 = true
        · simp only [noProbe, if_false, inUse, if_true]
          rw [Server.clientUpdate_other _ _ different]
          rfl
        · simp only [noProbe, if_false, inUse, Bool.false_eq_true]
          exact Server.modify_other _ different

theorem PoolInv.sweep {now : UInt64} {passes : Nat} {item : Option Nat} {after : Server}
    (inv : PoolInv count address server) (linked : ∀ client ∈ item, client ∈ server.pool)
    (swept : server.sweep lists around config now passes item = some after) :
    PoolInv count address after := by
  induction passes generalizing server item with
  | zero =>
      cases swept
      exact inv
  | succ passes ih =>
      cases item with
      | none =>
          rw [Server.sweep] at swept
          by_cases over_ : around.timeOf portMaxDelay ≤ now
          · rw [if_pos over_] at swept
            cases swept
          · rw [if_neg over_] at swept
            exact ih inv (fun client isHead => List.mem_of_mem_head? isHead) swept
      | some client =>
          have inside := inv.mem_iff.mp (linked client rfl)
          rw [Server.sweep] at swept
          have next_linked : ∀ (after : Server), ∀ other ∈ listGetNext after.pool client,
              other ∈ after.pool := fun after other isNext => List.mem_of_getElem? isNext
          by_cases over_ : around.timeOf (server.infos client).value ≤ now
          · simp only [over_, if_true] at swept
            exact ih (inv.expire inside) (next_linked _) swept
          · simp only [over_, if_false] at swept
            exact ih inv (next_linked _) swept

/-- Every step keeps the invariant. -/
theorem PoolInv.step {action : Action} {after : Server} (inv : PoolInv count address server)
    (step : next lists around config server action = some after) :
    PoolInv count address after := by
  cases action with
  | handle message optionsLength =>
      obtain ⟨handled, isHandled, rfl⟩ := Option.map_eq_some_iff.mp step
      exact (inv.handleOpRequest isHandled).inv
  | sweep => exact inv.readClock.sweep (fun client isHead => List.mem_of_mem_head? isHead) step

/-! ## The creation of the pool -/

/-- The address may be handed out. -/
def Config.Valid (config : Config) (ip : InAddr) : Prop :=
  config.ipPoolStart ≤ ip ∧ ip ≤ config.ipPoolEnd ∧ config.skips ip = false

/-- A search finds a valid address, or none up to the end of the pool. -/
theorem nextValid_valid {passes : Nat} {ipval pool ip next : InAddr}
    (found : config.nextValid passes ipval pool = some (ip, next)) :
    ip = inaddrAny ∧ config.ipPoolEnd ≠ inaddrBroadcast ∨ config.Valid ip ∧ next = ip + 1 := by
  induction passes generalizing ipval with
  | zero => cases found
  | succ passes ih =>
      rw [Config.nextValid] at found
      by_cases past : config.ipPoolEnd < ipval
      · rw [if_pos past] at found
        cases found
        refine .inl ⟨rfl, fun isLast => ?_⟩
        rw [isLast, UInt32.lt_iff_toNat_lt] at past
        have bound := ipval.toNat_lt
        have last : inaddrBroadcast.toNat = 2 ^ 32 - 1 := rfl
        omega
      · rw [if_neg past] at found
        by_cases before : ipval < config.ipPoolStart
        · rw [if_pos before] at found
          exact ih found
        · rw [if_neg before] at found
          by_cases skips : config.skips ipval = true
          · rw [if_pos skips] at found
            exact ih found
          · rw [if_neg skips] at found
            cases found
            refine .inr ⟨⟨?_, ?_, Bool.eq_false_iff.mpr skips⟩, rfl⟩
            · exact UInt32.not_lt.mp before
            · exact UInt32.not_lt.mp past

/-- The first entries of the array, as the creation leaves them. -/
structure Created (config : Config) (index : Nat) (server : Server) : Prop where
  linked : server.pool.Perm (List.range index)
  sorted : server.pool.Pairwise fun first second =>
    (server.infos first).value ≤ (server.infos second).value
  noClients : ∀ client, (server.infos client).mac = zeroMac
  valid : ∀ client, client < index → config.Valid (server.infos client).ip

/-- The new entry has its address, and those before it keep theirs. -/
theorem link_ip {index : Nat} {ip : InAddr} :
    ((server.link lists around index ip).infos index).ip = ip ∧
      ∀ client, client ≠ index →
        (server.link lists around index ip).infos client = server.infos client := by
  constructor
  · simp [Server.link, Server.modify]
  · intro client different
    simp [Server.link, Server.modify, Server.readClock, Function.update_of_ne different]

theorem Created.link {index : Nat} {ip : InAddr} (created : Created config index server)
    (valid : config.Valid ip) :
    Created config (index + 1) (server.link lists around index ip) := by
  have fresh : index ∉ server.pool := by
    rw [created.linked.mem_iff]
    exact List.not_mem_range_self
  refine ⟨?_, ?_, ?_, ?_⟩
  · refine (lists.perm _ _ _).trans ?_
    rw [List.range_succ]
    exact (List.Perm.cons index created.linked).trans (List.perm_append_singleton index _).symm
  · refine lists.sorted _ _ _ ?_
    refine created.sorted.imp_of_mem fun {first second} firstIn secondIn order => ?_
    have firstOther : first ≠ index := fun same => fresh (same ▸ firstIn)
    have secondOther : second ≠ index := fun same => fresh (same ▸ secondIn)
    show ((server.link lists around index ip).infos first).value ≤
      ((server.link lists around index ip).infos second).value
    rw [link_ip.2 first firstOther, link_ip.2 second secondOther]
    exact order
  · intro client
    by_cases same : client = index
    · subst same
      simp [Server.link, Server.modify]
    · simpa [Server.link, Server.modify, Server.readClock, Function.update_of_ne same]
        using created.noClients client
  · intro client inside
    by_cases same : client = index
    · subst same
      simpa [Server.link, Server.modify] using valid
    · simpa [Server.link, Server.modify, Server.readClock, Function.update_of_ne same]
        using created.valid client (by omega)

/-- The addresses of the first entries are different. -/
def DistinctAddresses (count : Nat) (server : Server) : Prop :=
  ∀ first second, first < count → second < count →
    (server.infos first).ip = (server.infos second).ip → first = second

/-- The pool ends before the broadcast address, or skips no address before its end. -/
def Config.NoWrap (config : Config) : Prop :=
  config.ipPoolEnd = inaddrBroadcast →
    ∀ ip, config.ipPoolStart ≤ ip → ip < config.ipPoolEnd → config.skips ip = false

theorem linkAll_created {passes left index : Nat} {pool : InAddr} {after : Server}
    (created : Created config index server)
    (linked : server.linkAll lists around config passes left index pool = some after) :
    ∃ count, count ≤ index + left ∧ Created config count after ∧
      (config.ipPoolEnd = inaddrBroadcast → count = index + left) := by
  induction left generalizing index pool server with
  | zero =>
      cases linked
      exact ⟨index, Nat.le_refl _, created, fun _ => rfl⟩
  | succ left ih =>
      rw [Server.linkAll] at linked
      cases found : config.nextValid passes pool pool with
      | none =>
          rw [found] at linked
          cases linked
      | some result =>
          obtain ⟨ip, next⟩ := result
          simp only [found] at linked
          by_cases none_ : ip = inaddrAny
          · rw [if_pos none_] at linked
            cases linked
            refine ⟨index, Nat.le_add_right _ _, created, fun isLast => ?_⟩
            rcases nextValid_valid found with ⟨_, notLast⟩ | ⟨valid, _⟩
            · exact absurd isLast notLast
            · have skipped : config.skips ip = true := by
                rw [none_]
                simp [Config.skips, inaddrAny]
              rw [valid.2.2] at skipped
              cases skipped
          · rw [if_neg none_] at linked
            rcases nextValid_valid found with ⟨isNone, _⟩ | ⟨valid, _⟩
            · exact absurd isNone none_
            · obtain ⟨count, bound, done, whole⟩ := ih (created.link valid) linked
              exact ⟨count, by omega, done, fun isLast => by rw [whole isLast]; omega⟩

/-- Without a new beginning the search does not go back. -/
theorem nextValid_rises {passes : Nat} {ipval pool ip next : InAddr} (noWrap : config.NoWrap)
    (fits : config.ipPoolEnd = inaddrBroadcast →
      config.ipPoolStart ≤ ipval ∧ ipval < config.ipPoolEnd)
    (found : config.nextValid passes ipval pool = some (ip, next)) :
    ip = inaddrAny ∨ ipval ≤ ip ∧ (config.ipPoolEnd = inaddrBroadcast → ip = ipval) := by
  by_cases isLast : config.ipPoolEnd = inaddrBroadcast
  · obtain ⟨notBefore, inside⟩ := fits isLast
    cases passes with
    | zero => cases found
    | succ passes =>
        have notPast : ¬ config.ipPoolEnd < ipval := UInt32.lt_asymm inside
        rw [Config.nextValid, if_neg notPast, if_neg (UInt32.not_lt.mpr notBefore),
          noWrap isLast ipval notBefore inside] at found
        cases found
        exact .inr ⟨UInt32.le_refl _, fun _ => rfl⟩
  · suffices rises : ip = inaddrAny ∨ ipval ≤ ip from
      rises.imp_right fun below => ⟨below, fun last => absurd last isLast⟩
    clear fits
    induction passes generalizing ipval with
    | zero => cases found
    | succ passes ih =>
        rw [Config.nextValid] at found
        by_cases past : config.ipPoolEnd < ipval
        · rw [if_pos past] at found
          cases found
          exact .inl rfl
        · rw [if_neg past] at found
          by_cases before : ipval < config.ipPoolStart
          · rw [if_pos before] at found
            exact (ih found).imp_right fun rises =>
              UInt32.le_trans (UInt32.le_of_lt before) rises
          · rw [if_neg before] at found
            by_cases skips : config.skips ipval = true
            · rw [if_pos skips] at found
              refine (ih found).imp_right fun rises => UInt32.le_trans ?_ rises
              have notLast : ipval.toNat + 1 < 2 ^ 32 := by
                have within := UInt32.le_iff_toNat_le.mp (UInt32.not_lt.mp past)
                have endBound := config.ipPoolEnd.toNat_lt
                by_contra full
                refine isLast (UInt32.toNat_inj.mp ?_)
                show _ = 2 ^ 32 - 1
                omega
              rw [UInt32.le_iff_toNat_le, UInt32.toNat_add, UInt32.toNat_one,
                Nat.mod_eq_of_lt notLast]
              exact Nat.le_succ _
            · rw [if_neg skips] at found
              cases found
              exact .inr (UInt32.le_refl _)

theorem Config.Valid.ne_any {ip : InAddr} (valid : config.Valid ip) : ip ≠ inaddrAny := by
  rintro rfl
  have skipped : config.skips inaddrAny = true := by simp [Config.skips, inaddrAny]
  rw [valid.2.2] at skipped
  cases skipped

theorem skips_broadcast (config : Config) : config.skips inaddrBroadcast = true := by
  have lastByte : inaddrBroadcast &&& 0xff = 0xff := by decide
  simp [Config.skips, lastByte]

/-- The address after a valid one is greater. -/
theorem Config.Valid.toNat_succ {ip : InAddr} (valid : config.Valid ip) :
    (ip + 1).toNat = ip.toNat + 1 := by
  have bound := ip.toNat_lt
  have notLast : ip.toNat ≠ 2 ^ 32 - 1 := by
    intro isLast
    have same : ip = inaddrBroadcast := UInt32.toNat_inj.mp isLast
    rw [same, Config.Valid, skips_broadcast] at valid
    exact absurd valid.2.2 (by decide)
  rw [UInt32.toNat_add, UInt32.toNat_one]
  exact Nat.mod_eq_of_lt (by omega)

/-- Addresses found one after the other are different. -/
theorem linkAll_distinct {passes left index : Nat} {pool : InAddr} {after : Server}
    (noWrap : config.NoWrap)
    (fits : config.ipPoolEnd = inaddrBroadcast →
      config.ipPoolStart ≤ pool ∧ pool.toNat + left ≤ config.ipPoolEnd.toNat)
    (created : Created config index server) (distinct : DistinctAddresses index server)
    (below : ∀ client, client < index → (server.infos client).ip.toNat < pool.toNat)
    (linked : server.linkAll lists around config passes left index pool = some after) :
    DistinctAddresses after.pool.length after := by
  have counted : ∀ {index : Nat} {server : Server}, Created config index server →
      server.pool.length = index :=
    fun created => created.linked.length_eq.trans List.length_range
  induction left generalizing index pool server with
  | zero =>
      cases linked
      rw [counted created]
      exact distinct
  | succ left ih =>
      rw [Server.linkAll] at linked
      cases found : config.nextValid passes pool pool with
      | none =>
          rw [found] at linked
          cases linked
      | some result =>
          obtain ⟨ip, next⟩ := result
          simp only [found] at linked
          by_cases none_ : ip = inaddrAny
          · rw [if_pos none_] at linked
            cases linked
            rw [counted created]
            exact distinct
          · rw [if_neg none_] at linked
            obtain ⟨valid, rfl⟩ := (nextValid_valid found).resolve_left fun isNone => none_ isNone.1
            have nextFits : config.ipPoolEnd = inaddrBroadcast →
                config.ipPoolStart ≤ pool ∧ pool < config.ipPoolEnd := by
              intro isLast
              obtain ⟨notBefore, room⟩ := fits isLast
              exact ⟨notBefore, UInt32.lt_iff_toNat_lt.mpr (by omega)⟩
            obtain ⟨rises, isPool⟩ := (nextValid_rises noWrap nextFits found).resolve_left none_
            rw [UInt32.le_iff_toNat_le] at rises
            refine ih ?_ (created.link valid) ?_ ?_ linked
            · intro isLast
              obtain ⟨notBefore, room⟩ := fits isLast
              rw [isPool isLast] at valid ⊢
              rw [valid.toNat_succ]
              refine ⟨UInt32.le_trans notBefore (UInt32.le_iff_toNat_le.mpr ?_), by omega⟩
              rw [valid.toNat_succ]
              exact Nat.le_succ _
            · intro first second firstInside secondInside same
              by_cases firstNew : first = index
              · by_cases secondNew : second = index
                · rw [firstNew, secondNew]
                · rw [firstNew, link_ip.1, link_ip.2 second secondNew] at same
                  have lower := below second (by omega)
                  rw [← same] at lower
                  omega
              · rw [link_ip.2 first firstNew] at same
                by_cases secondNew : second = index
                · rw [secondNew, link_ip.1] at same
                  have lower := below first (by omega)
                  rw [same] at lower
                  omega
                · rw [link_ip.2 second secondNew] at same
                  exact distinct first second (by omega) (by omega) same
            · intro client inside
              rw [valid.toNat_succ]
              by_cases isNew : client = index
              · rw [isNew, link_ip.1]
                exact Nat.lt_succ_self _
              · rw [link_ip.2 client isNew]
                have lower := below client (by omega)
                omega

/-- The pool before anything is linked. -/
theorem created_empty (config : Config) :
    Created config 0 ⟨fun _ => ⟨inaddrAny, .available, zeroMac, 0⟩, [], 0, 0⟩ :=
  ⟨List.Perm.refl _, List.Pairwise.nil, fun _ => rfl,
    fun _ inside => absurd inside (Nat.not_lt_zero _)⟩

theorem created_init {passes : Nat}
    (init : dhcpdIpPoolInit lists around config passes = some server) :
    Created config server.pool.length server := by
  obtain ⟨count, _, created, _⟩ := linkAll_created (created_empty config) init
  have counted := created.linked.length_eq.trans List.length_range
  rwa [counted]

/-- The pool is created with an entry for each of its addresses. -/
theorem poolInv_init {passes : Nat}
    (init : dhcpdIpPoolInit lists around config passes = some server) :
    PoolInv server.pool.length (fun client => (server.infos client).ip) server := by
  have created := created_init init
  refine ⟨created.linked, created.sorted, fun _ _ => rfl, ?_⟩
  intro first second _ _ some_
  exact absurd (created.noClients first) some_

/-- Every address has one entry exactly when the pool does not begin again from its
start. -/
theorem distinct_init_iff {passes : Nat}
    (init : dhcpdIpPoolInit lists around config passes = some server) :
    DistinctAddresses server.pool.length server ↔ config.NoWrap := by
  constructor
  · intro distinct isLast skipped notBefore inside
    by_contra skips
    -- All entries have valid addresses, and there are fewer of these than entries.
    obtain ⟨count, _, created, whole⟩ := linkAll_created (created_empty config) init
    have counted := created.linked.length_eq.trans List.length_range
    have order := UInt32.le_of_lt (UInt32.lt_of_le_of_lt notBefore inside)
    have size : count = config.ipPoolEnd.toNat - config.ipPoolStart.toNat := by
      rw [whole isLast, Nat.zero_add, UInt32.toNat_sub_of_le _ _ order]
    rw [counted] at distinct
    have lower := UInt32.le_iff_toNat_le.mp notBefore
    have upper := UInt32.lt_iff_toNat_lt.mp inside
    let targets := (Finset.Ico config.ipPoolStart.toNat config.ipPoolEnd.toNat).erase skipped.toNat
    have fewer : targets.card < (Finset.range count).card := by
      rw [Finset.card_erase_of_mem (Finset.mem_Ico.mpr ⟨lower, upper⟩), Nat.card_Ico,
        Finset.card_range]
      omega
    have mapsTo : ∀ client ∈ Finset.range count, (server.infos client).ip.toNat ∈ targets := by
      intro client member
      have valid := created.valid client (Finset.mem_range.mp member)
      have notSkipped : (server.infos client).ip ≠ skipped := by
        rintro rfl
        exact skips valid.2.2
      have notLast : (server.infos client).ip ≠ config.ipPoolEnd := by
        intro same
        have isSkipped := skips_broadcast config
        rw [← isLast, ← same, valid.2.2] at isSkipped
        cases isSkipped
      refine Finset.mem_erase.mpr ⟨fun same => notSkipped (UInt32.toNat_inj.mp same),
        Finset.mem_Ico.mpr ⟨UInt32.le_iff_toNat_le.mp valid.1, ?_⟩⟩
      exact Nat.lt_of_le_of_ne (UInt32.le_iff_toNat_le.mp valid.2.1)
        fun same => notLast (UInt32.toNat_inj.mp same)
    obtain ⟨first, firstIn, second, secondIn, different, same⟩ :=
      Finset.exists_ne_map_eq_of_card_lt_of_maps_to fewer mapsTo
    exact different (distinct first second (Finset.mem_range.mp firstIn)
      (Finset.mem_range.mp secondIn) (UInt32.toNat_inj.mp same))
  · intro noWrap
    refine linkAll_distinct noWrap (fun isLast => ⟨UInt32.le_refl _, ?_⟩) (created_empty config)
      (fun _ _ inside _ _ => absurd inside (Nat.not_lt_zero _))
      (fun _ inside => absurd inside (Nat.not_lt_zero _)) init
    have order : config.ipPoolStart ≤ config.ipPoolEnd := by
      rw [isLast, UInt32.le_iff_toNat_le]
      have bound := config.ipPoolStart.toNat_lt
      show _ ≤ 2 ^ 32 - 1
      omega
    rw [UInt32.toNat_sub_of_le _ _ order]
    have := UInt32.le_iff_toNat_le.mp order
    omega

end

/-! ## The invariant in every run -/

/-- Every entry has an address of its own, is linked exactly once among all entries in
the order of the expiry values, and no client has two entries. -/
structure Consistent (count : Nat) (server : Server) : Prop where
  addresses : DistinctAddresses count server
  linked : server.pool.Perm (List.range count)
  sorted : server.pool.Pairwise fun first second =>
    (server.infos first).value ≤ (server.infos second).value
  macs : ∀ first second, first < count → second < count →
    (server.infos first).mac ≠ zeroMac →
      (server.infos first).mac = (server.infos second).mac → first = second

/-- Every message is handled to the end, and an OFFER or ACK that answers a DISCOVER or
a REQUEST outside the ping state carries the address of an entry which then holds
the sender and is offered or leased, respectively. -/
def AnswersHold (lists : KernelList) (around : Surroundings) (config : Config) (count : Nat)
    (server : Server) : Prop :=
  ∀ message optionsLength, ∃ handled,
    server.handleOpRequest lists around config message optionsLength = some handled ∧
      ∀ reply ∈ handled.reply, reply.messageType ≠ dhcpNak →
        (server.classify config message (message.requested optionsLength)).state ≠ .pinging →
        (message.requested optionsLength).dhcpMsgType = dhcpDiscover ∨
          (message.requested optionsLength).dhcpMsgType = dhcpRequest →
        ∃ client, client < count ∧ (handled.server.infos client).ip = reply.message.yiaddr ∧
          (handled.server.infos client).mac = message.chaddr ∧
            (reply.messageType = dhcpOffer ∧ (handled.server.infos client).state = .offered ∨
              reply.messageType = dhcpAck ∧ (handled.server.infos client).state = .leased)

theorem PoolInv.answersHold {count : Nat} {address : Nat → InAddr} {server : Server}
    {lists : KernelList} {around : Surroundings} {config : Config}
    (inv : PoolInv count address server) : AnswersHold lists around config count server := by
  intro message optionsLength
  obtain ⟨handled, isHandled⟩ := Option.isSome_iff_exists.mp
    (inv.handleOpRequest_isSome lists around config message optionsLength)
  refine ⟨handled, isHandled, fun reply isReply notNak notPing isType => ?_⟩
  rcases (inv.handleOpRequest isHandled).answer reply isReply notNak with isPing | informs | holds
  · exact absurd isPing notPing
  · have informType := classify_type config server message
      (message.requested optionsLength)
    rw [informs.1] at informType
    rcases isType with discovers | requests
    · exact absurd (discovers.symm.trans informType) (by decide)
    · exact absurd (requests.symm.trans informType) (by decide)
  · exact holds

theorem poolInv_of_reachable {lists : KernelList} {around : Surroundings} {config : Config}
    {passes : Nat} {created server : Server}
    (init : dhcpdIpPoolInit lists around config passes = some created)
    (reachable : Reachable (next lists around config) created server) :
    PoolInv created.pool.length (fun client => (created.infos client).ip) server :=
  reachable.invariant (poolInv_init init) fun _ _ _ inv _ step => inv.step step

/-- From the creation of the pool on, every run keeps it consistent and answers hold,
exactly when the pool does not begin again from its start. -/
theorem pool_consistent_iff (lists : KernelList) (around : Surroundings) (config : Config)
    (passes : Nat) (created : Server)
    (init : dhcpdIpPoolInit lists around config passes = some created) :
    (∀ server, Reachable (next lists around config) created server →
        Consistent created.pool.length server ∧
          AnswersHold lists around config created.pool.length server) ↔
      config.NoWrap := by
  constructor
  · intro holds
    exact (distinct_init_iff init).mp (holds created .refl).1.addresses
  · intro noWrap server reachable
    have inv := poolInv_of_reachable init reachable
    refine ⟨⟨?_, inv.linked, inv.sorted, inv.macs⟩, inv.answersHold⟩
    intro first second firstInside secondInside same
    rw [inv.addresses first firstInside, inv.addresses second secondInside] at same
    exact (distinct_init_iff init).mpr noWrap first second firstInside secondInside same

/-! ## Two configurations -/

/-- An item is inserted behind those of its own value. -/
def insertStable (value : Nat → UInt32) (item : Nat) : List Nat → List Nat
  | [] => [item]
  | first :: rest =>
      if value first ≤ value item then first :: insertStable value item rest
      else item :: first :: rest

theorem insertStable_perm (value : Nat → UInt32) (item : Nat) (items : List Nat) :
    (insertStable value item items).Perm (item :: items) := by
  induction items with
  | nil => exact List.Perm.refl _
  | cons first rest ih =>
      rw [insertStable]
      by_cases before : value first ≤ value item
      · rw [if_pos before]
        exact (List.Perm.cons first ih).trans (List.Perm.swap _ _ _)
      · rw [if_neg before]

theorem insertStable_sorted (value : Nat → UInt32) (item : Nat) (items : List Nat)
    (sorted : items.Pairwise fun first second => value first ≤ value second) :
    (insertStable value item items).Pairwise fun first second => value first ≤ value second := by
  induction items with
  | nil => exact List.pairwise_singleton _ _
  | cons first rest ih =>
      obtain ⟨least, restSorted⟩ := List.pairwise_cons.mp sorted
      rw [insertStable]
      by_cases before : value first ≤ value item
      · rw [if_pos before]
        refine List.pairwise_cons.mpr ⟨fun other member => ?_, ih restSorted⟩
        rcases List.mem_cons.mp ((insertStable_perm value item rest).mem_iff.mp member) with
          rfl | inRest
        · exact before
        · exact least other inRest
      · rw [if_neg before]
        have below : value item ≤ value first := UInt32.le_of_lt (UInt32.not_le.mp before)
        refine List.pairwise_cons.mpr ⟨fun other member => ?_, sorted⟩
        rcases List.mem_cons.mp member with rfl | inRest
        · exact below
        · exact UInt32.le_trans below (least other inRest)

/-- The kernel's own way to insert. -/
def KernelList.stable : KernelList :=
  ⟨insertStable, insertStable_perm, insertStable_sorted⟩

/-- A clock that stands still and a network on which no address is in use. -/
def quiet : Surroundings :=
  ⟨fun _ => 0, fun _ _ => false, UInt32.toUInt64⟩

/-- The configuration of `dhcpd.h`. -/
def defaultConfig : Config where
  serverIp := 0x0a000001
  netmask := 0xff000000
  gateway := 0x0a000001
  dns0 := 0x0a000005
  dns1 := 0x0a000006
  ipPoolStart := 0x0a000000
  ipPoolEnd := 0x0a00000a
  leaseTime := 600
  offerExpirationTime := 10
  refreshInterval := 60
  probeNewIpAddresses := true
  unavailableIpProbeInterval := 300
  networkMtu := 1500

/-- The pool of the default configuration. -/
def defaultPool : Server :=
  (dhcpdIpPoolInit .stable quiet defaultConfig 16).get (by decide +kernel)

theorem defaultPool_consistent :
    (∀ server, Reachable (next .stable quiet defaultConfig) defaultPool server →
        Consistent defaultPool.pool.length server ∧
          AnswersHold .stable quiet defaultConfig defaultPool.pool.length server) ↔
      defaultConfig.NoWrap :=
  pool_consistent_iff .stable quiet defaultConfig 16 defaultPool (Option.some_get _).symm

/-- A pool up to the broadcast address that skips the server's own address. -/
def wrappingConfig : Config :=
  { defaultConfig with
    serverIp := 0xfffffffd
    netmask := 0xffffff00
    gateway := 0xfffffffd
    ipPoolStart := 0xfffffffc
    ipPoolEnd := 0xffffffff }

/-- Its first and its third entry have the same address. -/
theorem wrappingPool_not_consistent :
    wrappingConfig.accepted = true ∧
      ∃ created, dhcpdIpPoolInit .stable quiet wrappingConfig 8 = some created ∧
      ¬ Consistent created.pool.length created := by
  have twice : (dhcpdIpPoolInit .stable quiet wrappingConfig 8).map (fun created =>
      decide (created.pool.length = 3 ∧ (created.infos 0).ip = (created.infos 2).ip)) =
        some true := by decide +kernel
  obtain ⟨created, init, same⟩ := Option.map_eq_some_iff.mp twice
  obtain ⟨counted, same⟩ := of_decide_eq_true same
  refine ⟨by decide +kernel, created, init, fun consistent => ?_⟩
  rw [counted] at consistent
  exact absurd (consistent.addresses 0 2 (by decide) (by decide) same) (by decide)

end FwkRtos.Dhcpd

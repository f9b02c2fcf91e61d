import FwkRtos.Dhcpd.Consistency

/-!
# The content of the pool

The entries are counted before the addresses are looked for: there are as many as
the last address is behind the first one.  That is one too few where no address is
skipped, and it is the search, which ends behind the last address, that leaves the
others unused; behind the broadcast address it does not end.
-/

namespace FwkRtos.Dhcpd

variable {lists : KernelList} {around : Surroundings} {config : Config} {server : Server}

/-- There is one entry for each address that may be handed out, it is available, and
there are no others. -/
structure HasContent (config : Config) (server : Server) : Prop where
  nodup : server.pool.Nodup
  entries : ∀ client ∈ server.pool,
    (server.infos client).state = .available ∧ config.Valid (server.infos client).ip
  unique : ∀ ip, config.Valid ip → ∃! client, client ∈ server.pool ∧ (server.infos client).ip = ip

/-- Some address from the first to the last one is skipped. -/
def Config.SkipsSome (config : Config) : Prop :=
  ∃ ip, config.ipPoolStart ≤ ip ∧ ip ≤ config.ipPoolEnd ∧ config.skips ip = true

/-! ## What a search finds -/

/-- A search finds the first valid address from where it begins. -/
theorem nextValid_first {passes : Nat} {ipval pool ip next : InAddr}
    (found : config.nextValid passes ipval pool = some (ip, next)) {other : InAddr}
    (valid : config.Valid other) (ahead : ipval ≤ other) : ip ≠ inaddrAny ∧ ip ≤ other := by
  induction passes generalizing ipval with
  | zero => cases found
  | succ passes ih =>
      rw [Config.nextValid] at found
      have notPast : ¬ config.ipPoolEnd < ipval :=
        UInt32.not_lt.mpr (UInt32.le_trans ahead valid.2.1)
      rw [if_neg notPast] at found
      by_cases before : ipval < config.ipPoolStart
      · rw [if_pos before] at found
        exact ih found valid.1
      · rw [if_neg before] at found
        by_cases skips : config.skips ipval = true
        · rw [if_pos skips] at found
          have different : ipval ≠ other := by
            rintro rfl
            rw [valid.2.2] at skips
            cases skips
          refine ih found ?_
          rw [UInt32.le_iff_toNat_le] at ahead ⊢
          have less : ipval.toNat < other.toNat :=
            Nat.lt_of_le_of_ne ahead fun same => different (UInt32.toNat_inj.mp same)
          have bound := other.toNat_lt
          rw [UInt32.toNat_add, UInt32.toNat_one, Nat.mod_eq_of_lt (Nat.lt_of_le_of_lt less bound)]
          exact less
        · rw [if_neg skips] at found
          cases found
          have isValid : config.Valid ip :=
            ⟨UInt32.not_lt.mp before, UInt32.not_lt.mp notPast, Bool.eq_false_iff.mpr skips⟩
          exact ⟨isValid.ne_any, ahead⟩

/-- The address behind one that is not behind the last one. -/
theorem toNat_succ_of_notLast {ip : InAddr} (notLast : config.ipPoolEnd ≠ inaddrBroadcast)
    (notPast : ip ≤ config.ipPoolEnd) : (ip + 1).toNat = ip.toNat + 1 := by
  have within := UInt32.le_iff_toNat_le.mp notPast
  have endBound := config.ipPoolEnd.toNat_lt
  have endNotLast : config.ipPoolEnd.toNat ≠ 2 ^ 32 - 1 :=
    fun same => notLast (UInt32.toNat_inj.mp same)
  have room : ip.toNat + 1 < 2 ^ 32 := by omega
  rw [UInt32.toNat_add, UInt32.toNat_one, Nat.mod_eq_of_lt room]

/-- Before the broadcast address every search ends. -/
theorem nextValid_isSome {passes : Nat} {ipval pool : InAddr}
    (notLast : config.ipPoolEnd ≠ inaddrBroadcast)
    (enough : config.ipPoolEnd.toNat + 1 < passes + ipval.toNat) (some_ : 0 < passes) :
    (config.nextValid passes ipval pool).isSome = true := by
  induction passes generalizing ipval with
  | zero => cases some_
  | succ passes ih =>
      rw [Config.nextValid]
      by_cases past : config.ipPoolEnd < ipval
      · rw [if_pos past]
        rfl
      · rw [if_neg past]
        have within := UInt32.le_iff_toNat_le.mp (UInt32.not_lt.mp past)
        by_cases before : ipval < config.ipPoolStart
        · rw [if_pos before]
          rw [UInt32.lt_iff_toNat_lt] at before
          exact ih (by omega) (by omega)
        · rw [if_neg before]
          have behind := toNat_succ_of_notLast notLast (UInt32.not_lt.mp past)
          by_cases skips : config.skips ipval = true
          · rw [if_pos skips]
            exact ih (by rw [behind]; omega) (by omega)
          · rw [if_neg skips]
            rfl

/-! ## What the creation makes -/

/-- The entries cover the valid addresses before the given one. -/
def Covers (config : Config) (index : Nat) (pool : Nat) (server : Server) : Prop :=
  ∀ ip, config.Valid ip → ip.toNat < pool →
    ∃ client, client < index ∧ (server.infos client).ip = ip

theorem Covers.link {index passes : Nat} {pool ip next : InAddr}
    (covers : Covers config index pool.toNat server)
    (found : config.nextValid passes pool pool = some (ip, next)) (valid : config.Valid ip) :
    Covers config (index + 1) (ip + 1).toNat (server.link lists around index ip) := by
  intro other otherValid below
  rw [valid.toNat_succ] at below
  by_cases old : other.toNat < pool.toNat
  · rcases covers other otherValid old with ⟨client, inside, isOther⟩
    refine ⟨client, Nat.lt_succ_of_lt inside, ?_⟩
    rw [link_ip.2 client (Nat.ne_of_lt inside), isOther]
  · have ahead : pool ≤ other := UInt32.le_iff_toNat_le.mpr (Nat.le_of_not_lt old)
    have first := UInt32.le_iff_toNat_le.mp (nextValid_first found otherValid ahead).2
    have same : ip = other := UInt32.toNat_inj.mp (Nat.le_antisymm first (Nat.le_of_lt_succ below))
    exact ⟨index, Nat.lt_succ_self index, link_ip.1.trans same⟩

/-- The creation uses all its entries, or there is one for every valid address. -/
theorem linkAll_covers {passes left index : Nat} {pool : InAddr} {after : Server}
    (created : Created config index server) (covers : Covers config index pool.toNat server)
    (linked : server.linkAll lists around config passes left index pool = some after) :
    after.pool.length = index + left ∨ Covers config after.pool.length (2 ^ 32) after := by
  induction left generalizing index pool server with
  | zero =>
      cases linked
      exact .inl (created.linked.length_eq.trans List.length_range)
  | succ left ih =>
      rw [Server.linkAll] at linked
      cases found : config.nextValid passes pool pool with
      | none =>
          rw [found] at linked
          cases linked
      | some result =>
          rcases result with ⟨ip, next⟩
          simp only [found] at linked
          by_cases none_ : ip = inaddrAny
          · rw [if_pos none_] at linked
            cases linked
            refine .inr fun other valid _ => ?_
            rw [created.linked.length_eq, List.length_range]
            refine covers other valid (Nat.lt_of_not_le fun ahead => ?_)
            exact (nextValid_first found valid (UInt32.le_iff_toNat_le.mpr ahead)).1 none_
          · rw [if_neg none_] at linked
            rcases (nextValid_valid found).resolve_left fun isNone => none_ isNone.1 with
              ⟨valid, rfl⟩
            rcases ih (created.link valid) (covers.link found valid) linked with full | covered
            · exact .inl (by omega)
            · exact .inr covered

/-- Every entry is available. -/
theorem linkAll_available {passes left index : Nat} {pool : InAddr} {after : Server}
    (available : ∀ client, (server.infos client).state = .available)
    (linked : server.linkAll lists around config passes left index pool = some after)
    (client : Nat) : (after.infos client).state = .available := by
  induction left generalizing index pool server with
  | zero =>
      cases linked
      exact available client
  | succ left ih =>
      rw [Server.linkAll] at linked
      cases found : config.nextValid passes pool pool with
      | none =>
          rw [found] at linked
          cases linked
      | some result =>
          rcases result with ⟨ip, next⟩
          simp only [found] at linked
          by_cases none_ : ip = inaddrAny
          · rw [if_pos none_] at linked
            cases linked
            exact available client
          · rw [if_neg none_] at linked
            refine ih (fun other => ?_) linked
            by_cases same : other = index
            · rw [same]
              simp [Server.link, Server.modify]
            · rw [link_ip.2 other same]
              exact available other

/-- As many different entries as there can be valid addresses cover them. -/
theorem covers_of_full {count : Nat} (created : Created config count server)
    (distinct : DistinctAddresses count server)
    (full : count = config.ipPoolEnd.toNat - config.ipPoolStart.toNat)
    (skipsSome : config.SkipsSome) : Covers config count (2 ^ 32) server := by
  rcases skipsSome with ⟨skipped, notBefore, notPast, skips⟩
  let targets :=
    (Finset.Icc config.ipPoolStart.toNat config.ipPoolEnd.toNat).erase skipped.toNat
  have isTarget : ∀ ip, config.Valid ip → ip.toNat ∈ targets := by
    intro ip valid
    refine Finset.mem_erase.mpr ⟨fun same => ?_, Finset.mem_Icc.mpr
      ⟨UInt32.le_iff_toNat_le.mp valid.1, UInt32.le_iff_toNat_le.mp valid.2.1⟩⟩
    rw [← UInt32.toNat_inj.mp same, valid.2.2] at skips
    cases skips
  have few : targets.card ≤ (Finset.range count).card := by
    rw [Finset.card_erase_of_mem (Finset.mem_Icc.mpr ⟨UInt32.le_iff_toNat_le.mp notBefore,
      UInt32.le_iff_toNat_le.mp notPast⟩), Nat.card_Icc, Finset.card_range, full]
    omega
  intro ip valid _
  have inside : ∀ client ∈ Finset.range count, (server.infos client).ip.toNat ∈ targets :=
    fun client member => isTarget _ (created.valid client (Finset.mem_range.mp member))
  have injective : ∀ first ∈ Finset.range count, ∀ second ∈ Finset.range count,
      (server.infos first).ip.toNat = (server.infos second).ip.toNat → first = second :=
    fun first firstIn second secondIn same => distinct first second (Finset.mem_range.mp firstIn)
      (Finset.mem_range.mp secondIn) (UInt32.toNat_inj.mp same)
  rcases Finset.surj_on_of_inj_on_of_card_le (fun client _ => (server.infos client).ip.toNat)
    (fun client member => inside client member) (fun first second firstIn secondIn same =>
      injective first firstIn second secondIn same) few ip.toNat (isTarget ip valid) with
    ⟨client, member, isIp⟩
  exact ⟨client, Finset.mem_range.mp member, (UInt32.toNat_inj.mp isIp).symm⟩

/-- Where the pool does not begin again, its creation ends. -/
theorem linkAll_isSome {passes left index : Nat} {pool : InAddr} (noWrap : config.NoWrap)
    (enough : 2 ^ 32 < passes)
    (fits : config.ipPoolEnd = inaddrBroadcast →
      config.ipPoolStart ≤ pool ∧ pool.toNat + left ≤ config.ipPoolEnd.toNat) :
    (server.linkAll lists around config passes left index pool).isSome = true := by
  induction left generalizing index pool server with
  | zero => rfl
  | succ left ih =>
      have inside : config.ipPoolEnd = inaddrBroadcast →
          config.ipPoolStart ≤ pool ∧ pool < config.ipPoolEnd := by
        intro isLast
        rcases fits isLast with ⟨notBefore, room⟩
        exact ⟨notBefore, UInt32.lt_iff_toNat_lt.mpr (by omega)⟩
      have ends : (config.nextValid passes pool pool).isSome = true := by
        by_cases isLast : config.ipPoolEnd = inaddrBroadcast
        · rcases inside isLast with ⟨notBefore, within⟩
          rcases Nat.exists_eq_add_one.mpr (Nat.zero_lt_of_lt enough) with ⟨passes, rfl⟩
          rw [Config.nextValid, if_neg (UInt32.lt_asymm within),
            if_neg (UInt32.not_lt.mpr notBefore), noWrap isLast pool notBefore within]
          rfl
        · have endBound := config.ipPoolEnd.toNat_lt
          exact nextValid_isSome isLast (by omega) (by omega)
      rcases Option.isSome_iff_exists.mp ends with ⟨⟨ip, next⟩, found⟩
      rw [Server.linkAll, found]
      by_cases none_ : ip = inaddrAny
      · simp only [none_, if_true, Option.isSome_some]
      · simp only [none_, if_false]
        rcases (nextValid_valid found).resolve_left fun isNone => none_ isNone.1 with
          ⟨valid, rfl⟩
        rcases (nextValid_rises noWrap inside found).resolve_left none_ with ⟨_, isPool⟩
        refine ih fun isLast => ?_
        rcases fits isLast with ⟨notBefore, room⟩
        rw [isPool isLast] at valid ⊢
        rw [UInt32.le_iff_toNat_le, valid.toNat_succ]
        rw [UInt32.le_iff_toNat_le] at notBefore
        exact ⟨Nat.le_succ_of_le notBefore, by omega⟩

/-- With no address skipped there are more valid addresses than entries. -/
theorem skipsSome_of_covers {passes : Nat} {created : Server}
    (accepted : config.ipPoolStart ≤ config.ipPoolEnd)
    (init : dhcpdIpPoolInit lists around config passes = some created)
    (covers : Covers config created.pool.length (2 ^ 32) created) : config.SkipsSome := by
  by_contra skipsNone
  rcases linkAll_created (created_empty config) init with ⟨count, bound, linked, _⟩
  have counted : created.pool.length = count := linked.linked.length_eq.trans List.length_range
  rw [counted] at covers
  have all : Finset.Icc config.ipPoolStart.toNat config.ipPoolEnd.toNat ⊆
      (Finset.range count).image fun client => (created.infos client).ip.toNat := by
    intro value member
    rcases Finset.mem_Icc.mp member with ⟨notBefore, notPast⟩
    have endBound := config.ipPoolEnd.toNat_lt
    have isValue : (UInt32.ofNat value).toNat = value :=
      UInt32.toNat_ofNat_of_lt' (Nat.lt_of_le_of_lt notPast endBound)
    have valid : config.Valid (UInt32.ofNat value) := by
      have lower : config.ipPoolStart ≤ UInt32.ofNat value := by
        rw [UInt32.le_iff_toNat_le, isValue]
        exact notBefore
      have upper : UInt32.ofNat value ≤ config.ipPoolEnd := by
        rw [UInt32.le_iff_toNat_le, isValue]
        exact notPast
      exact ⟨lower, upper, Bool.eq_false_iff.mpr fun skips => skipsNone ⟨_, lower, upper, skips⟩⟩
    rcases covers _ valid (UInt32.toNat_lt _) with ⟨client, inside, isIp⟩
    exact Finset.mem_image.mpr ⟨client, Finset.mem_range.mpr inside, by rw [isIp, isValue]⟩
  have few := (Finset.card_le_card all).trans Finset.card_image_le
  rw [Nat.card_Icc, Finset.card_range] at few
  rw [Nat.zero_add, UInt32.toNat_sub_of_le _ _ accepted] at bound
  rw [UInt32.le_iff_toNat_le] at accepted
  omega

/-- The right content covers the valid addresses. -/
theorem HasContent.covers {passes : Nat} {created : Server} (content : HasContent config created)
    (init : dhcpdIpPoolInit lists around config passes = some created) :
    Covers config created.pool.length (2 ^ 32) created := by
  intro ip valid _
  rcases (content.unique ip valid).exists with ⟨client, inPool, isIp⟩
  rw [(created_init init).linked.mem_iff, List.mem_range] at inPool
  exact ⟨client, inPool, isIp⟩

/-- The creation ends with the right content exactly when an address of the pool is
skipped and the search does not begin again behind the broadcast address. -/
theorem pool_content_iff (lists : KernelList) (around : Surroundings) (config : Config)
    (accepted : config.ipPoolStart ≤ config.ipPoolEnd) :
    (∃ passes created, dhcpdIpPoolInit lists around config passes = some created ∧
        HasContent config created) ↔
      config.SkipsSome ∧ config.NoWrap := by
  constructor
  · rintro ⟨passes, created, init, content⟩
    have linked := created_init init
    have member : ∀ client, client ∈ created.pool ↔ client < created.pool.length :=
      fun client => by rw [linked.linked.mem_iff, List.mem_range]
    have distinct : DistinctAddresses created.pool.length created := by
      intro first second firstInside secondInside same
      exact (content.unique _ (linked.valid second secondInside)).unique
        ⟨(member first).mpr firstInside, same⟩ ⟨(member second).mpr secondInside, rfl⟩
    exact ⟨skipsSome_of_covers accepted init (content.covers init),
      (distinct_init_iff init).mp distinct⟩
  · rintro ⟨skipsSome, noWrap⟩
    have order := UInt32.le_iff_toNat_le.mp accepted
    have size := UInt32.toNat_sub_of_le _ _ accepted
    have ends : (dhcpdIpPoolInit lists around config (2 ^ 32 + 1)).isSome = true := by
      refine linkAll_isSome noWrap (Nat.lt_succ_self _) fun _ => ⟨UInt32.le_refl _, ?_⟩
      rw [size]
      omega
    rcases Option.isSome_iff_exists.mp ends with ⟨created, init⟩
    have linked := created_init init
    have distinct := (distinct_init_iff init).mpr noWrap
    have covers : Covers config created.pool.length (2 ^ 32) created := by
      rcases linkAll_covers (created_empty config)
        (fun ip valid below => absurd below (Nat.not_lt.mpr (UInt32.le_iff_toNat_le.mp valid.1)))
        init with full | covers
      · rw [size, Nat.zero_add] at full
        exact covers_of_full linked distinct full skipsSome
      · exact covers
    refine ⟨_, created, init, ?_, ?_, ?_⟩
    · exact linked.linked.nodup_iff.mpr List.nodup_range
    · intro client inPool
      rw [linked.linked.mem_iff, List.mem_range] at inPool
      exact ⟨linkAll_available (fun _ => rfl) init client, linked.valid client inPool⟩
    · intro ip valid
      rcases covers ip valid (UInt32.toNat_lt ip) with ⟨client, inside, isIp⟩
      refine ⟨client, ⟨linked.linked.mem_iff.mpr (List.mem_range.mpr inside), isIp⟩, ?_⟩
      rintro other ⟨inPool, otherIp⟩
      rw [linked.linked.mem_iff, List.mem_range] at inPool
      exact distinct other client inPool inside (otherIp.trans isIp.symm)

/-! ## A pool that skips an address, and one that does not -/

theorem defaultPool_content :
    (∃ passes created, dhcpdIpPoolInit .stable quiet defaultConfig passes = some created ∧
        HasContent defaultConfig created) ↔
      defaultConfig.SkipsSome ∧ defaultConfig.NoWrap :=
  pool_content_iff .stable quiet defaultConfig (by decide)

/-- The addresses 10.0.0.2 to 10.0.0.4, none of which is skipped. -/
def plainConfig : Config :=
  { defaultConfig with
    ipPoolStart := 0x0a000002
    ipPoolEnd := 0x0a000004 }

/-- There is no entry for the last one. -/
theorem plainPool_not_content :
    plainConfig.accepted = true ∧
      ¬ ∃ passes created, dhcpdIpPoolInit .stable quiet plainConfig passes = some created ∧
        HasContent plainConfig created := by
  refine ⟨by decide +kernel, ?_⟩
  rintro ⟨passes, created, init, content⟩
  rcases skipsSome_of_covers (by decide) init (content.covers init) with
    ⟨ip, notBefore, notPast, skips⟩
  have lower : 0x0a000002 ≤ ip.toNat := UInt32.le_iff_toNat_le.mp notBefore
  have upper : ip.toNat ≤ 0x0a000004 := UInt32.le_iff_toNat_le.mp notPast
  have cases_ : ip = 0x0a000002 ∨ ip = 0x0a000003 ∨ ip = 0x0a000004 := by
    simp only [← UInt32.toNat_inj]
    change ip.toNat = 0x0a000002 ∨ ip.toNat = 0x0a000003 ∨ ip.toNat = 0x0a000004
    omega
  rcases cases_ with rfl | rfl | rfl
  all_goals exact absurd skips (by decide)

end FwkRtos.Dhcpd

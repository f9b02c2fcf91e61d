import FwkRtos.WifiManager.Manager

/-!
# The pointer to the connected entry

The manager keeps a pointer into the cache over scans and reloads.  It stays
valid exactly while no scan gives its entry up and no profiles are loaded: the
entry of a connection can expire when the connection is poor, and loading the
profiles clears the whole cache.
-/

namespace FwkRtos.WifiManager

open FwkRtos.Transition

namespace ScanList

variable {scanList target : ScanList}

/-! ## What a scan makes of an entry in use -/

/-- The look-up reads the ages and the addresses of the counted entries. -/
theorem findApInCache_congr (count : target.apCacheCount = scanList.apCacheCount)
    (entries : ∀ i, i < scanList.apCacheCount →
      (target.sorted i).bssid = (scanList.sorted i).bssid ∧
        (0 < (target.sorted i).age ↔ 0 < (scanList.sorted i).age)) (bssid : Bssid) :
    target.findApInCache bssid = scanList.findApInCache bssid := by
  unfold findApInCache
  rw [count, ← List.head?_filter, ← List.head?_filter]
  refine congrArg List.head? (List.filter_congr fun i inside => ?_)
  obtain ⟨same, used⟩ := entries i (List.mem_range.mp inside)
  rw [same, decide_eq_decide, used]

/-- Some result of the list is entered at the pointer `i`. -/
def EntersAt (scanList : ScanList) (results : List WifiScanResult) (i : Nat) : Prop :=
  ∃ result ∈ results, scanList.findApInCache result.bssid = some i

/-- Entering a result keeps the network of a counted entry, and makes the age of the
entry that it is found at 1. -/
theorem Entering.enter_counted {n i : Nat} (entering : Entering n scanList)
    (result : WifiScanResult) (counted : i < scanList.apCacheCount) :
    ((scanList.enter result).sorted i).bssid = (scanList.sorted i).bssid ∧
      ((scanList.enter result).sorted i).associatedProfile =
        (scanList.sorted i).associatedProfile ∧
      ((scanList.enter result).sorted i).age =
        if scanList.findApInCache result.bssid = some i then 1 else (scanList.sorted i).age := by
  have iInside := counted.trans_le (entering.counted.trans entering.filled.within)
  unfold ScanList.enter
  cases found : scanList.findApInCache result.bssid with
  | none =>
      rw [if_neg (by simp)]
      unfold ScanList.addApToCache
      rw [entering.filled.find_free]
      by_cases room : n < cachedApCount
      · rw [if_pos room]
        have different : i ≠ n := Nat.ne_of_lt (counted.trans_le entering.counted)
        rw [entering.permuted.modify_sorted_other _ room iInside different]
        exact ⟨rfl, rfl, rfl⟩
      · rw [if_neg room]
        exact ⟨rfl, rfl, rfl⟩
  | some j =>
      have jInside := (findApInCache_eq_some found).1.trans_le
        (entering.counted.trans entering.filled.within)
      by_cases same : j = i
      · subst same
        rw [if_pos rfl]
        simp only [ScanList.updateApInCache, modify_sorted_self]
        exact ⟨rfl, rfl, rfl⟩
      · rw [if_neg (by simpa using same)]
        unfold ScanList.updateApInCache
        rw [entering.permuted.modify_sorted_other _ jInside iInside (Ne.symm same)]
        exact ⟨rfl, rfl, rfl⟩

/-- Entering all results keeps the networks of the counted entries, and makes the ages
of those that are found 1. -/
theorem Entering.foldl_counted {n i : Nat} (entering : Entering n scanList)
    (results : List WifiScanResult) (counted : i < scanList.apCacheCount) :
    ((results.foldl ScanList.enter scanList).sorted i).bssid = (scanList.sorted i).bssid ∧
      ((results.foldl ScanList.enter scanList).sorted i).associatedProfile =
        (scanList.sorted i).associatedProfile ∧
      (scanList.EntersAt results i →
        ((results.foldl ScanList.enter scanList).sorted i).age = 1) ∧
      (¬ scanList.EntersAt results i →
        ((results.foldl ScanList.enter scanList).sorted i).age = (scanList.sorted i).age) := by
  induction results generalizing n scanList with
  | nil =>
      refine ⟨rfl, rfl, ?_, fun _ => rfl⟩
      rintro ⟨result, isResult, _⟩
      cases isResult
  | cons result results ih =>
      obtain ⟨more, _, entered, same⟩ := entering.enter result
      have lookUp : ∀ bssid, (scanList.enter result).findApInCache bssid =
          scanList.findApInCache bssid := by
        refine findApInCache_congr same.apCacheCount fun j jCounted => ?_
        obtain ⟨bssid, _, _⟩ := entering.enter_counted result jCounted
        have before := entering.filled.used j (jCounted.trans_le entering.counted)
        have after := entered.filled.used j
          ((same.apCacheCount ▸ jCounted : _ < _).trans_le entered.counted)
        exact ⟨bssid, iff_of_true after before⟩
      have rest : ∀ i, (scanList.enter result).EntersAt results i ↔
          scanList.EntersAt results i := by
        intro i
        simp only [EntersAt, lookUp]
      have splits : scanList.EntersAt (result :: results) i ↔
          scanList.findApInCache result.bssid = some i ∨ scanList.EntersAt results i := by
        simp [EntersAt]
      obtain ⟨bssid, profile, age⟩ := entering.enter_counted result counted
      obtain ⟨bssids, profiles, found, notFound⟩ := ih entered (same.apCacheCount ▸ counted)
      rw [rest] at found notFound
      refine ⟨bssids.trans bssid, profiles.trans profile, ?_, ?_⟩
      · intro enters
        by_cases later : scanList.EntersAt results i
        · exact found later
        · have here := (splits.mp enters).resolve_right later
          rw [List.foldl_cons, notFound later, age, if_pos here]
      · intro notEnters
        rw [splits, not_or] at notEnters
        rw [List.foldl_cons, notFound notEnters.2, age, if_neg notEnters.1]

/-- The entry at the pointer `i` outlasts the scan: the scan fails, the entry is young
enough, or it is found. -/
def Outlasts (scanList : ScanList) (i : Nat) : Option ScanResults → Prop
  | none => True
  | some results =>
      (scanList.sorted i).age < apCacheEntryMaxAge ∨ scanList.EntersAt results.reported i

/-- A scan keeps the network of a counted entry.  The entry stays in use when it
outlasts the scan, and otherwise it is given up. -/
theorem CacheInv.scanNetworks_counted {scanned : Option ScanResults} {ret : Int} {i : Nat}
    (inv : CacheInv scanList) (canAge : scanList.CanAge) (counted : i < scanList.apCacheCount)
    (scan : scanList.scanNetworks scanned = some (ret, target)) :
    (target.cachedAps (scanList.sortedAps i)).bssid = (scanList.sorted i).bssid ∧
      (target.cachedAps (scanList.sortedAps i)).associatedProfile =
        (scanList.sorted i).associatedProfile ∧
      (scanList.Outlasts i scanned → 0 < (target.cachedAps (scanList.sortedAps i)).age) ∧
      (¬ scanList.Outlasts i scanned →
        (target.cachedAps (scanList.sortedAps i)).age = 0) := by
  have inside := counted.trans_le inv.filled.within
  have inUse := inv.filled.used i counted
  obtain ⟨aged, folded, same, entries⟩ := inv.ageAll
  have agedInv := inv.aged canAge same entries
  have entry : aged.sorted i = (scanList.sorted i).ageOnce := by
    rw [entries i inside, if_pos counted]
  have age := ApInfo.ageOnce_age inUse (canAge i counted)
  rw [ScanList.scanNetworks, folded, Option.map_some, Option.some.injEq] at scan
  cases scanned with
  | none =>
      obtain ⟨_, rfl⟩ := Prod.mk.injEq .. ▸ scan
      have address : aged.cachedAps (scanList.sortedAps i) = aged.sorted i := by
        rw [ScanList.sorted, same.sortedAps]
      rw [address, entry]
      refine ⟨rfl, rfl, fun _ => ?_, fun lost => absurd trivial lost⟩
      rw [age]
      omega
  | some results =>
      obtain ⟨_, rfl⟩ := Prod.mk.injEq .. ▸ scan
      have start : Entering aged.apCacheCount aged :=
        ⟨agedInv.permuted, agedInv.filled, Nat.le_refl _⟩
      obtain ⟨n, entering, sameEntered⟩ := start.foldl results.reported
      obtain ⟨bssid, profile, found, notFound⟩ :=
        start.foldl_counted results.reported (same.apCacheCount ▸ counted)
      have enters : aged.EntersAt results.reported i ↔
          scanList.EntersAt results.reported i := by
        have lookUp := findApInCache_congr same.apCacheCount fun j jCounted => by
          have jUsed := agedInv.filled.used j (same.apCacheCount ▸ jCounted)
          refine ⟨?_, iff_of_true jUsed (inv.filled.used j jCounted)⟩
          rw [entries j (jCounted.trans_le inv.filled.within), if_pos jCounted]
          rfl
        simp only [EntersAt, lookUp]
      rw [enters] at found notFound
      obtain ⟨ends, sameExpired, expired⟩ := entering.permuted.expireFrom (Nat.zero_le n)
        (Nat.zero_add cachedApCount) entering.filled.within
        (fun j _ => entering.filled.used j) entering.filled.free
      have before : i < n := by
        have := entering.counted
        rw [sameEntered.apCacheCount, same.apCacheCount] at this
        exact counted.trans_le this
      have outcome := expired i inside
      rw [if_pos ⟨Nat.zero_le i, before⟩] at outcome
      -- Sorting moves the pointers and leaves the entries where they are.
      have address : (aged.enterResults results).cachedAps (scanList.sortedAps i) =
          expire ((results.reported.foldl ScanList.enter aged).sorted i) := by
        rw [← outcome, ScanList.sorted, sameExpired.sortedAps, sameEntered.sortedAps,
          same.sortedAps]
        rfl
      have agedBssid : (aged.sorted i).bssid = (scanList.sorted i).bssid := by
        rw [entry]
        rfl
      have agedProfile : (aged.sorted i).associatedProfile =
          (scanList.sorted i).associatedProfile := by
        rw [entry]
        rfl
      rw [address]
      generalize (results.reported.foldl ScanList.enter aged).sorted i = info at *
      rw [entry, age] at notFound
      have unchanged : (expire info).bssid = info.bssid ∧
          (expire info).associatedProfile = info.associatedProfile := by
        unfold expire
        split_ifs
        · exact ⟨rfl, rfl⟩
        · exact ⟨rfl, rfl⟩
      refine ⟨unchanged.1.trans (bssid.trans agedBssid),
        unchanged.2.trans (profile.trans agedProfile), ?_, ?_⟩
      · intro outlasts
        have young : ¬ apCacheEntryMaxAge < info.age := by
          by_cases isFound : scanList.EntersAt results.reported i
          · rw [found isFound]
            decide
          · rw [notFound isFound]
            have := outlasts.resolve_right isFound
            omega
        rw [expire, if_neg young]
        by_cases isFound : scanList.EntersAt results.reported i
        · rw [found isFound]
          decide
        · rw [notFound isFound]
          omega
      · intro lost
        simp only [Outlasts, not_or, Int.not_lt] at lost
        have old : apCacheEntryMaxAge < info.age := by
          rw [notFound lost.2]
          omega
        rw [expire, if_pos old]

/-! ## A valid pointer -/

/-- The entry at `ap` is in use, has a profile and carries the BSSID. -/
structure Carries (scanList : ScanList) (ap : Nat) (bssid : Option Bssid) : Prop where
  inside : ap < cachedApCount
  inUse : 0 < (scanList.cachedAps ap).age
  hasProfile : (scanList.cachedAps ap).associatedProfile.isSome = true
  carries : bssid = some (scanList.cachedAps ap).bssid

/-- A change of an entry that keeps its network keeps every pointer valid. -/
theorem Carries.modify {ap : Nat} {bssid : Option Bssid} (valid : Carries scanList ap bssid)
    (changed : Nat) (change : ApInfo → ApInfo)
    (inUse : 0 < (scanList.cachedAps changed).age →
      0 < (change (scanList.cachedAps changed)).age)
    (profile : (change (scanList.cachedAps changed)).associatedProfile =
      (scanList.cachedAps changed).associatedProfile)
    (same : (change (scanList.cachedAps changed)).bssid = (scanList.cachedAps changed).bssid) :
    Carries (scanList.modify changed change) ap bssid := by
  by_cases isChanged : ap = changed
  · subst isChanged
    have entry : (scanList.modify ap change).cachedAps ap = change (scanList.cachedAps ap) :=
      Function.update_self _ _ _
    refine ⟨valid.inside, ?_, ?_, ?_⟩
    · rw [entry]
      exact inUse valid.inUse
    · rw [entry, profile]
      exact valid.hasProfile
    · rw [entry, same]
      exact valid.carries
  · have entry : (scanList.modify changed change).cachedAps ap = scanList.cachedAps ap :=
      Function.update_of_ne isChanged _ _
    exact ⟨valid.inside, by rw [entry]; exact valid.inUse, by rw [entry]; exact valid.hasProfile,
      by rw [entry]; exact valid.carries⟩

end ScanList

/-! ## The manager -/

namespace Manager

variable {manager target : Manager}

/-- The BSSID that was passed to the last `WIFI_ConnectAP` that succeeded. -/
def joinedBssid (manager : Manager) : Option Bssid :=
  manager.joined.map Prod.fst

/-- The connected entry is valid, and no profile that is NULL was used. -/
structure Connected (manager : Manager) : Prop where
  valid : ∀ ap, manager.connectedAp = some ap →
    manager.scanList.Carries ap manager.joinedBssid
  noNull : manager.nullProfileUsed = false

/-- The manager between two steps. -/
structure ManagerInv (manager : Manager) : Prop where
  cache : manager.scanList.CacheInv
  connected : Connected manager

/-- No scan is made while the age of an entry in use is the largest `int`. -/
def CanAgeBefore (manager : Manager) : Event → Prop
  | .scan _ => manager.scanList.CanAge
  | _ => True

instance (manager : Manager) (event : Event) : Decidable (CanAgeBefore manager event) :=
  match event with
  | .scan _ => inferInstanceAs (Decidable (∀ i, i < manager.scanList.apCacheCount → _))
  | .begin | .choose | .connect _ | .report _ | .signalStrength _ | .startSoftAp
  | .notified _ | .load _ | .networkDown _ _ => .isTrue trivial

/-- The connected entry outlasts the scan, and the profiles are loaded only when there is
none. -/
def KeepsConnected (manager : Manager) : Event → Prop
  | .scan scanned => ∀ i, i < manager.scanList.apCacheCount →
      manager.connectedAp = some (manager.scanList.sortedAps i) →
      manager.scanList.Outlasts i scanned
  | .load _ => manager.connectedAp = none
  | _ => True

theorem managerInv_start (networkGet : Nat → Option WifiNetworkProfile) (mode : Mode) :
    ManagerInv (start networkGet mode) := by
  refine ⟨ScanList.cacheInv_reset networkGet, ⟨?_, rfl⟩⟩
  intro ap isConnected
  cases isConnected

/-- The cache and the pointer stay as they are, or the pointer becomes NULL. -/
theorem ManagerInv.of_same (inv : ManagerInv manager)
    (scanList : target.scanList = manager.scanList)
    (connectedAp : target.connectedAp = manager.connectedAp ∨ target.connectedAp = none)
    (joined : target.joined = manager.joined)
    (noNull : target.nullProfileUsed = manager.nullProfileUsed) : ManagerInv target := by
  refine ⟨scanList ▸ inv.cache, ⟨?_, noNull.trans inv.connected.noNull⟩⟩
  intro ap isConnected
  rcases connectedAp with same | none
  · rw [scanList, joinedBssid, joined]
    exact inv.connected.valid ap (same.symm.trans isConnected)
  · rw [none] at isConnected
    cases isConnected

/-- Using the profile of the connected entry finds one. -/
theorem ManagerInv.useProfile (inv : ManagerInv manager) : manager.useProfile = manager := by
  unfold Manager.useProfile
  split
  · rfl
  · rename_i ap isConnected
    have hasProfile := (inv.connected.valid ap isConnected).hasProfile
    have noNull : (manager.nullProfileUsed ||
        (manager.scanList.cachedAps ap).associatedProfile.isNone) = manager.nullProfileUsed := by
      rw [← Option.not_isSome, hasProfile]
      exact Bool.or_false _
    rw [noNull]

end Manager

/-- An attempt to connect keeps the network of the entry. -/
theorem connectToNetwork_network (ap : ApInfo) (connected : Nat → Bool) :
    (connectToNetwork ap connected).ap.associatedProfile = ap.associatedProfile ∧
      (connectToNetwork ap connected).ap.bssid = ap.bssid := by
  unfold connectToNetwork
  split
  · exact ⟨rfl, rfl⟩
  · split_ifs
    · exact ⟨rfl, rfl⟩
    · exact ⟨rfl, rfl⟩
    · exact ⟨rfl, rfl⟩
    · exact ⟨rfl, rfl⟩

/-- A connection that is made has passed the BSSID of an entry with a profile. -/
theorem connectToNetwork_joined {ap : ApInfo} {connected : Nat → Bool}
    (made : (connectToNetwork ap connected).ret ≠ -1) :
    ap.associatedProfile.isSome = true ∧
      (connectToNetwork ap connected).joined.map Prod.fst = some ap.bssid := by
  unfold connectToNetwork at made ⊢
  split at made
  · exact absurd rfl made
  · rename_i profile hasProfile
    rw [hasProfile]
    split_ifs at made with fewFailed anyConnected
    · simp only [if_pos fewFailed, if_pos anyConnected]
      exact ⟨rfl, rfl⟩
    · exact absurd rfl made
    · exact absurd rfl made
    · exact absurd rfl made

namespace Manager

variable {manager target : Manager}

theorem ManagerInv.connect (inv : ManagerInv manager) (i : Nat) (connected : Nat → Bool) :
    ManagerInv (manager.connect i connected) := by
  by_cases counted : i < manager.scanList.apCacheCount
  · have cache := inv.cache.connectToNetwork connected counted
    have inside := inv.cache.permuted.mapsTo (counted.trans_le inv.cache.filled.within)
    have used : 0 < (manager.scanList.cachedAps (manager.scanList.sortedAps i)).age :=
      inv.cache.filled.used i counted
    have network := connectToNetwork_network
      (manager.scanList.cachedAps (manager.scanList.sortedAps i)) connected
    simp only [Manager.connect, if_pos counted]
    by_cases made : (connectToNetwork
        (manager.scanList.cachedAps (manager.scanList.sortedAps i)) connected).ret ≠ -1
    · obtain ⟨hasProfile, passed⟩ := connectToNetwork_joined made
      rw [if_pos made]
      refine ⟨cache, ⟨?_, inv.connected.noNull⟩⟩
      rintro ap isConnected
      cases isConnected
      have entry : manager.scanList.Carries (manager.scanList.sortedAps i)
          (some (manager.scanList.cachedAps (manager.scanList.sortedAps i)).bssid) :=
        ⟨inside, used, hasProfile, rfl⟩
      rw [joinedBssid, passed]
      exact entry.modify _ (fun ap => (connectToNetwork ap connected).ap)
        (connectToNetwork_inUse connected) network.1 network.2
    · rw [if_neg made]
      refine ⟨cache, ⟨?_, inv.connected.noNull⟩⟩
      intro ap isConnected
      have valid := inv.connected.valid ap isConnected
      exact valid.modify _ (fun ap => (connectToNetwork ap connected).ap)
        (connectToNetwork_inUse connected) network.1 network.2
  · rw [Manager.connect, if_neg counted]
    exact inv.of_same rfl (.inl rfl) rfl rfl

theorem ManagerInv.measure (inv : ManagerInv manager) (rcpi : Option UInt32) :
    ManagerInv (manager.measure rcpi) := by
  unfold Manager.measure
  split
  · rename_i ap _ isConnected
    have valid := inv.connected.valid ap isConnected
    refine ⟨inv.cache.modify_of_age valid.inside fun info => info.updateApRssi_age _,
      ⟨?_, inv.connected.noNull⟩⟩
    intro other isOther
    have otherValid := inv.connected.valid other isOther
    exact otherValid.modify ap (fun info => info.updateApRssi _) id rfl rfl
  · exact inv.of_same rfl (.inl rfl) rfl rfl

theorem ManagerInv.report (inv : ManagerInv manager) (mode : Mode) :
    ManagerInv (manager.report mode) := by
  unfold Manager.report
  split
  · dsimp only
    split_ifs
    · exact inv.of_same rfl (.inl rfl) rfl rfl
    · exact inv.of_same rfl (.inl rfl) rfl rfl
  · rw [inv.useProfile]
    exact inv.of_same rfl (.inl rfl) rfl rfl

theorem ManagerInv.choose (inv : ManagerInv manager) (poorSignal : Bool) :
    ManagerInv (manager.choose poorSignal) := by
  unfold Manager.choose
  split
  · split_ifs
    · exact inv.of_same rfl (.inr rfl) rfl rfl
    · exact inv.of_same rfl (.inl rfl) rfl rfl
  · exact inv.of_same rfl (.inl rfl) rfl rfl

theorem ManagerInv.notified (inv : ManagerInv manager) (bits : Option Notification) :
    ManagerInv (manager.notified bits) := by
  unfold Manager.notified
  split
  · exact inv.of_same rfl (.inl rfl) rfl rfl
  · split_ifs
    · exact inv.of_same rfl (.inr rfl) rfl rfl
    · exact inv.of_same rfl (.inl rfl) rfl rfl
    · exact inv.of_same rfl (.inl rfl) rfl rfl
    · exact inv.of_same rfl (.inl rfl) rfl rfl

theorem ManagerInv.networkDown (inv : ManagerInv manager) (isConnected : Bool) (mode : Mode) :
    ManagerInv (manager.networkDown isConnected mode) := by
  unfold Manager.networkDown
  cases manager.mode with
  | station =>
      dsimp only
      rw [inv.useProfile]
      split_ifs
      · exact inv.of_same rfl (.inl rfl) rfl rfl
      · exact inv.of_same rfl (.inr rfl) rfl rfl
      · exact inv.of_same rfl (.inr rfl) rfl rfl
  | softAp =>
      dsimp only
      split_ifs
      · exact inv.of_same rfl (.inl rfl) rfl rfl
      · exact inv.of_same rfl (.inl rfl) rfl rfl
      · exact inv.of_same rfl (.inr rfl) rfl rfl

/-- What a step does, by the point at which it is taken. -/
inductive Steps (manager : Manager) : Event → Manager → Prop
  | begin : Steps manager .begin manager.begin
  | scan {scanned : Option ScanResults} {ret : Int} {scanList : ScanList} (point : Point)
      (scan : manager.scanList.scanNetworks scanned = some (ret, scanList)) :
      Steps manager (.scan scanned) { manager with scanList := scanList, point := point }
  | choose (poorSignal : Bool) : Steps manager .choose (manager.choose poorSignal)
  | connect (i : Nat) (connected : Nat → Bool) :
      Steps manager (.connect connected) (manager.connect i connected)
  | report (mode : Mode) : Steps manager (.report mode) (manager.report mode)
  | measure (rcpi : Option UInt32) : Steps manager (.signalStrength rcpi) (manager.measure rcpi)
  | startSoftAp : Steps manager .startSoftAp (manager.moveTo .waiting)
  | notified (bits : Option Notification) : Steps manager (.notified bits) (manager.notified bits)
  | load (networkGet : Nat → Option WifiNetworkProfile) (point : Point) :
      Steps manager (.load networkGet)
        { manager with scanList := .reset networkGet, point := point }
  | networkDown (isConnected : Bool) (mode : Mode) :
      Steps manager (.networkDown isConnected mode) (manager.networkDown isConnected mode)

theorem steps_of_next {event : Event} (step : next manager event = some target) :
    Steps manager event target := by
  unfold next at step
  generalize manager.point = point at step
  split at step
  · cases step
    exact .begin
  · obtain ⟨⟨ret, scanList⟩, scan, rfl⟩ := Option.map_eq_some_iff.mp step
    exact .scan _ scan
  · cases step
    exact .choose _
  · cases step
    exact .connect _ _
  · cases step
    exact .report _
  · cases step
    exact .measure _
  · cases step
    exact .startSoftAp
  · cases step
    exact .notified _
  · cases step
    exact .load _ _
  · cases step
    exact .networkDown _ _
  · cases step

/-- A step that keeps the connected entry keeps the pointer valid. -/
theorem ManagerInv.next {event : Event} (inv : ManagerInv manager)
    (canAge : CanAgeBefore manager event) (keeps : KeepsConnected manager event)
    (step : Manager.next manager event = some target) : ManagerInv target := by
  cases steps_of_next step with
  | begin => exact inv.of_same rfl (.inl rfl) rfl rfl
  | scan point scan =>
      refine ⟨(inv.cache.scanNetworks canAge scan).1, ⟨?_, inv.connected.noNull⟩⟩
      intro ap isConnected
      have valid := inv.connected.valid ap isConnected
      obtain ⟨i, counted, rfl⟩ := (inv.cache.represented.inUse ap valid.inside).mp valid.inUse
      obtain ⟨bssid, profile, stays, _⟩ := inv.cache.scanNetworks_counted canAge counted scan
      refine ⟨valid.inside, stays (keeps i counted isConnected), ?_, ?_⟩
      · exact profile ▸ valid.hasProfile
      · exact bssid ▸ valid.carries
  | choose poorSignal => exact inv.choose poorSignal
  | connect i connected => exact inv.connect i connected
  | report mode => exact inv.report mode
  | measure rcpi => exact inv.measure rcpi
  | startSoftAp => exact inv.of_same rfl (.inl rfl) rfl rfl
  | notified bits => exact inv.notified bits
  | load networkGet point =>
      refine ⟨ScanList.cacheInv_reset networkGet, ⟨?_, inv.connected.noNull⟩⟩
      intro ap isConnected
      exact absurd (keeps.symm.trans isConnected) (by simp)
  | networkDown isConnected mode => exact inv.networkDown isConnected mode

/-- A step that does not keep the connected entry leaves the pointer at an entry that is
not in use. -/
theorem ManagerInv.next_loses {event : Event} (inv : ManagerInv manager)
    (canAge : CanAgeBefore manager event) (loses : ¬ KeepsConnected manager event)
    (step : Manager.next manager event = some target) : ¬ Connected target := by
  intro connected
  cases steps_of_next step with
  | scan point scan =>
      simp only [KeepsConnected, Classical.not_forall] at loses
      obtain ⟨i, counted, isConnected, lost⟩ := loses
      have gone := (inv.cache.scanNetworks_counted canAge counted scan).2.2.2 lost
      have inUse := (connected.valid _ isConnected).inUse
      exact absurd gone (Int.ne_of_gt inUse)
  | load networkGet point =>
      obtain ⟨ap, isConnected⟩ := Option.ne_none_iff_exists'.mp loses
      have inUse := (connected.valid ap isConnected).inUse
      exact absurd inUse (by exact Int.lt_irrefl 0)
  | begin | choose | connect | report | measure | startSoftAp | notified | networkDown =>
      exact loses trivial

/-- In a run in which no scan finds an age at its greatest value, the connected entry is in
use, has a profile and carries the BSSID that was passed to `WIFI_ConnectAP` in every
state, and its profile is never NULL where it is used, exactly when it outlasts every scan
and the profiles are loaded only without a connection. -/
theorem connected_iff (networkGet : Nat → Option WifiNetworkProfile) (mode : Mode)
    {events : List Event} (met : StepsMeet next (start networkGet mode) events CanAgeBefore) :
    StatesSatisfy next (start networkGet mode) events Connected ↔
      StepsMeet next (start networkGet mode) events KeepsConnected :=
  statesSatisfy_iff_stepsMeet_of (managerInv_start networkGet mode)
    (fun _ _ _ inv canAge keeps step => inv.next canAge keeps step)
    (fun _ inv => inv.connected)
    (fun _ _ _ inv canAge loses step => inv.next_loses canAge loses step) met

/-- One profile, for the network that `oneNetwork` finds. -/
def oneProfile : Nat → Option WifiNetworkProfile
  | 0 => some ⟨[65], 1, [], 0, .open_⟩
  | _ => none

/-- The network is found and connected, and then the application adds a profile and
disconnects, so that the profiles are loaded and the network goes down. -/
def disconnectWithNewProfiles : List Event :=
  [.begin, .scan (some oneNetwork), .choose, .connect fun _ => true, .report .station,
    .startSoftAp, .notified (some ⟨true, false, true⟩), .load oneProfile,
    .networkDown false .station]

theorem disconnectWithNewProfiles_connected_iff :
    StatesSatisfy next (start oneProfile .station) disconnectWithNewProfiles Connected ↔
      StepsMeet next (start oneProfile .station) disconnectWithNewProfiles KeepsConnected :=
  connected_iff oneProfile .station (by decide +kernel)

/-- The name is read through a profile that is NULL. -/
theorem disconnectWithNewProfiles_not_connected :
    ¬ StatesSatisfy next (start oneProfile .station) disconnectWithNewProfiles Connected := by
  intro connected
  have used : (run next (start oneProfile .station) disconnectWithNewProfiles).map
      Manager.nullProfileUsed = some true := by
    decide +kernel
  obtain ⟨manager, executed, isUsed⟩ := Option.map_eq_some_iff.mp used
  have notUsed := (connected (List.prefix_refl _) executed).noNull
  exact absurd (isUsed.symm.trans notUsed) (by decide)

end Manager

end FwkRtos.WifiManager

import FwkRtos.WifiManager.Representation
import Mathlib.Tactic.NormNum.Basic

/-!
# The cache stays represented

Every operation keeps the representation, and a successful scan leaves the
entries in use in descending order.  The one thing that can break it is the age:
a scan that fails ages the entries without giving up any, so that enough failed
scans carry an age past the largest `int`.
-/

namespace FwkRtos.WifiManager

open FwkRtos.Transition

/-- `INT_MAX` of an `int` of 32 bits. -/
def intMax : Int := 2 ^ 31 - 1

theorem ApInfo.ageOnce_age {ap : ApInfo} (inUse : 0 < ap.age) (young : ap.age < intMax) :
    ap.ageOnce.age = ap.age + 1 := by
  unfold intMax at young
  exact Int.bmod_eq_of_le (by omega) (by omega)

/-- An age at its greatest value wraps. -/
theorem ApInfo.ageOnce_age_intMax {ap : ApInfo} (oldest : ap.age = intMax) :
    ap.ageOnce.age = -2 ^ 31 := by
  show Int.bmod (ap.age + 1) (2 ^ 32) = _
  rw [oldest]
  decide

namespace ScanList

variable {scanList target : ScanList}

/-- No age is so great that it cannot grow. -/
def CanAge (scanList : ScanList) : Prop :=
  ∀ i, i < scanList.apCacheCount → (scanList.sorted i).age < intMax

theorem CacheInv.ageAll (inv : CacheInv scanList) :
    ∃ aged, (List.range scanList.apCacheCount).foldlM ageAt scanList = some aged ∧
      SamePointers scanList aged ∧ ∀ i, i < cachedApCount → aged.sorted i =
        if i < scanList.apCacheCount then (scanList.sorted i).ageOnce else scanList.sorted i :=
  inv.permuted.foldlM_ageAt inv.filled.within inv.filled.used

/-- Ageing keeps the entries in use. -/
theorem CacheInv.aged {aged : ScanList} (inv : CacheInv scanList) (canAge : scanList.CanAge)
    (same : SamePointers scanList aged)
    (entries : ∀ i, i < cachedApCount → aged.sorted i =
      if i < scanList.apCacheCount then (scanList.sorted i).ageOnce else scanList.sorted i) :
    CacheInv aged := by
  refine ⟨same.permuted inv.permuted, ?_⟩
  rw [same.apCacheCount]
  refine ⟨inv.filled.within, ?_, ?_⟩
  · intro i counted
    have used := inv.filled.used i counted
    rw [entries i (counted.trans_le inv.filled.within), if_pos counted,
      ApInfo.ageOnce_age used (canAge i counted)]
    omega
  · intro i beyond inside
    rw [entries i inside, if_neg (Nat.not_lt_of_le beyond)]
    exact inv.filled.free i beyond inside

/-- A part of the pointers that is sorted and behind which nothing is in use is counted
up to the first entry that is not in use. -/
theorem countAps_of_ordered {n : Nat}
    (nonneg : ∀ i, i < n → 0 ≤ (scanList.sorted i).age)
    (free : ∀ i, n ≤ i → i < cachedApCount → (scanList.sorted i).age = 0)
    (ordered : ∀ i j, i < j → j < n → ¬ apCmp (scanList.sorted j) (scanList.sorted i) < 0) :
    FilledTo scanList.countAps scanList ∧ ∀ i j, i < j → j < scanList.countAps →
      (scanList.sorted j).rssi ≤ (scanList.sorted i).rssi := by
  have within := scanList.countAps_le
  constructor
  · refine ⟨within, fun i => scanList.countAps_used, ?_⟩
    intro i beyond inside
    by_cases sorted : i < n
    · have unused : (scanList.sorted scanList.countAps).age = 0 := by
        have atEnd := scanList.countAps_end (beyond.trans_lt inside)
        have := nonneg scanList.countAps (beyond.trans_lt sorted)
        omega
      rcases Nat.lt_or_eq_of_le beyond with behind | same
      · have notLess := ordered scanList.countAps i behind sorted
        rw [apCmp_neg_iff] at notLess
        by_contra used
        exact notLess ⟨used, .inl unused⟩
      · rw [← same]
        exact unused
    · exact free i (Nat.le_of_not_lt sorted) inside
  · intro i j isBefore counted
    have used := scanList.countAps_used counted
    have sorted : j < n := by
      by_contra beyond
      have unused := free j (Nat.le_of_not_lt beyond) (counted.trans_le within)
      exact absurd unused (Int.ne_of_gt used)
    have notLess := ordered i j isBefore sorted
    rw [apCmp_neg_iff] at notLess
    by_contra stronger
    exact notLess ⟨Int.ne_of_gt used, .inr (Int.lt_of_not_ge stronger)⟩

/-- Entering the results of a scan keeps the representation and sorts the entries. -/
theorem CacheInv.enterResults (inv : CacheInv scanList) (results : ScanResults) :
    CacheInv (scanList.enterResults results) ∧ (scanList.enterResults results).Descending := by
  have start : Entering scanList.apCacheCount scanList :=
    ⟨inv.permuted, inv.filled, Nat.le_refl _⟩
  obtain ⟨n, entering, _⟩ := start.foldl results.reported
  have within := entering.filled.within
  obtain ⟨ends, same, entries⟩ := entering.permuted.expireFrom (Nat.zero_le n)
    (Nat.zero_add cachedApCount) within (fun j _ => entering.filled.used j) entering.filled.free
  simp only [ScanList.enterResults]
  generalize (results.reported.foldl ScanList.enter scanList).expireFrom 0 cachedApCount =
    expired at ends same entries ⊢
  obtain ⟨length, expired⟩ := expired
  obtain rfl : length = n := ends
  have permuted := same.permuted entering.permuted
  have nonneg : ∀ i, i < length → 0 ≤ ((expired.sortAps length).sorted i).age := by
    intro i inside
    obtain ⟨j, before, from_⟩ := expired.sortAps_sorted_inside inside
    rw [from_, entries j (before.trans_le within), if_pos ⟨Nat.zero_le j, before⟩]
    exact expire_age_nonneg (entering.filled.used j before)
  have free : ∀ i, length ≤ i → i < cachedApCount →
      ((expired.sortAps length).sorted i).age = 0 := by
    intro i beyond inside
    rw [expired.sortAps_sorted_outside beyond, entries i inside, if_neg (by omega)]
    exact entering.filled.free i beyond inside
  obtain ⟨filled, descending⟩ :=
    countAps_of_ordered nonneg free fun i j => expired.sortAps_ordered
  exact ⟨⟨permuted.sortAps within, filled.within, filled.used, filled.free⟩, descending⟩

/-- The assertion of `scan_networks` holds. -/
theorem CacheInv.scanNetworks_isSome (inv : CacheInv scanList) (scanned : Option ScanResults) :
    (scanList.scanNetworks scanned).isSome = true := by
  obtain ⟨aged, folded, _⟩ := inv.ageAll
  rw [scanNetworks, folded]
  rfl

/-- A scan keeps the representation. -/
theorem CacheInv.scanNetworks {scanned : Option ScanResults} {ret : Int}
    (inv : CacheInv scanList) (canAge : scanList.CanAge)
    (scan : scanList.scanNetworks scanned = some (ret, target)) :
    CacheInv target ∧ (scanned.isSome = true → target.Descending) := by
  obtain ⟨aged, folded, same, entries⟩ := inv.ageAll
  have after := inv.aged canAge same entries
  rw [ScanList.scanNetworks, folded, Option.map_some, Option.some.injEq] at scan
  cases scanned with
  | none =>
      obtain ⟨rfl, rfl⟩ := Prod.mk.injEq .. ▸ scan
      exact ⟨after, fun success => nomatch success⟩
  | some results =>
      obtain ⟨rfl, rfl⟩ := Prod.mk.injEq .. ▸ scan
      exact ⟨(after.enterResults results).1, fun _ => (after.enterResults results).2⟩

/-! ## The other operations -/

theorem cacheInv_reset (networkGet : Nat → Option WifiNetworkProfile) :
    CacheInv (.reset networkGet) := by
  constructor
  · exact Set.bijOn_id _
  · refine ⟨Nat.zero_le _, ?_, ?_⟩
    · intro i counted
      exact absurd counted (Nat.not_lt_zero i)
    · intro i _ _
      rfl

end ScanList

/-- A connection leaves an entry in use. -/
theorem connectToNetwork_inUse {ap : ApInfo} (connected : Nat → Bool) (inUse : 0 < ap.age) :
    0 < (connectToNetwork ap connected).ap.age := by
  unfold connectToNetwork
  cases ap.associatedProfile with
  | none => exact inUse
  | some profile =>
      dsimp only
      split_ifs
      · exact inUse
      · exact inUse
      · exact show 0 < apCacheEntryMaxAge by decide
      · exact inUse

theorem ApInfo.updateApRssi_age (ap : ApInfo) (rssi : Int8) : (ap.updateApRssi rssi).age = ap.age :=
  rfl

namespace ScanList

variable {scanList target : ScanList}

theorem CacheInv.connectToNetwork (inv : CacheInv scanList) {i : Nat} (connected : Nat → Bool)
    (counted : i < scanList.apCacheCount) :
    CacheInv (scanList.modify (scanList.sortedAps i) fun ap =>
      (WifiManager.connectToNetwork ap connected).ap) :=
  ⟨inv.permuted, inv.filled.modify inv.permuted counted
    (connectToNetwork_inUse connected (inv.filled.used i counted))⟩

/-- A change that keeps the age of an entry keeps the representation. -/
theorem CacheInv.modify_of_age (inv : CacheInv scanList) {ap : Nat} {change : ApInfo → ApInfo}
    (inside : ap < cachedApCount) (keeps : ∀ info, (change info).age = info.age) :
    CacheInv (scanList.modify ap change) := by
  obtain ⟨i, iInside, rfl⟩ := inv.permuted.surjOn inside
  have ages : ∀ j, j < cachedApCount →
      ((scanList.modify (scanList.sortedAps i) change).sorted j).age = (scanList.sorted j).age := by
    intro j jInside
    by_cases same : j = i
    · subst same
      rw [modify_sorted_self, keeps]
    · rw [inv.permuted.modify_sorted_other change iInside jInside same]
  refine ⟨inv.permuted, inv.filled.within, ?_, ?_⟩
  · intro j counted
    rw [ages j (counted.trans_le inv.filled.within)]
    exact inv.filled.used j counted
  · intro j beyond jInside
    rw [ages j jInside]
    exact inv.filled.free j beyond jInside

end ScanList

/-! ## Runs of operations -/

/-- No scan is made while the age of an entry in use is the largest `int`. -/
def CanAgeBefore (scanList : ScanList) : CacheOp → Prop
  | .scanNetworks _ => scanList.CanAge
  | _ => True

instance (scanList : ScanList) (op : CacheOp) : Decidable (CanAgeBefore scanList op) :=
  match op with
  | .scanNetworks _ => inferInstanceAs (Decidable (∀ i, i < scanList.apCacheCount → _))
  | .connectToNetwork _ _ => .isTrue trivial
  | .updateApRssi _ _ => .isTrue trivial
  | .reload _ => .isTrue trivial

variable {scanList target : ScanList}

/-- Every operation keeps the representation. -/
theorem nextCache_cacheInv {op : CacheOp} (inv : scanList.CacheInv)
    (canAge : CanAgeBefore scanList op) (step : nextCache scanList op = some target) :
    target.CacheInv := by
  cases op with
  | scanNetworks scanned =>
      obtain ⟨⟨ret, after⟩, scan, rfl⟩ := Option.map_eq_some_iff.mp step
      exact (inv.scanNetworks canAge scan).1
  | connectToNetwork i connected =>
      by_cases counted : i < scanList.apCacheCount
      · simp only [nextCache, if_pos counted, Option.some.injEq] at step
        subst step
        exact inv.connectToNetwork connected counted
      · simp only [nextCache, if_neg counted] at step
        cases step
  | updateApRssi ap rssi =>
      by_cases inside : ap < cachedApCount
      · simp only [nextCache, if_pos inside, Option.some.injEq] at step
        subst step
        exact inv.modify_of_age inside fun info => info.updateApRssi_age rssi
      · simp only [nextCache, if_neg inside] at step
        cases step
  | reload networkGet =>
      cases step
      exact ScanList.cacheInv_reset networkGet

/-- The state is represented and the assertion of the next scan holds, whatever the
scan returns. -/
def CacheGood (scanList : ScanList) : Prop :=
  scanList.Represented ∧ ∀ scanned, (scanList.scanNetworks scanned).isSome = true

theorem ScanList.CacheInv.good (inv : scanList.CacheInv) : CacheGood scanList :=
  ⟨inv.represented, inv.scanNetworks_isSome⟩

/-- In a run of operations in which no scan finds an age at its greatest value, the
sorted pointers represent the cache in every state, so that the assertion of
`scan_networks` holds, and right after a successful scan the entries in use are in
descending order. -/
theorem cache_represented (networkGet : Nat → Option WifiNetworkProfile) {ops : List CacheOp}
    (met : StepsMeet nextCache (.reset networkGet) ops CanAgeBefore) :
    StatesSatisfy nextCache (.reset networkGet) ops CacheGood ∧
      ∀ before results, before ++ [.scanNetworks (some results)] <+: ops → ∀ scanned,
        run nextCache (.reset networkGet) (before ++ [.scanNetworks (some results)]) =
          some scanned → scanned.Descending := by
  constructor
  · exact met.statesSatisfy (ScanList.cacheInv_reset networkGet)
      (fun _ _ _ inv canAge step => nextCache_cacheInv inv canAge step) fun _ inv => inv.good
  · intro before results isPrefix scanned executed
    obtain ⟨source, earlier, step⟩ := (run_concat_eq_some_iff _ _ _ _ _).mp executed
    have inv : source.CacheInv :=
      (met.guardedReachable ((List.prefix_append _ _).trans isPrefix) earlier).invariant
        (ScanList.cacheInv_reset networkGet)
        fun _ _ _ inv canAge step => nextCache_cacheInv inv canAge step
    obtain ⟨⟨ret, after⟩, scan, rfl⟩ := Option.map_eq_some_iff.mp step
    exact (inv.scanNetworks (met isPrefix earlier step) scan).2 rfl

/-- The network that is found. -/
def foundBssid : Bssid := #v[1, 2, 3, 4, 5, 6]

/-- A scan that finds one network of channel 6, with the signal strength -40. -/
def oneNetwork : ScanResults :=
  fun i => if i.val = 0 then ⟨[65], foundBssid, -40, 6⟩ else ⟨[], noBssid, 0, 0⟩

/-- A scan that finds the network, one that fails and one that finds it again. -/
def findAndFail : List CacheOp :=
  [.scanNetworks (some oneNetwork), .scanNetworks none, .scanNetworks (some oneNetwork)]

theorem findAndFail_represented :
    StatesSatisfy nextCache (.reset fun _ => none) findAndFail CacheGood ∧
      ∀ before results, before ++ [.scanNetworks (some results)] <+: findAndFail → ∀ scanned,
        run nextCache (.reset fun _ => none) (before ++ [.scanNetworks (some results)]) =
          some scanned → scanned.Descending :=
  cache_represented (fun _ => none) (by decide +kernel)

/-! ## Failed scans without end -/

/-- A failed scan only ages. -/
theorem ScanList.CacheInv.failedScan (inv : scanList.CacheInv)
    (inUse : 0 < scanList.apCacheCount) :
    ∃ target, nextCache scanList (.scanNetworks none) = some target ∧
      SamePointers scanList target ∧ target.sorted 0 = (scanList.sorted 0).ageOnce := by
  obtain ⟨aged, folded, same, entries⟩ := inv.ageAll
  refine ⟨aged, ?_, same, ?_⟩
  · rw [nextCache, ScanList.scanNetworks, folded]
    rfl
  · rw [entries 0 (by decide), if_pos inUse]

/-- Failed scans in a row age an entry by one each. -/
theorem ScanList.CacheInv.failedScans (inv : scanList.CacheInv)
    (one : scanList.apCacheCount = 1) (scans : Nat)
    (young : (scanList.sorted 0).age + scans ≤ intMax) :
    ∃ target, run nextCache scanList (List.replicate scans (.scanNetworks none)) = some target ∧
      target.CacheInv ∧ target.apCacheCount = 1 ∧
      (target.sorted 0).age = (scanList.sorted 0).age + scans := by
  induction scans generalizing scanList with
  | zero => exact ⟨scanList, rfl, inv, one, (Int.add_zero _).symm⟩
  | succ scans ih =>
      have inUse : 0 < scanList.apCacheCount := by omega
      have canAge : CanAgeBefore scanList (.scanNetworks none) := by
        intro i counted
        obtain rfl : i = 0 := by omega
        omega
      obtain ⟨middle, step, same, first⟩ := inv.failedScan inUse
      have older : (middle.sorted 0).age = (scanList.sorted 0).age + 1 := by
        rw [first]
        exact ApInfo.ageOnce_age (inv.filled.used 0 inUse) (canAge 0 inUse)
      obtain ⟨target, executed, after, count, age⟩ :=
        ih (nextCache_cacheInv inv canAge step) (same.apCacheCount.trans one) (by omega)
      refine ⟨target, ?_, after, count, by omega⟩
      rw [List.replicate_succ, run, step]
      exact executed

/-- One network is found, and then `2 ^ 31 - 1` scans fail. -/
def failWithoutEnd : List CacheOp :=
  .scanNetworks (some oneNetwork) :: List.replicate (2 ^ 31 - 2 + 1) (.scanNetworks none)

/-- The age wraps to the least `int`, although the entry is among the first. -/
theorem failWithoutEnd_not_represented :
    ¬ StatesSatisfy nextCache (.reset fun _ => none) failWithoutEnd CacheGood := by
  intro good
  have found : (nextCache (.reset fun _ => none) (.scanNetworks (some oneNetwork))).map
      (fun scanList => decide (scanList.apCacheCount = 1 ∧ (scanList.sorted 0).age = 1)) =
        some true := by
    decide +kernel
  obtain ⟨scanList, scan, holds⟩ := Option.map_eq_some_iff.mp found
  obtain ⟨one, age⟩ := of_decide_eq_true holds
  have inv : scanList.CacheInv := by
    refine nextCache_cacheInv (ScanList.cacheInv_reset _) ?_ scan
    intro i counted
    exact absurd counted (Nat.not_lt_zero i)
  obtain ⟨oldest, executed, oldestInv, count, oldestAge⟩ :=
    inv.failedScans one (2 ^ 31 - 2) (by rw [age]; decide)
  obtain ⟨wrapped, step, same, first⟩ := oldestInv.failedScan (by omega)
  have all : run nextCache (.reset fun _ => none) failWithoutEnd = some wrapped := by
    rw [failWithoutEnd, run, scan, Option.bind_some, List.replicate_succ',
      run_concat_eq_some_iff]
    exact ⟨oldest, executed, step⟩
  obtain ⟨represented, _⟩ := good (List.prefix_refl _) all
  have inUse : 0 < (wrapped.sorted 0).age :=
    (represented.inUse _ (represented.permuted.mapsTo (show 0 < cachedApCount by decide))).mpr
      ⟨0, by rw [same.apCacheCount, count]; decide, rfl⟩
  rw [first, ApInfo.ageOnce_age_intMax (by rw [oldestAge, age]; decide)] at inUse
  exact absurd inUse (by decide)

end FwkRtos.WifiManager

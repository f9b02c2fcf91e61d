import FwkRtos.WifiManager.Scanning
import Mathlib.Data.List.Nodup

/-!
# No access point twice

A result of a scan is looked up among the entries that were counted before the
scan, and entered behind them otherwise.  Two results of one BSSID that had no
entry are therefore entered twice, as long as there is room, and only these.
-/

namespace FwkRtos.WifiManager

open FwkRtos.Transition

variable {scanList target : ScanList}

namespace ScanList

/-! ## What is to hold -/

/-- No two entries in use have the same BSSID. -/
def Unique (scanList : ScanList) : Prop :=
  ∀ first second, first < cachedApCount → second < cachedApCount →
    0 < (scanList.cachedAps first).age → 0 < (scanList.cachedAps second).age →
      (scanList.cachedAps first).bssid = (scanList.cachedAps second).bssid → first = second

/-- There is an entry of the BSSID with the given age. -/
def HasAged (bssid : Bssid) (age : Int) (scanList : ScanList) : Prop :=
  ∃ ap, ap < cachedApCount ∧ (scanList.cachedAps ap).bssid = bssid ∧
    (scanList.cachedAps ap).age = age

/-- The cache in the middle of a scan, when the given results have been entered. -/
def reporting (scanList : ScanList) (earlier : List WifiScanResult) : Option ScanList :=
  ((List.range scanList.apCacheCount).foldlM ageAt scanList).map fun aged =>
    earlier.foldl enter aged

/-- Every entry is in use when the results so far have been entered. -/
def FullAfter (scanList : ScanList) (earlier : List WifiScanResult) : Prop :=
  ∃ entered, scanList.reporting earlier = some entered ∧
    ∀ ap, ap < cachedApCount → 0 < (entered.cachedAps ap).age

/-- The BSSIDs of the results that have no entry, in the order of the results. -/
def fresh (scanList : ScanList) (results : List WifiScanResult) : List Bssid :=
  (results.filter fun result => scanList.findApInCache result.bssid = none).map
    WifiScanResult.bssid

/-- No two of the results that are entered behind the others have the same BSSID. -/
def EntersOnce (scanList : ScanList) (results : ScanResults) : Prop :=
  ((scanList.fresh results.reported).take (cachedApCount - scanList.apCacheCount)).Nodup

/-- The BSSIDs that the first `n` pointers lead to. -/
def bssids (scanList : ScanList) (n : Nat) : List Bssid :=
  (List.range n).map fun i => (scanList.sorted i).bssid

end ScanList

/-- A scan begins while no age is the largest `int`, and enters no BSSID twice. -/
def ScansOnce (scanList : ScanList) : CacheOp → Prop
  | .scanNetworks (some results) => scanList.CanAge ∧ scanList.EntersOnce results
  | .scanNetworks none => scanList.CanAge
  | _ => True

instance (scanList : ScanList) (op : CacheOp) : Decidable (ScansOnce scanList op) :=
  match op with
  | .scanNetworks (some _) =>
      inferInstanceAs (Decidable ((∀ i, i < scanList.apCacheCount → _) ∧ List.Nodup _))
  | .scanNetworks none => inferInstanceAs (Decidable (∀ i, i < scanList.apCacheCount → _))
  | .connectToNetwork _ _ => .isTrue trivial
  | .updateApRssi _ _ => .isTrue trivial
  | .reload _ => .isTrue trivial

namespace ScanList

/-! ## Entering the results -/

@[simp]
theorem length_bssids (scanList : ScanList) (n : Nat) : (scanList.bssids n).length = n := by
  rw [bssids, List.length_map, List.length_range]

theorem bssids_succ (scanList : ScanList) (n : Nat) :
    scanList.bssids (n + 1) = scanList.bssids n ++ [(scanList.sorted n).bssid] := by
  rw [bssids, List.range_succ, List.map_append]
  rfl

theorem bssids_congr {n : Nat}
    (same : ∀ i, i < n → (target.sorted i).bssid = (scanList.sorted i).bssid) :
    target.bssids n = scanList.bssids n :=
  List.map_congr_left fun i inside => same i (List.mem_range.mp inside)

/-- Where the BSSIDs of the entries in use are different, no two entries in use agree. -/
theorem unique_of_nodup {n : Nat} (permuted : scanList.Permuted) (filled : FilledTo n scanList)
    (nodup : (scanList.bssids n).Nodup) : scanList.Unique := by
  intro first second firstInside secondInside firstUsed secondUsed same
  rcases permuted.surjOn firstInside with ⟨i, iInside, rfl⟩
  rcases permuted.surjOn secondInside with ⟨j, jInside, rfl⟩
  have counted : ∀ k, k < cachedApCount → 0 < (scanList.sorted k).age → k < n := by
    intro k inside used
    by_contra beyond
    have unused := filled.free k (Nat.le_of_not_lt beyond) inside
    exact absurd unused (Int.ne_of_gt used)
  have iCounted := counted i iInside firstUsed
  have jCounted := counted j jInside secondUsed
  have equal : i = j := List.inj_on_of_nodup_map nodup (List.mem_range.mpr iCounted)
    (List.mem_range.mpr jCounted) same
  rw [equal]

theorem Unique.nodup {n : Nat} (unique : scanList.Unique) (permuted : scanList.Permuted)
    (filled : FilledTo n scanList) : (scanList.bssids n).Nodup := by
  refine List.Nodup.map_on ?_ List.nodup_range
  intro i iInside j jInside same
  rw [List.mem_range] at iInside jInside
  have iWithin := iInside.trans_le filled.within
  have jWithin := jInside.trans_le filled.within
  exact permuted.injOn iWithin jWithin (unique _ _ (permuted.mapsTo iWithin)
    (permuted.mapsTo jWithin) (filled.used i iInside) (filled.used j jInside) same)

/-- A look-up depends on the BSSIDs of the counted entries only. -/
theorem findApInCache_of_counted {n m : Nat} (count : target.apCacheCount = scanList.apCacheCount)
    (filled : FilledTo n scanList) (counted : scanList.apCacheCount ≤ n)
    (targetFilled : FilledTo m target) (targetCounted : scanList.apCacheCount ≤ m)
    (same : ∀ i, i < scanList.apCacheCount →
      (target.sorted i).bssid = (scanList.sorted i).bssid) (bssid : Bssid) :
    target.findApInCache bssid = scanList.findApInCache bssid := by
  rw [findApInCache, findApInCache, count]
  rw [← List.head?_filter, ← List.head?_filter]
  refine congrArg List.head? (List.filter_congr fun i member => ?_)
  have inside := List.mem_range.mp member
  have used := filled.used i (inside.trans_le counted)
  have targetUsed := targetFilled.used i (inside.trans_le targetCounted)
  rw [same i inside]
  simp only [used, targetUsed]

/-- A result without an entry gets the first free one. -/
theorem Entering.enter_new {n : Nat} (entering : Entering n scanList) {result : WifiScanResult}
    (missing : scanList.findApInCache result.bssid = none) :
    scanList.enter result =
      if n < cachedApCount then
        scanList.modify (scanList.sortedAps n) fun _ =>
          .ofScanResult scanList.savedProfiles result
      else scanList := by
  rw [ScanList.enter, missing]
  change scanList.addApToCache result = _
  rw [ScanList.addApToCache, entering.filled.find_free]
  by_cases room : n < cachedApCount
  · rw [if_pos room, if_pos room]
  · rw [if_neg room, if_neg room]

/-- The aged cache when some results have been entered: the entries counted before keep
their BSSIDs, and behind them are those of the results without an entry, as far as
there is room. -/
structure Entered (start : ScanList) (earlier : List WifiScanResult) (n : Nat)
    (scanList : ScanList) : Prop extends Entering n scanList where
  same : SamePointers start scanList
  bssids : scanList.bssids n = start.bssids start.apCacheCount ++
    (start.fresh earlier).take (cachedApCount - start.apCacheCount)

namespace Entered

variable {start : ScanList} {earlier : List WifiScanResult} {n : Nat} {result : WifiScanResult}

/-- The entries counted before have their BSSIDs. -/
theorem counted_bssid (entered : Entered start earlier n scanList) {i : Nat}
    (counted : i < start.apCacheCount) :
    (scanList.sorted i).bssid = (start.sorted i).bssid := by
  have within : start.apCacheCount ≤ n := by
    rw [← entered.same.apCacheCount]
    exact entered.counted
  have inside : i < (scanList.bssids n).length := by
    rw [length_bssids]
    exact counted.trans_le within
  have first : (scanList.bssids n)[i]? = some (scanList.sorted i).bssid := by
    rw [ScanList.bssids, List.getElem?_map, List.getElem?_range (counted.trans_le within)]
    rfl
  have second : (start.bssids start.apCacheCount)[i]? = some (start.sorted i).bssid := by
    rw [ScanList.bssids, List.getElem?_map, List.getElem?_range counted]
    rfl
  rw [entered.bssids, List.getElem?_append_left (by rw [length_bssids]; exact counted),
    second] at first
  exact (Option.some.inj first).symm

theorem length (entered : Entered start earlier n scanList) :
    n = start.apCacheCount +
      min (cachedApCount - start.apCacheCount) (start.fresh earlier).length := by
  have length := congrArg List.length entered.bssids
  rwa [length_bssids, List.length_append, length_bssids, List.length_take] at length

/-- Results are looked up as before the scan. -/
theorem findApInCache (filled : FilledTo start.apCacheCount start)
    (entered : Entered start earlier n scanList) (bssid : Bssid) :
    scanList.findApInCache bssid = start.findApInCache bssid := by
  have counted : start.apCacheCount ≤ n := by
    rw [← entered.same.apCacheCount]
    exact entered.counted
  exact findApInCache_of_counted entered.same.apCacheCount filled
    (Nat.le_refl _) entered.filled counted
    (fun i inside => entered.counted_bssid inside) bssid

/-- One result more. -/
theorem enter (filled : FilledTo start.apCacheCount start)
    (entered : Entered start earlier n scanList) (result : WifiScanResult) :
    ∃ more, Entered start (earlier ++ [result]) more (scanList.enter result) := by
  have lookup := entered.findApInCache filled result.bssid
  have countWithin := filled.within
  cases found : start.findApInCache result.bssid with
  | some i =>
      rw [found] at lookup
      have inside := (findApInCache_eq_some lookup).1.trans_le entered.counted
      have known : start.fresh (earlier ++ [result]) = start.fresh earlier := by
        rw [fresh, fresh, List.filter_append]
        simp [found]
      have step : scanList.enter result = scanList.updateApInCache result i := by
        rw [ScanList.enter, lookup]
      have same := SamePointers.modify scanList (scanList.sortedAps i) fun ap =>
        { ap with age := 1, channel := result.channel }.updateApRssi result.rssi
      refine ⟨n, ⟨?_, ?_, ?_⟩, ?_, ?_⟩
      · rw [step]
        exact same.permuted entered.permuted
      · rw [step]
        exact entered.filled.modify entered.permuted inside Int.zero_lt_one
      · rw [step]
        exact entered.counted
      · rw [step]
        exact entered.same.trans same
      · rw [known, ← entered.bssids, step]
        refine bssids_congr fun j counted => ?_
        by_cases isSame : j = i
        · subst isSame
          rw [updateApInCache, modify_sorted_self]
          rfl
        · rw [updateApInCache, entered.permuted.modify_sorted_other _
            (inside.trans_le entered.filled.within) (counted.trans_le entered.filled.within)
            isSame]
  | none =>
      rw [found] at lookup
      have new : start.fresh (earlier ++ [result]) = start.fresh earlier ++ [result.bssid] := by
        rw [fresh, fresh, List.filter_append, List.map_append]
        simp [found]
      have step := entered.enter_new lookup
      have size := entered.length
      by_cases room : n < cachedApCount
      · rw [if_pos room] at step
        have same := SamePointers.modify scanList (scanList.sortedAps n) fun _ =>
          .ofScanResult scanList.savedProfiles result
        refine ⟨n + 1, ⟨?_, ?_, ?_⟩, ?_, ?_⟩
        · rw [step]
          exact same.permuted entered.permuted
        · rw [step]
          exact entered.filled.grow entered.permuted room Int.zero_lt_one
        · rw [step]
          exact entered.counted.trans (Nat.le_succ n)
        · rw [step]
          exact entered.same.trans same
        · have old : (scanList.modify (scanList.sortedAps n) fun _ =>
              .ofScanResult scanList.savedProfiles result).bssids n = scanList.bssids n := by
            refine bssids_congr fun j counted => ?_
            rw [entered.permuted.modify_sorted_other _ room (counted.trans room)
              (Nat.ne_of_lt counted)]
          have all : (start.fresh earlier).length < cachedApCount - start.apCacheCount := by
            omega
          rw [step]
          change (scanList.modify (scanList.sortedAps n) fun _ =>
              .ofScanResult scanList.savedProfiles result).bssids (n + 1) = _
          rw [bssids_succ, old, modify_sorted_self, entered.bssids, new,
            List.take_of_length_le (Nat.le_of_lt all), List.take_of_length_le (by
              rw [List.length_append]
              exact all), List.append_assoc]
          rfl
      · rw [if_neg room] at step
        have full : cachedApCount - start.apCacheCount ≤ (start.fresh earlier).length := by
          have within := entered.filled.within
          omega
        refine ⟨n, ⟨?_, ?_, ?_⟩, ?_, ?_⟩
        · rw [step]
          exact entered.permuted
        · rw [step]
          exact entered.filled
        · rw [step]
          exact entered.counted
        · rw [step]
          exact entered.same
        · rw [step, entered.bssids, new, List.take_append_of_le_length full]

theorem foldl (filled : FilledTo start.apCacheCount start)
    (entered : Entered start earlier n scanList) (results : List WifiScanResult) :
    ∃ more, Entered start (earlier ++ results) more (results.foldl ScanList.enter scanList) := by
  induction results generalizing earlier n scanList with
  | nil =>
      rw [List.append_nil]
      exact ⟨n, entered⟩
  | cons result results ih =>
      rcases entered.enter filled result with ⟨more, one⟩
      rcases ih one with ⟨most, all⟩
      rw [List.append_assoc, List.singleton_append] at all
      exact ⟨most, all⟩

end Entered

/-! ## The entry of a result -/

/-- Entering a result makes or renews its entry, unless every entry is in use. -/
theorem Entering.enter_hasAged {n : Nat} (entering : Entering n scanList)
    (result : WifiScanResult) :
    (∀ ap, ap < cachedApCount → 0 < (scanList.cachedAps ap).age) ∨
      (scanList.enter result).HasAged result.bssid 1 := by
  cases found : scanList.findApInCache result.bssid with
  | some i =>
      rcases findApInCache_eq_some found with ⟨counted, isBssid⟩
      have inside := (counted.trans_le entering.counted).trans_le entering.filled.within
      refine .inr ⟨scanList.sortedAps i, entering.permuted.mapsTo inside, ?_⟩
      have entry := modify_sorted_self scanList i fun ap =>
        { ap with age := 1, channel := result.channel }.updateApRssi result.rssi
      rw [ScanList.enter, found]
      change ((scanList.modify (scanList.sortedAps i) _).sorted i).bssid = _ ∧
        ((scanList.modify (scanList.sortedAps i) _).sorted i).age = 1
      rw [entry, isBssid]
      exact ⟨rfl, rfl⟩
  | none =>
      by_cases room : n < cachedApCount
      · refine .inr ⟨scanList.sortedAps n, entering.permuted.mapsTo room, ?_⟩
        have entry := modify_sorted_self scanList n fun _ =>
          .ofScanResult scanList.savedProfiles result
        rw [entering.enter_new found, if_pos room]
        change ((scanList.modify (scanList.sortedAps n) _).sorted n).bssid = _ ∧
          ((scanList.modify (scanList.sortedAps n) _).sorted n).age = 1
        rw [entry]
        exact ⟨rfl, rfl⟩
      · left
        intro ap inside
        rcases entering.permuted.surjOn inside with ⟨i, iInside, rfl⟩
        exact entering.filled.used i (by have := Set.mem_Iio.mp iInside; omega)

/-- Entering other results keeps a new entry. -/
theorem Entering.enter_keeps {n : Nat} {bssid : Bssid} (entering : Entering n scanList)
    (has : scanList.HasAged bssid 1) (result : WifiScanResult) :
    (scanList.enter result).HasAged bssid 1 := by
  rcases has with ⟨ap, inside, isBssid, isNew⟩
  refine ⟨ap, inside, ?_⟩
  cases found : scanList.findApInCache result.bssid with
  | some i =>
      rw [ScanList.enter, found]
      by_cases same : ap = scanList.sortedAps i
      · subst same
        have entry := modify_sorted_self scanList i fun ap =>
          { ap with age := 1, channel := result.channel }.updateApRssi result.rssi
        change ((scanList.modify (scanList.sortedAps i) _).sorted i).bssid = _ ∧
          ((scanList.modify (scanList.sortedAps i) _).sorted i).age = 1
        rw [entry]
        exact ⟨isBssid, rfl⟩
      · change (Function.update scanList.cachedAps _ _ ap).bssid = _ ∧
          (Function.update scanList.cachedAps _ _ ap).age = 1
        rw [Function.update_of_ne same]
        exact ⟨isBssid, isNew⟩
  | none =>
      rw [entering.enter_new found]
      by_cases room : n < cachedApCount
      · rw [if_pos room]
        have different : ap ≠ scanList.sortedAps n := by
          rintro rfl
          have unused := entering.filled.free n (Nat.le_refl n) room
          rw [ScanList.sorted, isNew] at unused
          cases unused
        change (Function.update scanList.cachedAps _ _ ap).bssid = _ ∧
          (Function.update scanList.cachedAps _ _ ap).age = 1
        rw [Function.update_of_ne different]
        exact ⟨isBssid, isNew⟩
      · rw [if_neg room]
        exact ⟨isBssid, isNew⟩

theorem Entering.foldl_keeps {n : Nat} {bssid : Bssid} (entering : Entering n scanList)
    (has : scanList.HasAged bssid 1) (results : List WifiScanResult) :
    (results.foldl ScanList.enter scanList).HasAged bssid 1 := by
  induction results generalizing n scanList with
  | nil => exact has
  | cons result results ih =>
      rcases entering.enter result with ⟨more, _, entered, _⟩
      exact ih entered (entering.enter_keeps has result)

/-- When all results have been entered, one of them has its entry or found none free. -/
theorem Entering.foldl_hasAged {n : Nat} (entering : Entering n scanList)
    {results earlier : List WifiScanResult} {result : WifiScanResult}
    (isReported : earlier ++ [result] <+: results) :
    (∀ ap, ap < cachedApCount → 0 < ((earlier.foldl ScanList.enter scanList).cachedAps ap).age) ∨
      (results.foldl ScanList.enter scanList).HasAged result.bssid 1 := by
  rcases isReported with ⟨later, rfl⟩
  rcases entering.foldl earlier with ⟨middle, entered, _⟩
  rcases entered.enter_hasAged result with full | has
  · exact .inl full
  · rcases entered.enter result with ⟨more, _, after, _⟩
    rw [List.append_assoc, List.foldl_append, List.singleton_append, List.foldl_cons]
    exact .inr (after.foldl_keeps has later)

/-! ## A whole scan -/

/-- Giving up old entries and sorting add no entry and keep the new ones. -/
theorem Entering.finish {n : Nat} (entering : Entering n scanList) :
    let finished := ((scanList.expireFrom 0 cachedApCount).2.sortAps
      (scanList.expireFrom 0 cachedApCount).1)
    (scanList.Unique → finished.Unique) ∧
      ∀ bssid, scanList.HasAged bssid 1 → finished.HasAged bssid 1 := by
  intro finished
  have within := entering.filled.within
  rcases entering.permuted.expireFrom (Nat.zero_le n) (Nat.zero_add cachedApCount) within
    (fun j _ => entering.filled.used j) entering.filled.free with ⟨_, same, entries⟩
  -- Sorting moves the pointers and leaves the entries.
  have entry : ∀ ap, ap < cachedApCount → finished.cachedAps ap = scanList.cachedAps ap ∨
      finished.cachedAps ap = expire (scanList.cachedAps ap) := by
    intro ap inside
    rcases entering.permuted.surjOn inside with ⟨i, iInside, rfl⟩
    have changed := entries i iInside
    rw [ScanList.sorted, same.sortedAps] at changed
    change (scanList.expireFrom 0 cachedApCount).2.cachedAps _ = _ ∨
      (scanList.expireFrom 0 cachedApCount).2.cachedAps _ = _
    rw [changed]
    by_cases counted : 0 ≤ i ∧ i < n
    · rw [if_pos counted]
      exact .inr rfl
    · rw [if_neg counted]
      exact .inl rfl
  have younger : ∀ ap, ap < cachedApCount → 0 < (finished.cachedAps ap).age →
      finished.cachedAps ap = scanList.cachedAps ap := by
    intro ap inside used
    rcases entry ap inside with kept | expired
    · exact kept
    · rw [expired] at used ⊢
      rw [expire] at used ⊢
      by_cases old : apCacheEntryMaxAge < (scanList.cachedAps ap).age
      · rw [if_pos old] at used
        exact absurd used (Int.lt_irrefl 0)
      · rw [if_neg old]
  constructor
  · intro unique first second firstInside secondInside firstUsed secondUsed sameBssid
    have firstKept := younger first firstInside firstUsed
    have secondKept := younger second secondInside secondUsed
    rw [firstKept] at firstUsed sameBssid
    rw [secondKept] at secondUsed sameBssid
    exact unique first second firstInside secondInside firstUsed secondUsed sameBssid
  · rintro bssid ⟨ap, inside, isBssid, isNew⟩
    have young : ¬ apCacheEntryMaxAge < (scanList.cachedAps ap).age := by
      rw [isNew]
      decide
    have kept : finished.cachedAps ap = scanList.cachedAps ap := by
      rcases entry ap inside with kept | expired
      · exact kept
      · rw [expired, expire, if_neg young]
    rw [← kept] at isBssid isNew
    exact ⟨ap, inside, isBssid, isNew⟩

/-- Ageing keeps BSSIDs and adds one to the age of the entries in use. -/
theorem CacheInv.aged_entries {aged : ScanList} (inv : CacheInv scanList)
    (canAge : scanList.CanAge) (same : SamePointers scanList aged)
    (entries : ∀ i, i < cachedApCount → aged.sorted i =
      if i < scanList.apCacheCount then (scanList.sorted i).ageOnce else scanList.sorted i)
    {ap : Nat} (inside : ap < cachedApCount) :
    (aged.cachedAps ap).bssid = (scanList.cachedAps ap).bssid ∧
      (0 < (aged.cachedAps ap).age ↔ 0 < (scanList.cachedAps ap).age) ∧
      (0 < (scanList.cachedAps ap).age →
        (aged.cachedAps ap).age = (scanList.cachedAps ap).age + 1) := by
  rcases inv.permuted.surjOn inside with ⟨i, iInside, rfl⟩
  have entry := entries i iInside
  rw [ScanList.sorted, ScanList.sorted, same.sortedAps] at entry
  rw [entry]
  by_cases counted : i < scanList.apCacheCount
  · have used : 0 < (scanList.cachedAps (scanList.sortedAps i)).age := inv.filled.used i counted
    have age := ApInfo.ageOnce_age used (canAge i counted)
    rw [if_pos counted]
    refine ⟨rfl, ?_, fun _ => age⟩
    rw [age]
    omega
  · have unused : (scanList.cachedAps (scanList.sortedAps i)).age = 0 :=
      inv.filled.free i (Nat.le_of_not_lt counted) iInside
    rw [if_neg counted]
    refine ⟨rfl, Iff.rfl, fun used => ?_⟩
    rw [unused] at used
    exact absurd used (Int.lt_irrefl 0)

section
variable {aged : ScanList}

theorem Unique.of_aged (inv : CacheInv scanList) (canAge : scanList.CanAge)
    (same : SamePointers scanList aged)
    (entries : ∀ i, i < cachedApCount → aged.sorted i =
      if i < scanList.apCacheCount then (scanList.sorted i).ageOnce else scanList.sorted i)
    (unique : scanList.Unique) : aged.Unique := by
  intro first second firstInside secondInside firstUsed secondUsed sameBssid
  rcases inv.aged_entries canAge same entries firstInside with ⟨firstBssid, firstAge, _⟩
  rcases inv.aged_entries canAge same entries secondInside with ⟨secondBssid, secondAge, _⟩
  rw [firstBssid, secondBssid] at sameBssid
  exact unique first second firstInside secondInside (firstAge.mp firstUsed)
    (secondAge.mp secondUsed) sameBssid

theorem HasAged.of_aged {bssid : Bssid} {age : Int} (inv : CacheInv scanList)
    (canAge : scanList.CanAge) (same : SamePointers scanList aged)
    (entries : ∀ i, i < cachedApCount → aged.sorted i =
      if i < scanList.apCacheCount then (scanList.sorted i).ageOnce else scanList.sorted i)
    (used : 0 < age) (has : scanList.HasAged bssid age) : aged.HasAged bssid (age + 1) := by
  rcases has with ⟨ap, inside, isBssid, isAge⟩
  rcases inv.aged_entries canAge same entries inside with ⟨sameBssid, _, older⟩
  refine ⟨ap, inside, sameBssid.trans isBssid, ?_⟩
  rw [older (isAge ▸ used), isAge]

/-- The aged cache finds what the cache finds. -/
theorem CacheInv.findApInCache_aged (inv : CacheInv scanList) (agedInv : CacheInv aged)
    (same : SamePointers scanList aged)
    (entries : ∀ i, i < cachedApCount → aged.sorted i =
      if i < scanList.apCacheCount then (scanList.sorted i).ageOnce else scanList.sorted i)
    (bssid : Bssid) : aged.findApInCache bssid = scanList.findApInCache bssid := by
  have counted : scanList.apCacheCount ≤ aged.apCacheCount := same.apCacheCount.ge
  refine findApInCache_of_counted same.apCacheCount inv.filled
    (Nat.le_refl _) agedInv.filled counted
    (fun i inside => ?_) bssid
  rw [entries i (inside.trans_le inv.filled.within), if_pos inside]
  rfl

/-- A successful scan that enters no BSSID twice leaves the entries unique. -/
theorem CacheInv.enterResults_unique (inv : CacheInv aged) (unique : aged.Unique)
    {results : ScanResults} (once : aged.EntersOnce results) :
    (aged.enterResults results).Unique := by
  have start : Entered aged [] aged.apCacheCount aged := by
    refine ⟨⟨inv.permuted, inv.filled, Nat.le_refl _⟩, .refl aged, ?_⟩
    rw [fresh, List.filter_nil, List.map_nil, List.take_nil, List.append_nil]
  rcases start.foldl inv.filled results.reported with ⟨n, entered⟩
  have nodup : ((results.reported.foldl ScanList.enter aged).bssids n).Nodup := by
    rw [entered.bssids, List.nodup_append']
    refine ⟨unique.nodup inv.permuted inv.filled, once, fun bssid known isFresh => ?_⟩
    rcases List.mem_map.mp known with ⟨i, inside, isBssid⟩
    rcases List.mem_map.mp (List.mem_of_mem_take isFresh) with ⟨result, isNew, rfl⟩
    have missing := of_decide_eq_true (List.mem_filter.mp isNew).2
    have counted := List.mem_range.mp inside
    have found := List.find?_eq_none.mp missing i inside
    simp only [decide_eq_true_eq] at found
    exact found ⟨inv.filled.used i counted, isBssid.symm⟩
  have after := unique_of_nodup entered.permuted entered.filled nodup
  exact entered.toEntering.finish.1 after

theorem CacheInv.enterResults_hasAged (inv : CacheInv aged) {results : ScanResults}
    {earlier : List WifiScanResult} {result : WifiScanResult}
    (isReported : earlier ++ [result] <+: results.reported) :
    (∀ ap, ap < cachedApCount → 0 < ((earlier.foldl ScanList.enter aged).cachedAps ap).age) ∨
      (aged.enterResults results).HasAged result.bssid 1 := by
  have start : Entering aged.apCacheCount aged := ⟨inv.permuted, inv.filled, Nat.le_refl _⟩
  rcases start.foldl_hasAged isReported with full | has
  · exact .inl full
  · rcases start.foldl results.reported with ⟨n, entered, _⟩
    exact .inr (entered.finish.2 _ has)

end

/-! ## Sequences of scans -/

/-- What every scan keeps. -/
structure ScanInv (scanList : ScanList) : Prop where
  inv : CacheInv scanList
  unique : scanList.Unique

theorem scanInv_reset (networkGet : Nat → Option WifiNetworkProfile) :
    ScanInv (.reset networkGet) := by
  refine ⟨cacheInv_reset networkGet, fun _ _ _ _ used => ?_⟩
  exact absurd used (Int.lt_irrefl 0)

/-- A scan's assertion holds, and what the scan leaves. -/
theorem ScanInv.scan (good : ScanInv scanList) (scanned : Option ScanResults)
    (once : ScansOnce scanList (.scanNetworks scanned)) :
    ∃ target, nextCache scanList (.scanNetworks scanned) = some target ∧ ScanInv target ∧
      match scanned with
      | none => ∀ bssid age, 0 < age → scanList.HasAged bssid age → target.HasAged bssid (age + 1)
      | some results => ∀ earlier result, earlier ++ [result] <+: results.reported →
          scanList.FullAfter earlier ∨ target.HasAged result.bssid 1 := by
  have canAge : scanList.CanAge := by
    cases scanned with
    | none => exact once
    | some results => exact once.1
  rcases good.inv.ageAll with ⟨aged, folded, same, entries⟩
  have agedInv := good.inv.aged canAge same entries
  have agedUnique := good.unique.of_aged good.inv canAge same entries
  cases scanned with
  | none =>
      refine ⟨aged, ?_, ⟨agedInv, agedUnique⟩, fun bssid age used has => ?_⟩
      · rw [nextCache, scanNetworks, folded]
        rfl
      · exact has.of_aged good.inv canAge same entries used
  | some results =>
      have agedOnce : aged.EntersOnce results := by
        rw [EntersOnce, fresh, same.apCacheCount]
        simp only [good.inv.findApInCache_aged agedInv same entries]
        exact once.2
      refine ⟨aged.enterResults results, ?_, ⟨(agedInv.enterResults results).1,
        agedInv.enterResults_unique agedUnique agedOnce⟩, fun earlier result isReported => ?_⟩
      · rw [nextCache, scanNetworks, folded]
        rfl
      · rcases agedInv.enterResults_hasAged isReported with full | has
        · refine .inl ⟨earlier.foldl ScanList.enter aged, ?_, full⟩
          rw [reporting, folded]
          rfl
        · exact .inr has

theorem ScanInv.scans (good : ScanInv scanList) (scans : List (Option ScanResults))
    (met : StepsMeet nextCache scanList (scans.map .scanNetworks) ScansOnce) :
    ∃ target, run nextCache scanList (scans.map .scanNetworks) = some target ∧
      ScanInv target := by
  induction scans generalizing scanList with
  | nil => exact ⟨scanList, rfl, good⟩
  | cons scanned scans ih =>
      rw [List.map_cons] at met ⊢
      have isSome := good.inv.scanNetworks_isSome scanned
      rcases Option.isSome_iff_exists.mp isSome with ⟨outcome, scan⟩
      have step : nextCache scanList (.scanNetworks scanned) = some outcome.2 := by
        rw [nextCache, scan]
        rfl
      rcases stepsMeet_cons_iff.mp met outcome.2 step with ⟨once, later⟩
      rcases good.scan scanned once with ⟨middle, same, after, _⟩
      obtain rfl : outcome.2 = middle := Option.some.inj (step.symm.trans same)
      rcases ih after later with ⟨target, executed, last⟩
      exact ⟨target, by rw [run, step]; exact executed, last⟩

/-- Failed scans in a row add one each to the age of an entry. -/
theorem ScanInv.fails {bssid : Bssid} {age : Int} (good : ScanInv scanList) (used : 0 < age)
    (has : scanList.HasAged bssid age) (failures : Nat)
    (met : StepsMeet nextCache scanList ((List.replicate failures none).map .scanNetworks)
      ScansOnce) :
    ∃ target, run nextCache scanList ((List.replicate failures none).map .scanNetworks) =
      some target ∧ target.HasAged bssid (age + failures) := by
  induction failures generalizing scanList age with
  | zero =>
      refine ⟨scanList, rfl, ?_⟩
      rwa [Int.natCast_zero, Int.add_zero]
  | succ failures ih =>
      rw [List.replicate_succ, List.map_cons] at met ⊢
      rcases Option.isSome_iff_exists.mp (good.inv.scanNetworks_isSome none) with
        ⟨outcome, scan⟩
      have step : nextCache scanList (.scanNetworks none) = some outcome.2 := by
        rw [nextCache, scan]
        rfl
      rcases stepsMeet_cons_iff.mp met outcome.2 step with ⟨canAge, later⟩
      rcases good.scan none canAge with ⟨middle, same, after, older⟩
      obtain rfl : outcome.2 = middle := Option.some.inj (step.symm.trans same)
      have positive : 0 < age + 1 := used.trans (Int.lt_succ age)
      rcases ih after positive (older bssid age used has) later with ⟨target, executed, last⟩
      have total : age + 1 + (failures : Int) = age + (failures + 1 : Nat) := by
        rw [Int.natCast_succ, Int.add_assoc, Int.add_comm 1]
      rw [total] at last
      exact ⟨target, by rw [run, step]; exact executed, last⟩

end ScanList

/-- Scans that find every age below the largest `int` and enter no BSSID twice: all their
assertions hold and no two entries in use have the same BSSID.  A result of the last
successful scan has an entry whose age counts that scan and the failed ones since,
unless every entry was in use when the result was reported. -/
theorem aps_unique (networkGet : Nat → Option WifiNetworkProfile)
    (scans : List (Option ScanResults))
    (met : StepsMeet nextCache (.reset networkGet) (scans.map .scanNetworks) ScansOnce) :
    ∃ target, run nextCache (.reset networkGet) (scans.map .scanNetworks) = some target ∧
      target.Unique ∧
      ∀ before results failures,
        scans = before ++ some results :: List.replicate failures none →
        ∃ source, run nextCache (.reset networkGet) (before.map .scanNetworks) = some source ∧
          ∀ earlier result, earlier ++ [result] <+: results.reported →
            source.FullAfter earlier ∨ target.HasAged result.bssid (1 + failures) := by
  have start := ScanList.scanInv_reset networkGet
  rcases start.scans scans met with ⟨target, executed, good⟩
  refine ⟨target, executed, good.unique, ?_⟩
  rintro before results failures rfl
  rw [List.map_append, List.map_cons] at met executed
  rcases start.scans before (met.of_prefix (List.prefix_append _ _)) with
    ⟨source, reached, sourceGood⟩
  have rest := met.of_append reached
  rw [run_append, reached, Option.bind_some] at executed
  rcases Option.isSome_iff_exists.mp (sourceGood.inv.scanNetworks_isSome (some results)) with
    ⟨outcome, scan⟩
  have step : nextCache source (.scanNetworks (some results)) = some outcome.2 := by
    rw [nextCache, scan]
    rfl
  rcases stepsMeet_cons_iff.mp rest outcome.2 step with ⟨once, later⟩
  rcases sourceGood.scan (some results) once with ⟨middle, same, after, entered⟩
  obtain rfl : outcome.2 = middle := Option.some.inj (step.symm.trans same)
  rw [run, step, Option.bind_some] at executed
  refine ⟨source, reached, fun earlier result isReported => ?_⟩
  rcases entered earlier result isReported with full | has
  · exact .inl full
  · rcases after.fails Int.zero_lt_one has failures later with ⟨last, ran, isAged⟩
    obtain rfl : last = target := Option.some.inj (ran.symm.trans executed)
    exact .inr isAged

theorem findAndFail_aps_unique :
    let scans := [some oneNetwork, none, some oneNetwork]
    ∃ target, run nextCache (.reset fun _ => none) (scans.map .scanNetworks) = some target ∧
      target.Unique ∧
      ∀ before results failures,
        scans = before ++ some results :: List.replicate failures none →
        ∃ source, run nextCache (.reset fun _ => none) (before.map .scanNetworks) = some source ∧
          ∀ earlier result, earlier ++ [result] <+: results.reported →
            source.FullAfter earlier ∨ target.HasAged result.bssid (1 + failures) :=
  aps_unique (fun _ => none) [some oneNetwork, none, some oneNetwork] (by decide +kernel)

/-- The network of `oneNetwork`, reported twice. -/
def networkTwice : ScanResults := fun i =>
  if i.val < 2 then ⟨[65], foundBssid, -40, 6⟩ else ⟨[], noBssid, 0, 0⟩

/-- Both results are entered, as neither has an entry that was counted before the scan;
and a scan that fails makes the entries of the last successful one older. -/
theorem networkTwice_not_unique :
    (∃ target, run nextCache (.reset fun _ => none) [.scanNetworks (some networkTwice)] =
      some target ∧ ¬ target.Unique) ∧
    ∃ source target result,
      nextCache (.reset fun _ => none) (.scanNetworks (some oneNetwork)) = some source ∧
      nextCache source (.scanNetworks none) = some target ∧
      [] ++ [result] <+: oneNetwork.reported ∧
      ¬ (ScanList.reset fun _ => none).FullAfter [] ∧ ¬ target.HasAged result.bssid 1 := by
  constructor
  · have found : (run nextCache (.reset fun _ => none) [.scanNetworks (some networkTwice)]).map
        (fun scanList => decide (0 < (scanList.cachedAps 0).age ∧
          0 < (scanList.cachedAps 1).age ∧
          (scanList.cachedAps 0).bssid = (scanList.cachedAps 1).bssid)) = some true := by
      decide +kernel
    rcases Option.map_eq_some_iff.mp found with ⟨target, executed, holds⟩
    rcases of_decide_eq_true holds with ⟨firstUsed, secondUsed, same⟩
    refine ⟨target, executed, fun unique => ?_⟩
    have equal := unique 0 1 (by decide) (by decide) firstUsed secondUsed same
    exact absurd equal (by decide)
  · have found : ((nextCache (.reset fun _ => none) (.scanNetworks (some oneNetwork))).bind
        fun source => nextCache source (.scanNetworks none)).map
        (fun scanList => decide (∀ ap, ap < cachedApCount → (scanList.cachedAps ap).age ≠ 1)) =
          some true := by
      decide +kernel
    rcases Option.map_eq_some_iff.mp found with ⟨target, executed, holds⟩
    rcases Option.bind_eq_some_iff.mp executed with ⟨source, first, second⟩
    have noneNew := of_decide_eq_true holds
    refine ⟨source, target, ⟨[65], foundBssid, -40, 6⟩, first, second, by decide +kernel,
      ?_, ?_⟩
    · rintro ⟨entered, reported, full⟩
      obtain rfl : ScanList.reset (fun _ => none) = entered := Option.some.inj reported
      exact absurd (full 0 (by decide)) (Int.lt_irrefl 0)
    · rintro ⟨ap, inside, _, isNew⟩
      exact noneNew ap inside isNew

end FwkRtos.WifiManager

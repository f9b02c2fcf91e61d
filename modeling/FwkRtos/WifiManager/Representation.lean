import FwkRtos.Sorting.Macros
import FwkRtos.WifiManager.ApCache
import Mathlib.Data.Set.Function
import Mathlib.Order.Interval.Set.Defs

/-!
# The cache and its sorted pointers

The pointers are a permutation of the addresses of the entries, and those in
front point to the entries in use.  Within a scan the entries in use are the
first `n`, where `n` may run ahead of the count.
-/

namespace FwkRtos.WifiManager

open FwkRtos.Transition

variable {scanList target : ScanList}

namespace ScanList

/-- The pointers are a permutation of the addresses. -/
def Permuted (scanList : ScanList) : Prop :=
  Set.BijOn scanList.sortedAps (Set.Iio cachedApCount) (Set.Iio cachedApCount)

/-- The cache is what the sorted pointers say: they are a permutation, and the entries
in use are those of the first `apCacheCount`. -/
structure Represented (scanList : ScanList) : Prop where
  permuted : scanList.Permuted
  count_le : scanList.apCacheCount ≤ cachedApCount
  inUse : ∀ ap, ap < cachedApCount →
    (0 < (scanList.cachedAps ap).age ↔
      ∃ i, i < scanList.apCacheCount ∧ scanList.sortedAps i = ap)

/-- The entries in use are in descending order of their signal strength. -/
def Descending (scanList : ScanList) : Prop :=
  ∀ i j, i < j → j < scanList.apCacheCount → (scanList.sorted j).rssi ≤ (scanList.sorted i).rssi

/-- The first `n` pointers are those of the entries in use. -/
structure FilledTo (n : Nat) (scanList : ScanList) : Prop where
  within : n ≤ cachedApCount
  used : ∀ i, i < n → 0 < (scanList.sorted i).age
  free : ∀ i, n ≤ i → i < cachedApCount → (scanList.sorted i).age = 0

/-- The cache between two operations. -/
structure CacheInv (scanList : ScanList) : Prop where
  permuted : scanList.Permuted
  filled : FilledTo scanList.apCacheCount scanList

/-- Only entries differ. -/
structure SamePointers (scanList target : ScanList) : Prop where
  sortedAps : target.sortedAps = scanList.sortedAps
  apCacheCount : target.apCacheCount = scanList.apCacheCount
  savedProfiles : target.savedProfiles = scanList.savedProfiles

namespace SamePointers

theorem refl (scanList : ScanList) : SamePointers scanList scanList :=
  ⟨rfl, rfl, rfl⟩

theorem trans {middle : ScanList} (first : SamePointers scanList middle)
    (second : SamePointers middle target) : SamePointers scanList target :=
  ⟨second.sortedAps.trans first.sortedAps, second.apCacheCount.trans first.apCacheCount,
    second.savedProfiles.trans first.savedProfiles⟩

theorem permuted (same : SamePointers scanList target) (permuted : scanList.Permuted) :
    target.Permuted := by
  unfold Permuted
  rw [same.sortedAps]
  exact permuted

theorem modify (scanList : ScanList) (ap : Nat) (change : ApInfo → ApInfo) :
    SamePointers scanList (scanList.modify ap change) :=
  ⟨rfl, rfl, rfl⟩

end SamePointers

theorem CacheInv.represented (inv : CacheInv scanList) : Represented scanList := by
  refine ⟨inv.permuted, inv.filled.within, ?_⟩
  intro ap inside
  obtain ⟨i, within, rfl⟩ := inv.permuted.surjOn inside
  constructor
  · intro inUse
    refine ⟨i, ?_, rfl⟩
    by_contra beyond
    have unused := inv.filled.free i (Nat.le_of_not_lt beyond) within
    exact absurd unused (Int.ne_of_gt inUse)
  · rintro ⟨j, counted, same⟩
    have used := inv.filled.used j counted
    rwa [ScanList.sorted, same] at used

/-! ## Changes of one entry -/

theorem modify_sorted_self (scanList : ScanList) (i : Nat) (change : ApInfo → ApInfo) :
    (scanList.modify (scanList.sortedAps i) change).sorted i = change (scanList.sorted i) :=
  Function.update_self _ _ _

theorem Permuted.modify_sorted_other (permuted : scanList.Permuted) {i j : Nat}
    (change : ApInfo → ApInfo) (iInside : i < cachedApCount) (jInside : j < cachedApCount)
    (different : j ≠ i) :
    (scanList.modify (scanList.sortedAps i) change).sorted j = scanList.sorted j :=
  Function.update_of_ne (fun same => different (permuted.injOn jInside iInside same)) _ _

/-- A change that leaves a used entry in use keeps the used entries in front. -/
theorem FilledTo.modify {n i : Nat} {change : ApInfo → ApInfo} (filled : FilledTo n scanList)
    (permuted : scanList.Permuted) (inside : i < n)
    (inUse : 0 < (change (scanList.sorted i)).age) :
    FilledTo n (scanList.modify (scanList.sortedAps i) change) := by
  have iInside := inside.trans_le filled.within
  refine ⟨filled.within, ?_, ?_⟩
  · intro j used
    by_cases same : j = i
    · subst same
      rwa [modify_sorted_self]
    · rw [permuted.modify_sorted_other change iInside (used.trans_le filled.within) same]
      exact filled.used j used
  · intro j beyond jInside
    rw [permuted.modify_sorted_other change iInside jInside (by omega)]
    exact filled.free j beyond jInside

/-- A new entry is put behind the used ones. -/
theorem FilledTo.grow {n : Nat} {change : ApInfo → ApInfo} (filled : FilledTo n scanList)
    (permuted : scanList.Permuted) (inside : n < cachedApCount)
    (inUse : 0 < (change (scanList.sorted n)).age) :
    FilledTo (n + 1) (scanList.modify (scanList.sortedAps n) change) := by
  refine ⟨inside, ?_, ?_⟩
  · intro j used
    by_cases same : j = n
    · subst same
      rwa [modify_sorted_self]
    · rw [permuted.modify_sorted_other change inside (by omega) same]
      exact filled.used j (by omega)
  · intro j beyond jInside
    rw [permuted.modify_sorted_other change inside jInside (by omega)]
    exact filled.free j (by omega) jInside

/-! ## The ageing loop -/

/-- The loop ages the first entries, and its assertion holds when they are in use. -/
theorem Permuted.foldlM_ageAt (permuted : scanList.Permuted) {passes : Nat}
    (within : passes ≤ cachedApCount) (used : ∀ i, i < passes → 0 < (scanList.sorted i).age) :
    ∃ aged, (List.range passes).foldlM ageAt scanList = some aged ∧ SamePointers scanList aged ∧
      ∀ i, i < cachedApCount → aged.sorted i =
        if i < passes then (scanList.sorted i).ageOnce else scanList.sorted i := by
  induction passes with
  | zero => exact ⟨scanList, rfl, .refl scanList, fun i _ => rfl⟩
  | succ passes ih =>
      obtain ⟨middle, folded, same, aged⟩ :=
        ih (Nat.le_of_succ_le within) fun i inside => used i (Nat.lt_succ_of_lt inside)
      have isPermuted := same.permuted permuted
      have next := aged passes within
      rw [if_neg (Nat.lt_irrefl passes)] at next
      refine ⟨middle.modify (middle.sortedAps passes) ApInfo.ageOnce, ?_,
        same.trans (.modify middle _ _), ?_⟩
      · rw [List.range_succ, List.foldlM_append, folded]
        have isUsed := used passes (Nat.lt_succ_self passes)
        rw [← next] at isUsed
        simp [ageAt, isUsed]
      · intro i inside
        by_cases isNext : i = passes
        · subst isNext
          rw [modify_sorted_self, next, if_pos (Nat.lt_succ_self i)]
        · rw [isPermuted.modify_sorted_other _ within inside isNext, aged i inside]
          exact if_congr (by omega) rfl rfl

/-! ## Entering the results -/

theorem findApInCache_eq_some {bssid : Bssid} {i : Nat}
    (found : scanList.findApInCache bssid = some i) :
    i < scanList.apCacheCount ∧ bssid = (scanList.sorted i).bssid := by
  have holds := List.find?_some found
  simp only [decide_eq_true_eq] at holds
  exact ⟨List.mem_range.mp (List.mem_of_find?_eq_some found), holds.2⟩

/-- The place that `add_ap_to_cache` finds is the one behind the used entries. -/
theorem FilledTo.find_free {n : Nat} (filled : FilledTo n scanList) :
    (List.range cachedApCount).find? (fun i => (scanList.sorted i).age = 0) =
      if n < cachedApCount then some n else none := by
  by_cases room : n < cachedApCount
  · rw [if_pos room, List.find?_range_eq_some]
    refine ⟨decide_eq_true (filled.free n (Nat.le_refl n) room), List.mem_range.mpr room, ?_⟩
    intro i before
    have used := filled.used i before
    simpa using Int.ne_of_gt used
  · rw [if_neg room, List.find?_eq_none]
    intro i inside
    have used := filled.used i (by have := List.mem_range.mp inside; omega)
    simpa using Int.ne_of_gt used

/-- The aged cache while results are entered: the used entries are in front, and those
that were counted are among them. -/
structure Entering (n : Nat) (scanList : ScanList) : Prop where
  permuted : scanList.Permuted
  filled : FilledTo n scanList
  counted : scanList.apCacheCount ≤ n

theorem Entering.addApToCache {n : Nat} (entering : Entering n scanList)
    (result : WifiScanResult) :
    ∃ more, n ≤ more ∧ Entering more (scanList.addApToCache result) ∧
      SamePointers scanList (scanList.addApToCache result) := by
  unfold ScanList.addApToCache
  rw [entering.filled.find_free]
  by_cases room : n < cachedApCount
  · rw [if_pos room]
    have same := SamePointers.modify scanList (scanList.sortedAps n) fun _ =>
      .ofScanResult scanList.savedProfiles result
    exact ⟨n + 1, Nat.le_succ n, ⟨same.permuted entering.permuted,
      entering.filled.grow entering.permuted room Int.zero_lt_one,
      entering.counted.trans (Nat.le_succ n)⟩, same⟩
  · rw [if_neg room]
    exact ⟨n, Nat.le_refl n, entering, .refl scanList⟩

theorem Entering.enter {n : Nat} (entering : Entering n scanList) (result : WifiScanResult) :
    ∃ more, n ≤ more ∧ Entering more (scanList.enter result) ∧
      SamePointers scanList (scanList.enter result) := by
  unfold ScanList.enter
  cases found : scanList.findApInCache result.bssid with
  | none => exact entering.addApToCache result
  | some i =>
      have inside := (findApInCache_eq_some found).1.trans_le entering.counted
      have same := SamePointers.modify scanList (scanList.sortedAps i) fun ap =>
        { ap with age := 1, channel := result.channel }.updateApRssi result.rssi
      exact ⟨n, Nat.le_refl n, ⟨same.permuted entering.permuted,
        entering.filled.modify entering.permuted inside Int.zero_lt_one, entering.counted⟩, same⟩

theorem Entering.foldl {n : Nat} (entering : Entering n scanList)
    (results : List WifiScanResult) :
    ∃ more, Entering more (results.foldl ScanList.enter scanList) ∧
      SamePointers scanList (results.foldl ScanList.enter scanList) := by
  induction results generalizing n scanList with
  | nil => exact ⟨n, entering, .refl scanList⟩
  | cons result results ih =>
      obtain ⟨more, _, entered, same⟩ := entering.enter result
      obtain ⟨most, all, sameAll⟩ := ih entered
      exact ⟨most, all, same.trans sameAll⟩

/-! ## The expiry loop -/

/-- What the loop makes of an entry in use. -/
def expire (ap : ApInfo) : ApInfo :=
  if apCacheEntryMaxAge < ap.age then { ap with age := 0 } else ap

theorem expire_age_nonneg {ap : ApInfo} (inUse : 0 < ap.age) : 0 ≤ (expire ap).age := by
  unfold expire
  by_cases old : apCacheEntryMaxAge < ap.age
  · rw [if_pos old]
  · rw [if_neg old]
    exact inUse.le

/-- The loop ends behind the used entries and gives up the old ones among them. -/
theorem Permuted.expireFrom (permuted : scanList.Permuted) {i n remaining : Nat} (started : i ≤ n)
    (all : i + remaining = cachedApCount) (within : n ≤ cachedApCount)
    (used : ∀ j, i ≤ j → j < n → 0 < (scanList.sorted j).age)
    (free : ∀ j, n ≤ j → j < cachedApCount → (scanList.sorted j).age = 0) :
    (scanList.expireFrom i remaining).1 = n ∧
      SamePointers scanList (scanList.expireFrom i remaining).2 ∧
      ∀ j, j < cachedApCount → (scanList.expireFrom i remaining).2.sorted j =
        if i ≤ j ∧ j < n then expire (scanList.sorted j) else scanList.sorted j := by
  induction remaining generalizing i scanList with
  | zero =>
      refine ⟨show i = n by omega, .refl scanList, ?_⟩
      intro j inside
      exact (if_neg (by omega)).symm
  | succ remaining ih =>
      by_cases atEnd : i = n
      · subst atEnd
        have unused := free i (Nat.le_refl i) (by omega)
        have notOld : ¬ apCacheEntryMaxAge < (scanList.sorted i).age := by
          rw [unused]
          decide
        rw [ScanList.expireFrom, if_neg notOld, if_pos unused]
        refine ⟨rfl, .refl scanList, ?_⟩
        intro j _
        exact (if_neg (by omega)).symm
      · have inUse := used i (Nat.le_refl i) (by omega)
        by_cases old : apCacheEntryMaxAge < (scanList.sorted i).age
        · rw [ScanList.expireFrom, if_pos old]
          have same := SamePointers.modify scanList (scanList.sortedAps i) fun ap =>
            { ap with age := 0 }
          have other : ∀ j, j < cachedApCount → j ≠ i →
              (scanList.modify (scanList.sortedAps i) fun ap => { ap with age := 0 }).sorted j =
                scanList.sorted j :=
            fun j inside different =>
              permuted.modify_sorted_other _ (by omega) inside different
          obtain ⟨ends, sameAfter, entries⟩ := ih (same.permuted permuted)
            (show i + 1 ≤ n by omega) (by omega)
            (fun j behind before => by
              rw [other j (by omega) (by omega)]
              exact used j (by omega) before)
            (fun j behind inside => by
              rw [other j inside (by omega)]
              exact free j behind inside)
          refine ⟨ends, same.trans sameAfter, ?_⟩
          intro j inside
          rw [entries j inside]
          by_cases isFirst : j = i
          · subst isFirst
            rw [if_neg (by omega), if_pos (by omega), modify_sorted_self, expire, if_pos old]
          · rw [other j inside isFirst]
            exact if_congr (by omega) rfl rfl
        · rw [ScanList.expireFrom, if_neg old, if_neg (Int.ne_of_gt inUse)]
          obtain ⟨ends, sameAfter, entries⟩ := ih permuted (show i + 1 ≤ n by omega) (by omega)
            (fun j behind before => used j (by omega) before) free
          refine ⟨ends, sameAfter, ?_⟩
          intro j inside
          rw [entries j inside]
          by_cases isFirst : j = i
          · subst isFirst
            rw [if_neg (by omega), if_pos (by omega), expire, if_neg old]
          · exact if_congr (by omega) rfl rfl

/-! ## Sorting -/

theorem apCmp_neg_iff {a b : ApInfo} :
    apCmp a b < 0 ↔ a.age ≠ 0 ∧ (b.age = 0 ∨ b.rssi < a.rssi) := by
  unfold apCmp
  by_cases aFree : a.age = 0
  · simp [aFree]
  · by_cases bFree : b.age = 0
    · simp [aFree, bFree]
    · by_cases stronger : a.rssi > b.rssi
      · simp [aFree, bFree, stronger]
      · simp [aFree, bFree, stronger]

/-- The comparator is a strict weak order, although ties compare as 1 in both
directions. -/
instance apCmp_strictWeakOrder (aps : Nat → ApInfo) :
    IsStrictWeakOrder Nat fun a b => apCmp (aps a) (aps b) < 0 where
  irrefl a := by
    rw [apCmp_neg_iff]
    omega
  trans a b c := by
    simp only [apCmp_neg_iff]
    omega
  incomp_trans a b c := by
    simp only [apCmp_neg_iff]
    omega

/-- The indices of the cache are far from overflowing, so the macro sorts the pointers. -/
theorem heapsort_sortedAps (scanList : ScanList) {length : Nat} (within : length ≤ cachedApCount) :
    Sorting.Macros.heapsort
        (fun a b => apCmp (scanList.cachedAps a) (scanList.cachedAps b)) length
        scanList.sortedAps =
      some (scanList.sortAps length).sortedAps :=
  Sorting.Macros.heapsort_eq (within.trans (by decide))

/-- Sorting keeps the permutation and the entries. -/
theorem Permuted.sortAps (permuted : scanList.Permuted) {length : Nat}
    (within : length ≤ cachedApCount) : (scanList.sortAps length).Permuted := by
  obtain ⟨moved, fixed, same⟩ := Sorting.heapsort_rearranges
    (fun a b => apCmp (scanList.cachedAps a) (scanList.cachedAps b)) length scanList.sortedAps
  have inside : ∀ {i}, moved i < cachedApCount ↔ i < cachedApCount := by
    intro i
    by_cases beyond : length ≤ i
    · rw [fixed i beyond]
    · have notMoved : ¬ length ≤ moved i := by
        intro out
        exact beyond (by rwa [moved.injective (fixed (moved i) out)] at out)
      omega
  have isMoved : Set.BijOn moved (Set.Iio cachedApCount) (Set.Iio cachedApCount) := by
    refine ⟨fun i => inside.mpr, moved.injective.injOn, ?_⟩
    intro i within
    refine ⟨moved.symm i, ?_, moved.apply_symm_apply i⟩
    rwa [Set.mem_Iio, ← inside, moved.apply_symm_apply]
  show Set.BijOn (Sorting.heapsort _ length scanList.sortedAps) _ _
  rw [same]
  exact permuted.comp isMoved

theorem sortAps_sorted_outside (scanList : ScanList) {length i : Nat} (outside : length ≤ i) :
    (scanList.sortAps length).sorted i = scanList.sorted i :=
  congrArg scanList.cachedAps ((Sorting.heapsort_rearranges _ length _).outside outside)

/-- An entry of the sorted part comes from the part that was sorted. -/
theorem sortAps_sorted_inside (scanList : ScanList) {length i : Nat} (inside : i < length) :
    ∃ j, j < length ∧ (scanList.sortAps length).sorted i = scanList.sorted j := by
  obtain ⟨j, within, same⟩ := (Sorting.heapsort_rearranges
    (fun a b => apCmp (scanList.cachedAps a) (scanList.cachedAps b)) length
    scanList.sortedAps).inside inside
  exact ⟨j, within, congrArg scanList.cachedAps same⟩

/-- Of two entries of the sorted part the later one does not compare less. -/
theorem sortAps_ordered (scanList : ScanList) {length i j : Nat} (isBefore : i < j)
    (inside : j < length) :
    ¬ apCmp ((scanList.sortAps length).sorted j) ((scanList.sortAps length).sorted i) < 0 :=
  Sorting.heapsort_sorted (fun a b => apCmp (scanList.cachedAps a) (scanList.cachedAps b)) length
    scanList.sortedAps isBefore inside

/-! ## The count -/

theorem countAps_le (scanList : ScanList) : scanList.countAps ≤ cachedApCount :=
  List.findIdx_le_length.trans List.length_range.le

theorem countAps_used (scanList : ScanList) {i : Nat} (counted : i < scanList.countAps) :
    0 < (scanList.sorted i).age := by
  have holds := List.not_of_lt_findIdx counted
  simpa using holds

/-- The entry at which the count ends is not in use. -/
theorem countAps_end (scanList : ScanList) (inside : scanList.countAps < cachedApCount) :
    ¬ 0 < (scanList.sorted scanList.countAps).age := by
  have ends := List.findIdx_getElem (w := show (List.range cachedApCount).findIdx
    (fun i => decide (¬ 0 < (scanList.sorted i).age)) < _ by rwa [List.length_range])
  simpa [countAps] using ends

end ScanList

end FwkRtos.WifiManager

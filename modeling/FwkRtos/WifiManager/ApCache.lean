import FwkRtos.Sorting.Heapsort
import FwkRtos.Transition.Labelled
import Mathlib.Logic.Function.Basic
import Mathlib.Data.List.ReduceOption
import Mathlib.Algebra.Ring.Int.Defs
import Mathlib.Algebra.Ring.Nat

/-!
# The access points of the connection manager

The cache is an array of entries, of which those with an age above zero are in
use, and an array of pointers to the entries, sorted by signal strength.  A
pointer is modelled by the index of its entry.  Results of the driver
(`WIFI_Scan`, `WIFI_ConnectAP`, `WIFI_NetworkGet`) are inputs.
-/

namespace FwkRtos.WifiManager

open FwkRtos.Transition

def maxScanCount : Nat := 20

def maxConnectionAttempts : Nat := 3

def cachedApCount : Nat := 2 * maxScanCount

def apCacheEntryMaxAge : Int := 5

def rssiHistoryLength : Nat := 16

def wificonfigMaxSsidLen : Nat := 32

def wificonfigMaxPassphraseLen : Nat := 32

/-- `SL_WFX_SSID_SIZE`. -/
def slWfxSsidSize : Nat := 32

abbrev Bssid := Vector UInt8 6

/-- The BSSID behind the last result of a scan. -/
def noBssid : Bssid :=
  Vector.replicate 6 0

/-- The characters of an array up to the terminator, at most `length` of them: two
arrays agree under `strncmp` when these do, and `strnlen` is their number. -/
def strn (chars : List UInt8) (length : Nat) : List UInt8 :=
  (chars.take length).takeWhile (· ≠ 0)

inductive WifiSecurity
  | open_
  | wep
  | wpa
  | wpa2
  | wpa2Ent
  | notSupported
  deriving DecidableEq

/-- `WIFINetworkProfile_t`. -/
structure WifiNetworkProfile where
  ssid : List UInt8
  ssidLength : UInt8
  password : List UInt8
  passwordLength : UInt8
  security : WifiSecurity
  deriving DecidableEq

/-- `WIFINetworkParams_t`. -/
structure WifiNetworkParams where
  ssid : List UInt8
  ssidLength : UInt8
  password : List UInt8
  passwordLength : UInt8
  security : WifiSecurity
  channel : Int8
  deriving DecidableEq

/-- `WIFIScanResult_t`. -/
structure WifiScanResult where
  ssid : List UInt8
  bssid : Bssid
  rssi : Int8
  channel : Int8
  deriving DecidableEq

/-- The buffer that `WIFI_Scan` fills. -/
abbrev ScanResults := Fin maxScanCount → WifiScanResult

/-- The results in front of the first one without a BSSID. -/
def ScanResults.reported (results : ScanResults) : List WifiScanResult :=
  (List.ofFn results).takeWhile fun result => result.bssid ≠ noBssid

/-! ## One entry -/

/-- `ap_info_t`. -/
structure ApInfo where
  /-- Zero when the entry is not in use. -/
  age : Int
  /-- What the pointer to one of the saved profiles points to. -/
  associatedProfile : Option WifiNetworkProfile
  rssiHist : Nat → Int8
  rssi : Int
  rrsiIndex : Nat
  stable : Bool
  bssid : Bssid
  channel : Int8
  connectFailed : Nat

namespace ApInfo

/-- The entry that `memset` leaves. -/
def cleared : ApInfo where
  age := 0
  associatedProfile := none
  rssiHist := fun _ => 0
  rssi := 0
  rrsiIndex := 0
  stable := false
  bssid := noBssid
  channel := 0
  connectFailed := 0

/-- `age++` on an `int` of 32 bits. -/
def ageOnce (ap : ApInfo) : ApInfo :=
  { ap with age := Int.bmod (ap.age + 1) (2 ^ 32) }

/-- `update_ap_rssi`: the strength is the average of the history, rounded to zero. -/
def updateApRssi (ap : ApInfo) (rssi : Int8) : ApInfo :=
  let rssiHist := Function.update ap.rssiHist ap.rrsiIndex rssi
  let full : Bool := ap.rrsiIndex + 1 = rssiHistoryLength
  { ap with
    rssiHist := rssiHist
    rrsiIndex := if full then 0 else ap.rrsiIndex + 1
    stable := if full then true else ap.stable
    rssi := (((List.range rssiHistoryLength).map fun i => (rssiHist i).toInt).sum).tdiv
      rssiHistoryLength }

/-- What an entry is set to for a network that is not in the cache. -/
def ofScanResult (savedProfiles : List WifiNetworkProfile) (result : WifiScanResult) :
    ApInfo where
  age := 1
  associatedProfile := savedProfiles.find? fun profile =>
    strn result.ssid wificonfigMaxSsidLen = strn profile.ssid wificonfigMaxSsidLen
  rssiHist := fun _ => result.rssi
  rssi := result.rssi.toInt
  rrsiIndex := 0
  stable := false
  bssid := result.bssid
  channel := result.channel
  connectFailed := 0

end ApInfo

/-- `ap_cmp`: entries that are not in use are greatest, and otherwise the weaker
signal is greater.  Two entries that tie compare as 1 in both directions. -/
def apCmp (a b : ApInfo) : Int :=
  if a.age = 0 then 1
  else if b.age = 0 then -1
  else if a.rssi > b.rssi then -1
  else 1

/-- The parameters that `connect_to_network` passes to `WIFI_ConnectAP`. -/
def networkParams (profile : WifiNetworkProfile) (ap : ApInfo) : WifiNetworkParams where
  ssid := profile.ssid
  ssidLength :=
    if (strn profile.ssid wificonfigMaxSsidLen).length < profile.ssidLength.toNat then
      UInt8.ofNat (strn profile.ssid wificonfigMaxSsidLen).length
    else
      profile.ssidLength
  password := profile.password
  passwordLength :=
    if (strn profile.password wificonfigMaxPassphraseLen).length < profile.passwordLength.toNat then
      UInt8.ofNat (strn profile.password wificonfigMaxPassphraseLen).length
    else
      profile.passwordLength
  security := profile.security
  channel := ap.channel

/-- What a call of `connect_to_network` leaves. -/
structure Connecting where
  ret : Int
  ap : ApInfo
  /-- The BSSID and the parameters that were passed to the `WIFI_ConnectAP` that
  succeeded. -/
  joined : Option (Bssid × WifiNetworkParams)

/-- `connect_to_network`, where `connected` says which attempts succeed. -/
def connectToNetwork (ap : ApInfo) (connected : Nat → Bool) : Connecting :=
  match ap.associatedProfile with
  | none => ⟨-1, ap, none⟩
  | some profile =>
      if ap.connectFailed < maxConnectionAttempts then
        if (List.range maxConnectionAttempts).any connected then
          ⟨0, { ap with connectFailed := 0 }, some (ap.bssid, networkParams profile ap)⟩
        else if ap.age = 1 then
          ⟨-1, { ap with connectFailed := ap.connectFailed + 1 }, none⟩
        else
          ⟨-1, { ap with age := apCacheEntryMaxAge }, none⟩
      else
        ⟨-1, ap, none⟩

/-! ## The cache -/

/-- `scan_list_t`.  The number of profiles is the length of their list. -/
structure ScanList where
  apCacheCount : Nat
  ssidScanSearchList : List (List UInt8)
  savedProfiles : List WifiNetworkProfile
  cachedAps : Nat → ApInfo
  sortedAps : Nat → Nat

namespace ScanList

def profileCount (scanList : ScanList) : Nat :=
  scanList.savedProfiles.length

/-- The entry that a sorted pointer points to. -/
def sorted (scanList : ScanList) (i : Nat) : ApInfo :=
  scanList.cachedAps (scanList.sortedAps i)

/-- Change the entry at a pointer. -/
def modify (scanList : ScanList) (ap : Nat) (change : ApInfo → ApInfo) : ScanList :=
  { scanList with
    cachedAps := Function.update scanList.cachedAps ap (change (scanList.cachedAps ap)) }

/-- `build_scan_search_list` reads the profiles until one fails. -/
def loadProfiles (networkGet : Nat → Option WifiNetworkProfile) : List WifiNetworkProfile :=
  (((List.range maxScanCount).map networkGet).takeWhile Option.isSome).reduceOption

/-- `reset_scan_search_list_and_ap_cache`. -/
def reset (networkGet : Nat → Option WifiNetworkProfile) : ScanList where
  apCacheCount := 0
  ssidScanSearchList :=
    (loadProfiles networkGet).map fun profile => strn profile.ssid slWfxSsidSize
  savedProfiles := loadProfiles networkGet
  cachedAps := fun _ => .cleared
  sortedAps := id

/-- `find_ap_in_cache`. -/
def findApInCache (scanList : ScanList) (bssid : Bssid) : Option Nat :=
  (List.range scanList.apCacheCount).find? fun i =>
    0 < (scanList.sorted i).age ∧ bssid = (scanList.sorted i).bssid

/-- `update_ap_in_cache`. -/
def updateApInCache (scanList : ScanList) (result : WifiScanResult) (cacheIndex : Nat) :
    ScanList :=
  scanList.modify (scanList.sortedAps cacheIndex) fun ap =>
    { ap with age := 1, channel := result.channel }.updateApRssi result.rssi

/-- `add_ap_to_cache` takes the first entry that is not in use, if there is one. -/
def addApToCache (scanList : ScanList) (result : WifiScanResult) : ScanList :=
  match (List.range cachedApCount).find? fun i => (scanList.sorted i).age = 0 with
  | none => scanList
  | some i =>
      scanList.modify (scanList.sortedAps i) fun _ =>
        .ofScanResult scanList.savedProfiles result

/-- Enter one result of a scan. -/
def enter (scanList : ScanList) (result : WifiScanResult) : ScanList :=
  match scanList.findApInCache result.bssid with
  | some i => scanList.updateApInCache result i
  | none => scanList.addApToCache result

/-- One pass of the loop that ages the entries, with its assertion. -/
def ageAt (scanList : ScanList) (i : Nat) : Option ScanList :=
  if 0 < (scanList.sorted i).age then
    some (scanList.modify (scanList.sortedAps i) ApInfo.ageOnce)
  else
    none

/-- The loop that gives up old entries.  It ends at the first entry that was not in
use, or after `remaining` passes. -/
def expireFrom (scanList : ScanList) : Nat → Nat → Nat × ScanList
  | i, 0 => (i, scanList)
  | i, remaining + 1 =>
      if apCacheEntryMaxAge < (scanList.sorted i).age then
        (scanList.modify (scanList.sortedAps i) fun ap => { ap with age := 0 }).expireFrom
          (i + 1) remaining
      else if (scanList.sorted i).age = 0 then
        (i, scanList)
      else
        scanList.expireFrom (i + 1) remaining

/-- Sort the first pointers. -/
def sortAps (scanList : ScanList) (length : Nat) : ScanList :=
  { scanList with
    sortedAps := Sorting.heapsort
      (fun a b => apCmp (scanList.cachedAps a) (scanList.cachedAps b)) length
      scanList.sortedAps }

/-- The number of entries in use in front of the first one that is not. -/
def countAps (scanList : ScanList) : Nat :=
  (List.range cachedApCount).findIdx fun i => ¬ 0 < (scanList.sorted i).age

/-- What a successful scan makes of the aged cache. -/
def enterResults (scanList : ScanList) (results : ScanResults) : ScanList :=
  let entered := results.reported.foldl enter scanList
  let expired := entered.expireFrom 0 cachedApCount
  let sorted := expired.2.sortAps expired.1
  { sorted with apCacheCount := sorted.countAps }

/-- `scan_networks`: the value that it returns and the cache, or nothing when its
assertion fails.  `none` is a scan that fails. -/
def scanNetworks (scanList : ScanList) (scanned : Option ScanResults) : Option (Int × ScanList) :=
  ((List.range scanList.apCacheCount).foldlM ageAt scanList).map fun aged =>
    match scanned with
    | none => (-1, aged)
    | some results => (0, aged.enterResults results)

end ScanList

/-! ## What happens to the cache -/

/-- The operations on the cache, with what the driver returns. -/
inductive CacheOp
  | scanNetworks (scanned : Option ScanResults)
  | connectToNetwork (i : Nat) (connected : Nat → Bool)
  | updateApRssi (ap : Nat) (rssi : Int8)
  | reload (networkGet : Nat → Option WifiNetworkProfile)

/-- Connections are attempted with entries in use; the strength is that of a connected
entry, which is any entry of the array.  There is no next cache when the assertion of
the scan fails. -/
def nextCache : LStep ScanList CacheOp
  | scanList, .scanNetworks scanned => (scanList.scanNetworks scanned).map Prod.snd
  | scanList, .connectToNetwork i connected =>
      if i < scanList.apCacheCount then
        some (scanList.modify (scanList.sortedAps i) fun ap => (connectToNetwork ap connected).ap)
      else
        none
  | scanList, .updateApRssi ap rssi =>
      if ap < cachedApCount then
        some (scanList.modify ap fun info => info.updateApRssi rssi)
      else
        none
  | _, .reload networkGet => some (.reset networkGet)

end FwkRtos.WifiManager

import FwkRtos.WifiManager.Scanning

/-!
# The connection manager

`wifi_conn_mgr` as a transition system.  A step runs the loop of the task up to
the next call whose outcome is an input: a scan, a connection, the callback, the
signal strength, a notification, the profiles that are read.
-/

namespace FwkRtos.WifiManager

open FwkRtos.Transition

def maxScanAttempts : Nat := 3

def maxConnectionAttemptsBeforeCallback : Nat := 5

def poorConnectionRssiThreshold : Int := -70

/-- `WIFI_CONN_MGR_MODE_STATION` and `WIFI_CONN_MGR_MODE_SOFT_AP`. -/
inductive Mode
  | station
  | softAp
  deriving DecidableEq

/-- The bits of a notification. -/
structure Notification where
  networkDown : Bool
  wifiReset : Bool
  wifiProfilesUpdated : Bool
  deriving DecidableEq

/-- Where the task is in its loop, with the locals of the iteration that are still
needed there. -/
inductive Point
  /-- At the start of the loop. -/
  | top
  /-- About to scan, after so many scans that failed. -/
  | scanning (poorSignal : Bool) (scanAttempts : Nat)
  /-- Behind the scans. -/
  | scanned (poorSignal : Bool)
  /-- About to connect to an entry. -/
  | connecting (i : Nat)
  /-- Behind the attempts to connect. -/
  | attempted
  /-- About to read the strength of the signal. -/
  | measuring
  /-- About to see whether to start a soft AP. -/
  | startingSoftAp
  /-- Waiting for a notification. -/
  | waiting
  /-- About to load the profiles, with the bit that says the network went down. -/
  | loading (networkDown : Bool)
  /-- About to deal with the network going down. -/
  | goneDown
  deriving DecidableEq

/-- The state of the task.  What was passed to the last `WIFI_ConnectAP` that succeeded
and whether a profile that is NULL was used are recorded besides. -/
structure Manager where
  scanList : ScanList
  connectedAp : Option Nat
  failedConnectionAttempts : Nat
  mode : Mode
  initiateDisconnect : Bool
  point : Point
  joined : Option (Bssid × WifiNetworkParams)
  nullProfileUsed : Bool

/-- What the calls of one step return. -/
inductive Event
  /-- The start of an iteration. -/
  | begin
  | scan (scanned : Option ScanResults)
  /-- Look for a better network. -/
  | choose
  | connect (connected : Nat → Bool)
  /-- The callback after the attempts returns a mode. -/
  | report (mode : Mode)
  | signalStrength (rcpi : Option UInt32)
  | startSoftAp
  /-- A notification or the timeout. -/
  | notified (bits : Option Notification)
  | load (networkGet : Nat → Option WifiNetworkProfile)
  /-- The answer of `WIFI_IsConnected` and the mode that the callback returns. -/
  | networkDown (isConnected : Bool) (mode : Mode)

namespace Manager

/-- The task at the start of its loop, with the profiles loaded and in the mode that the
callback returned. -/
def start (networkGet : Nat → Option WifiNetworkProfile) (mode : Mode) : Manager where
  scanList := .reset networkGet
  connectedAp := none
  failedConnectionAttempts := 0
  mode := mode
  initiateDisconnect := false
  point := .top
  joined := none
  nullProfileUsed := false

def moveTo (manager : Manager) (point : Point) : Manager :=
  { manager with point := point }

/-- The signal of the connected entry is poor. -/
def poorSignal (manager : Manager) : Bool :=
  match manager.connectedAp with
  | none => false
  | some ap =>
      (manager.scanList.cachedAps ap).stable &&
        (manager.scanList.cachedAps ap).rssi < poorConnectionRssiThreshold

/-- Start an iteration: scan first when there is no connection or a poor one. -/
def begin (manager : Manager) : Manager :=
  { manager with
    initiateDisconnect := false
    point :=
      match manager.mode with
      | .softAp => .startingSoftAp
      | .station =>
          if manager.connectedAp.isNone || manager.poorSignal then
            if 0 < manager.scanList.profileCount then .scanning manager.poorSignal 0
            else .scanned manager.poorSignal
          else
            .measuring }

/-- The entry is one to change to from the connected one. -/
def IsBetter (manager : Manager) (connected i : Nat) : Prop :=
  let ap := manager.scanList.sorted i
  manager.scanList.sortedAps i ≠ connected ∧ ap.connectFailed < maxConnectionAttempts ∧
    ap.associatedProfile.isSome = true ∧ ap.stable = true ∧
    (manager.scanList.cachedAps connected).rssi + 10 < ap.rssi

instance (manager : Manager) (connected i : Nat) : Decidable (manager.IsBetter connected i) :=
  inferInstanceAs (Decidable (_ ∧ _))

/-- The loop over the sorted entries ends at a better entry or at one that is not
stronger than the connected one. -/
def findsBetter (manager : Manager) (connected : Nat) : Bool :=
  match (List.range manager.scanList.apCacheCount).find? fun i =>
      manager.IsBetter connected i ∨
        (manager.scanList.sorted i).rssi ≤ (manager.scanList.cachedAps connected).rssi with
  | none => false
  | some i => manager.IsBetter connected i

/-- Give up a poor connection for a better one. -/
def choose (manager : Manager) (poorSignal : Bool) : Manager :=
  match manager.connectedAp, poorSignal with
  | some connected, true =>
      if manager.findsBetter connected then
        { manager with
          connectedAp := none
          initiateDisconnect := true
          point := .connecting 0 }
      else
        manager.moveTo .measuring
  | _, _ => manager.moveTo (.connecting 0)

/-- Try the entry `i`, and then the next ones until one connects. -/
def connect (manager : Manager) (i : Nat) (connected : Nat → Bool) : Manager :=
  if i < manager.scanList.apCacheCount then
    let ap := manager.scanList.sortedAps i
    let tried := connectToNetwork (manager.scanList.cachedAps ap) connected
    let scanList := manager.scanList.modify ap fun _ => tried.ap
    if tried.ret ≠ -1 then
      { manager with
        scanList := scanList
        connectedAp := some ap
        joined := tried.joined
        point := .attempted }
    else
      { manager with scanList := scanList, point := .connecting (i + 1) }
  else
    manager.moveTo .attempted

/-- Use the name of the connected network. -/
def useProfile (manager : Manager) : Manager :=
  match manager.connectedAp with
  | none => manager
  | some ap =>
      { manager with
        nullProfileUsed := manager.nullProfileUsed ||
          (manager.scanList.cachedAps ap).associatedProfile.isNone }

/-- Report the outcome of the attempts.  The mode that the callback returns counts only
when none succeeded. -/
def report (manager : Manager) (mode : Mode) : Manager :=
  match manager.connectedAp with
  | none =>
      let failed := manager.failedConnectionAttempts + 1
      if failed = maxConnectionAttemptsBeforeCallback ∨ manager.scanList.profileCount = 0 then
        { manager with failedConnectionAttempts := 0, mode := mode, point := .startingSoftAp }
      else
        { manager with failedConnectionAttempts := failed, point := .startingSoftAp }
  | some _ =>
      { manager.useProfile with failedConnectionAttempts := 0, point := .startingSoftAp }

/-- Enter the strength of the signal. -/
def measure (manager : Manager) (rcpi : Option UInt32) : Manager :=
  match manager.connectedAp, rcpi with
  | some ap, some rcpi =>
      { manager with
        scanList := manager.scanList.modify ap fun info =>
          info.updateApRssi (Int8.ofInt ((rcpi.toInt32.toInt - 220).tdiv 2))
        point := .startingSoftAp }
  | _, _ => manager.moveTo .startingSoftAp

/-- Take a notification. -/
def notified (manager : Manager) : Option Notification → Manager
  | none => manager.moveTo .top
  | some bits =>
      if bits.wifiReset then { manager with connectedAp := none, point := .top }
      else if bits.wifiProfilesUpdated then manager.moveTo (.loading bits.networkDown)
      else if bits.networkDown then manager.moveTo .goneDown
      else manager.moveTo .top

/-- The network went down. -/
def networkDown (manager : Manager) (isConnected : Bool) (mode : Mode) : Manager :=
  match manager.mode with
  | .station =>
      if isConnected then manager.moveTo .top
      else if manager.initiateDisconnect then
        { manager with connectedAp := none, point := .top }
      else
        { manager.useProfile with mode := mode, connectedAp := none, point := .top }
  | .softAp =>
      if isConnected then manager.moveTo .top
      else if mode = .softAp then { manager with mode := mode, point := .top }
      else { manager with mode := mode, connectedAp := none, point := .top }

/-- One step of the task.  There is none when the assertion of `scan_networks` fails. -/
def next : LStep Manager Event := fun manager event =>
  match manager.point, event with
  | .top, .begin => some manager.begin
  | .scanning poorSignal scanAttempts, .scan scanned =>
      (manager.scanList.scanNetworks scanned).map fun result =>
        { manager with
          scanList := result.2
          point :=
            if result.1 ≠ (0 : Int) ∧ scanAttempts + 1 < maxScanAttempts then
              .scanning poorSignal (scanAttempts + 1)
            else
              .scanned poorSignal }
  | .scanned poorSignal, .choose => some (manager.choose poorSignal)
  | .connecting i, .connect connected => some (manager.connect i connected)
  | .attempted, .report mode => some (manager.report mode)
  | .measuring, .signalStrength rcpi => some (manager.measure rcpi)
  | .startingSoftAp, .startSoftAp => some (manager.moveTo .waiting)
  | .waiting, .notified bits => some (manager.notified bits)
  | .loading networkDown, .load networkGet =>
      some
        { manager with
          scanList := .reset networkGet
          point := if networkDown then .goneDown else .top }
  | .goneDown, .networkDown isConnected mode => some (manager.networkDown isConnected mode)
  | _, _ => none

end Manager

end FwkRtos.WifiManager

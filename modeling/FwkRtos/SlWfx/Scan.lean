import FwkRtos.Transition.Labelled
import FwkRtos.WifiManager.ApCache

/-!
# Scans

`WIFI_Scan` points the globals of the scan to the buffer of its caller, sends the
command and waits for the completion bit.  The host task writes the results
through these globals, whichever scan they belong to.
-/

namespace FwkRtos.SlWfx.Scan

open FwkRtos.Transition
open FwkRtos.WifiManager (WifiSecurity wificonfigMaxSsidLen)

/-- `security_mode` of a result: its first byte and the bits that are looked at. -/
structure SecurityMode where
  bits : UInt8
  wep : Bool
  wpa : Bool
  wpa2 : Bool
  psk : Bool
  eap : Bool
  deriving DecidableEq

/-- `sl_wfx_scan_result_ind_body_t`. -/
structure Indication where
  ssid : List UInt8
  ssidLength : Nat
  mac : List UInt8
  channel : UInt16
  rcpi : UInt16
  securityMode : SecurityMode
  deriving DecidableEq

/-- `WIFIScanResult_t`. -/
structure ScanResult where
  cSsid : List UInt8
  ucBssid : List UInt8
  xSecurity : WifiSecurity
  cRssi : Int8
  cChannel : Int8
  ucHidden : UInt8
  deriving DecidableEq

/-- An entry behind `memset`; `eWiFiSecurityOpen` is 0. -/
def zeroed : ScanResult where
  cSsid := List.replicate (wificonfigMaxSsidLen + 1) 0
  ucBssid := List.replicate 6 0
  xSecurity := .open_
  cRssi := 0
  cChannel := 0
  ucHidden := 0

/-- The security that a result shows. -/
def securityOf (mode : SecurityMode) : WifiSecurity :=
  if mode.bits = 0 then
    .open_
  else if mode.wpa2 ∧ mode.psk then
    .wpa2
  else if mode.wpa2 ∧ mode.eap then
    .wpa2Ent
  else if mode.wpa then
    .wpa
  else if mode.wep then
    .wep
  else
    .notSupported

/-- `sl_wfx_scan_result_callback` writes the fields of an entry. -/
def writeResult (entry : ScanResult) (indication : Indication) : ScanResult :=
  let ssidLen := min indication.ssidLength wificonfigMaxSsidLen
  { cSsid := indication.ssid.take ssidLen ++ entry.cSsid.drop ssidLen
    ucBssid := indication.mac.take 6
    cChannel := Int8.ofInt indication.channel.toNat
    ucHidden := if ssidLen = 0 then 1 else 0
    cRssi := Int8.ofInt (((Int16.ofBitVec indication.rcpi.toBitVec).toInt - 220).tdiv 2)
    xSecurity := securityOf indication.securityMode }

/-- Where a call of `WIFI_Scan` is behind `WIFI_GetLock`. -/
inductive CallPoint
  /-- About to set `scan_results`. -/
  | entered
  /-- About to set `scan_result_max_count`. -/
  | pointed
  /-- About to clear `scan_count`. -/
  | bounded
  /-- About to clear the buffer. -/
  | counted
  /-- About to send the command. -/
  | cleared
  /-- In `sl_wfx_send_scan_command`. -/
  | sent
  /-- In `xEventGroupWaitBits`. -/
  | waiting
  /-- About to return, with success or not. -/
  | leaving (success : Bool)
  deriving DecidableEq

/-- How far a call has come. -/
def CallPoint.rank : CallPoint → Nat
  | .entered => 0
  | .pointed => 1
  | .bounded => 2
  | .counted => 3
  | .cleared => 4
  | .sent => 5
  | .waiting => 6
  | .leaving _ => 7

/-- The call that holds `wifi_lock`, with the scan that it starts. -/
structure Call where
  scan : Nat
  ucNumNetworks : Nat
  point : CallPoint
  deriving DecidableEq

/-- Where the host task is in `sl_wfx_scan_result_callback`. -/
inductive HostPoint
  | outside
  /-- About to compare the count. -/
  | called (scan : Nat) (indication : Indication)
  /-- About to write the entry. -/
  | inside (scan : Nat) (indication : Indication)
  /-- About to increment the count. -/
  | written (scan : Nat) (indication : Indication)
  deriving DecidableEq

namespace HostPoint

/-- The scan whose result is handled. -/
def scan : HostPoint → Option Nat
  | .outside => none
  | .called scan _ | .inside scan _ | .written scan _ => some scan

/-- The result that is in the buffer and not yet counted. -/
def uncounted : HostPoint → List Indication
  | .written _ indication => [indication]
  | _ => []

end HostPoint

structure Scanner where
  call : Option Call
  scanResults : Option Nat
  scanResultMaxCount : Nat
  scanCount : Nat
  /-- `SL_WFX_SCAN_COMPLETE` -/
  scanComplete : Bool
  /-- The buffers of the callers, one for each call. -/
  buffers : Nat → Nat → ScanResult
  host : HostPoint
  /-- How many calls took the lock so far. -/
  calls : Nat
  /-- The results of a scan that were handled. -/
  delivered : Nat → List Indication
  /-- The scans whose completion was handled. -/
  completed : List Nat
  /-- A successful call returned something else than the results of its scan. -/
  wrongResult : Bool
  /-- A buffer was written behind the return of its call. -/
  wroteBehind : Bool

inductive Label
  /-- `WIFI_Scan` with the lock taken. -/
  | enter (ucNumNetworks : UInt8)
  /-- The call goes on to the command. -/
  | go
  /-- `sl_wfx_send_scan_command` returns. -/
  | commandReturns (ok : Bool)
  /-- The wait finds the completion bit and clears it. -/
  | wake
  | timeout
  | return_
  /-- `sl_wfx_scan_result_callback` for a result of a scan. -/
  | result (scan : Nat) (indication : Indication)
  /-- The callback goes on. -/
  | callback
  /-- `sl_wfx_scan_complete_callback` for a scan. -/
  | complete (scan : Nat)
  deriving DecidableEq

/-- The entry that belongs at a place of the buffer. -/
def expected (results : List Indication) (i : Nat) : ScanResult :=
  match results[i]? with
  | some indication => writeResult zeroed indication
  | none => zeroed

/-- The buffer holds the first results, followed by zeroed entries. -/
def Holds (buffer : Nat → ScanResult) (ucNumNetworks : Nat) (results : List Indication) : Prop :=
  ∀ i, i < ucNumNetworks → buffer i = expected results i

instance (buffer : Nat → ScanResult) (ucNumNetworks : Nat) (results : List Indication) :
    Decidable (Holds buffer ucNumNetworks results) :=
  inferInstanceAs (Decidable (∀ i, i < ucNumNetworks → buffer i = expected results i))

theorem expected_append_of_lt {results more : List Indication} {i : Nat}
    (before : i < results.length) : expected (results ++ more) i = expected results i := by
  unfold expected
  rw [List.getElem?_append_left before]

theorem Holds.append {buffer : Nat → ScanResult} {ucNumNetworks : Nat}
    {results more : List Indication} (held : Holds buffer ucNumNetworks results)
    (full : ucNumNetworks ≤ results.length) : Holds buffer ucNumNetworks (results ++ more) := by
  intro i inside
  rw [held i inside, expected_append_of_lt (inside.trans_le full)]

/-- The entry behind the results of a buffer is written. -/
theorem Holds.write {buffer : Nat → ScanResult} {ucNumNetworks : Nat} {results : List Indication}
    (held : Holds buffer ucNumNetworks results)
    (indication : Indication) :
    Holds (Function.update buffer results.length (writeResult (buffer results.length) indication))
      ucNumNetworks (results ++ [indication]) := by
  intro i inside
  rcases Nat.lt_trichotomy i results.length with before | rfl | behind
  · rw [Function.update_of_ne (Nat.ne_of_lt before), held i inside, expected_append_of_lt before]
  · have wasZeroed : buffer results.length = zeroed := by
      rw [held _ inside]
      simp [expected]
    rw [Function.update_self, wasZeroed]
    simp [expected]
  · rw [Function.update_of_ne (Nat.ne_of_gt behind), held i inside]
    have beyond : (results ++ [indication]).length ≤ i := by
      rw [List.length_append]
      exact behind
    simp only [expected, List.getElem?_eq_none beyond, List.getElem?_eq_none behind.le]

namespace Scanner

/-- Nothing was scanned; the buffers hold anything. -/
def start (buffers : Nat → Nat → ScanResult) : Scanner where
  call := none
  scanResults := none
  scanResultMaxCount := 0
  scanCount := 0
  scanComplete := false
  buffers := buffers
  host := .outside
  calls := 0
  delivered := fun _ => []
  completed := []
  wrongResult := false
  wroteBehind := false

def moveCall (scanner : Scanner) (call : Call) (point : CallPoint) : Scanner :=
  { scanner with call := some { call with point := point } }

/-- `WIFI_Scan` goes on up to the command. -/
def goOn (scanner : Scanner) (call : Call) : Option Scanner :=
  match call.point with
  | .entered => some { scanner.moveCall call .pointed with scanResults := some call.scan }
  | .pointed =>
      some { scanner.moveCall call .bounded with scanResultMaxCount := call.ucNumNetworks }
  | .bounded => some { scanner.moveCall call .counted with scanCount := 0 }
  | .counted =>
      some
        { scanner.moveCall call .cleared with
          buffers := Function.update scanner.buffers call.scan fun i =>
            if i < call.ucNumNetworks then zeroed else scanner.buffers call.scan i }
  | .cleared => some (scanner.moveCall call .sent)
  | _ => none

/-- The result is in the buffer, or dropped. -/
def handled (scanner : Scanner) (scan : Nat) (indication : Indication) : Scanner :=
  { scanner with
    host := .outside
    delivered := Function.update scanner.delivered scan (scanner.delivered scan ++ [indication]) }

/-- Write the entry at the count, through `scan_results`. -/
def writeEntry (scanner : Scanner) (buffer : Nat) (indication : Indication) : Scanner :=
  { scanner with
    buffers := Function.update scanner.buffers buffer
      (Function.update (scanner.buffers buffer) scanner.scanCount
        (writeResult (scanner.buffers buffer scanner.scanCount) indication))
    wroteBehind := scanner.wroteBehind || decide (scanner.call.map Call.scan ≠ some buffer) }

/-- The callback goes on. -/
def nextCallback (scanner : Scanner) : Option Scanner :=
  match scanner.host with
  | .outside => none
  | .called scan indication =>
      if scanner.scanCount < scanner.scanResultMaxCount then
        some { scanner with host := .inside scan indication }
      else
        some (scanner.handled scan indication)
  | .inside scan indication =>
      match scanner.scanResults with
      | some buffer =>
          some { scanner.writeEntry buffer indication with host := .written scan indication }
      | none => none
  | .written scan indication =>
      some { scanner.handled scan indication with scanCount := scanner.scanCount + 1 }

/-- The command of the scan was sent. -/
def started (scanner : Scanner) (scan : Nat) : Bool :=
  scan < scanner.calls && scanner.call.all fun call => call.scan ≠ scan || 5 ≤ call.point.rank

/-- The call returns. -/
def return_ (scanner : Scanner) (call : Call) (success : Bool) : Scanner :=
  { scanner with
    call := none
    wrongResult := scanner.wrongResult || (success &&
      !(decide (call.scan ∈ scanner.completed ∧
        Holds (scanner.buffers call.scan) call.ucNumNetworks (scanner.delivered call.scan)))) }

/-- One step.  The device gives results and the completion of a scan in any order of time,
the completion last. -/
def next : LStep Scanner Label := fun scanner label =>
  match label with
  | .enter ucNumNetworks =>
      if scanner.call = none then
        some
          { scanner with
            call := some ⟨scanner.calls, ucNumNetworks.toNat, .entered⟩
            calls := scanner.calls + 1 }
      else
        none
  | .go => scanner.call.bind scanner.goOn
  | .commandReturns ok =>
      scanner.call.bind fun call =>
        if call.point = .sent then
          some (scanner.moveCall call (if ok then .waiting else .leaving false))
        else
          none
  | .wake =>
      scanner.call.bind fun call =>
        if call.point = .waiting ∧ scanner.scanComplete = true then
          some { scanner.moveCall call (.leaving true) with scanComplete := false }
        else
          none
  | .timeout =>
      scanner.call.bind fun call =>
        if call.point = .waiting ∧ scanner.scanComplete = false then
          some (scanner.moveCall call (.leaving false))
        else
          none
  | .return_ =>
      scanner.call.bind fun call =>
        match call.point with
        | .leaving success => some (scanner.return_ call success)
        | _ => none
  | .result scan indication =>
      if scanner.host = .outside ∧ scanner.started scan = true ∧ scan ∉ scanner.completed then
        some { scanner with host := .called scan indication }
      else
        none
  | .callback => scanner.nextCallback
  | .complete scan =>
      if scanner.host = .outside ∧ scanner.started scan = true ∧ scan ∉ scanner.completed then
        some { scanner with scanComplete := true, completed := scan :: scanner.completed }
      else
        none

/-! ## Scans in time -/

/-- The command of the scan was sent, and its call has not given up waiting. -/
def active (scanner : Scanner) (scan : Nat) : Bool :=
  match scanner.call with
  | some call => call.scan = scan && (call.point = .sent || call.point = .waiting)
  | none => false

/-- A command is sent with the completion bit clear, the device reports a scan while its
call waits for it, and no result is in the middle of being stored when a call returns. -/
def Timely (scanner : Scanner) : Label → Prop
  | .go => scanner.call.map Call.point = some .cleared → scanner.scanComplete = false
  | .result scan _ | .complete scan => scanner.active scan = true
  | .return_ => scanner.host = .outside
  | _ => True

instance (scanner : Scanner) : (label : Label) → Decidable (scanner.Timely label)
  | .go => inferInstanceAs (Decidable (_ → _))
  | .result scan _ | .complete scan => inferInstanceAs (Decidable (scanner.active scan = true))
  | .return_ => inferInstanceAs (Decidable (scanner.host = .outside))
  | .enter _ | .commandReturns _ | .wake | .timeout | .callback => .isTrue trivial

/-! ## The invariant -/

/-- The globals and the buffer belong to the call. -/
structure CallInv (scanner : Scanner) (call : Call) : Prop where
  last : call.scan + 1 = scanner.calls
  pointed : 1 ≤ call.point.rank → scanner.scanResults = some call.scan
  bounded : 2 ≤ call.point.rank → scanner.scanResultMaxCount = call.ucNumNetworks
  counted : 3 ≤ call.point.rank →
    scanner.scanCount = min (scanner.delivered call.scan).length call.ucNumNetworks
  held : 4 ≤ call.point.rank →
    Holds (scanner.buffers call.scan) call.ucNumNetworks
      (scanner.delivered call.scan ++ scanner.host.uncounted)
  /-- A result is stored while there is room for it. -/
  room : ∀ scan indication, scanner.host = .inside scan indication ∨
    scanner.host = .written scan indication →
      (scanner.delivered call.scan).length < call.ucNumNetworks
  /-- Only results of this scan are handled, and before its completion. -/
  handling : ∀ scan, scanner.host.scan = some scan →
    scan = call.scan ∧ 5 ≤ call.point.rank ∧ call.scan ∉ scanner.completed
  bit : scanner.scanComplete = true → 5 ≤ call.point.rank → call.scan ∈ scanner.completed
  succeeded : call.point = .leaving true → call.scan ∈ scanner.completed

structure ScanInv (scanner : Scanner) : Prop where
  call : ∀ call, scanner.call = some call → scanner.CallInv call
  idle : scanner.call = none → scanner.host = .outside
  fresh : ∀ scan, scanner.started scan = false →
    scanner.delivered scan = [] ∧ scan ∉ scanner.completed
  rightResult : scanner.wrongResult = false
  wroteNothingBehind : scanner.wroteBehind = false

theorem scanInv_start (buffers : Nat → Nat → ScanResult) : ScanInv (start buffers) where
  call _ isCall := nomatch isCall
  idle _ := rfl
  fresh _ _ := ⟨rfl, List.not_mem_nil⟩
  rightResult := rfl
  wroteNothingBehind := rfl

variable {scanner target : Scanner} {call : Call}

theorem started_iff {scan : Nat} : scanner.started scan = true ↔ scan < scanner.calls ∧
    ∀ call, scanner.call = some call → call.scan = scan → 5 ≤ call.point.rank := by
  unfold started
  cases scanner.call with
  | none => simp
  | some call => simp [or_iff_not_imp_left]

theorem ScanInv.fresh_call (inv : ScanInv scanner) (isCall : scanner.call = some call)
    (before : call.point.rank < 5) :
    scanner.delivered call.scan = [] ∧ call.scan ∉ scanner.completed := by
  refine inv.fresh call.scan (Bool.eq_false_iff.mpr fun isStarted => ?_)
  have later := (started_iff.mp isStarted).2 call isCall rfl
  omega

/-- A call that goes on to a later point has started no less. -/
theorem started_of_later (isCall : scanner.call = some call) {point : CallPoint}
    (isNext : target.call = some { call with point := point })
    (calls : target.calls = scanner.calls)
    (later : call.point.rank ≤ point.rank) {scan : Nat}
    (notStarted : target.started scan = false) : scanner.started scan = false := by
  refine Bool.eq_false_iff.mpr fun isStarted => Bool.eq_false_iff.mp notStarted ?_
  obtain ⟨inside, isSent⟩ := started_iff.mp isStarted
  refine started_iff.mpr ⟨calls ▸ inside, ?_⟩
  intro next nextIs same
  obtain rfl : { call with point := point } = next := Option.some.inj (isNext.symm.trans nextIs)
  exact (isSent call isCall same).trans later

/-! ## The call -/

/-- A step of the call that leaves the results alone. -/
theorem ScanInv.move (inv : ScanInv scanner) (isCall : scanner.call = some call)
    {point : CallPoint} (isNext : target.call = some { call with point := point })
    (calls : target.calls = scanner.calls)
    (delivered : target.delivered = scanner.delivered)
    (completed : target.completed = scanner.completed)
    (wrongResult : target.wrongResult = scanner.wrongResult)
    (wroteBehind : target.wroteBehind = scanner.wroteBehind)
    (later : call.point.rank ≤ point.rank)
    (next : target.CallInv { call with point := point }) : ScanInv target where
  call other isOther := by
    obtain rfl : { call with point := point } = other :=
      Option.some.inj (isNext.symm.trans isOther)
    exact next
  idle isNone := by
    rw [isNext] at isNone
    cases isNone
  fresh scan notStarted := by
    rw [delivered, completed]
    exact inv.fresh scan (started_of_later isCall isNext calls later notStarted)
  rightResult := wrongResult.trans inv.rightResult
  wroteNothingBehind := wroteBehind.trans inv.wroteNothingBehind

theorem CallInv.outside (inv : scanner.CallInv call) (before : call.point.rank < 5) :
    scanner.host = .outside := by
  cases host : scanner.host with
  | outside => rfl
  | called scan indication | inside scan indication | written scan indication =>
      have isLater := (inv.handling scan (by rw [host]; rfl)).2.1
      omega

/-- The invariant of a call that has not sent its command. -/
theorem CallInv.early (isOutside : scanner.host = .outside) (before : call.point.rank < 5)
    (last : call.scan + 1 = scanner.calls)
    (pointed : 1 ≤ call.point.rank → scanner.scanResults = some call.scan)
    (bounded : 2 ≤ call.point.rank → scanner.scanResultMaxCount = call.ucNumNetworks)
    (counted : 3 ≤ call.point.rank → scanner.scanCount = 0)
    (held : 4 ≤ call.point.rank → Holds (scanner.buffers call.scan) call.ucNumNetworks [])
    (nothing : scanner.delivered call.scan = []) : scanner.CallInv call where
  last := last
  pointed := pointed
  bounded := bounded
  counted later := by rw [counted later, nothing, List.length_nil, Nat.zero_min]
  held later := by
    rw [nothing, isOutside]
    exact held later
  room scan indication storing := by
    rw [isOutside] at storing
    rcases storing with isInside | isWritten
    · cases isInside
    · cases isWritten
  handling scan isHandled := by
    rw [isOutside] at isHandled
    cases isHandled
  bit _ later := by omega
  succeeded isLeaving := by
    rw [isLeaving] at before
    simp [CallPoint.rank] at before

theorem ScanInv.goOn (inv : ScanInv scanner) (isCall : scanner.call = some call)
    (timely : scanner.call.map Call.point = some .cleared → scanner.scanComplete = false)
    (step : scanner.goOn call = some target) : ScanInv target := by
  have callInv := inv.call call isCall
  unfold Scanner.goOn at step
  split at step
  case h_1 at_ =>
    have before : call.point.rank < 5 := by simp [at_, CallPoint.rank]
    obtain ⟨nothing, _⟩ := inv.fresh_call isCall before
    cases step
    refine inv.move isCall rfl rfl rfl rfl rfl rfl (by simp [at_, CallPoint.rank]) ?_
    refine .early (callInv.outside before) (by simp [CallPoint.rank]) callInv.last (fun _ => rfl)
      ?_ ?_ ?_ nothing
    · intro later
      simp [CallPoint.rank] at later
    · intro later
      simp [CallPoint.rank] at later
    · intro later
      simp [CallPoint.rank] at later
  case h_2 at_ =>
    have before : call.point.rank < 5 := by simp [at_, CallPoint.rank]
    obtain ⟨nothing, _⟩ := inv.fresh_call isCall before
    cases step
    refine inv.move isCall rfl rfl rfl rfl rfl rfl (by simp [at_, CallPoint.rank]) ?_
    refine .early (callInv.outside before) (by simp [CallPoint.rank]) callInv.last ?_ (fun _ => rfl)
      ?_ ?_ nothing
    · exact fun _ => callInv.pointed (by simp [at_, CallPoint.rank])
    · intro later
      simp [CallPoint.rank] at later
    · intro later
      simp [CallPoint.rank] at later
  case h_3 at_ =>
    have before : call.point.rank < 5 := by simp [at_, CallPoint.rank]
    obtain ⟨nothing, _⟩ := inv.fresh_call isCall before
    cases step
    refine inv.move isCall rfl rfl rfl rfl rfl rfl (by simp [at_, CallPoint.rank]) ?_
    refine .early (callInv.outside before) (by simp [CallPoint.rank]) callInv.last ?_ ?_
      (fun _ => rfl) ?_ nothing
    · exact fun _ => callInv.pointed (by simp [at_, CallPoint.rank])
    · exact fun _ => callInv.bounded (by simp [at_, CallPoint.rank])
    · intro later
      simp [CallPoint.rank] at later
  case h_4 at_ =>
    have before : call.point.rank < 5 := by simp [at_, CallPoint.rank]
    obtain ⟨nothing, _⟩ := inv.fresh_call isCall before
    have none_ := callInv.counted (by simp [at_, CallPoint.rank])
    rw [nothing, List.length_nil, Nat.zero_min] at none_
    cases step
    refine inv.move isCall rfl rfl rfl rfl rfl rfl (by simp [at_, CallPoint.rank]) ?_
    refine .early (callInv.outside before) (by simp [CallPoint.rank]) callInv.last ?_ ?_
      (fun _ => none_) ?_ nothing
    · exact fun _ => callInv.pointed (by simp [at_, CallPoint.rank])
    · exact fun _ => callInv.bounded (by simp [at_, CallPoint.rank])
    · intro _ i inside
      simp [inside, expected]
  case h_5 at_ =>
    have before : call.point.rank < 5 := by simp [at_, CallPoint.rank]
    have isOutside := callInv.outside before
    have isClear := timely (by rw [isCall, Option.map_some, at_])
    cases step
    refine inv.move isCall rfl rfl rfl rfl rfl rfl (by simp [at_, CallPoint.rank]) ?_
    constructor
    case last => exact callInv.last
    case pointed => exact fun _ => callInv.pointed (by simp [at_, CallPoint.rank])
    case bounded => exact fun _ => callInv.bounded (by simp [at_, CallPoint.rank])
    case counted => exact fun _ => callInv.counted (by simp [at_, CallPoint.rank])
    case held => exact fun _ => callInv.held (by simp [at_, CallPoint.rank])
    case room => exact callInv.room
    case handling =>
      intro scan isHandled
      have isNone : scanner.host.scan = some scan := isHandled
      rw [isOutside] at isNone
      cases isNone
    case bit =>
      intro isSet
      exact absurd (isClear.symm.trans isSet) (by simp)
    case succeeded =>
      intro isLeaving
      cases isLeaving
  case h_6 => cases step

/-- A call behind its command goes on with the same globals. -/
theorem ScanInv.moveLive (inv : ScanInv scanner) (isCall : scanner.call = some call)
    (live : 5 ≤ call.point.rank) {point : CallPoint} (later : call.point.rank ≤ point.rank)
    (scanComplete : Bool)
    (bit : scanComplete = true → scanner.scanComplete = true)
    (succeeded : point = .leaving true → call.scan ∈ scanner.completed) :
    ScanInv { scanner.moveCall call point with scanComplete := scanComplete } := by
  have callInv := inv.call call isCall
  refine inv.move isCall rfl rfl rfl rfl rfl rfl later ?_
  constructor
  case last => exact callInv.last
  case pointed => exact fun _ => callInv.pointed (Nat.le_trans (by decide) live)
  case bounded => exact fun _ => callInv.bounded (Nat.le_trans (by decide) live)
  case counted => exact fun _ => callInv.counted (Nat.le_trans (by decide) live)
  case held => exact fun _ => callInv.held (Nat.le_trans (by decide) live)
  case room => exact callInv.room
  case handling =>
    intro scan isHandled
    obtain ⟨same, _, notCompleted⟩ := callInv.handling scan isHandled
    exact ⟨same, live.trans later, notCompleted⟩
  case bit => exact fun isSet _ => callInv.bit (bit isSet) live
  case succeeded => exact succeeded

theorem ScanInv.enter (inv : ScanInv scanner) (noCall : scanner.call = none)
    (ucNumNetworks : Nat) :
    ScanInv
      { scanner with
        call := some ⟨scanner.calls, ucNumNetworks, .entered⟩
        calls := scanner.calls + 1 } := by
  have isOutside := inv.idle noCall
  have notStarted : scanner.started scanner.calls = false := by
    refine Bool.eq_false_iff.mpr fun isStarted => ?_
    exact Nat.lt_irrefl _ (started_iff.mp isStarted).1
  constructor
  case call =>
    intro call isCall
    cases isCall
    refine .early isOutside (by simp [CallPoint.rank]) rfl ?_ ?_ ?_ ?_
      (inv.fresh scanner.calls notStarted).1
    · intro later
      simp [CallPoint.rank] at later
    · intro later
      simp [CallPoint.rank] at later
    · intro later
      simp [CallPoint.rank] at later
    · intro later
      simp [CallPoint.rank] at later
  case idle =>
    intro isNone
    cases isNone
  case fresh =>
    intro scan stillNot
    refine inv.fresh scan (Bool.eq_false_iff.mpr fun isStarted => ?_)
    refine Bool.eq_false_iff.mp stillNot (started_iff.mpr ?_)
    have inside := (started_iff.mp isStarted).1
    refine ⟨Nat.lt_succ_of_lt inside, ?_⟩
    intro call isCall same
    cases isCall
    exact absurd same (Nat.ne_of_gt inside)
  case rightResult => exact inv.rightResult
  case wroteNothingBehind => exact inv.wroteNothingBehind

theorem ScanInv.return_ (inv : ScanInv scanner) (isCall : scanner.call = some call)
    {success : Bool} (isLeaving : call.point = .leaving success)
    (isOutside : scanner.host = .outside) : ScanInv (scanner.return_ call success) := by
  have callInv := inv.call call isCall
  have live : 5 ≤ call.point.rank := by simp [isLeaving, CallPoint.rank]
  constructor
  case call =>
    intro _ isSome
    cases isSome
  case idle => exact fun _ => isOutside
  case fresh =>
    intro scan stillNot
    refine inv.fresh scan (Bool.eq_false_iff.mpr fun isStarted => ?_)
    refine Bool.eq_false_iff.mp stillNot (started_iff.mpr ⟨(started_iff.mp isStarted).1, ?_⟩)
    intro _ isSome
    cases isSome
  case rightResult =>
    have held := callInv.held (Nat.le_trans (by decide) live)
    rw [isOutside] at held
    simp only [HostPoint.uncounted, List.append_nil] at held
    cases success with
    | false => simp [Scanner.return_, inv.rightResult]
    | true => simp [Scanner.return_, inv.rightResult, callInv.succeeded isLeaving, held]
  case wroteNothingBehind => exact inv.wroteNothingBehind

/-! ## The host task -/

theorem exists_call_of_active {scan : Nat} (isActive : scanner.active scan = true) :
    ∃ call, scanner.call = some call ∧ call.scan = scan ∧ 5 ≤ call.point.rank ∧
      ∀ success, call.point ≠ .leaving success := by
  unfold active at isActive
  cases isCall : scanner.call with
  | none => simp [isCall] at isActive
  | some call =>
      simp only [isCall, Bool.and_eq_true, Bool.or_eq_true, decide_eq_true_eq] at isActive
      obtain ⟨same, isSent | isWaiting⟩ := isActive
      · exact ⟨call, rfl, same, by simp [isSent, CallPoint.rank], by simp [isSent]⟩
      · exact ⟨call, rfl, same, by simp [isWaiting, CallPoint.rank], by simp [isWaiting]⟩

/-- A step of the host task that leaves the calls alone. -/
theorem ScanInv.hostStep (inv : ScanInv scanner) (calls : target.calls = scanner.calls)
    (sameCall : target.call = scanner.call)
    (next : ∀ call, scanner.call = some call → scanner.CallInv call → target.CallInv call)
    (idle : scanner.call = none → target.host = .outside)
    (fresh : ∀ scan, scanner.started scan = false →
      target.delivered scan = scanner.delivered scan ∧
        (scan ∈ target.completed → scan ∈ scanner.completed))
    (wrongResult : target.wrongResult = scanner.wrongResult)
    (wroteBehind : target.wroteBehind = scanner.wroteBehind) : ScanInv target where
  call call isCall := by
    rw [sameCall] at isCall
    exact next call isCall (inv.call call isCall)
  idle isNone := idle (sameCall ▸ isNone)
  fresh scan notStarted := by
    have before : scanner.started scan = false := by
      rw [← notStarted]
      unfold started
      rw [calls, sameCall]
    obtain ⟨same, fewer⟩ := fresh scan before
    obtain ⟨nothing, notCompleted⟩ := inv.fresh scan before
    exact ⟨same.trans nothing, fun isCompleted => notCompleted (fewer isCompleted)⟩
  rightResult := wrongResult.trans inv.rightResult
  wroteNothingBehind := wroteBehind.trans inv.wroteNothingBehind

theorem ScanInv.result (inv : ScanInv scanner) {scan : Nat} {indication : Indication}
    (isActive : scanner.active scan = true) (notCompleted : scan ∉ scanner.completed)
    (isOutside : scanner.host = .outside) :
    ScanInv { scanner with host := .called scan indication } := by
  obtain ⟨call, isCall, rfl, live, _⟩ := exists_call_of_active isActive
  refine inv.hostStep rfl rfl ?_ ?_ (fun _ _ => ⟨rfl, id⟩) rfl rfl
  · intro other isOther callInv
    obtain rfl : call = other := Option.some.inj (isCall.symm.trans isOther)
    constructor
    case last => exact callInv.last
    case pointed => exact callInv.pointed
    case bounded => exact callInv.bounded
    case counted => exact callInv.counted
    case held =>
      have held := callInv.held
      rw [isOutside] at held
      exact held
    case room =>
      rintro _ _ (isInside | isWritten)
      · cases isInside
      · cases isWritten
    case handling =>
      intro other isHandled
      obtain rfl : call.scan = other := Option.some.inj isHandled
      exact ⟨rfl, live, notCompleted⟩
    case bit => exact callInv.bit
    case succeeded => exact callInv.succeeded
  · intro isNone
    rw [isCall] at isNone
    cases isNone

theorem ScanInv.complete (inv : ScanInv scanner) {scan : Nat}
    (isActive : scanner.active scan = true) (isOutside : scanner.host = .outside) :
    ScanInv { scanner with scanComplete := true, completed := scan :: scanner.completed } := by
  obtain ⟨call, isCall, rfl, live, _⟩ := exists_call_of_active isActive
  refine inv.hostStep rfl rfl ?_ inv.idle ?_ rfl rfl
  · intro other isOther callInv
    obtain rfl : call = other := Option.some.inj (isCall.symm.trans isOther)
    constructor
    case last => exact callInv.last
    case pointed => exact callInv.pointed
    case bounded => exact callInv.bounded
    case counted => exact callInv.counted
    case held => exact callInv.held
    case room => exact callInv.room
    case handling =>
      intro other isHandled
      have isNone : scanner.host.scan = some other := isHandled
      rw [isOutside] at isNone
      cases isNone
    case bit => exact fun _ _ => List.mem_cons_self
    case succeeded => exact fun _ => List.mem_cons_self
  · intro other notStarted
    refine ⟨rfl, fun isCompleted => (List.mem_cons.mp isCompleted).resolve_left ?_⟩
    rintro rfl
    refine Bool.eq_false_iff.mp notStarted (started_iff.mpr ⟨?_, ?_⟩)
    · have last := (inv.call call isCall).last
      omega
    · intro other isOther _
      obtain rfl : call = other := Option.some.inj (isCall.symm.trans isOther)
      exact live

/-- The call whose result is handled. -/
theorem ScanInv.exists_call (inv : ScanInv scanner) {scan : Nat}
    (isHandled : scanner.host.scan = some scan) :
    ∃ call, scanner.call = some call ∧ scanner.CallInv call ∧ call.scan = scan ∧
      5 ≤ call.point.rank ∧ scan ∉ scanner.completed := by
  cases isCall : scanner.call with
  | none =>
      rw [inv.idle isCall] at isHandled
      cases isHandled
  | some call =>
      have callInv := inv.call call isCall
      obtain ⟨rfl, live, notCompleted⟩ := callInv.handling scan isHandled
      exact ⟨call, rfl, callInv, rfl, live, notCompleted⟩

/-- A result that was handled is one more result of its scan. -/
theorem ScanInv.handled (inv : ScanInv scanner) {scan : Nat} {indication : Indication}
    (isHandled : scanner.host.scan = some scan) (scanCount : Nat)
    (counted : ∀ call, scanner.CallInv call → call.scan = scan → 5 ≤ call.point.rank →
      scanCount = min ((scanner.delivered scan).length + 1) call.ucNumNetworks ∧
        Holds (scanner.buffers scan) call.ucNumNetworks (scanner.delivered scan ++ [indication])) :
    ScanInv { scanner.handled scan indication with scanCount := scanCount } := by
  obtain ⟨call, isCall, callInv, rfl, live, notCompleted⟩ := inv.exists_call isHandled
  obtain ⟨count, held⟩ := counted call callInv rfl live
  have grown : (scanner.handled call.scan indication).delivered call.scan =
      scanner.delivered call.scan ++ [indication] := Function.update_self _ _ _
  refine inv.hostStep rfl rfl ?_ (fun _ => rfl) ?_ rfl rfl
  · intro other isOther _
    obtain rfl : call = other := Option.some.inj (isCall.symm.trans isOther)
    constructor
    case last => exact callInv.last
    case pointed => exact callInv.pointed
    case bounded => exact callInv.bounded
    case counted =>
      intro _
      show scanCount = min ((scanner.handled call.scan indication).delivered call.scan).length _
      rw [grown, List.length_append, List.length_singleton]
      exact count
    case held =>
      intro _
      show Holds _ _ ((scanner.handled call.scan indication).delivered call.scan ++ [])
      rw [grown, List.append_nil]
      exact held
    case room =>
      rintro _ _ (isInside | isWritten)
      · cases isInside
      · cases isWritten
    case handling =>
      intro _ isNone
      cases isNone
    case bit => exact callInv.bit
    case succeeded => exact callInv.succeeded
  · intro other notStarted
    refine ⟨Function.update_of_ne ?_ _ _, id⟩
    rintro rfl
    refine Bool.eq_false_iff.mp notStarted (started_iff.mpr ⟨?_, ?_⟩)
    · have last := callInv.last
      omega
    · intro other isOther _
      obtain rfl : call = other := Option.some.inj (isCall.symm.trans isOther)
      exact live

theorem ScanInv.nextCallback (inv : ScanInv scanner) (step : scanner.nextCallback = some target) :
    ScanInv target := by
  unfold Scanner.nextCallback at step
  split at step
  case h_1 => cases step
  case h_2 scan indication at_ =>
    have isHandled : scanner.host.scan = some scan := by rw [at_]; rfl
    split at step
    case isTrue room =>
      cases step
      obtain ⟨call, isCall, callInv, rfl, live, notCompleted⟩ := inv.exists_call isHandled
      refine inv.hostStep rfl rfl ?_ ?_ (fun _ _ => ⟨rfl, id⟩) rfl rfl
      · intro other isOther _
        obtain rfl : call = other := Option.some.inj (isCall.symm.trans isOther)
        have count := callInv.counted (Nat.le_trans (by decide) live)
        have bound := callInv.bounded (Nat.le_trans (by decide) live)
        constructor
        case last => exact callInv.last
        case pointed => exact callInv.pointed
        case bounded => exact callInv.bounded
        case counted => exact callInv.counted
        case held =>
          have held := callInv.held
          rw [at_] at held
          exact held
        case room =>
          intro _ _ _
          show (scanner.delivered call.scan).length < call.ucNumNetworks
          omega
        case handling =>
          intro other isOther
          obtain rfl : call.scan = other := Option.some.inj isOther
          exact ⟨rfl, live, notCompleted⟩
        case bit => exact callInv.bit
        case succeeded => exact callInv.succeeded
      · intro isNone
        rw [isCall] at isNone
        cases isNone
    case isFalse full =>
      cases step
      refine inv.handled isHandled scanner.scanCount ?_
      rintro call callInv rfl live
      have count := callInv.counted (Nat.le_trans (by decide) live)
      have bound := callInv.bounded (Nat.le_trans (by decide) live)
      have held := callInv.held (Nat.le_trans (by decide) live)
      rw [at_] at held
      simp only [HostPoint.uncounted, List.append_nil] at held
      exact ⟨by omega, held.append (by omega)⟩
  case h_3 scan indication at_ =>
    have isHandled : scanner.host.scan = some scan := by rw [at_]; rfl
    obtain ⟨call, isCall, callInv, rfl, live, notCompleted⟩ := inv.exists_call isHandled
    rw [callInv.pointed (Nat.le_trans (by decide) live)] at step
    cases step
    have room := callInv.room _ _ (.inl at_)
    have count := callInv.counted (Nat.le_trans (by decide) live)
    have atEnd : scanner.scanCount = (scanner.delivered call.scan).length := by omega
    have notBehind :
        (scanner.writeEntry call.scan indication).wroteBehind = scanner.wroteBehind := by
      simp [Scanner.writeEntry, isCall]
    refine inv.hostStep rfl rfl ?_ ?_ (fun _ _ => ⟨rfl, id⟩) rfl notBehind
    · intro other isOther _
      obtain rfl : call = other := Option.some.inj (isCall.symm.trans isOther)
      constructor
      case last => exact callInv.last
      case pointed => exact callInv.pointed
      case bounded => exact callInv.bounded
      case counted => exact callInv.counted
      case held =>
        have held := callInv.held (Nat.le_trans (by decide) live)
        rw [at_] at held
        simp only [HostPoint.uncounted, List.append_nil] at held
        have wrote := held.write indication
        intro _
        simpa [Scanner.writeEntry, HostPoint.uncounted, atEnd] using wrote
      case room => exact fun _ _ _ => room
      case handling =>
        intro other isOther
        obtain rfl : call.scan = other := Option.some.inj isOther
        exact ⟨rfl, live, notCompleted⟩
      case bit => exact callInv.bit
      case succeeded => exact callInv.succeeded
    · intro isNone
      rw [isCall] at isNone
      cases isNone
  case h_4 scan indication at_ =>
    cases step
    refine inv.handled (by rw [at_]; rfl) (scanner.scanCount + 1) ?_
    rintro call callInv rfl live
    have count := callInv.counted (Nat.le_trans (by decide) live)
    have room := callInv.room _ _ (.inr at_)
    have held := callInv.held (Nat.le_trans (by decide) live)
    rw [at_] at held
    exact ⟨by omega, held⟩

theorem ScanInv.next {label : Label} (inv : ScanInv scanner) (timely : scanner.Timely label)
    (step : Scanner.next scanner label = some target) : ScanInv target := by
  unfold Scanner.next at step
  split at step
  · split at step
    · rename_i noCall
      cases step
      exact inv.enter noCall _
    · cases step
  · obtain ⟨call, isCall, step⟩ := Option.bind_eq_some_iff.mp step
    exact inv.goOn isCall timely step
  · rename_i ok
    obtain ⟨call, isCall, step⟩ := Option.bind_eq_some_iff.mp step
    split at step
    · rename_i isSent
      cases step
      have live : 5 ≤ call.point.rank := by simp [isSent, CallPoint.rank]
      refine inv.moveLive isCall live ?_ scanner.scanComplete id ?_
      · cases ok with
        | false => simp [isSent, CallPoint.rank]
        | true => simp [isSent, CallPoint.rank]
      · cases ok with
        | false => simp
        | true => simp
    · cases step
  · obtain ⟨call, isCall, step⟩ := Option.bind_eq_some_iff.mp step
    split at step
    · rename_i woken
      cases step
      have live : 5 ≤ call.point.rank := by simp [woken.1, CallPoint.rank]
      refine inv.moveLive isCall live (by simp [woken.1, CallPoint.rank]) false (by simp) ?_
      exact fun _ => (inv.call call isCall).bit woken.2 live
    · cases step
  · obtain ⟨call, isCall, step⟩ := Option.bind_eq_some_iff.mp step
    split at step
    · rename_i gaveUp
      cases step
      refine inv.moveLive isCall (by simp [gaveUp.1, CallPoint.rank])
        (by simp [gaveUp.1, CallPoint.rank]) scanner.scanComplete id (by simp)
    · cases step
  · obtain ⟨call, isCall, step⟩ := Option.bind_eq_some_iff.mp step
    split at step
    · rename_i success isLeaving
      cases step
      exact inv.return_ isCall isLeaving timely
    · cases step
  · split at step
    · rename_i enabled
      cases step
      exact inv.result timely enabled.2.2 enabled.1
    · cases step
  · exact inv.nextCallback step
  · split at step
    · rename_i enabled
      cases step
      exact inv.complete timely enabled.1
    · cases step

/-! ## Every scan reports its own results -/

/-- In every run in which the scans are in time, a successful call returns the results of
its own scan, and no buffer is written behind the return of its call. -/
theorem results_own (buffers : Nat → Nat → ScanResult)
    (reachable : GuardedReachable Scanner.next Timely (start buffers) scanner) :
    scanner.wrongResult = false ∧ scanner.wroteBehind = false := by
  have inv : ScanInv scanner := reachable.invariant (scanInv_start buffers)
    fun _ _ _ inv timely step => inv.next timely step
  exact ⟨inv.rightResult, inv.wroteNothingBehind⟩

/-- An access point without a name. -/
def hiddenAp : Indication where
  ssid := []
  ssidLength := 0
  mac := [1, 2, 3, 4, 5, 6]
  channel := 11
  rcpi := 100
  securityMode := ⟨0, false, false, false, false, false⟩

/-- A scan for two networks that finds one, and a scan for one network that finds two. -/
def twoScans : List Label :=
  .enter 2 :: List.replicate 5 .go ++
    [.commandReturns true, .result 0 hiddenAp, .callback, .callback, .callback, .complete 0, .wake,
      .return_] ++
    .enter 1 :: List.replicate 5 .go ++
    [.result 1 hiddenAp, .callback, .callback, .callback, .commandReturns true,
      .result 1 hiddenAp, .callback, .complete 1, .wake, .return_]

def afterTwoScans : Scanner :=
  (run next (start fun _ _ => zeroed) twoScans).get (by decide)

theorem twoScans_own : afterTwoScans.completed = [1, 0] ∧ afterTwoScans.wrongResult = false ∧
    afterTwoScans.wroteBehind = false := by
  have timely : StepsMeet next (start fun _ _ => zeroed) twoScans Timely := by decide
  exact ⟨by decide, results_own (fun _ _ => zeroed)
    (timely.guardedReachable (List.prefix_refl _) (Option.some_get _).symm)⟩

/-- A scan times out, and its result comes when the call has returned. -/
def lateResult : List Label :=
  .enter 1 :: List.replicate 5 .go ++
    [.commandReturns true, .timeout, .return_, .result 0 hiddenAp, .callback, .callback]

/-- The result is written to the buffer of the caller that has returned. -/
theorem lateResult_wroteBehind :
    ∃ scanner, Reachable next (start fun _ _ => zeroed) scanner ∧ scanner.wroteBehind = true :=
  ⟨(run next (start fun _ _ => zeroed) lateResult).get (by decide),
    reachable_of_run (Option.some_get _).symm, by decide⟩

end Scanner

end FwkRtos.SlWfx.Scan

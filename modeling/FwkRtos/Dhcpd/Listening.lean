import FwkRtos.Dhcpd.Consistency

/-!
# Receiving messages

The loop of `dhcpd_listen`.  The result of `recvfrom` is an `int`, which is
compared with a `size_t`: a negative result is then a very great length, and
the message that an earlier datagram has left in the buffer is handled again
when it is still a request.
-/

namespace FwkRtos.Dhcpd

open FwkRtos.Transition

/-- What `recvfrom` does: it fails with the result `-1 - code`, or receives a datagram. -/
inductive Received
  | failed (code : Fin (2 ^ 31))
  | datagram (bytes : List UInt8)
  deriving DecidableEq

/-- The result of `recvfrom`, an `int`. -/
def Received.ret : Received → Int
  | .failed code => -1 - (code.val : Int)
  | .datagram bytes => (min bytes.length dhcpMessageLength : Nat)

/-- `-pdFREERTOS_ERRNO_EINTR`. -/
def interrupted : Int := -4

/-- An `int` converted to `size_t`. -/
def sizeOfInt (value : Int) : Nat :=
  (value % 2 ^ 32).toNat

/-- One pass of the loop: what is received, and the tick count afterwards. -/
structure Pass where
  received : Received
  now : UInt32
  deriving DecidableEq

/-- The task that listens.  `received` and `handled` are ghosts: the results of
`recvfrom`, and for each call of `dhcpd_handle_op_request` the number of the pass and
its `options_length`. -/
structure Listener where
  server : Server
  buffer : DhcpMessage
  isOpen : Bool
  lastTimeout : UInt32
  received : List Received
  handled : List (Nat × Nat)

variable (lists : KernelList) (around : Surroundings) (config : Config) (recvTimeout : UInt32)

/-- `recvfrom` has returned. -/
def Listener.receive (listener : Listener) (received : Received) : Listener :=
  { listener with
    received := listener.received ++ [received]
    buffer :=
      match received with
      | .failed _ => listener.buffer
      | .datagram bytes => listener.buffer.receive bytes }

/-- A message is handled after the given result. -/
def Listener.handle? (listener : Listener) (ret : Int) : Option Listener :=
  let optionsLength := sizeOfInt (ret - dhcpHeaderLength)
  (listener.server.handleOpRequest lists around config listener.buffer optionsLength).map
    fun handled =>
      { listener with
        server := handled.server
        buffer := handled.message
        handled := listener.handled ++ [(listener.received.length - 1, optionsLength)] }

/-- The result decides what is done with the buffer. -/
def Listener.dispatch? (listener : Listener) (ret : Int) : Option Listener :=
  if ret = interrupted then some { listener with isOpen := false }
  else if dhcpRequestMinLength ≤ sizeOfInt ret ∧ listener.buffer.op = bootrequest then
    listener.handle? lists around config ret
  else some listener

/-- Expired leases are released when it is time.  Once the socket is closed the entries
are freed, and there is nothing to sweep. -/
def Listener.refresh? (listener : Listener) (now : UInt32) : Option Listener :=
  if listener.lastTimeout + recvTimeout ≤ now then
    if listener.isOpen then
      (listener.server.releaseExpiredLeases lists around config).map fun swept =>
        { listener with server := swept, lastTimeout := now }
    else none
  else some listener

/-- One pass of the loop of `dhcpd_listen`. -/
def nextPass : LStep Listener Pass
  | listener, ⟨received, now⟩ =>
      if listener.isOpen then
        ((listener.receive received).dispatch? lists around config received.ret).bind
          fun dispatched => dispatched.refresh? lists around config recvTimeout now
      else none

/-- The loop begins, with whatever the buffer holds. -/
def Listener.start (server : Server) (buffer : DhcpMessage) (lastTimeout : UInt32) : Listener :=
  ⟨server, buffer, true, lastTimeout, [], []⟩

/-! ## What is to be handled -/

/-- What a result is to be handled as: a request that is long enough, with the number of
its option bytes. -/
def Received.request : Received → Option Nat
  | .failed _ => none
  | .datagram bytes =>
      if dhcpRequestMinLength ≤ min bytes.length dhcpMessageLength ∧
          bytes.headD 0 = bootrequest then
        some (min bytes.length dhcpMessageLength - dhcpHeaderLength)
      else none

/-- What is to be handled of a sequence of results, each with its number. -/
def requests (received : List Received) : List (Nat × Nat) :=
  (received.zipIdx).filterMap fun result => result.1.request.map (Prod.mk result.2)

/-- Exactly the requests that were received are handled, once each and in order. -/
def HandledOnce (listener : Listener) : Prop :=
  listener.handled = requests listener.received

/-- A failure, other than by the end of the service, finds no request in the buffer. -/
def NoStaleRequest (listener : Listener) (pass : Pass) : Prop :=
  pass.received.ret < 0 → pass.received.ret ≠ interrupted → listener.buffer.op ≠ bootrequest

instance (listener : Listener) (pass : Pass) : Decidable (NoStaleRequest listener pass) :=
  inferInstanceAs (Decidable (_ → _ → _))

theorem requests_concat (received : List Received) (last : Received) :
    requests (received ++ [last]) =
      requests received ++ (last.request.map (Prod.mk received.length)).toList := by
  rw [requests, List.zipIdx_append, List.filterMap_append]
  cases found : last.request with
  | none => simp [requests, found]
  | some length => simp [requests, found]

/-! ## One pass -/

/-- The first byte of a datagram is the message's operation. -/
theorem receive_op (buffer : DhcpMessage) {bytes : List UInt8} (some_ : bytes ≠ []) :
    (buffer.receive bytes).op = bytes.headD 0 := by
  cases bytes with
  | nil => exact absurd rfl some_
  | cons first rest =>
      simp [DhcpMessage.receive, DhcpMessage.ofBytes, Bytes.splice, dhcpMessageLength,
        dhcpHeaderLength, dhcpOptionsLength]

theorem sizeOfInt_natCast {value : Nat} (small : value < 2 ^ 32) : sizeOfInt value = value := by
  unfold sizeOfInt
  omega

/-- As a size, a negative result is long enough for every message. -/
theorem sizeOfInt_failed (code : Fin (2 ^ 31)) :
    dhcpRequestMinLength ≤ sizeOfInt (Received.failed code).ret := by
  have bound := code.isLt
  show 548 - 308 + 3 + 1 ≤ ((-1 - (code.val : Int)) % 2 ^ 32).toNat
  omega

section
variable {lists : KernelList} {around : Surroundings} {config : Config} {recvTimeout : UInt32}
  {listener target : Listener}

/-- What the sweep does is no matter for what is handled. -/
theorem refresh_logs {now : UInt32}
    (refreshed : listener.refresh? lists around config recvTimeout now = some target) :
    target.handled = listener.handled ∧ target.received = listener.received := by
  unfold Listener.refresh? at refreshed
  split_ifs at refreshed
  · obtain ⟨swept, _, rfl⟩ := Option.map_eq_some_iff.mp refreshed
    exact ⟨rfl, rfl⟩
  · cases refreshed
    exact ⟨rfl, rfl⟩

/-- What one pass adds to the calls. -/
theorem nextPass_logs {pass : Pass}
    (step : nextPass lists around config recvTimeout listener pass = some target) :
    target.received = listener.received ++ [pass.received] ∧
      target.handled = listener.handled ++
        if pass.received.ret ≠ interrupted ∧
            dhcpRequestMinLength ≤ sizeOfInt pass.received.ret ∧
              (listener.receive pass.received).buffer.op = bootrequest then
          [(listener.received.length, sizeOfInt (pass.received.ret - dhcpHeaderLength))]
        else [] := by
  obtain ⟨received, now⟩ := pass
  by_cases isOpen : listener.isOpen = true
  · simp only [nextPass, if_pos isOpen] at step
    obtain ⟨dispatched, isDispatched, refreshed⟩ := Option.bind_eq_some_iff.mp step
    obtain ⟨handled, logged⟩ := refresh_logs refreshed
    rw [handled, logged]
    unfold Listener.dispatch? at isDispatched
    by_cases ends : received.ret = interrupted
    · rw [if_pos ends] at isDispatched
      cases isDispatched
      simp [Listener.receive, ends]
    · rw [if_neg ends] at isDispatched
      by_cases handles : dhcpRequestMinLength ≤ sizeOfInt received.ret ∧
          (listener.receive received).buffer.op = bootrequest
      · rw [if_pos handles] at isDispatched
        obtain ⟨_, _, rfl⟩ := Option.map_eq_some_iff.mp isDispatched
        simp [Listener.receive, ends, handles.1]
        exact handles.2
      · rw [if_neg handles] at isDispatched
        cases isDispatched
        simp only [ends, ne_eq, not_false_eq_true, true_and, if_neg handles, List.append_nil]
        exact ⟨rfl, rfl⟩
  · simp only [nextPass, if_neg isOpen] at step
    cases step

/-- A pass without a stale request handles what is to be handled. -/
theorem nextPass_keeps {pass : Pass} (once : HandledOnce listener)
    (noStale : NoStaleRequest listener pass)
    (step : nextPass lists around config recvTimeout listener pass = some target) :
    HandledOnce target := by
  obtain ⟨received, handled⟩ := nextPass_logs step
  unfold HandledOnce at once ⊢
  rw [handled, received, requests_concat, once]
  congr 1
  obtain ⟨result, now⟩ := pass
  cases result with
  | failed code =>
      have negative : (Received.failed code).ret < 0 := by
        show (-1 - (code.val : Int)) < 0
        omega
      rw [if_neg]
      · rfl
      · rintro ⟨notInterrupted, _, stale⟩
        exact noStale negative notInterrupted stale
  | datagram bytes =>
      have small : min bytes.length dhcpMessageLength < 2 ^ 32 :=
        (Nat.min_le_right _ _).trans_lt (by decide)
      have length : sizeOfInt (Received.datagram bytes).ret =
          min bytes.length dhcpMessageLength := sizeOfInt_natCast small
      have notInterrupted : (Received.datagram bytes).ret ≠ interrupted := by
        show ((min bytes.length dhcpMessageLength : Nat) : Int) ≠ -4
        omega
      by_cases long : dhcpRequestMinLength ≤ min bytes.length dhcpMessageLength
      · have some_ : bytes ≠ [] := by
          rintro rfl
          exact absurd long (by decide)
        have op : (listener.receive (.datagram bytes)).buffer.op = bytes.headD 0 :=
          receive_op _ some_
        have options : sizeOfInt ((Received.datagram bytes).ret - dhcpHeaderLength) =
            min bytes.length dhcpMessageLength - dhcpHeaderLength := by
          have enough : dhcpHeaderLength ≤ min bytes.length dhcpMessageLength :=
            (show dhcpHeaderLength ≤ dhcpRequestMinLength by decide).trans long
          show sizeOfInt (((min bytes.length dhcpMessageLength : Nat) : Int) -
            (dhcpHeaderLength : Nat)) = _
          rw [← Int.ofNat_sub enough]
          exact sizeOfInt_natCast ((Nat.sub_le _ _).trans_lt small)
        simp only [Received.request, length, op, options, long, notInterrupted, ne_eq,
          not_false_eq_true, true_and]
        by_cases isRequest : bytes.headD 0 = bootrequest
        · rw [if_pos isRequest, if_pos isRequest]
          rfl
        · rw [if_neg isRequest, if_neg isRequest]
          rfl
      · rw [if_neg]
        · simp only [Received.request, long, false_and, if_false]
          rfl
        · rintro ⟨_, isLong, _⟩
          rw [length] at isLong
          exact long isLong

/-- A stale request is handled once more. -/
theorem nextPass_stale {pass : Pass} (once : HandledOnce listener)
    (stale : ¬ NoStaleRequest listener pass)
    (step : nextPass lists around config recvTimeout listener pass = some target) :
    ¬ HandledOnce target := by
  obtain ⟨received, handled⟩ := nextPass_logs step
  obtain ⟨result, now⟩ := pass
  simp only [NoStaleRequest, Classical.not_imp, not_not, ne_eq] at stale
  obtain ⟨negative, notInterrupted, isRequest⟩ := stale
  unfold HandledOnce at once ⊢
  cases result with
  | datagram bytes => exact absurd negative (Int.not_lt.mpr (Int.natCast_nonneg _))
  | failed code =>
      rw [handled, received, requests_concat, once,
        if_pos ⟨notInterrupted, sizeOfInt_failed code, isRequest⟩]
      intro same
      have lengths := congrArg List.length same
      simp [Received.request] at lengths

end

theorem handledOnce_start (server : Server) (buffer : DhcpMessage) (lastTimeout : UInt32) :
    HandledOnce (.start server buffer lastTimeout) :=
  rfl

/-- `dhcpd_handle_op_request` is called exactly for the datagrams that are requests and
long enough, once each and with the number of their option bytes, exactly when no
failure of `recvfrom` finds a request in the buffer. -/
theorem handled_once_iff (lists : KernelList) (around : Surroundings) (config : Config)
    (recvTimeout : UInt32) (server : Server) (buffer : DhcpMessage) (lastTimeout : UInt32)
    (schedule : List Pass) :
    StatesSatisfy (nextPass lists around config recvTimeout)
        (.start server buffer lastTimeout) schedule HandledOnce ↔
      StepsMeet (nextPass lists around config recvTimeout)
        (.start server buffer lastTimeout) schedule NoStaleRequest :=
  statesSatisfy_iff_stepsMeet (handledOnce_start server buffer lastTimeout)
    (fun _ _ _ once noStale step => nextPass_keeps once noStale step) (fun _ once => once)
    (fun _ _ _ once stale step => nextPass_stale once stale step) schedule

/-- A datagram of one byte and then a timeout, `-pdFREERTOS_ERRNO_EWOULDBLOCK`. -/
def shortThenTimeout : List Pass :=
  [⟨.datagram [bootrequest], 0⟩, ⟨.failed 10, 0⟩]

/-- The timeout is handled as a message. -/
theorem shortThenTimeout_handled :
    ¬ StatesSatisfy (nextPass .stable quiet defaultConfig 60000)
      (.start defaultPool (.ofBytes []) 0) shortThenTimeout HandledOnce := by
  intro once
  have handled : (run (nextPass .stable quiet defaultConfig 60000)
      (.start defaultPool (.ofBytes []) 0) shortThenTimeout).map (fun listener =>
        decide (listener.handled ≠ requests listener.received)) = some true := by
    decide +kernel
  obtain ⟨listener, executed, differs⟩ := Option.map_eq_some_iff.mp handled
  exact of_decide_eq_true differs (once (List.prefix_refl _) executed)

end FwkRtos.Dhcpd

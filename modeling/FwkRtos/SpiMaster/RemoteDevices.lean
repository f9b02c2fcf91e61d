import FwkRtos.Rpc.Transparency
import FwkRtos.Transition.Ranked
import Mathlib.Algebra.Order.BigOperators.Group.Finset

/-!
# The SPI devices of remote clients

`rtos_spi_master_rpc_host_init` sends every client the handle of the bus and one handle for each
device, and `rtos_spi_master_rpc_client_init` receives as many.  The loop over the devices indexes
them by the client, so that a client is told one device of the host again and again.
-/

namespace FwkRtos.SpiMaster.Remote

open FwkRtos.Bytes FwkRtos.Rpc FwkRtos.Transition

/-! ## The exchange -/

/-- A pointer on the host's tile. -/
abbrev Handle := BitVec 32

/-- The arguments of `rtos_spi_master_rpc_host_init`, and the words that the channel to a client
holds before a sender waits. -/
structure Setup where
  spiMasterCtx : Handle
  spiDeviceCtx : List Handle
  remoteClientCount : Nat
  channelWords : Nat
  holdsWord : 0 < channelWords

/-- `spi_device_count`, on the host and on every client. -/
def Setup.spiDeviceCount (setup : Setup) : Nat := setup.spiDeviceCtx.length

/-- What `rtos_spi_master_rpc_client_init` has stored: the handle of the bus, and those of its
devices in order. -/
structure Client where
  hostCtxPtr : Option Handle
  hostDevCtxPtr : List Handle
  deriving DecidableEq

/-- The loop variables of the host, `j` being none while the handle of the bus is to be sent; the
words on the way to each client; and the clients. -/
structure Exchange where
  i : Nat
  j : Option Nat
  channel : Nat → List Handle
  client : Nat → Client

/-- Who takes a step. -/
inductive Label
  | hostInit
  | clientInit (i : Nat)
  deriving DecidableEq

/-- Before the calls. -/
def start : Exchange where
  i := 0
  j := none
  channel _ := []
  client _ := ⟨none, []⟩

/-- `s_chan_out_word` to the client `i`, which waits while the channel is full. -/
def sChanOutWord (setup : Setup) (exchange : Exchange) (word : Handle) : Option Exchange :=
  if (exchange.channel exchange.i).length < setup.channelWords then
    some { exchange with
      channel := Function.update exchange.channel exchange.i
        (exchange.channel exchange.i ++ [word]) }
  else none

/-- A step of `rtos_spi_master_rpc_host_init`.  A read behind the devices has no result. -/
def hostInit (setup : Setup) (exchange : Exchange) : Option Exchange :=
  if exchange.i < setup.remoteClientCount then
    match exchange.j with
    | none => (sChanOutWord setup exchange setup.spiMasterCtx).map fun sent =>
        { sent with j := some 0 }
    | some j =>
        if j < setup.spiDeviceCount then
          setup.spiDeviceCtx[exchange.i]?.bind fun word =>
            (sChanOutWord setup exchange word).map fun sent => { sent with j := some (j + 1) }
        else some { exchange with i := exchange.i + 1, j := none }
  else none

/-- The client stores a word that it has received. -/
def Client.store (setup : Setup) (client : Client) (word : Handle) : Option Client :=
  match client.hostCtxPtr with
  | none => some { client with hostCtxPtr := some word }
  | some _ =>
      if client.hostDevCtxPtr.length < setup.spiDeviceCount then
        some { client with hostDevCtxPtr := client.hostDevCtxPtr ++ [word] }
      else none

/-- A step of `rtos_spi_master_rpc_client_init` on the client `i`: `s_chan_in_word`, which waits
while the channel is empty. -/
def clientInit (setup : Setup) (exchange : Exchange) (i : Nat) : Option Exchange :=
  if i < setup.remoteClientCount then
    match exchange.channel i with
    | [] => none
    | word :: rest => ((exchange.client i).store setup word).map fun client =>
        { exchange with
          channel := Function.update exchange.channel i rest
          client := Function.update exchange.client i client }
  else none

/-- The host and the clients, interleaved. -/
def next (setup : Setup) : LStep Exchange Label
  | exchange, .hostInit => hostInit setup exchange
  | exchange, .clientInit i => clientInit setup exchange i

/-- The calls have returned, on the host and on every client. -/
structure Finished (setup : Setup) (exchange : Exchange) : Prop where
  host : exchange.i = setup.remoteClientCount
  bus : ∀ i < setup.remoteClientCount, (exchange.client i).hostCtxPtr.isSome
  devices : ∀ i < setup.remoteClientCount,
    (exchange.client i).hostDevCtxPtr.length = setup.spiDeviceCount

/-! ## Remote calls -/

/-- The remote calls on a device, with their other arguments; a buffer is an address on the client,
or `NULL`. -/
inductive Call
  | transactionStart
  | transfer (dataOut dataIn : Option Nat) (len : UInt32)
  | delayBeforeNextTransfer (delayTicks : UInt32)
  | transactionEnd
  deriving DecidableEq

namespace Call

/-- `fcode_transaction_start` to `fcode_transaction_end`. -/
def fcode : Call → BitVec 32
  | transactionStart => 0
  | transfer .. => 1
  | delayBeforeNextTransfer _ => 2
  | transactionEnd => 3

/-- The length in the descriptor of a buffer. -/
def bufferLength (buffer : Option Nat) (len : UInt32) : BitVec 24 :=
  if buffer.isSome then len.toBitVec.setWidth 24 else 0

/-- The `rpc_param_desc` of each. -/
def params : Call → List RpcParam
  | transactionStart => [.type .four]
  | transfer dataOut dataIn len =>
      [.type .four, .inBuffer (bufferLength dataOut len), .outBuffer (bufferLength dataIn len),
        .type .four]
  | delayBeforeNextTransfer _ => [.type .four, .type .four]
  | transactionEnd => [.type .four]

/-- The arguments behind the descriptors, for the addresses of `host_dev_ctx_ptr` and of `len` or
`delay_ticks`. -/
def args (hostDevCtxPtr value : Nat) : Call → List Nat
  | transactionStart => [hostDevCtxPtr]
  | transfer dataOut dataIn _ => [hostDevCtxPtr, dataOut.getD 0, dataIn.getD 0, value]
  | delayBeforeNextTransfer _ => [hostDevCtxPtr, value]
  | transactionEnd => [hostDevCtxPtr]

/-- The value of `len` or `delay_ticks`. -/
def valueBytes : Call → List UInt8
  | transfer _ _ len => intBytes len.toBitVec
  | delayBeforeNextTransfer delayTicks => intBytes delayTicks.toBitVec
  | _ => []

/-- The request of `rpc_client_call_generic`, made by a client that has this handle for its device;
`rest` is what is elsewhere in its memory. -/
def request (call : Call) (handle : Handle) (hostDevCtxPtr value : Nat) (rest : Memory) :
    List UInt8 :=
  let memory := (rest.write value call.valueBytes).write hostDevCtxPtr (intBytes handle)
  (rpcRequestMarshallVa memory call.fcode (paramDescList call.params)
    (call.args hostDevCtxPtr value)).1

end Call

/-- The driver functions that the host calls for its clients, with their arguments. -/
inductive HostCall
  | transactionStart (devCtx : Handle)
  | transfer (devCtx : Handle) (dataOut dataIn : Pointer) (len : UInt32)
  | delayBeforeNextTransfer (devCtx : Handle) (delayTicks : UInt32)
  | transactionEnd (devCtx : Handle)
  deriving DecidableEq

namespace HostCall

def fcode : HostCall → BitVec 32
  | transactionStart _ => 0
  | transfer .. => 1
  | delayBeforeNextTransfer .. => 2
  | transactionEnd _ => 3

def devCtx : HostCall → Handle
  | transactionStart devCtx => devCtx
  | transfer devCtx .. => devCtx
  | delayBeforeNextTransfer devCtx _ => devCtx
  | transactionEnd devCtx => devCtx

end HostCall

/-- The variables of the function that handles this code, before they are filled in. -/
def uninitialised (junk : List UInt8) (fcode : BitVec 32) : List HostVar :=
  if fcode = 1 then [.scalar junk, .pointer .invalid, .pointer .invalid, .scalar junk]
  else if fcode = 2 then [.scalar junk, .scalar junk]
  else [.scalar junk]

/-- The switch of `spi_master_rpc_thread`, up to the call that each case makes: a request in, the
call of the driver out. -/
def spiMasterRpcThread (junk : List UInt8) (request : List UInt8) : Option HostCall :=
  let rpcMsg := rpcRequestParse (received request) messageBlock
  let vars := rpcRequestUnmarshallVa (received request) rpcMsg (uninitialised junk rpcMsg.fcode)
  match rpcMsg.fcode.toNat, vars with
  | 0, [.scalar devCtx] => some (.transactionStart (intOfBytes devCtx))
  | 1, [.scalar devCtx, .pointer dataOut, .pointer dataIn, .scalar len] =>
      some (.transfer (intOfBytes devCtx) dataOut dataIn (.ofBitVec (intOfBytes len)))
  | 2, [.scalar devCtx, .scalar delayTicks] =>
      some (.delayBeforeNextTransfer (intOfBytes devCtx) (.ofBitVec (intOfBytes delayTicks)))
  | 3, [.scalar devCtx] => some (.transactionEnd (intOfBytes devCtx))
  | _, _ => none

/-- Every remote call with this handle is made on the device on the host. -/
def Reaches (handle device : Handle) : Prop :=
  ∀ (call : Call) (hostDevCtxPtr value : Nat) (rest : Memory) (junk : List UInt8),
    ∃ called, spiMasterRpcThread junk (call.request handle hostDevCtxPtr value rest) = some called ∧
      called.fcode = call.fcode ∧ called.devCtx = device

/-! ## What the exchange is for -/

/-- Every run of the calls ends, and it does not end before they have returned; then the device `j`
of every client denotes the device `j` of the host, and remote calls reach it. -/
structure Corresponds (setup : Setup) : Prop where
  ends : ∃ steps, ∀ labels exchange, run (next setup) start labels = some exchange →
    labels.length ≤ steps
  returns : ∀ exchange, Reachable (next setup) start exchange → Stuck (next setup) exchange →
    Finished setup exchange
  denotes : ∀ exchange, Reachable (next setup) start exchange → Finished setup exchange →
    ∀ i < setup.remoteClientCount, ∀ j < setup.spiDeviceCount,
      (exchange.client i).hostDevCtxPtr[j]? = setup.spiDeviceCtx[j]?
  reaches : ∀ exchange, Reachable (next setup) start exchange → Finished setup exchange →
    ∀ i < setup.remoteClientCount, ∀ (j : Nat) (handle device : Handle),
      (exchange.client i).hostDevCtxPtr[j]? = some handle →
        setup.spiDeviceCtx[j]? = some device → Reaches handle device

/-- There is nothing to send, or every client has a device of its own number and all of these are
the same. -/
def SameDevice (setup : Setup) : Prop :=
  setup.remoteClientCount = 0 ∨ setup.spiDeviceCount = 0 ∨
    (setup.remoteClientCount ≤ setup.spiDeviceCount ∧
      ∀ first ∈ setup.spiDeviceCtx, ∀ second ∈ setup.spiDeviceCtx, first = second)

/-! ## Remote calls reach the device of their handle -/

namespace Call

variable (call : Call) (hostDevCtxPtr value : Nat)

theorem length_params_lt : call.params.length < 2 ^ 31 := by
  cases call with
  | transactionStart => decide
  | transfer dataOut dataIn len =>
      change 4 < 2 ^ 31
      decide
  | delayBeforeNextTransfer delayTicks =>
      change 2 < 2 ^ 31
      decide
  | transactionEnd => decide

/-- The handle is the first input of every call. -/
theorem inputs (memory : Memory) :
    ∃ others, (readArguments RpcParam.isInput memory call.params
      (call.args hostDevCtxPtr value)).flatten = memory.read hostDevCtxPtr 4 ++ others := by
  cases call with
  | transactionStart => exact ⟨_, rfl⟩
  | transfer dataOut dataIn len => exact ⟨_, rfl⟩
  | delayBeforeNextTransfer delayTicks => exact ⟨_, rfl⟩
  | transactionEnd => exact ⟨_, rfl⟩

theorem request_eq (handle : Handle) (rest : Memory) :
    ∃ others, call.request handle hostDevCtxPtr value rest =
      requestHeader call.fcode call.params ++ (intBytes handle ++ others) := by
  have written : ((rest.write value call.valueBytes).write hostDevCtxPtr
      (intBytes handle)).read hostDevCtxPtr 4 = intBytes handle := by
    have read := (rest.write value call.valueBytes).read_write hostDevCtxPtr (intBytes handle)
    rwa [length_intBytes] at read
  rcases call.inputs hostDevCtxPtr value ((rest.write value call.valueBytes).write hostDevCtxPtr
    (intBytes handle)) with ⟨others, inputs⟩
  rw [written] at inputs
  rw [Call.request, rpcRequestMarshallVa_eq, inputs]
  exact ⟨others, rfl⟩

end Call

/-- The host calls the function that the client has called, on the device of its handle. -/
theorem reaches_self (handle : Handle) : Reaches handle handle := by
  intro call hostDevCtxPtr value rest junk
  rcases call.request_eq hostDevCtxPtr value handle rest with ⟨others, isRequest⟩
  generalize call.request handle hostDevCtxPtr value rest = request at isRequest
  have message : received request messageBlock =
      requestHeader call.fcode call.params ++ (intBytes handle ++ others) := by
    rw [received_messageBlock, isRequest]
  have few := call.length_params_lt
  have first : slice (received request messageBlock)
      (requestHeader call.fcode call.params).length 4 = intBytes handle := by
    rw [message]
    exact slice_append rfl (length_intBytes handle)
  have devCtx : intOfBytes (slice (received request messageBlock)
      (requestHeader call.fcode call.params).length 4) = handle := by
    rw [first, intOfBytes_intBytes]
  rw [spiMasterRpcThread, rpcRequestParse_eq few message, rpcRequestUnmarshallVa,
    descs_eq few rfl rfl message]
  cases call with
  | transactionStart => exact ⟨_, rfl, rfl, devCtx⟩
  | transfer dataOut dataIn len => exact ⟨_, rfl, rfl, devCtx⟩
  | delayBeforeNextTransfer delayTicks => exact ⟨_, rfl, rfl, devCtx⟩
  | transactionEnd => exact ⟨_, rfl, rfl, devCtx⟩

/-! ## What a step does -/

/-- The words that a client has received, in order. -/
def Client.received (client : Client) : List Handle :=
  client.hostCtxPtr.toList ++ client.hostDevCtxPtr

/-- The handle of the bus is stored before those of the devices. -/
def Client.Ordered (client : Client) : Prop :=
  client.hostCtxPtr = none → client.hostDevCtxPtr = []

namespace Client

variable {setup : Setup} {client stored : Client} {word : Handle}

theorem store_some (ordered : client.Ordered) (step : client.store setup word = some stored) :
    stored.Ordered ∧ stored.received = client.received ++ [word] ∧
      client.received.length < setup.spiDeviceCount + 1 := by
  rcases client with ⟨hostCtxPtr, hostDevCtxPtr⟩
  cases hostCtxPtr with
  | none =>
      have none_ : hostDevCtxPtr = [] := ordered rfl
      cases step
      subst none_
      exact ⟨(fun isNone => nomatch isNone), rfl, Nat.succ_pos _⟩
  | some hostCtx =>
      rw [store] at step
      dsimp only at step
      split at step
      · next fits =>
          cases step
          exact ⟨(fun isNone => nomatch isNone), rfl, Nat.succ_lt_succ fits⟩
      · cases step

/-- A client that has not received everything takes another word. -/
theorem store_isSome (word : Handle) (more : client.received.length < setup.spiDeviceCount + 1) :
    ∃ stored, client.store setup word = some stored := by
  rcases client with ⟨hostCtxPtr, hostDevCtxPtr⟩
  cases hostCtxPtr with
  | none => exact ⟨_, rfl⟩
  | some hostCtx => exact ⟨_, if_pos (Nat.lt_of_succ_lt_succ more)⟩

/-- A client that has received these words has stored them. -/
theorem eq_of_received {devices : List Handle} (ordered : client.Ordered)
    (received : client.received = word :: devices) :
    client = ⟨some word, devices⟩ := by
  rcases client with ⟨hostCtxPtr, hostDevCtxPtr⟩
  cases hostCtxPtr with
  | none =>
      have none_ : hostDevCtxPtr = [] := ordered rfl
      subst none_
      cases received
  | some hostCtx =>
      cases received
      rfl

end Client

/-- A word has been sent. -/
def Exchange.send (exchange : Exchange) (word : Handle) (j : Nat) : Exchange :=
  { exchange with
    j := some j
    channel := Function.update exchange.channel exchange.i
      (exchange.channel exchange.i ++ [word]) }

section Steps

variable {setup : Setup} {exchange after : Exchange}

/-- The host sends the handle of the bus, sends a handle of a device, or goes on to the next
client. -/
theorem hostInit_cases (step : hostInit setup exchange = some after) :
    exchange.i < setup.remoteClientCount ∧
      ((exchange.j = none ∧ after = exchange.send setup.spiMasterCtx 0) ∨
        (∃ j word, exchange.j = some j ∧ j < setup.spiDeviceCount ∧
          setup.spiDeviceCtx[exchange.i]? = some word ∧ after = exchange.send word (j + 1)) ∨
        (∃ j, exchange.j = some j ∧ setup.spiDeviceCount ≤ j ∧
          after = { exchange with i := exchange.i + 1, j := none })) := by
  have sent : ∀ {word sent}, sChanOutWord setup exchange word = some sent → ∀ j,
      { sent with j := some j } = exchange.send word j := by
    intro word sent isSent j
    rw [sChanOutWord] at isSent
    split at isSent
    · cases isSent
      rfl
    · cases isSent
  rw [hostInit] at step
  split at step
  · next inside =>
      apply And.intro inside
      split at step
      · next isNone =>
          rcases Option.map_eq_some_iff.mp step with ⟨_, isSent, rfl⟩
          exact .inl ⟨isNone, sent isSent 0⟩
      · next j isAt =>
          split at step
          · next more =>
              rcases Option.bind_eq_some_iff.mp step with ⟨word, isWord, step⟩
              rcases Option.map_eq_some_iff.mp step with ⟨_, isSent, rfl⟩
              exact .inr (.inl ⟨j, word, isAt, more, isWord, sent isSent (j + 1)⟩)
          · next done =>
              cases step
              exact .inr (.inr ⟨j, isAt, Nat.le_of_not_lt done, rfl⟩)
  · cases step

/-- A client stores the first word of its channel. -/
theorem clientInit_cases {i : Nat} (step : clientInit setup exchange i = some after) :
    i < setup.remoteClientCount ∧ ∃ word rest client,
      exchange.channel i = word :: rest ∧
        (exchange.client i).store setup word = some client ∧
          after = { exchange with
            channel := Function.update exchange.channel i rest
            client := Function.update exchange.client i client } := by
  rw [clientInit] at step
  split at step
  · next inside =>
      apply And.intro inside
      split at step
      · cases step
      · next word rest isChannel =>
          rcases Option.map_eq_some_iff.mp step with ⟨client, stored, rfl⟩
          exact ⟨word, rest, client, isChannel, stored, rfl⟩
  · cases step

end Steps

/-! ## What has been sent -/

/-- The handle of the bus, and as many of the device that the client `i` is told. -/
def Setup.told (setup : Setup) (i count : Nat) : List Handle :=
  setup.spiMasterCtx :: List.replicate count (setup.spiDeviceCtx.getD i 0)

/-- The words that the client `i` has been sent. -/
def Exchange.sent (setup : Setup) (exchange : Exchange) (i : Nat) : List Handle :=
  if i < exchange.i then setup.told i setup.spiDeviceCount
  else if i = exchange.i then
    match exchange.j with
    | none => []
    | some j => setup.told i j
  else []

/-- What has been sent has been received or is on its way; the host has read inside the devices. -/
structure Inv (setup : Setup) (exchange : Exchange) : Prop where
  host : exchange.i ≤ setup.remoteClientCount
  device : ∀ j, exchange.j = some j →
    exchange.i < setup.remoteClientCount ∧ j ≤ setup.spiDeviceCount
  inside : ∀ i < exchange.i, 0 < setup.spiDeviceCount → i < setup.spiDeviceCount
  insideNow : ∀ j, exchange.j = some j → 0 < j → exchange.i < setup.spiDeviceCount
  ordered : ∀ i, (exchange.client i).Ordered
  words : ∀ i, (exchange.client i).received ++ exchange.channel i = exchange.sent setup i

section Invariant

variable {setup : Setup} {exchange after : Exchange}

theorem Inv.start (setup : Setup) : Inv setup start where
  host := Nat.zero_le _
  device _ isAt := nomatch isAt
  inside _ below := absurd below (Nat.not_lt_zero _)
  insideNow _ isAt := nomatch isAt
  ordered _ _ := rfl
  words i := by
    change [] = Exchange.sent setup Remote.start i
    rw [Exchange.sent]
    change [] = if i < 0 then _ else if i = 0 then [] else []
    rw [if_neg (Nat.not_lt_zero i), ite_self]

theorem Setup.told_succ {i : Nat} {word : Handle} (isWord : setup.spiDeviceCtx[i]? = some word)
    (count : Nat) : setup.told i (count + 1) = setup.told i count ++ [word] := by
  have same : setup.spiDeviceCtx.getD i 0 = word := by
    rw [List.getD_eq_getElem?_getD, isWord, Option.getD_some]
  rw [Setup.told, Setup.told, same, List.replicate_succ', List.cons_append]

/-- A word sent follows those sent before. -/
theorem Exchange.sent_send {word : Handle} {count : Nat}
    (more : setup.told exchange.i count = exchange.sent setup exchange.i ++ [word]) (i : Nat) :
    (exchange.send word count).sent setup i =
      if i = exchange.i then exchange.sent setup i ++ [word] else exchange.sent setup i := by
  by_cases isNow : i = exchange.i
  case pos =>
    subst isNow
    rw [if_pos rfl, ← more, Exchange.sent]
    exact (if_neg (Nat.lt_irrefl _)).trans (if_pos rfl)
  case neg =>
    rw [if_neg isNow, Exchange.sent, Exchange.sent]
    simp only [Exchange.send, isNow, if_false]

theorem Inv.send (inv : Inv setup exchange) {word : Handle} {count : Nat}
    (client : exchange.i < setup.remoteClientCount) (bound : count ≤ setup.spiDeviceCount)
    (device : 0 < count → exchange.i < setup.spiDeviceCount)
    (more : setup.told exchange.i count = exchange.sent setup exchange.i ++ [word]) :
    Inv setup (exchange.send word count) where
  host := inv.host
  device j isAt := by
    cases isAt
    exact ⟨client, bound⟩
  inside := inv.inside
  insideNow j isAt := by
    cases isAt
    exact device
  ordered := inv.ordered
  words i := by
    rw [Exchange.sent_send more]
    by_cases isNow : i = exchange.i
    case pos =>
      subst isNow
      rw [if_pos rfl, ← inv.words, List.append_assoc]
      exact congrArg _ (Function.update_self _ _ _)
    case neg =>
      rw [if_neg isNow, ← inv.words]
      exact congrArg _ (Function.update_of_ne isNow _ _)

theorem Inv.hostStep (inv : Inv setup exchange) (step : hostInit setup exchange = some after) :
    Inv setup after := by
  have now : exchange.sent setup exchange.i =
      match exchange.j with
      | none => []
      | some j => setup.told exchange.i j := by
    rw [Exchange.sent, if_neg (Nat.lt_irrefl _), if_pos rfl]
  rcases hostInit_cases step with ⟨client, ⟨isNone, rfl⟩ | ⟨j, word, isAt, more, isWord, rfl⟩ |
    ⟨j, isAt, done, rfl⟩⟩
  · apply inv.send client (Nat.zero_le _) (fun positive => absurd positive (Nat.lt_irrefl 0))
    rw [now, isNone]
    rfl
  · apply inv.send client more
    · intro _
      exact (List.getElem?_eq_some_iff.mp isWord).1
    · rw [now, isAt]
      exact setup.told_succ isWord j
  · have full : j = setup.spiDeviceCount := Nat.le_antisymm (inv.device j isAt).2 done
    exact
      { host := client
        device := fun _ isAt => nomatch isAt
        inside := by
          intro i before positive
          rcases Nat.lt_succ_iff_lt_or_eq.mp before with earlier | isNow
          · exact inv.inside i earlier positive
          · rw [isNow]
            exact inv.insideNow j isAt (full ▸ positive)
        insideNow := fun _ isAt => nomatch isAt
        ordered := inv.ordered
        words := by
          intro i
          rw [inv.words i, Exchange.sent, Exchange.sent, isAt, full]
          dsimp only
          by_cases isNow : i = exchange.i
          case pos =>
            subst isNow
            rw [if_neg (Nat.lt_irrefl _), if_pos rfl, if_pos (Nat.lt_succ_self _)]
          case neg =>
            rw [if_neg isNow]
            by_cases before : i < exchange.i
            case pos => rw [if_pos before, if_pos (Nat.lt_succ_of_lt before)]
            case neg =>
              rw [if_neg before, if_neg (by omega)]
              split <;> rfl }

theorem Inv.clientStep (inv : Inv setup exchange) {i : Nat}
    (step : clientInit setup exchange i = some after) : Inv setup after := by
  rcases clientInit_cases step with ⟨_, word, rest, client, isChannel, stored, rfl⟩
  rcases Client.store_some (inv.ordered i) stored with ⟨ordered, received, _⟩
  exact
    { host := inv.host
      device := inv.device
      inside := inv.inside
      insideNow := inv.insideNow
      ordered := by
        intro k
        dsimp only
        by_cases isClient : k = i
        case pos =>
          subst isClient
          rw [Function.update_self]
          exact ordered
        case neg =>
          rw [Function.update_of_ne isClient]
          exact inv.ordered k
      words := by
        intro k
        apply Eq.trans _ (inv.words k)
        dsimp only
        by_cases isClient : k = i
        case pos =>
          subst isClient
          rw [Function.update_self, Function.update_self, received, isChannel, List.append_assoc,
            List.singleton_append]
        case neg => rw [Function.update_of_ne isClient, Function.update_of_ne isClient] }

/-- No client is sent more than the handles. -/
theorem Inv.length_sent (inv : Inv setup exchange) (i : Nat) :
    (exchange.sent setup i).length ≤ setup.spiDeviceCount + 1 := by
  have told : ∀ count ≤ setup.spiDeviceCount,
      (setup.told i count).length ≤ setup.spiDeviceCount + 1 := by
    intro count few
    rw [Setup.told, List.length_cons, List.length_replicate]
    exact Nat.succ_le_succ few
  rw [Exchange.sent]
  split
  · exact told _ le_rfl
  · split
    · split
      · exact Nat.zero_le _
      · next j isAt => exact told j (inv.device j isAt).2
    · exact Nat.zero_le _

theorem Inv.step (inv : Inv setup exchange) {label : Label}
    (step : next setup exchange label = some after) : Inv setup after := by
  cases label with
  | hostInit => exact inv.hostStep step
  | clientInit i => exact inv.clientStep step

theorem Inv.of_reachable (reachable : Reachable (next setup) Remote.start exchange) :
    Inv setup exchange :=
  reachable.invariant (.start setup) fun _ _ _ inv _ step => inv.step step

end Invariant

/-! ## Every run ends -/

/-- The steps that are left to the host. -/
def Exchange.hostLeft (setup : Setup) (exchange : Exchange) : Nat :=
  (setup.remoteClientCount - exchange.i) * (setup.spiDeviceCount + 2) -
    match exchange.j with
    | none => 0
    | some j => j + 1

/-- The words that a client has still to receive. -/
def Client.left (setup : Setup) (client : Client) : Nat :=
  setup.spiDeviceCount + 1 - client.received.length

/-- The steps that are left. -/
def Exchange.left (setup : Setup) (exchange : Exchange) : Nat :=
  exchange.hostLeft setup +
    ∑ i ∈ Finset.range setup.remoteClientCount, (exchange.client i).left setup

section Ends

variable {setup : Setup} {exchange after : Exchange}

theorem Inv.hostLeft_lt (inv : Inv setup exchange) (step : hostInit setup exchange = some after) :
    after.hostLeft setup < exchange.hostLeft setup ∧ after.client = exchange.client := by
  rcases hostInit_cases step with ⟨client, now⟩
  have isLeft : setup.remoteClientCount - exchange.i =
      (setup.remoteClientCount - (exchange.i + 1)) + 1 := by omega
  rw [Exchange.hostLeft, Exchange.hostLeft]
  rcases now with ⟨isNone, rfl⟩ | ⟨j, word, isAt, more, isWord, rfl⟩ | ⟨j, isAt, done, rfl⟩
  · apply And.intro _ rfl
    rw [isNone]
    simp only [Exchange.send]
    rw [isLeft, Nat.succ_mul]
    omega
  · apply And.intro _ rfl
    rw [isAt]
    simp only [Exchange.send]
    rw [isLeft, Nat.succ_mul]
    omega
  · apply And.intro _ rfl
    have bound := (inv.device j isAt).2
    rw [isAt]
    dsimp only
    rw [isLeft, Nat.succ_mul]
    omega

theorem Inv.clientLeft_lt (inv : Inv setup exchange) {i : Nat}
    (step : clientInit setup exchange i = some after) : after.left setup < exchange.left setup := by
  rcases clientInit_cases step with ⟨isClient, word, rest, client, _, stored, rfl⟩
  rcases Client.store_some (inv.ordered i) stored with ⟨_, received, more⟩
  have lower : client.left setup < (exchange.client i).left setup := by
    rw [Client.left, Client.left, received, List.length_append, List.length_singleton]
    omega
  apply Nat.add_lt_add_left
  apply Finset.sum_lt_sum
  · intro k _
    dsimp only
    by_cases same : k = i
    case pos =>
      subst same
      rw [Function.update_self]
      exact lower.le
    case neg => rw [Function.update_of_ne same]
  · apply Exists.intro i
    apply And.intro (Finset.mem_range.mpr isClient)
    dsimp only
    rw [Function.update_self]
    exact lower

/-- Every step is one of those that are left. -/
theorem ranked (setup : Setup) : Ranked (next setup) (Inv setup) (Exchange.left setup) := by
  intro exchange after label inv step
  apply And.intro (inv.step step)
  cases label with
  | hostInit =>
      rcases inv.hostLeft_lt step with ⟨lower, same⟩
      rw [Exchange.left, Exchange.left, same]
      exact Nat.add_lt_add_right lower _
  | clientInit i => exact inv.clientLeft_lt step

end Ends

/-! ## Every run ends with all handles exchanged -/

section Returns

variable {setup : Setup} {exchange : Exchange}

/-- A client whose channel holds a word takes it. -/
theorem Inv.channel_of_stuck (inv : Inv setup exchange) (stuck : Stuck (next setup) exchange)
    {i : Nat} (isClient : i < setup.remoteClientCount) : exchange.channel i = [] := by
  have waits : clientInit setup exchange i = none := stuck (.clientInit i)
  rw [clientInit, if_pos isClient] at waits
  split at waits
  · assumption
  · next word rest isChannel =>
      have all := congrArg List.length (inv.words i)
      have few := inv.length_sent i
      rw [isChannel, List.length_append, List.length_cons] at all
      have more : (exchange.client i).received.length < setup.spiDeviceCount + 1 := by omega
      rcases Client.store_isSome word more with ⟨client, stored⟩
      rw [stored] at waits
      cases waits

/-- The host returns if it does not read behind the devices. -/
theorem Inv.host_of_stuck (inv : Inv setup exchange) (stuck : Stuck (next setup) exchange)
    (inside : exchange.i < setup.remoteClientCount → 0 < setup.spiDeviceCount →
      exchange.i < setup.spiDeviceCount) : exchange.i = setup.remoteClientCount := by
  by_contra notLast
  have client : exchange.i < setup.remoteClientCount := Nat.lt_of_le_of_ne inv.host notLast
  have empty := inv.channel_of_stuck stuck client
  have sends : ∀ word, ∃ sent, sChanOutWord setup exchange word = some sent := by
    intro word
    rw [sChanOutWord, empty]
    exact ⟨_, if_pos setup.holdsWord⟩
  have waits : hostInit setup exchange = none := stuck .hostInit
  rw [hostInit, if_pos client] at waits
  split at waits
  · rcases sends setup.spiMasterCtx with ⟨sent, isSent⟩
    rw [isSent] at waits
    cases waits
  · next j isAt =>
      split at waits
      · next more =>
          have isDevice := inside client (Nat.zero_lt_of_lt more)
          have isWord : ∃ word, setup.spiDeviceCtx[exchange.i]? = some word :=
            ⟨_, List.getElem?_eq_getElem isDevice⟩
          rcases isWord with ⟨word, isWord⟩
          rcases sends word with ⟨sent, isSent⟩
          rw [isWord, Option.bind_some, isSent] at waits
          cases waits
      · cases waits

/-- Once the host has returned and nothing is on its way, every client has been told its own
number's device for all of its devices. -/
theorem Inv.client_eq (inv : Inv setup exchange) (host : exchange.i = setup.remoteClientCount)
    {i : Nat} (isClient : i < setup.remoteClientCount) (empty : exchange.channel i = []) :
    exchange.client i = ⟨some setup.spiMasterCtx,
      List.replicate setup.spiDeviceCount (setup.spiDeviceCtx.getD i 0)⟩ := by
  have words := inv.words i
  rw [empty, List.append_nil, Exchange.sent, host, if_pos isClient] at words
  exact Client.eq_of_received (inv.ordered i) words

theorem Inv.finished (inv : Inv setup exchange) (stuck : Stuck (next setup) exchange)
    (host : exchange.i = setup.remoteClientCount) : Finished setup exchange := by
  have client : ∀ i < setup.remoteClientCount, exchange.client i = ⟨some setup.spiMasterCtx,
      List.replicate setup.spiDeviceCount (setup.spiDeviceCtx.getD i 0)⟩ :=
    fun i isClient => inv.client_eq host isClient (inv.channel_of_stuck stuck isClient)
  exact
    { host := host
      bus := fun i isClient => by rw [client i isClient, Option.isSome_some]
      devices := fun i isClient => by rw [client i isClient, List.length_replicate] }

/-- When the calls have returned, the channels are empty. -/
theorem Inv.channel_of_finished (inv : Inv setup exchange) (finished : Finished setup exchange)
    {i : Nat} (isClient : i < setup.remoteClientCount) : exchange.channel i = [] := by
  have all := congrArg List.length (inv.words i)
  have few := inv.length_sent i
  have bus : (exchange.client i).hostCtxPtr.toList.length = 1 := by
    rcases Option.isSome_iff_exists.mp (finished.bus i isClient) with ⟨hostCtx, isBus⟩
    rw [isBus]
    rfl
  rw [Client.received, List.length_append, List.length_append, bus,
    finished.devices i isClient] at all
  apply List.eq_nil_of_length_eq_zero
  omega

/-- After the exchange every device of a client has the handle of the device with the number of
the client. -/
theorem Inv.hostDevCtxPtr_eq (inv : Inv setup exchange) (finished : Finished setup exchange)
    {i : Nat} (isClient : i < setup.remoteClientCount) :
    (exchange.client i).hostDevCtxPtr =
      List.replicate setup.spiDeviceCount (setup.spiDeviceCtx.getD i 0) := by
  rw [inv.client_eq finished.host isClient (inv.channel_of_finished finished isClient)]

end Returns

/-- The handles correspond exactly if there is nothing to send, or every client has a device of
its own number and all devices are the same. -/
theorem corresponds_iff (setup : Setup) : Corresponds setup ↔ SameDevice setup := by
  constructor
  · intro corresponds
    by_cases noClient : setup.remoteClientCount = 0
    case pos => exact .inl noClient
    case neg =>
      by_cases noDevice : setup.spiDeviceCount = 0
      case pos => exact .inr (.inl noDevice)
      case neg =>
        have anyDevice := Nat.pos_of_ne_zero noDevice
        rcases (ranked setup).exists_stuck (.start setup) with ⟨exchange, reachable, stuck⟩
        have inv := Inv.of_reachable reachable
        have finished := corresponds.returns exchange reachable stuck
        have told := corresponds.denotes exchange reachable finished 0 (Nat.pos_of_ne_zero noClient)
        apply Or.inr
        apply Or.inr
        constructor
        · -- The host has sent the last client a device.
          have last := inv.inside (setup.remoteClientCount - 1)
            (by rw [finished.host]; omega) anyDevice
          omega
        · have same : ∀ device ∈ setup.spiDeviceCtx, device = setup.spiDeviceCtx.getD 0 0 := by
            intro device isIn
            rcases List.mem_iff_getElem?.mp isIn with ⟨j, isDevice⟩
            have inside : j < setup.spiDeviceCount := (List.getElem?_eq_some_iff.mp isDevice).1
            have here := told j inside
            rw [inv.hostDevCtxPtr_eq finished (Nat.pos_of_ne_zero noClient), isDevice,
              List.getElem?_replicate, if_pos inside] at here
            exact (Option.some.inj here).symm
          intro first isFirst second isSecond
          rw [same first isFirst, same second isSecond]
  · intro same
    have device : ∀ i < setup.remoteClientCount, 0 < setup.spiDeviceCount →
        i < setup.spiDeviceCount := by
      intro i isClient anyDevice
      rcases same with noClient | noDevice | ⟨few, _⟩
      · omega
      · omega
      · exact isClient.trans_le few
    have denotes : ∀ exchange, Reachable (next setup) start exchange → Finished setup exchange →
        ∀ i < setup.remoteClientCount, ∀ j < setup.spiDeviceCount,
          (exchange.client i).hostDevCtxPtr[j]? = setup.spiDeviceCtx[j]? := by
      intro exchange reachable finished i isClient j isDevice
      have other := device i isClient (Nat.zero_lt_of_lt isDevice)
      rcases same with noClient | noDevice | ⟨_, same⟩
      · omega
      · omega
      · rw [(Inv.of_reachable reachable).hostDevCtxPtr_eq finished isClient,
          List.getElem?_replicate, if_pos isDevice, List.getElem?_eq_getElem isDevice,
          List.getD_eq_getElem?_getD,
          List.getElem?_eq_getElem other, Option.getD_some]
        exact congrArg some (same _ (List.getElem_mem other) _ (List.getElem_mem isDevice))
    exact
      { ends := by
          refine ⟨start.left setup, ?_⟩
          intro labels exchange executed
          exact Nat.le_of_add_right_le ((ranked setup).length_add_le (.start setup) executed)
        returns := by
          intro exchange reachable stuck
          have inv := Inv.of_reachable reachable
          exact inv.finished stuck (inv.host_of_stuck stuck (device exchange.i))
        denotes := denotes
        reaches := by
          intro exchange reachable finished i isClient j handle device isHandle isDevice
          have inside : j < setup.spiDeviceCount := (List.getElem?_eq_some_iff.mp isDevice).1
          have here := denotes exchange reachable finished i isClient j inside
          rw [isHandle, isDevice] at here
          rw [Option.some.inj here]
          exact reaches_self device }

/-- One client and two devices. -/
def twoDevices : Setup where
  spiMasterCtx := 0x1000
  spiDeviceCtx := [0x2000, 0x3000]
  remoteClientCount := 1
  channelWords := 2
  holdsWord := by decide

/-- Both devices of the client denote the first one of the host. -/
theorem twoDevices_not_corresponds : ¬ Corresponds twoDevices := by
  intro corresponds
  have told : ∃ exchange, Reachable (next twoDevices) start exchange ∧
      (exchange.i == 1 && exchange.client 0 == ⟨some 0x1000, [0x2000, 0x2000]⟩) = true :=
    exists_reachable_of_run _ _
      [.hostInit, .clientInit 0, .hostInit, .clientInit 0, .hostInit, .clientInit 0, .hostInit] _
      (by decide)
  rcases told with ⟨exchange, reachable, isTold⟩
  rcases Bool.and_eq_true_iff.mp isTold with ⟨host, client⟩
  have isClient : exchange.client 0 = ⟨some 0x1000, [0x2000, 0x2000]⟩ := eq_of_beq client
  have only : ∀ i < twoDevices.remoteClientCount, exchange.client i =
      ⟨some 0x1000, [0x2000, 0x2000]⟩ := by
    intro i isIn
    rw [Nat.lt_one_iff.mp isIn]
    exact isClient
  have finished : Finished twoDevices exchange :=
    { host := eq_of_beq host
      bus := fun i isIn => by rw [only i isIn, Option.isSome_some]
      devices := fun i isIn => by rw [only i isIn]; rfl }
  have second := corresponds.denotes exchange reachable finished 0 (by decide) 1 (by decide)
  rw [isClient] at second
  exact absurd second (by decide)

end FwkRtos.SpiMaster.Remote

import FwkRtos.I2s.LocalReceive
import FwkRtos.Rpc.Transparency

/-!
# Remote calls of `i2s_local_rx`

A client calls `i2s_remote_rx`, and `i2s_rx_rpc_host` calls `rtos_i2s_rx` for it with a
temporary buffer.  The client describes its buffer by the words that come in and by a length
of 24 bits; the host allocates its own by the words that go out; and the response copies the
buffer whatever the call has returned.
-/

namespace FwkRtos.I2s

open FwkRtos.Bytes FwkRtos.Osal FwkRtos.Rpc FwkRtos.SampleStream FwkRtos.Transition

universe u

variable {S : Type u} {config : Config S}

/-- A word in memory. -/
def wordBytes (word : UInt32) : List UInt8 :=
  leBytes 4 word.toNat

/-- The word that these bytes hold. -/
def wordOfBytes (bytes : List UInt8) : UInt32 :=
  UInt32.ofNat (leValue bytes)

/-- The words of a sample buffer in memory. -/
def sampleBytes (samples : List Sample) : List UInt8 :=
  samples.flatMap fun sample => wordBytes sample.toUInt32

/-- `fcode_rx`. -/
def fcodeRx : BitVec 32 := 0

/-- What a request asks for: the context on the host, the frames and the timeout. -/
structure RxRequest where
  ctx : UInt32
  frameCount : UInt32
  timeout : Timeout
  deriving DecidableEq

/-- Where the variables of `i2s_remote_rx` are in the client's memory, and its caller's buffer
of so many bytes. -/
structure RxFrame (bytes : Nat) where
  hostCtxPtr : Nat
  i2sSampleBuf : Nat
  frameCount : Nat
  timeout : Nat
  ret : Nat
  /-- No two of them overlap. -/
  separate : [(hostCtxPtr, 4), (i2sSampleBuf, bytes), (frameCount, 4), (timeout, 4),
      (ret, 4)].Pairwise fun first second =>
    first.1 + first.2 ≤ second.1 ∨ second.1 + second.2 ≤ first.1

namespace RxFrame

variable {bytes : Nat}

/-- The arguments after the descriptors in the call of `rpc_client_call_generic`. -/
def args (frame : RxFrame bytes) : List Nat :=
  [frame.hostCtxPtr, frame.i2sSampleBuf, frame.frameCount, frame.timeout, frame.ret]

/-- The client's memory at the call; `rest` is what is elsewhere. -/
def memory (frame : RxFrame bytes) (request : RxRequest) (rest : Memory) : Memory :=
  ((rest.write frame.hostCtxPtr (wordBytes request.ctx)).write
    frame.frameCount (wordBytes request.frameCount)).write
      frame.timeout (wordBytes request.timeout.ticks)

end RxFrame

/-- The bytes of the buffer as a bit field of a descriptor holds them. -/
def describedLength (numIn frameCount : UInt32) : BitVec 24 :=
  (4 * (frameCount * (2 * numIn))).toBitVec.setWidth 24

/-- `rpc_param_desc` of `i2s_remote_rx`. -/
def i2sRemoteRxParams (numIn frameCount : UInt32) : List RpcParam :=
  [.type .four, .outBuffer (describedLength numIn frameCount), .type .four, .type .four,
    .return .four]

/-! ## The host -/

/-- The variables of `i2s_rx_rpc_host` at first. -/
def uninitialised (junk : Nat → UInt8) : List HostVar :=
  let scalar := .scalar ((List.range 4).map junk)
  [scalar, .pointer .invalid, scalar, scalar, scalar]

/-- What its variables say after the request has been unmarshalled. -/
def RxRequest.ofVars : List HostVar → Option RxRequest
  | [.scalar ctx, _, .scalar frameCount, .scalar timeout, _] =>
      some ⟨wordOfBytes ctx, wordOfBytes frameCount, ⟨wordOfBytes timeout⟩⟩
  | _ => none

/-- The bytes of the temporary buffer. -/
def allocatedBytes (numOut frameCount : UInt32) : Nat :=
  (frameCount * (2 * numOut) * 4).toNat

/-- The block of the temporary buffer. -/
def bufferBlock : Nat := messageBlock + 1

/-- `i2s_rx_rpc_host`, for the outcome of its call of `rtos_i2s_rx`: the arguments of that call,
and the response.  An access outside of the temporary buffer has no result. -/
def i2sRxRpcHost (numOut : UInt32) (junk : Nat → UInt8) (returned : Returned)
    (message : List UInt8) : Option (RxRequest × List UInt8) := do
  let rpcMsg := rpcRequestParse (received message) messageBlock
  let called ← RxRequest.ofVars
    (rpcRequestUnmarshallVa (received message) rpcMsg (uninitialised junk))
  let size := allocatedBytes numOut called.frameCount
  let written := sampleBytes returned.samples
  if written.length ≤ size ∧
      ∀ desc ∈ rpcMsg.descs (received message), desc.ptr → desc.length.toNat ≤ size then
    let memory := Function.update (received message) bufferBlock
      (splice ((List.range size).map junk) 0 written)
    let pass (word : UInt32) := HostVar.pass false (.scalar (wordBytes word))
    let response ← rpcResponseMarshallVa memory rpcMsg
      [pass called.ctx, .pointer (.block bufferBlock 0), pass called.frameCount,
        pass called.timeout.ticks, pass returned.result]
    return (called, response.1)
  else none

/-! ## The client -/

/-- `i2s_remote_rx`, for the outcome of the host's call of `rtos_i2s_rx`: the arguments of that
call, and the client's memory. -/
def i2sRemoteRx (config : Config S) (junk : Nat → UInt8) (returned : Returned)
    (request : RxRequest) {bytes : Nat} (frame : RxFrame bytes) (rest : Memory) :
    Option (RxRequest × Memory) := do
  let memory := frame.memory request rest
  let paramDesc := paramDescList (i2sRemoteRxParams config.numIn request.frameCount)
  let message := rpcRequestMarshallVa memory fcodeRx paramDesc frame.args
  let (called, response) ← i2sRxRpcHost config.numOut junk returned message.1
  let parsed := rpcResponseParse (received response) messageBlock
    { fcode := 0, paramCount := 0, paramDesc := 0, params := 0, msgBuf := 0 }
  if parsed.fcode = fcodeRx then
    return (called,
      rpcResponseUnmarshallVa (received response) parsed paramDesc frame.args memory)
  else none

/-- The client's memory had it called `i2s_local_rx` itself. -/
def localMemory (returned : Returned) (request : RxRequest) {bytes : Nat}
    (frame : RxFrame bytes) (rest : Memory) : Memory :=
  ((frame.memory request rest).write frame.i2sSampleBuf (sampleBytes returned.samples)).write
    frame.ret (wordBytes returned.result)

/-- The words that a request asks for. -/
def RxRequest.words (config : Config S) (request : RxRequest) : Nat :=
  (request.frameCount * (2 * config.numIn)).toNat

/-- A remote call whose call on the host returns this does what the call on the host does: it
is called with the client's arguments, the client gets its result and its words, and the host
stays in its temporary buffer. -/
def RemoteAsLocal (config : Config S) (request : RxRequest) (returned : Returned) : Prop :=
  ∀ (junk : Nat → UInt8) (frame : RxFrame (4 * request.words config)) (rest : Memory),
    i2sRemoteRx config junk returned request frame rest =
      some (request, localMemory returned request frame rest)

/-- A call that returns its words fits the descriptor and the temporary buffer; one that times
out has a descriptor without bytes. -/
def RemoteFits (config : Config S) (request : RxRequest) (schedule : List (Label S)) : Prop :=
  (.timeOut .recv ∉ schedule → 4 * request.words config < 2 ^ 24 ∧
      4 * request.words config ≤ allocatedBytes config.numOut request.frameCount) ∧
    (.timeOut .recv ∈ schedule → 2 ^ 24 ∣ 4 * request.words config)

/-! ## Words in memory -/

@[simp]
theorem length_wordBytes (word : UInt32) : (wordBytes word).length = 4 :=
  length_leBytes _ _

@[simp]
theorem wordOfBytes_wordBytes (word : UInt32) : wordOfBytes (wordBytes word) = word := by
  rw [wordOfBytes, wordBytes, leValue_leBytes word.toNat_lt, UInt32.ofNat_toNat]

@[simp]
theorem length_sampleBytes (samples : List Sample) :
    (sampleBytes samples).length = 4 * samples.length := by
  induction samples with
  | nil => rfl
  | cons sample samples ih =>
      rw [sampleBytes, List.flatMap_cons, List.length_append, length_wordBytes, List.length_cons]
      rw [sampleBytes] at ih
      omega

/-- The descriptor holds the lowest 24 bits of the length. -/
theorem toNat_describedLength (numIn frameCount : UInt32) :
    (describedLength numIn frameCount).toNat =
      4 * (frameCount * (2 * numIn)).toNat % 2 ^ 24 := by
  have product : (4 * (frameCount * (2 * numIn))).toNat =
      4 * (frameCount * (2 * numIn)).toNat % 2 ^ 32 := UInt32.toNat_mul _ _
  rw [describedLength, BitVec.toNat_setWidth, UInt32.toNat_toBitVec, product]
  omega

section Frame

variable {bytes : Nat} (frame : RxFrame bytes) (request : RxRequest) (rest : Memory)

/-- The request carries the client's variables. -/
theorem RxFrame.inputs (length : BitVec 24) :
    readArguments RpcParam.isInput (frame.memory request rest)
        [.type .four, .outBuffer length, .type .four, .type .four, .return .four] frame.args =
      [wordBytes request.ctx, wordBytes request.frameCount,
        wordBytes request.timeout.ticks] := by
  have separate := frame.separate
  simp only [List.pairwise_cons, List.mem_cons, List.not_mem_nil, or_false, forall_eq_or_imp,
    forall_eq] at separate
  have word : ∀ (memory : Memory) (address : Nat) (value : UInt32),
      (memory.write address (wordBytes value)).read address 4 = wordBytes value := by
    intro memory address value
    have written := memory.read_write address (wordBytes value)
    rwa [length_wordBytes] at written
  have ctx : (frame.memory request rest).read frame.hostCtxPtr 4 = wordBytes request.ctx := by
    rw [RxFrame.memory, Memory.read_write_of_disjoint _ (by rw [length_wordBytes]; omega),
      Memory.read_write_of_disjoint _ (by rw [length_wordBytes]; omega), word]
  have frameCount : (frame.memory request rest).read frame.frameCount 4 =
      wordBytes request.frameCount := by
    rw [RxFrame.memory, Memory.read_write_of_disjoint _ (by rw [length_wordBytes]; omega), word]
  have timeout : (frame.memory request rest).read frame.timeout 4 =
      wordBytes request.timeout.ticks := word _ _ _
  rw [← ctx, ← frameCount, ← timeout]
  rfl

end Frame

/-! ## The host's part -/

/-- The request of a client. -/
def requestOf (numIn : UInt32) (request : RxRequest) : List UInt8 :=
  requestHeader fcodeRx (i2sRemoteRxParams numIn request.frameCount) ++
    [wordBytes request.ctx, wordBytes request.frameCount,
      wordBytes request.timeout.ticks].flatten

/-- The host parses it. -/
theorem rpcRequestParse_requestOf (numIn : UInt32) (request : RxRequest) :
    rpcRequestParse (received (requestOf numIn request)) messageBlock =
      { fcode := fcodeRx, paramCount := 5, paramDesc := 8, params := 28, msgBuf := messageBlock } :=
  rpcRequestParse_eq (by change 5 < 2 ^ 31; decide)
    (received_messageBlock _)

theorem descs_requestOf (numIn : UInt32) (request : RxRequest) {memory : BlockMemory}
    (message : memory messageBlock = requestOf numIn request) :
    RpcMsg.descs memory ⟨fcodeRx, 5, 8, 28, messageBlock⟩ =
      (i2sRemoteRxParams numIn request.frameCount).map RpcParam.desc :=
  descs_eq (by change 5 < 2 ^ 31; decide) rfl rfl message

/-- Its variables get the client's arguments. -/
theorem called_requestOf (numIn : UInt32) (request : RxRequest) (junk : Nat → UInt8) :
    RxRequest.ofVars (rpcRequestUnmarshallVa (received (requestOf numIn request))
      ⟨fcodeRx, 5, 8, 28, messageBlock⟩ (uninitialised junk)) = some request := by
  generalize isHeader : requestHeader fcodeRx (i2sRemoteRxParams numIn request.frameCount) = header
  have length : header.length = 28 := by
    rw [← isHeader, length_requestHeader]
    rfl
  have message : received (requestOf numIn request) messageBlock =
      header ++ (wordBytes request.ctx ++ (wordBytes request.frameCount ++
        (wordBytes request.timeout.ticks ++ []))) := by
    rw [received_messageBlock, requestOf, isHeader]
    rfl
  have ctx : slice (received (requestOf numIn request) messageBlock) 28 4 =
      wordBytes request.ctx := by
    rw [message]
    exact slice_append length (length_wordBytes _)
  have frameCount : slice (received (requestOf numIn request) messageBlock) 32 4 =
      wordBytes request.frameCount := by
    rw [message, ← List.append_assoc]
    exact slice_append (by rw [List.length_append, length, length_wordBytes]) (length_wordBytes _)
  have timeout : slice (received (requestOf numIn request) messageBlock) 36 4 =
      wordBytes request.timeout.ticks := by
    rw [message, ← List.append_assoc, ← List.append_assoc]
    exact slice_append (by simp only [List.length_append, length, length_wordBytes])
      (length_wordBytes _)
  rw [rpcRequestUnmarshallVa, descs_requestOf numIn request (received_messageBlock _)]
  change RxRequest.ofVars [.scalar (slice _ 28 4), _, .scalar (slice _ 32 4),
    .scalar (slice _ 36 4), _] = _
  rw [ctx, frameCount, timeout, RxRequest.ofVars, wordOfBytes_wordBytes, wordOfBytes_wordBytes,
    wordOfBytes_wordBytes]

/-- The response holds as much of the buffer as the descriptor says, and the result. -/
theorem response_requestOf (numIn : UInt32) (request : RxRequest) {memory : BlockMemory}
    (message : memory messageBlock = requestOf numIn request) (result : UInt32) :
    ∃ length, rpcResponseMarshallVa memory ⟨fcodeRx, 5, 8, 28, messageBlock⟩
        [HostVar.pass false (.scalar (wordBytes request.ctx)), .pointer (.block bufferBlock 0),
          HostVar.pass false (.scalar (wordBytes request.frameCount)),
          HostVar.pass false (.scalar (wordBytes request.timeout.ticks)),
          HostVar.pass false (.scalar (wordBytes result))] =
      some (intBytes fcodeRx ++
        [slice (memory bufferBlock) 0 (describedLength numIn request.frameCount).toNat,
          wordBytes result].flatten, length) := by
  have word : ∀ value, responseParam memory (RpcParam.type .four).desc
      (HostVar.pass false (.scalar (wordBytes value))) = some (wordBytes value) :=
    fun value => responseParam_scalar memory false rfl (length_wordBytes value)
  have return_ : responseParam memory (RpcParam.return .four).desc
      (HostVar.pass false (.scalar (wordBytes result))) = some (wordBytes result) :=
    responseParam_scalar memory false rfl (length_wordBytes result)
  have buffer : responseParam memory
      (RpcParam.outBuffer (describedLength numIn request.frameCount)).desc
      (.pointer (.block bufferBlock 0)) =
    some (slice (memory bufferBlock) 0 (describedLength numIn request.frameCount).toNat) := rfl
  have nothing : copyOutputs memory [] [] = some [] := rfl
  have copied := copyOutputs_cons (word request.ctx) (copyOutputs_cons buffer
    (copyOutputs_cons (word request.frameCount) (copyOutputs_cons (word request.timeout.ticks)
      (copyOutputs_cons return_ nothing))))
  rw [rpcResponseMarshallVa, descs_requestOf numIn request message]
  exact ⟨_, congrArg (Option.bind · _) copied⟩

/-- The host calls `rtos_i2s_rx` with the client's arguments, and responds with its buffer and
the result. -/
theorem i2sRxRpcHost_eq (numIn numOut : UInt32) (junk : Nat → UInt8) (returned : Returned)
    (request : RxRequest) :
    i2sRxRpcHost numOut junk returned (requestOf numIn request) =
      let size := allocatedBytes numOut request.frameCount
      let length := (describedLength numIn request.frameCount).toNat
      if (sampleBytes returned.samples).length ≤ size ∧ length ≤ size then
        some (request, intBytes fcodeRx ++
          [slice (splice ((List.range size).map junk) 0 (sampleBytes returned.samples)) 0 length,
            wordBytes returned.result].flatten)
      else none := by
  rw [i2sRxRpcHost, rpcRequestParse_requestOf, called_requestOf]
  dsimp only [Option.bind_eq_bind, Option.bind_some]
  generalize allocatedBytes numOut request.frameCount = size
  rw [descs_requestOf numIn request (received_messageBlock _)]
  have described : (∀ desc ∈ (i2sRemoteRxParams numIn request.frameCount).map RpcParam.desc,
      desc.ptr → desc.length.toNat ≤ size) ↔
        (describedLength numIn request.frameCount).toNat ≤ size := by
    simp [i2sRemoteRxParams, RpcParam.desc]
  simp only [described]
  split
  · have kept : Function.update (received (requestOf numIn request)) bufferBlock
        (splice ((List.range size).map junk) 0 (sampleBytes returned.samples)) messageBlock =
          requestOf numIn request := by
      rw [Function.update_of_ne (by decide), received_messageBlock]
    rcases response_requestOf numIn request kept returned.result with ⟨length, response⟩
    rw [Function.update_self] at response
    rw [response]
    rfl
  · rfl

/-! ## The client's part -/

section Call

variable {request : RxRequest} {returned : Returned} {junk : Nat → UInt8}
  {frame : RxFrame (4 * request.words config)} {rest : Memory}

/-- The whole call: what the client's buffer gets is the part of the temporary buffer that the
descriptor describes. -/
theorem i2sRemoteRx_eq :
    i2sRemoteRx config junk returned request frame rest =
      let size := allocatedBytes config.numOut request.frameCount
      let length := (describedLength config.numIn request.frameCount).toNat
      if (sampleBytes returned.samples).length ≤ size ∧ length ≤ size then
        some (request, ((frame.memory request rest).write frame.i2sSampleBuf
          (slice (splice ((List.range size).map junk) 0 (sampleBytes returned.samples)) 0
            length)).write frame.ret (wordBytes returned.result))
      else none := by
  have message : (rpcRequestMarshallVa (frame.memory request rest) fcodeRx
      (paramDescList (i2sRemoteRxParams config.numIn request.frameCount)) frame.args).1 =
        requestOf config.numIn request := by
    rw [rpcRequestMarshallVa_eq, requestOf]
    exact congrArg (fun inputs => _ ++ List.flatten inputs) (frame.inputs request rest _)
  rw [i2sRemoteRx]
  dsimp only [Option.bind_eq_bind]
  rw [message, i2sRxRpcHost_eq]
  dsimp only
  split
  · next fits =>
      rw [Option.bind_some]
      dsimp only
      rw [rpcResponseParse_eq, if_pos rfl, rpcResponseUnmarshallVa, listed_paramDescList,
        unmarshallResponse_eq _ rfl _ (received_messageBlock _) (length_intBytes fcodeRx)]
      · rfl
      · have enough : (describedLength config.numIn request.frameCount).toNat ≤
            (splice ((List.range (allocatedBytes config.numOut request.frameCount)).map junk) 0
              (sampleBytes returned.samples)).length := by
          simp only [splice, List.length_append, List.length_drop, List.length_map,
            List.length_range, List.take_zero, List.length_nil]
          omega
        simp only [slice, List.map_cons, List.map_nil, List.drop_zero,
          List.length_take_of_le enough, length_wordBytes]
        rfl
  · rfl

/-- The variables one after the other, and the buffer behind them. -/
def RxFrame.consecutive (bytes : Nat) : RxFrame bytes where
  hostCtxPtr := 0
  i2sSampleBuf := 16
  frameCount := 4
  timeout := 8
  ret := 12
  separate := by simp

theorem RxFrame.memory_consecutive (bytes i : Nat) (request : RxRequest) (rest : Memory) :
    (RxFrame.consecutive bytes).memory request rest (16 + i) = rest (16 + i) := by
  simp only [RxFrame.memory, RxFrame.consecutive]
  rw [Memory.write_of_outside _ (by rw [length_wordBytes]; omega),
    Memory.write_of_outside _ (by rw [length_wordBytes]; omega),
    Memory.write_of_outside _ (by rw [length_wordBytes]; omega)]

/-- What a call leaves behind the first bytes of the buffer. -/
theorem RxFrame.written_consecutive (bytes i : Nat) (request : RxRequest) (rest : Memory)
    (written : List UInt8) (result : UInt32) :
    (((RxFrame.consecutive bytes).memory request rest).write
        (RxFrame.consecutive bytes).i2sSampleBuf written).write (RxFrame.consecutive bytes).ret
          (wordBytes result) (16 + i) = written[i]?.getD (rest (16 + i)) := by
  rw [Memory.write_of_outside _ (by rw [length_wordBytes]; simp only [consecutive]; omega),
    Memory.write, RxFrame.memory_consecutive]
  simp [consecutive]

/-- A call that has returned its words. -/
theorem remoteAsLocal_complete (counted : returned.samples.length = request.words config) :
    RemoteAsLocal config request returned ↔ 4 * request.words config < 2 ^ 24 ∧
      4 * request.words config ≤ allocatedBytes config.numOut request.frameCount := by
  have described : (describedLength config.numIn request.frameCount).toNat =
      4 * request.words config % 2 ^ 24 := toNat_describedLength _ _
  have length : (sampleBytes returned.samples).length = 4 * request.words config := by
    rw [length_sampleBytes, counted]
  constructor
  · intro same
    by_contra unfit
    generalize isFirst : (describedLength config.numIn request.frameCount).toNat = first
      at described
    -- Memory that differs from the words behind those that are described.
    have equal := same 0 (RxFrame.consecutive _)
      fun address => (sampleBytes returned.samples)[address - 16]?.getD 0 + 1
    rw [i2sRemoteRx_eq] at equal
    dsimp only at equal
    split at equal
    · next fits =>
        have long : 2 ^ 24 ≤ 4 * request.words config := by
          by_contra short
          exact unfit ⟨Nat.lt_of_not_le short, length ▸ fits.1⟩
        have atFirst := congrFun (Prod.mk.inj (Option.some.inj equal)).2 (16 + first)
        have inside : first < (sampleBytes returned.samples).length := by
          rw [length, described]
          exact (Nat.mod_lt _ (by decide)).trans_le long
        rw [localMemory, RxFrame.written_consecutive, RxFrame.written_consecutive, isFirst,
          List.getElem?_eq_none (by rw [slice]; exact List.length_take_le _ _),
          Nat.add_sub_cancel_left, List.getElem?_eq_getElem inside] at atFirst
        simp at atFirst
    · cases equal
  · rintro ⟨short, enough⟩ junk frame rest
    rw [Nat.mod_eq_of_lt short] at described
    rw [i2sRemoteRx_eq, described, length]
    dsimp only
    rw [if_pos ⟨enough, enough⟩, splice, List.take_zero, List.nil_append,
      slice_append_left length]
    rfl

/-- A call that has timed out. -/
theorem remoteAsLocal_timedOut :
    RemoteAsLocal config request ⟨0, []⟩ ↔ 2 ^ 24 ∣ 4 * request.words config := by
  have described : (describedLength config.numIn request.frameCount).toNat =
      4 * request.words config % 2 ^ 24 := toNat_describedLength _ _
  constructor
  · intro same
    by_contra undescribed
    have positive : 0 < (describedLength config.numIn request.frameCount).toNat := by
      rw [described]
      exact Nat.pos_of_ne_zero fun none_ => undescribed (Nat.dvd_of_mod_eq_zero none_)
    -- A temporary buffer that differs from the caller's.
    have equal := same (fun _ => 1) (RxFrame.consecutive _) 0
    rw [i2sRemoteRx_eq] at equal
    dsimp only at equal
    split at equal
    · next fits =>
        have atFirst := congrFun (Prod.mk.inj (Option.some.inj equal)).2 (16 + 0)
        rw [localMemory, RxFrame.written_consecutive, RxFrame.written_consecutive] at atFirst
        have some_ : 0 < allocatedBytes config.numOut request.frameCount :=
          positive.trans_le fits.2
        simp [slice, splice, sampleBytes, positive, some_] at atFirst
    · cases equal
  · intro undescribed junk frame rest
    rw [Nat.mod_eq_zero_of_dvd undescribed] at described
    rw [i2sRemoteRx_eq, described]
    dsimp only
    rw [if_pos ⟨Nat.zero_le _, Nat.zero_le _⟩]
    rfl

/-- A remote call does what a call on the host does exactly if its words fit the descriptor and
the temporary buffer, or it times out and its descriptor has no bytes. -/
theorem remoteAsLocal_iff {source target : Driver S} {schedule : List (Label S)}
    (call : LocalRx config request.frameCount request.timeout source schedule target returned) :
    RemoteAsLocal config request returned ↔ RemoteFits config request schedule := by
  rcases call.returns with ⟨completes, late⟩
  by_cases isLate : .timeOut .recv ∈ schedule
  case pos =>
    rw [late isLate, remoteAsLocal_timedOut]
    exact ⟨fun none_ => ⟨fun notLate => absurd isLate notLate, fun _ => none_⟩,
      fun fits => fits.2 isLate⟩
  case neg =>
    rw [remoteAsLocal_complete (completes isLate).2]
    exact ⟨fun fits => ⟨fun _ => fits, fun late => absurd late isLate⟩, fun fits => fits.1 isLate⟩

end Call

/-- So many input lines and one output line, and a receive buffer of two frames. -/
def linesIn (numIn : UInt32) : Config Unit where
  numIn := numIn
  numOut := 1
  recvBufferSize := 2
  sendBufferSize := 0
  sendFilterCb := none
  receiveFilterCb := none
  appData := ()
  memory _ _ := 0

/-- A frame has been received. -/
def oneFrameIn (numIn : UInt32) (frame : List Sample) : Driver Unit :=
  (run (next (linesIn numIn)) (start (linesIn numIn))
    (.receive frame :: List.replicate 4 .hil)).getD (start (linesIn numIn))

/-- A task takes the frame. -/
def takeFrame : List (Label Unit) :=
  List.replicate 3 (.task .recv)

theorem LocalRx.of_run {config : Config Unit} {frameCount : UInt32} {timeout : Timeout}
    {source : Driver Unit} {returned : Returned}
    (accepted : (i2sLocalRx config frameCount timeout).words ≤ source.recv.buffer.bufSize)
    (executed : (run (next config) source (.rx frameCount timeout :: takeFrame)).map
        (fun driver => (driver.recv.call, driver.recv.result, driver.recv.read)) =
      some (.idle, some returned.result, source.recv.read ++ returned.samples)) :
    ∃ target, LocalRx config frameCount timeout source takeFrame target returned := by
  rcases Option.map_eq_some_iff.mp executed with ⟨target, executed, same⟩
  rcases Prod.mk.inj same with ⟨ended, same⟩
  rcases Prod.mk.inj same with ⟨result, samples⟩
  refine ⟨target, accepted, executed, ?_, ended, result, samples⟩
  intro _ _ isIn
  cases List.eq_of_mem_replicate isIn

/-- With one input line the frame arrives. -/
theorem oneLineIn_remoteAsLocal :
    RemoteAsLocal (linesIn 1) ⟨0x1000, 1, rtosOsalPortWaitForever⟩ ⟨1, [1, 2]⟩ := by
  have called : ∃ target, LocalRx (linesIn 1) 1 rtosOsalPortWaitForever (oneFrameIn 1 [1, 2])
      takeFrame target ⟨1, [1, 2]⟩ := LocalRx.of_run (by decide) (by decide)
  rcases called with ⟨target, call⟩
  apply (remoteAsLocal_iff call).mpr
  constructor
  · intro _
    decide
  · intro isIn
    cases List.eq_of_mem_replicate isIn

/-- With two input lines the host writes past the end of its temporary buffer. -/
theorem twoLinesIn_not_remoteAsLocal :
    (∃ target, LocalRx (linesIn 2) 1 rtosOsalPortWaitForever (oneFrameIn 2 [1, 2, 3, 4])
        takeFrame target ⟨1, [1, 2, 3, 4]⟩) ∧
      ¬ RemoteAsLocal (linesIn 2) ⟨0x1000, 1, rtosOsalPortWaitForever⟩ ⟨1, [1, 2, 3, 4]⟩ := by
  constructor
  · exact LocalRx.of_run (by decide) (by decide)
  · intro same
    exact absurd ((remoteAsLocal_complete rfl).mp same).2 (by decide)

end FwkRtos.I2s

import FwkRtos.Bytes.LittleEndian
import FwkRtos.Bytes.Memory

/-!
# RPC messages

The functions of `rtos_rpc.c` that build and read the request and response
messages, and the macros of `rtos_rpc.h` that build parameter descriptors.  The
client's memory is flat and its arguments are addresses; on the host the
request message and every allocated buffer are blocks of their own.  An `int`
is a `BitVec 32`.
-/

namespace FwkRtos.Rpc

open FwkRtos.Bytes

/-! ## Parameter descriptors -/

/-- `rpc_param_desc_t`. -/
structure RpcParamDesc where
  length : BitVec 24
  ptr : Bool
  input : Bool
  output : Bool
  deriving DecidableEq

namespace RpcParamDesc

/-- `sizeof(rpc_param_desc_t)`: the bit fields share one word. -/
def size : Nat := 4

/-- The descriptor in memory, the first bit field in the lowest bits. -/
def toBytes (desc : RpcParamDesc) : List UInt8 :=
  leBytes size (desc.length.toNat +
    2 ^ 24 * (desc.ptr.toNat + 2 * desc.input.toNat + 4 * desc.output.toNat))

/-- The descriptor that these bytes hold. -/
def ofBytes (bytes : List UInt8) : RpcParamDesc where
  length := BitVec.ofNat 24 (leValue bytes)
  ptr := (leValue bytes).testBit 24
  input := (leValue bytes).testBit 25
  output := (leValue bytes).testBit 26

end RpcParamDesc

/-- The sizes of standard types. -/
inductive ScalarSize
  | one
  | two
  | four
  | eight
  deriving DecidableEq

def ScalarSize.bytes : ScalarSize → Nat
  | .one => 1
  | .two => 2
  | .four => 4
  | .eight => 8

/-- The macros that initialise a parameter descriptor.  A buffer is described by
its length in bytes. -/
inductive RpcParam
  | type (size : ScalarSize)
  | return (size : ScalarSize)
  | inBuffer (length : BitVec 24)
  | outBuffer (length : BitVec 24)
  | inoutBuffer (length : BitVec 24)
  deriving DecidableEq

/-- The descriptors that the macros expand to. -/
def RpcParam.desc : RpcParam → RpcParamDesc
  | .type size => ⟨BitVec.ofNat 24 size.bytes, false, true, false⟩
  | .return size => ⟨BitVec.ofNat 24 size.bytes, false, false, true⟩
  | .inBuffer length => ⟨length, true, true, false⟩
  | .outBuffer length => ⟨length, true, false, true⟩
  | .inoutBuffer length => ⟨length, true, true, true⟩

/-- `RPC_PARAM_LIST_END`. -/
def rpcParamListEnd : RpcParamDesc := ⟨0, false, false, false⟩

/-- A descriptor list as the macros build it. -/
def paramDescList (params : List RpcParam) : List RpcParamDesc :=
  params.map RpcParam.desc ++ [rpcParamListEnd]

/-- The loops of the client run up to the first descriptor that is neither input
nor output. -/
def listed (paramDesc : List RpcParamDesc) : List RpcParamDesc :=
  paramDesc.takeWhile fun desc => desc.input || desc.output

/-- `param_total_length`, summed over the descriptors of one direction. -/
def paramTotalLength (direction : RpcParamDesc → Bool) : List RpcParamDesc → BitVec 32
  | [] => 0
  | desc :: rest =>
      if direction desc then desc.length.setWidth 32 + paramTotalLength direction rest
      else paramTotalLength direction rest

/-- An `int` in memory. -/
def intBytes (value : BitVec 32) : List UInt8 :=
  leBytes 4 value.toNat

/-- The `int` that these bytes hold. -/
def intOfBytes (bytes : List UInt8) : BitVec 32 :=
  BitVec.ofNat 32 (leValue bytes)

theorem length_intBytes (value : BitVec 32) : (intBytes value).length = 4 :=
  length_leBytes _ _

theorem intOfBytes_intBytes (value : BitVec 32) : intOfBytes (intBytes value) = value := by
  rw [intOfBytes, intBytes, leValue_leBytes value.isLt, BitVec.ofNat_toNat, BitVec.setWidth_eq]

/-- `rpc_msg_t`.  The pointers of the source all point into the message, so they
are offsets in the block `msgBuf`; a response has no descriptors. -/
structure RpcMsg where
  fcode : BitVec 32
  paramCount : BitVec 32
  paramDesc : Nat
  params : Nat
  msgBuf : Nat
  deriving DecidableEq

/-! ## The request -/

/-- The loop that copies the input arguments of the client. -/
def copyInputs (memory : Memory) : List RpcParamDesc → List Nat → List UInt8
  | desc :: rest, arg :: ap =>
      (if desc.input then memory.read arg desc.length.toNat else []) ++ copyInputs memory rest ap
  | _, _ => []

/-- `rpc_request_marshall_va`: the message and the length returned. -/
def rpcRequestMarshallVa (memory : Memory) (fcode : BitVec 32) (paramDesc : List RpcParamDesc)
    (ap : List Nat) : List UInt8 × BitVec 32 :=
  let descs := listed paramDesc
  let paramCount := BitVec.ofNat 32 descs.length
  let msgLength := 4 + 4 + 4 * paramCount + paramTotalLength RpcParamDesc.input descs
  (intBytes fcode ++ (intBytes paramCount ++ (descs.flatMap RpcParamDesc.toBytes ++
    copyInputs memory descs ap)), msgLength)

/-- `rpc_request_parse`. -/
def rpcRequestParse (memory : BlockMemory) (msgBuf : Nat) : RpcMsg :=
  let paramCount := intOfBytes (slice (memory msgBuf) 4 4)
  { fcode := intOfBytes (slice (memory msgBuf) 0 4)
    paramCount := paramCount
    paramDesc := 4 + 4
    params := 4 + 4 + RpcParamDesc.size * paramCount.toNat
    msgBuf := msgBuf }

/-- The descriptors of a parsed request, as the host reads them from the
message. -/
def RpcMsg.descs (memory : BlockMemory) (rpcMsg : RpcMsg) : List RpcParamDesc :=
  (List.range rpcMsg.paramCount.toInt.toNat).map fun i => RpcParamDesc.ofBytes
    (slice (memory rpcMsg.msgBuf) (rpcMsg.paramDesc + RpcParamDesc.size * i) RpcParamDesc.size)

/-- A variable of the host that receives an argument. -/
inductive HostVar
  | pointer (value : Pointer)
  | scalar (bytes : List UInt8)
  deriving DecidableEq

/-- The loop of `rpc_request_unmarshall_va`, from `params_ptr` on. -/
def unmarshallRequest (memory : BlockMemory) (msgBuf : Nat) :
    List RpcParamDesc → Nat → List HostVar → List HostVar
  | desc :: rest, paramsPtr, var :: vars =>
      if desc.ptr then
        if desc.input then
          .pointer (if 0 < desc.length.toNat then .block msgBuf paramsPtr else .null) ::
            unmarshallRequest memory msgBuf rest (paramsPtr + desc.length.toNat) vars
        else if desc.output then
          .pointer (if desc.length.toNat = 0 then .null else .invalid) ::
            unmarshallRequest memory msgBuf rest paramsPtr vars
        else var :: unmarshallRequest memory msgBuf rest paramsPtr vars
      else if desc.input then
        .scalar (slice (memory msgBuf) paramsPtr desc.length.toNat) ::
          unmarshallRequest memory msgBuf rest (paramsPtr + desc.length.toNat) vars
      else var :: unmarshallRequest memory msgBuf rest paramsPtr vars
  | _, _, vars => vars

/-- `rpc_request_unmarshall_va`: the host's variables afterwards. -/
def rpcRequestUnmarshallVa (memory : BlockMemory) (rpcMsg : RpcMsg) (ap : List HostVar) :
    List HostVar :=
  unmarshallRequest memory rpcMsg.msgBuf (rpcMsg.descs memory) rpcMsg.params ap

/-! ## The response -/

/-- An argument passed by value through `...`, after the default promotions. -/
inductive VaArg
  | pointer (value : Pointer)
  | int32 (value : BitVec 32)
  | int64 (value : BitVec 64)
  deriving DecidableEq

/-- The integer promotion of a value of this width, with its sign if its type
has one. -/
def promote (isSigned : Bool) (width value : Nat) : BitVec 32 :=
  if isSigned then (BitVec.ofNat width value).signExtend 32
  else (BitVec.ofNat width value).setWidth 32

/-- How the compiler passes a variable: types shorter than `int` are promoted to
it. -/
def HostVar.pass (isSigned : Bool) : HostVar → VaArg
  | .pointer value => .pointer value
  | .scalar bytes =>
      if bytes.length = 8 then .int64 (BitVec.ofNat 64 (leValue bytes))
      else .int32 (promote isSigned (8 * bytes.length) (leValue bytes))

/-- An argument narrowed back to a type of this size; any other size fails the
assertion. -/
def narrow : Nat → VaArg → Option (List UInt8)
  | 1, .int32 value => some (leBytes 1 (value.setWidth 8).toNat)
  | 2, .int32 value => some (leBytes 2 (value.setWidth 16).toNat)
  | 4, .int32 value => some (leBytes 4 (value.setWidth 32).toNat)
  | 8, .int64 value => some (leBytes 8 value.toNat)
  | _, _ => none

/-- What `rpc_response_marshall_va` copies for one argument. -/
def responseParam (memory : BlockMemory) (desc : RpcParamDesc) (arg : VaArg) :
    Option (List UInt8) :=
  if desc.ptr then
    match arg with
    | .pointer value => some (memory.read value desc.length.toNat)
    | _ => none
  else narrow desc.length.toNat arg

/-- The loop that copies the output arguments of the host. -/
def copyOutputs (memory : BlockMemory) : List RpcParamDesc → List VaArg → Option (List UInt8)
  | desc :: rest, arg :: ap => do
      let param ← responseParam memory desc arg
      let params ← copyOutputs memory rest ap
      return (if desc.output then param else []) ++ params
  | _, _ => some []

/-- `rpc_response_marshall_va`: the message and the length returned; `none` is a
failed assertion. -/
def rpcResponseMarshallVa (memory : BlockMemory) (rpcMsg : RpcMsg) (ap : List VaArg) :
    Option (List UInt8 × BitVec 32) := do
  let descs := rpcMsg.descs memory
  let msgLength := 4 + paramTotalLength RpcParamDesc.output descs
  let params ← copyOutputs memory descs ap
  return (intBytes rpcMsg.fcode ++ params, msgLength)

/-- `rpc_response_parse`; it fills in no descriptors. -/
def rpcResponseParse (memory : BlockMemory) (msgBuf : Nat) (rpcMsg : RpcMsg) : RpcMsg :=
  { rpcMsg with
    fcode := intOfBytes (slice (memory msgBuf) 0 4)
    params := 4
    msgBuf := msgBuf }

/-- The loop of `rpc_response_unmarshall_va`, from `params_ptr` on. -/
def unmarshallResponse (message : List UInt8) :
    List RpcParamDesc → Nat → List Nat → Memory → Memory
  | desc :: rest, paramsPtr, arg :: ap, memory =>
      if desc.output then
        unmarshallResponse message rest (paramsPtr + desc.length.toNat) ap
          (memory.write arg (slice message paramsPtr desc.length.toNat))
      else unmarshallResponse message rest paramsPtr ap memory
  | _, _, _, memory => memory

/-- `rpc_response_unmarshall_va`: the client's memory afterwards. -/
def rpcResponseUnmarshallVa (memory : BlockMemory) (rpcMsg : RpcMsg)
    (paramDesc : List RpcParamDesc) (ap : List Nat) (client : Memory) : Memory :=
  unmarshallResponse (memory rpcMsg.msgBuf) (listed paramDesc) rpcMsg.params ap client

end FwkRtos.Rpc

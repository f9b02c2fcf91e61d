import FwkRtos.Rpc.Marshalling

/-!
# A remote call

One call from end to end: the client marshalls the request, the host parses and
unmarshalls it, runs the function and marshalls the response, and the client
unmarshalls it.  A function maps the bytes of its inputs to the bytes that it
writes to its outputs, so that it can also be called directly.
-/

namespace FwkRtos.Rpc

open FwkRtos.Bytes

/-- Buffers are pointers, all others scalars. -/
def RpcParam.isPtr (param : RpcParam) : Bool := param.desc.ptr

def RpcParam.isInput (param : RpcParam) : Bool := param.desc.input

def RpcParam.isOutput (param : RpcParam) : Bool := param.desc.output

/-- The number of bytes of the parameter, or of the buffer it points to. -/
def RpcParam.bytes (param : RpcParam) : Nat := param.desc.length.toNat

/-- The host allocates these buffers itself. -/
def RpcParam.isOutBuffer (param : RpcParam) : Bool := param.isPtr && !param.isInput

/-- A function with these parameters: from its inputs, in order, it computes what
it writes to each output parameter, byte by byte.  The length of an output
buffer is a maximum only, so it may leave bytes alone (`none`); what it leaves
alone of an in-out buffer it found in its inputs. -/
structure RemoteFunction (params : List RpcParam) where
  outputs : List (List UInt8) → List (List (Option UInt8))
  lengths : ∀ inputs,
    (outputs inputs).map List.length = (params.filter RpcParam.isOutput).map RpcParam.bytes
  written : ∀ inputs, List.Forall₂ (fun param output => none ∈ output → param.isOutBuffer = true)
    (params.filter RpcParam.isOutput) (outputs inputs)

/-- A buffer after the function has written to it. -/
def merge (output : List (Option UInt8)) (old : List UInt8) : List UInt8 :=
  List.zipWith Option.getD output old

/-! ## A direct call -/

/-- The arguments of one direction in the memory of the caller. -/
def readArguments (direction : RpcParam → Bool) (memory : Memory) :
    List RpcParam → List Nat → List (List UInt8)
  | param :: params, arg :: args =>
      if direction param then
        memory.read arg param.bytes :: readArguments direction memory params args
      else readArguments direction memory params args
  | _, _ => []

/-- The outputs of a function are stored in the memory of its caller. -/
def storeDirect : List RpcParam → List Nat → List (List (Option UInt8)) → Memory → Memory
  | param :: params, arg :: args, outputs, memory =>
      if param.isOutput then
        match outputs with
        | output :: outputs =>
            storeDirect params args outputs
              (memory.write arg (merge output (memory.read arg output.length)))
        | [] => memory
      else storeDirect params args outputs memory
  | _, _, _, memory => memory

/-- A call of the function by the client itself. -/
def directCall {params : List RpcParam} (function : RemoteFunction params) (args : List Nat)
    (memory : Memory) : Memory :=
  storeDirect params args
    (function.outputs (readArguments RpcParam.isInput memory params args)) memory

/-- Two arguments do not overlap, at least if one of them is written. -/
def Apart (first second : RpcParam × Nat) : Prop :=
  first.1.isOutput = true ∨ second.1.isOutput = true →
    first.2 + first.1.bytes ≤ second.2 ∨ second.2 + second.1.bytes ≤ first.2

instance : DecidableRel Apart := fun _ _ => inferInstanceAs (Decidable (_ → _))

/-- No argument that is written overlaps another argument. -/
def Separate (params : List RpcParam) (args : List Nat) : Prop :=
  (params.zip args).Pairwise Apart

instance (params : List RpcParam) (args : List Nat) : Decidable (Separate params args) :=
  inferInstanceAs (Decidable (List.Pairwise _ _))

/-! ## The host -/

/-- The host allocates the buffers that are output only, one block each, from
the block `next` on; `junk` is what the new blocks hold. -/
def allocateOutputs (junk : Nat → UInt8) :
    List RpcParam → Nat → List HostVar → BlockMemory → List HostVar × BlockMemory
  | param :: params, next, var :: vars, memory =>
      if param.isOutBuffer then
        let rest := allocateOutputs junk params (next + 1) vars
          (Function.update memory next ((List.range param.bytes).map junk))
        (.pointer (.block next 0) :: rest.1, rest.2)
      else
        let rest := allocateOutputs junk params next vars memory
        (var :: rest.1, rest.2)
  | _, _, vars, memory => (vars, memory)

/-- The inputs that the function finds in its arguments. -/
def hostInputs (memory : BlockMemory) : List RpcParam → List HostVar → List (List UInt8)
  | param :: params, var :: vars =>
      if param.isInput then
        (match var with
          | .pointer value => memory.read value param.bytes
          | .scalar bytes => bytes) :: hostInputs memory params vars
      else hostInputs memory params vars
  | _, _ => []

/-- The function writes its outputs through its pointers, and its results into
the variables of the host. -/
def storeOutputs : List RpcParam → List HostVar → List (List (Option UInt8)) → BlockMemory →
    List HostVar × BlockMemory
  | param :: params, var :: vars, outputs, memory =>
      if param.isOutput then
        match outputs with
        | output :: outputs =>
            match var with
            | .pointer value =>
                let rest := storeOutputs params vars outputs
                  (memory.write value (merge output (memory.read value output.length)))
                (var :: rest.1, rest.2)
            | .scalar old =>
                let rest := storeOutputs params vars outputs memory
                (.scalar (merge output old) :: rest.1, rest.2)
        | [] => (var :: vars, memory)
      else
        let rest := storeOutputs params vars outputs memory
        (var :: rest.1, rest.2)
  | _, vars, _, memory => (vars, memory)

/-- The variables of the host fit the parameters. -/
inductive HostVarsFit : List RpcParam → List HostVar → Prop
  | nil : HostVarsFit [] []
  | pointer {param : RpcParam} {params : List RpcParam} {value : Pointer} {vars : List HostVar}
      (isPtr : param.isPtr = true) (rest : HostVarsFit params vars) :
      HostVarsFit (param :: params) (.pointer value :: vars)
  | scalar {param : RpcParam} {params : List RpcParam} {bytes : List UInt8} {vars : List HostVar}
      (isScalar : param.isPtr = false) (length : bytes.length = param.bytes)
      (rest : HostVarsFit params vars) : HostVarsFit (param :: params) (.scalar bytes :: vars)

/-- The host: the function, and what its compiled wrapper starts from. -/
structure Host (params : List RpcParam) where
  /-- The function that each function code selects. -/
  functions : BitVec 32 → RemoteFunction params
  /-- The contents of the variables before they are filled in. -/
  vars : List HostVar
  /-- Which arguments have a signed type. -/
  signs : List Bool
  /-- The contents of freshly allocated buffers. -/
  junk : Nat → UInt8
  varsFit : HostVarsFit params vars
  signsFit : signs.length = params.length

/-- The same host with other contents of the memory that it allocates. -/
def Host.withJunk {params : List RpcParam} (host : Host params) (junk : Nat → UInt8) :
    Host params :=
  { host with junk := junk }

/-- The block that holds the message received. -/
def messageBlock : Nat := 0

/-- The blocks of a tile that has received a message. -/
def received (message : List UInt8) : BlockMemory :=
  Function.update (fun _ => []) messageBlock message

/-- What the host finds in a request, and answers. -/
structure HostReply where
  fcode : BitVec 32
  inputs : List (List UInt8)
  response : List UInt8
  responseLength : BitVec 32

/-- The host's handling of one request, as the drivers' RPC threads and their
`..._rpc_host` functions do it.  A failed assertion has no result. -/
def hostCall {params : List RpcParam} (host : Host params) (request : List UInt8) :
    Option HostReply := do
  let rpcMsg := rpcRequestParse (received request) messageBlock
  let unmarshalled := rpcRequestUnmarshallVa (received request) rpcMsg host.vars
  let allocated :=
    allocateOutputs host.junk params (messageBlock + 1) unmarshalled (received request)
  let inputs := hostInputs allocated.2 params allocated.1
  let stored := storeOutputs params allocated.1
    ((host.functions rpcMsg.fcode).outputs inputs) allocated.2
  let passed := List.zipWith HostVar.pass host.signs stored.1
  let response ← rpcResponseMarshallVa stored.2 rpcMsg passed
  return {
    fcode := rpcMsg.fcode
    inputs := inputs
    response := response.1
    responseLength := response.2 }

/-! ## The call -/

/-- What can be observed of a remote call. -/
structure RemoteCall where
  request : List UInt8
  requestLength : BitVec 32
  host : HostReply
  clientFcode : BitVec 32
  memory : Memory

/-- `rpc_client_call_generic` and its host, without the transport between them.
A failed assertion has no result. -/
def remoteCall {params : List RpcParam} (host : Host params) (fcode : BitVec 32)
    (args : List Nat) (memory : Memory) : Option RemoteCall := do
  let request := rpcRequestMarshallVa memory fcode (paramDescList params) args
  let reply ← hostCall host request.1
  let parsed := rpcResponseParse (received reply.response) messageBlock
    { fcode := 0, paramCount := 0, paramDesc := 0, params := 0, msgBuf := 0 }
  if parsed.fcode = fcode then
    return {
      request := request.1
      requestLength := request.2
      host := reply
      clientFcode := parsed.fcode
      memory := rpcResponseUnmarshallVa (received reply.response) parsed
        (paramDescList params) args memory }
  else none

end FwkRtos.Rpc

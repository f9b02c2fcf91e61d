import FwkRtos.Rpc.Messages

/-!
# Transparency of remote calls

A remote call leaves the client's memory as a direct call of the function would,
if no byte of an output buffer is left that the function does not write.  The
host sends back such a byte as well, as it was allocated.
-/

namespace FwkRtos.Rpc

open FwkRtos.Bytes

/-! ## The client -/

/-- Whole outputs are stored in the memory of the client. -/
def storeBytes : List RpcParam → List Nat → List (List UInt8) → Memory → Memory
  | param :: params, arg :: args, outputs, memory =>
      if param.isOutput then
        match outputs with
        | output :: outputs => storeBytes params args outputs (memory.write arg output)
        | [] => memory
      else storeBytes params args outputs memory
  | _, _, _, memory => memory

theorem storeBytes_output {param : RpcParam} (isOutput : param.isOutput = true)
    (params : List RpcParam) (arg : Nat) (args : List Nat) (output : List UInt8)
    (outputs : List (List UInt8)) (memory : Memory) :
    storeBytes (param :: params) (arg :: args) (output :: outputs) memory =
      storeBytes params args outputs (memory.write arg output) := by
  simp only [storeBytes, isOutput, if_true]

theorem storeBytes_skip {param : RpcParam} (notOutput : param.isOutput = false)
    (params : List RpcParam) (arg : Nat) (args : List Nat) (outputs : List (List UInt8))
    (memory : Memory) :
    storeBytes (param :: params) (arg :: args) outputs memory =
      storeBytes params args outputs memory := by
  simp only [storeBytes, notOutput, Bool.false_eq_true, if_false]

theorem received_messageBlock (message : List UInt8) :
    received message messageBlock = message := by
  rw [received, Function.update_self]

theorem rpcResponseParse_eq (fcode : BitVec 32) (params : List UInt8) (rpcMsg : RpcMsg) :
    rpcResponseParse (received (intBytes fcode ++ params)) messageBlock rpcMsg =
      { rpcMsg with fcode := fcode, params := 4, msgBuf := messageBlock } := by
  rw [rpcResponseParse, received_messageBlock, slice_append_left (length_intBytes fcode),
    intOfBytes_intBytes]

/-- Unmarshalling the response stores the outputs that it holds. -/
theorem unmarshallResponse_eq {message before : List UInt8} {params : List RpcParam}
    {args : List Nat} {outputs : List (List UInt8)} {offset : Nat} (memory : Memory)
    (argsFit : args.length = params.length)
    (outputsFit : outputs.map List.length = lengths RpcParam.isOutput params)
    (messageEq : message = before ++ outputs.flatten) (offsetEq : before.length = offset) :
    unmarshallResponse message (params.map RpcParam.desc) offset args memory =
      storeBytes params args outputs memory := by
  induction params generalizing args outputs before offset memory with
  | nil => rfl
  | cons param params ih =>
      cases args with
      | nil => cases argsFit
      | cons arg args =>
          rw [List.map_cons, unmarshallResponse]
          change (if param.isOutput = true then _ else _) = _
          cases direction : param.isOutput with
          | true =>
              rw [lengths_cons_of_true direction] at outputsFit
              obtain ⟨output, outputs, rfl, lengthEq, outputsFit⟩ :=
                List.map_eq_cons_iff.mp outputsFit
              rw [List.flatten_cons] at messageEq
              rw [if_pos rfl, storeBytes_output direction]
              have head : slice message offset param.desc.length.toNat = output := by
                rw [messageEq]
                exact slice_append offsetEq lengthEq
              rw [head]
              refine ih _ (Nat.succ.inj argsFit) outputsFit
                (messageEq.trans (List.append_assoc _ _ _).symm) ?_
              rw [List.length_append, offsetEq, lengthEq]
              rfl
          | false =>
              rw [lengths_cons_of_false direction] at outputsFit
              rw [if_neg (by decide), storeBytes_skip direction]
              exact ih _ (Nat.succ.inj argsFit) outputsFit messageEq offsetEq

/-- Storing the outputs changes nothing outside them. -/
theorem storeBytes_outside {params : List RpcParam} {args : List Nat}
    {outputs : List (List UInt8)} {memory : Memory} {address : Nat}
    (outputsFit : outputs.map List.length = lengths RpcParam.isOutput params)
    (outside : ∀ param arg, (param, arg) ∈ params.zip args → param.isOutput = true →
      address < arg ∨ arg + param.bytes ≤ address) :
    storeBytes params args outputs memory address = memory address := by
  induction params generalizing args outputs memory with
  | nil => cases args <;> rfl
  | cons param params ih =>
      cases args with
      | nil => rfl
      | cons arg args =>
          have rest : ∀ param arg, (param, arg) ∈ params.zip args → param.isOutput = true →
              address < arg ∨ arg + param.bytes ≤ address := fun _ _ member =>
            outside _ _ (List.mem_cons_of_mem _ member)
          cases direction : param.isOutput with
          | true =>
              rw [lengths_cons_of_true direction] at outputsFit
              obtain ⟨output, outputs, rfl, lengthEq, outputsFit⟩ :=
                List.map_eq_cons_iff.mp outputsFit
              rw [storeBytes_output direction]
              refine (ih outputsFit rest).trans (Memory.write_of_outside _ ?_)
              rw [lengthEq]
              exact outside _ _ List.mem_cons_self direction
          | false =>
              rw [lengths_cons_of_false direction] at outputsFit
              rw [storeBytes_skip direction]
              exact ih outputsFit rest

/-- Every output that overlaps no other is found where it was stored. -/
theorem readArguments_storeBytes {params : List RpcParam} {args : List Nat}
    {outputs : List (List UInt8)} {memory : Memory} (argsFit : args.length = params.length)
    (outputsFit : outputs.map List.length = lengths RpcParam.isOutput params)
    (separate : Separate params args) :
    readArguments RpcParam.isOutput (storeBytes params args outputs memory) params args =
      outputs := by
  induction params generalizing args outputs memory with
  | nil =>
      have nothing : outputs = [] := by simpa [lengths] using outputsFit
      rw [nothing]
      cases args <;> rfl
  | cons param params ih =>
      cases args with
      | nil => cases argsFit
      | cons arg args =>
          obtain ⟨apart, separate⟩ := List.pairwise_cons.mp separate
          rw [readArguments]
          cases direction : param.isOutput with
          | true =>
              rw [lengths_cons_of_true direction] at outputsFit
              obtain ⟨output, outputs, rfl, lengthEq, outputsFit⟩ :=
                List.map_eq_cons_iff.mp outputsFit
              rw [if_pos rfl, storeBytes_output direction]
              congr 1
              · -- The outputs stored later are all outside this one.
                calc
                  (storeBytes params args outputs (memory.write arg output)).read arg param.bytes =
                      (memory.write arg output).read arg param.bytes := by
                    refine Memory.read_congr fun i bound =>
                      storeBytes_outside outputsFit fun other place member _ => ?_
                    have disjoint := apart (other, place) member (.inl direction)
                    dsimp only at disjoint
                    omega
                  _ = output := by rw [← lengthEq, Memory.read_write]
              · exact ih (Nat.succ.inj argsFit) outputsFit separate
          | false =>
              rw [lengths_cons_of_false direction] at outputsFit
              rw [if_neg (by decide), storeBytes_skip direction]
              exact ih (Nat.succ.inj argsFit) outputsFit separate

instance : Std.Symm Apart where
  symm _ _ apart written := (apart written.symm).symm

/-- An argument that is not an output, and overlaps none, keeps its bytes. -/
theorem read_storeBytes_of_input {params : List RpcParam} {args : List Nat}
    {outputs : List (List UInt8)} {memory : Memory} {param : RpcParam} {arg : Nat}
    (outputsFit : outputs.map List.length = lengths RpcParam.isOutput params)
    (separate : Separate params args) (member : (param, arg) ∈ params.zip args)
    (notOutput : param.isOutput = false) :
    (storeBytes params args outputs memory).read arg param.bytes =
      memory.read arg param.bytes := by
  refine Memory.read_congr fun i bound =>
    storeBytes_outside outputsFit fun other place otherMember isOutput => ?_
  have different : (other, place) ≠ (param, arg) := by
    intro same
    rw [(Prod.mk.inj same).1, notOutput] at isOutput
    cases isOutput
  have disjoint := separate.forall otherMember member different (.inl isOutput)
  dsimp only at disjoint
  omega

/-! ## What is left of the buffers -/

/-- One of these arguments is stored over the address. -/
def Stored (params : List RpcParam) (args : List Nat) (address : Nat) : Prop :=
  ∃ param arg, (param, arg) ∈ params.zip args ∧ param.isOutput = true ∧
    arg ≤ address ∧ address < arg + param.bytes

/-- Every byte of an output that the function does not write is hidden by an
argument that is stored later. -/
def Filled : List RpcParam → List Nat → List (List (Option UInt8)) → Prop
  | param :: params, arg :: args, outputs =>
      if param.isOutput then
        match outputs with
        | output :: outputs =>
            (∀ i, output[i]? = some none → Stored params args (arg + i)) ∧
              Filled params args outputs
        | [] => True
      else Filled params args outputs
  | _, _, _ => True

theorem stored_cons_of_skip {param : RpcParam} {params : List RpcParam} {arg : Nat}
    {args : List Nat} {address : Nat} (notOutput : param.isOutput = false) :
    Stored (param :: params) (arg :: args) address ↔ Stored params args address := by
  constructor
  · rintro ⟨other, place, member, isOutput, within⟩
    rcases List.mem_cons.mp member with same | member
    · rw [(Prod.mk.inj same).1, notOutput] at isOutput
      cases isOutput
    · exact ⟨other, place, member, isOutput, within⟩
  · rintro ⟨other, place, member, within⟩
    exact ⟨other, place, List.mem_cons_of_mem _ member, within⟩

theorem filled_output {param : RpcParam} (isOutput : param.isOutput = true)
    (params : List RpcParam) (arg : Nat) (args : List Nat) (output : List (Option UInt8))
    (outputs : List (List (Option UInt8))) :
    Filled (param :: params) (arg :: args) (output :: outputs) ↔
      (∀ i, output[i]? = some none → Stored params args (arg + i)) ∧
        Filled params args outputs := by
  simp only [Filled, isOutput, if_true]

theorem filled_skip {param : RpcParam} (notOutput : param.isOutput = false)
    (params : List RpcParam) (arg : Nat) (args : List Nat)
    (outputs : List (List (Option UInt8))) :
    Filled (param :: params) (arg :: args) outputs ↔ Filled params args outputs := by
  simp only [Filled, notOutput, Bool.false_eq_true, if_false]

theorem storeDirect_output {param : RpcParam} (isOutput : param.isOutput = true)
    (params : List RpcParam) (arg : Nat) (args : List Nat) (output : List (Option UInt8))
    (outputs : List (List (Option UInt8))) (memory : Memory) :
    storeDirect (param :: params) (arg :: args) (output :: outputs) memory =
      storeDirect params args outputs
        (memory.write arg (merge output (memory.read arg output.length))) := by
  simp only [storeDirect, isOutput, if_true]

theorem storeDirect_skip {param : RpcParam} (notOutput : param.isOutput = false)
    (params : List RpcParam) (arg : Nat) (args : List Nat)
    (outputs : List (List (Option UInt8))) (memory : Memory) :
    storeDirect (param :: params) (arg :: args) outputs memory =
      storeDirect params args outputs memory := by
  simp only [storeDirect, notOutput, Bool.false_eq_true, if_false]

/-- The bytes that the host sends back of an output. -/
theorem getElem?_filled (junk : Nat → UInt8) (output : List (Option UInt8)) (i : Nat) :
    (filled junk output)[i]? = output[i]?.map fun byte => byte.getD (junk i) := by
  rw [filled, merge, List.getElem?_zipWith, List.getElem?_map]
  by_cases bound : i < output.length
  · rw [List.getElem?_range bound, List.getElem?_eq_getElem bound]
    rfl
  · rw [List.getElem?_eq_none (Nat.le_of_not_lt bound)]
    rfl

/-- A direct call stores the bytes that the function writes, and no others. -/
theorem write_merge (memory : Memory) (arg : Nat) (output : List (Option UInt8)) (address : Nat) :
    memory.write arg (merge output (memory.read arg output.length)) address =
      if arg ≤ address then ((output[address - arg]?).bind id).getD (memory address)
      else memory address := by
  unfold Memory.write
  split
  · rename_i above
    rw [merge, List.getElem?_zipWith, Memory.read, List.getElem?_map]
    by_cases bound : address - arg < output.length
    · rw [List.getElem?_range bound, List.getElem?_eq_getElem bound]
      simp only [Option.map_some, Option.bind_some, id, Option.getD_some, Nat.add_sub_cancel' above]
    · rw [List.getElem?_eq_none (Nat.le_of_not_lt bound)]
      rfl
  · rfl

theorem write_filled (memory : Memory) (junk : Nat → UInt8) (arg : Nat)
    (output : List (Option UInt8)) (address : Nat) :
    memory.write arg (filled junk output) address =
      if arg ≤ address then
        ((output[address - arg]?).map fun byte => byte.getD (junk (address - arg))).getD
          (memory address)
      else memory address := by
  rw [Memory.write, getElem?_filled]

/-- Where no byte is left, storing what the host sends back is storing what the
function writes.  Bytes that will be stored over may differ before. -/
theorem storeBytes_filled (junk : Nat → UInt8) {params : List RpcParam} {args : List Nat}
    {outputs : List (List (Option UInt8))} {memory direct : Memory}
    (outputsFit : outputs.map List.length = lengths RpcParam.isOutput params)
    (allFilled : Filled params args outputs)
    (same : ∀ address, ¬ Stored params args address → memory address = direct address) :
    storeBytes params args (outputs.map (filled junk)) memory =
      storeDirect params args outputs direct := by
  induction params generalizing args outputs memory direct with
  | nil =>
      funext address
      have equal := same address (by rintro ⟨_, _, member, _⟩; simp at member)
      cases args <;> exact equal
  | cons param params ih =>
      cases args with
      | nil =>
          funext address
          exact same address (by rintro ⟨_, _, member, _⟩; simp at member)
      | cons arg args =>
          cases direction : param.isOutput with
          | false =>
              rw [lengths_cons_of_false direction] at outputsFit
              rw [storeBytes_skip direction, storeDirect_skip direction]
              apply ih outputsFit ((filled_skip direction ..).mp allFilled)
              intro address notStored
              exact same address fun stored =>
                notStored ((stored_cons_of_skip direction).mp stored)
          | true =>
              rw [lengths_cons_of_true direction] at outputsFit
              obtain ⟨output, outputs, rfl, lengthEq, outputsFit⟩ :=
                List.map_eq_cons_iff.mp outputsFit
              obtain ⟨hidden, allFilled⟩ := (filled_output direction ..).mp allFilled
              rw [List.map_cons, storeBytes_output direction, storeDirect_output direction]
              refine ih outputsFit allFilled fun address notStored => ?_
              rw [write_filled, write_merge]
              by_cases inside : arg ≤ address ∧ address < arg + param.bytes
              · rw [if_pos inside.1, if_pos inside.1]
                have bound : address - arg < output.length := by omega
                rw [List.getElem?_eq_getElem bound]
                cases byteEq : output[address - arg] with
                | some byte => rfl
                | none =>
                    have stored := hidden (address - arg) (by
                      rw [List.getElem?_eq_getElem bound, byteEq])
                    rw [Nat.add_sub_cancel' inside.1] at stored
                    exact absurd stored notStored
              · have equal : memory address = direct address := by
                  refine same address ?_
                  rintro ⟨other, place, member, isOutput, within⟩
                  rcases List.mem_cons.mp member with head | member
                  · rw [(Prod.mk.inj head).1, (Prod.mk.inj head).2] at within
                    exact inside within
                  · exact notStored ⟨other, place, member, isOutput, within⟩
                split
                · rw [List.getElem?_eq_none (by omega)]
                  exact equal
                · exact equal

/-- A byte that is left has in the client's memory what it had in the buffer of
the host. -/
theorem exists_storeBytes_eq_junk {params : List RpcParam} {args : List Nat}
    {outputs : List (List (Option UInt8))} (argsFit : args.length = params.length)
    (outputsFit : outputs.map List.length = lengths RpcParam.isOutput params)
    (left : ¬ Filled params args outputs) :
    ∃ address i, ∀ (junk : Nat → UInt8) (memory : Memory),
      storeBytes params args (outputs.map (filled junk)) memory address = junk i := by
  induction params generalizing args outputs with
  | nil => exact absurd (by cases args <;> trivial) left
  | cons param params ih =>
      cases args with
      | nil => cases argsFit
      | cons arg args =>
          cases direction : param.isOutput with
          | false =>
              rw [lengths_cons_of_false direction] at outputsFit
              rw [filled_skip direction] at left
              obtain ⟨address, i, found⟩ := ih (Nat.succ.inj argsFit) outputsFit left
              exact ⟨address, i, fun junk memory => by
                rw [storeBytes_skip direction, found]⟩
          | true =>
              rw [lengths_cons_of_true direction] at outputsFit
              obtain ⟨output, outputs, rfl, lengthEq, outputsFit⟩ :=
                List.map_eq_cons_iff.mp outputsFit
              rw [filled_output direction] at left
              by_cases rest : Filled params args outputs
              · obtain ⟨i, byteLeft, notStored⟩ : ∃ i, output[i]? = some none ∧
                    ¬ Stored params args (arg + i) := by
                  by_contra none
                  refine left ⟨fun i byteLeft => ?_, rest⟩
                  by_contra notStored
                  exact none ⟨i, byteLeft, notStored⟩
                refine ⟨arg + i, i, fun junk memory => ?_⟩
                have later := (filled_lengths junk outputs).trans outputsFit
                rw [List.map_cons, storeBytes_output direction, storeBytes_outside later]
                · rw [write_filled, if_pos (Nat.le_add_right _ _), Nat.add_sub_cancel_left,
                    byteLeft]
                  rfl
                · intro other place member isOutput
                  by_contra inside
                  exact notStored ⟨other, place, member, isOutput, by omega, by omega⟩
              · obtain ⟨address, i, found⟩ := ih (Nat.succ.inj argsFit) outputsFit rest
                exact ⟨address, i, fun junk memory => by
                  rw [List.map_cons, storeBytes_output direction, found]⟩

/-- Where no two outputs overlap, no byte is left only if the function writes
every output whole. -/
theorem filled_iff_of_separate {params : List RpcParam} {args : List Nat}
    {outputs : List (List (Option UInt8))} (argsFit : args.length = params.length)
    (outputsFit : outputs.map List.length = lengths RpcParam.isOutput params)
    (separate : Separate params args) :
    Filled params args outputs ↔ ∀ output ∈ outputs, none ∉ output := by
  induction params generalizing args outputs with
  | nil =>
      have nothing : outputs = [] := by simpa [lengths] using outputsFit
      subst nothing
      cases args <;> simp [Filled]
  | cons param params ih =>
      cases args with
      | nil => cases argsFit
      | cons arg args =>
          obtain ⟨apart, separate⟩ := List.pairwise_cons.mp separate
          cases direction : param.isOutput with
          | false =>
              rw [lengths_cons_of_false direction] at outputsFit
              rw [filled_skip direction, ih (Nat.succ.inj argsFit) outputsFit separate]
          | true =>
              rw [lengths_cons_of_true direction] at outputsFit
              obtain ⟨output, outputs, rfl, lengthEq, outputsFit⟩ :=
                List.map_eq_cons_iff.mp outputsFit
              rw [filled_output direction, ih (Nat.succ.inj argsFit) outputsFit separate,
                List.forall_mem_cons]
              refine and_congr_left' ⟨fun hidden left => ?_, fun whole i byteLeft => ?_⟩
              · obtain ⟨i, bound, byteLeft⟩ := List.mem_iff_getElem.mp left
                obtain ⟨other, place, member, -, within⟩ :=
                  hidden i (by rw [List.getElem?_eq_getElem bound, byteLeft])
                have disjoint := apart (other, place) member (.inl direction)
                dsimp only at disjoint
                omega
              · exact absurd (List.mem_of_getElem? byteLeft) whole

/-! ## The whole call -/

/-- A buffer holds what the function wrote to it. -/
def Holds (output : List (Option UInt8)) (bytes : List UInt8) : Prop :=
  bytes.length = output.length ∧
    ∀ (i : Nat) (byte : UInt8), output[i]? = some (some byte) → bytes[i]? = some byte

theorem holds_filled (junk : Nat → UInt8) (output : List (Option UInt8)) :
    Holds output (filled junk output) :=
  ⟨length_filled junk output, fun i byte written => by rw [getElem?_filled, written]; rfl⟩

/-- What a remote call does, compared with a direct one. -/
structure Transparent {params : List RpcParam} (host : Host params) (fcode : BitVec 32)
    (args : List Nat) (memory : Memory) (call : RemoteCall) : Prop where
  seen : call.host.inputs = readArguments RpcParam.isInput memory params args
  result : call.memory = directCall (host.functions fcode) args memory
  hostFcode : call.host.fcode = fcode
  clientFcode : call.clientFcode = fcode
  requestLength : call.requestLength.toInt = call.request.length
  responseLength : call.host.responseLength.toInt = call.host.response.length
  outputs : Separate params args → List.Forall₂ Holds
    ((host.functions fcode).outputs (readArguments RpcParam.isInput memory params args))
    (readArguments RpcParam.isOutput call.memory params args)
  inputsKept : Separate params args → ∀ param arg, (param, arg) ∈ params.zip args →
    param.isOutput = false → call.memory.read arg param.bytes = memory.read arg param.bytes

/-- The bytes of the request. -/
def requestBytes (params : List RpcParam) : Nat :=
  8 + RpcParamDesc.size * params.length + (lengths RpcParam.isInput params).sum

/-- The bytes of the response. -/
def responseBytes (params : List RpcParam) : Nat :=
  4 + (lengths RpcParam.isOutput params).sum

/-- The host answers a request with the outputs of the function that it names,
computed from the inputs that it holds. -/
theorem hostCall_request {params : List RpcParam} (host : Host params) (fcode : BitVec 32)
    {inputs : List (List UInt8)} (few : params.length < 2 ^ 31)
    (inputsFit : inputs.map List.length = lengths RpcParam.isInput params) :
    hostCall host (requestHeader fcode params ++ inputs.flatten) = some {
      fcode := fcode
      inputs := inputs
      response := intBytes fcode ++
        (((host.functions fcode).outputs inputs).map (filled host.junk)).flatten
      responseLength := BitVec.ofNat 32 (responseBytes params) } := by
  have message : received (requestHeader fcode params ++ inputs.flatten) messageBlock =
      requestHeader fcode params ++ (inputs.flatten ++ []) := by
    rw [received_messageBlock, List.append_nil]
  have parsed := rpcRequestParse_eq few message
  have unmarshalled : rpcRequestUnmarshallVa
      (received (requestHeader fcode params ++ inputs.flatten))
      (rpcRequestParse (received (requestHeader fcode params ++ inputs.flatten)) messageBlock)
      host.vars = unmarshallRequest (received (requestHeader fcode params ++ inputs.flatten))
        messageBlock (params.map RpcParam.desc) (requestHeader fcode params).length host.vars := by
    rw [rpcRequestUnmarshallVa, parsed, descs_eq few rfl rfl message]
  obtain ⟨ready, same, found⟩ := ready_of_unmarshallRequest host.junk
    host.varsFit inputsFit message message rfl (Nat.lt_succ_self _)
  rw [hostCall, unmarshalled, parsed]
  dsimp only
  rw [found]
  generalize allocateOutputs host.junk params (messageBlock + 1) _ _ = allocated at *
  have kept : allocated.2 messageBlock = requestHeader fcode params ++ inputs.flatten := by
    rw [same messageBlock (Nat.lt_succ_self _), message, List.append_nil]
  obtain ⟨⟨rest, begins⟩, _, copied⟩ := copyOutputs_storeOutputs ready inputsFit
    ((host.functions fcode).lengths inputs) ((host.functions fcode).written inputs) kept rfl
    (Nat.lt_succ_self _) host.signsFit
  rw [rpcResponseMarshallVa, descs_eq few rfl rfl begins, copied,
    paramTotalLength_eq RpcParam.isOutput fun _ => rfl]
  simp only [responseBytes, BitVec.ofNat_add]
  rfl

/-- What the host sends back of the outputs of the function. -/
def hostOutputs {params : List RpcParam} (host : Host params) (fcode : BitVec 32)
    (args : List Nat) (memory : Memory) : List (List UInt8) :=
  ((host.functions fcode).outputs (readArguments RpcParam.isInput memory params args)).map
    (filled host.junk)

/-- For every list of parameters whose messages fit an `int`, a remote call of
any function with any arguments succeeds, and stores what the host sends back. -/
theorem remoteCall_eq {params : List RpcParam} (host : Host params) (fcode : BitVec 32)
    {args : List Nat} (memory : Memory) (argsFit : args.length = params.length)
    (requestFits : requestBytes params < 2 ^ 31) :
    remoteCall host fcode args memory = some {
      request := requestHeader fcode params ++
        (readArguments RpcParam.isInput memory params args).flatten
      requestLength := BitVec.ofNat 32 (requestBytes params)
      host :=
        { fcode := fcode
          inputs := readArguments RpcParam.isInput memory params args
          response := intBytes fcode ++ (hostOutputs host fcode args memory).flatten
          responseLength := BitVec.ofNat 32 (responseBytes params) }
      clientFcode := fcode
      memory := storeBytes params args (hostOutputs host fcode args memory) memory } := by
  have few : params.length < 2 ^ 31 := by
    have size : RpcParamDesc.size = 4 := rfl
    simp only [requestBytes, size] at requestFits
    omega
  have inputsFit := readArguments_lengths RpcParam.isInput memory argsFit
  have outputsFit := (filled_lengths host.junk _).trans ((host.functions fcode).lengths
    (readArguments RpcParam.isInput memory params args))
  rw [remoteCall, rpcRequestMarshallVa_eq, hostCall_request host fcode few inputsFit]
  simp only [Option.bind_eq_bind, Option.bind_some, rpcResponseParse_eq, if_true]
  rw [rpcResponseUnmarshallVa, listed_paramDescList,
    unmarshallResponse_eq memory argsFit outputsFit (received_messageBlock _)
      (length_intBytes fcode)]
  rfl

/-- For every list of parameters whose messages fit an `int`, a remote call does
what a direct call would, whatever the memory of the host holds, if and only if
no byte of an output buffer is left that the function does not write. -/
theorem transparent_iff_filled {params : List RpcParam} (host : Host params)
    (fcode : BitVec 32) {args : List Nat} (memory : Memory)
    (argsFit : args.length = params.length) (requestFits : requestBytes params < 2 ^ 31)
    (responseFits : responseBytes params < 2 ^ 31) :
    (∀ junk, ∃ call, remoteCall (host.withJunk junk) fcode args memory = some call ∧
      Transparent (host.withJunk junk) fcode args memory call) ↔
      Filled params args ((host.functions fcode).outputs
        (readArguments RpcParam.isInput memory params args)) := by
  have inputsFit := readArguments_lengths RpcParam.isInput memory argsFit
  have outputsFit := (host.functions fcode).lengths
    (readArguments RpcParam.isInput memory params args)
  constructor
  · intro transparent
    by_contra left
    obtain ⟨address, i, found⟩ := exists_storeBytes_eq_junk argsFit outputsFit left
    -- The direct call does not see the memory of the host.
    obtain ⟨call, called, alike⟩ := transparent fun _ =>
      directCall (host.functions fcode) args memory address + 1
    rw [remoteCall_eq _ _ _ argsFit requestFits] at called
    cases called
    have differs := (found _ memory).symm.trans (congrFun alike.result address)
    exact absurd differs (by simp [Host.withJunk])
  · intro allFilled junk
    have sentFit := (filled_lengths junk _).trans outputsFit
    refine ⟨_, remoteCall_eq _ _ _ argsFit requestFits, ?_⟩
    exact
      { seen := rfl
        result := storeBytes_filled junk outputsFit allFilled fun _ _ => rfl
        hostFcode := rfl
        clientFcode := rfl
        requestLength := by
          rw [toInt_ofNat_of_lt requestFits, List.length_append, length_requestHeader,
            List.length_flatten, inputsFit, requestBytes]
        responseLength := by
          rw [toInt_ofNat_of_lt responseFits, List.length_append, length_intBytes,
            List.length_flatten, hostOutputs, Host.withJunk, sentFit]
          rfl
        outputs := fun separate => by
          have stored := @readArguments_storeBytes _ _ _ memory argsFit sentFit separate
          refine stored ▸ List.forall₂_map_right_iff.mpr ?_
          exact List.forall₂_same.mpr fun output _ => holds_filled junk output
        inputsKept := fun separate _ _ member notOutput =>
          read_storeBytes_of_input sentFit separate member notOutput }

/-- A function of one byte, an output buffer of two bytes and one that is input
and output, of no and of three bytes. -/
def exampleParams : List RpcParam :=
  [.type .one, .outBuffer 2, .inoutBuffer 0, .inoutBuffer 3, .return .four]

/-- It reverses the last buffer, writes the byte to the first place of the first
one and `second` to the other, and returns 7. -/
def exampleFunction (second : Option UInt8) : RemoteFunction exampleParams where
  outputs inputs := match inputs with
    | [[byte], _, [a, b, c]] =>
        [[some byte, second], [], [some c, some b, some a], (leBytes 4 7).map some]
    | _ => [[some 0, some 0], [], [some 0, some 0, some 0], (leBytes 4 0).map some]
  lengths inputs := by
    split <;> rfl
  written inputs := by
    split <;>
      exact .cons (fun _ => rfl) (.cons (by simp) (.cons (by simp) (.cons (by simp) .nil)))

/-- A host whose variables hold arbitrary values at first. -/
def exampleHost (second : Option UInt8) : Host exampleParams where
  functions _ := exampleFunction second
  vars := [.scalar [9], .pointer .invalid, .pointer .null, .pointer .invalid, .scalar [1, 2, 3, 4]]
  signs := [true, false, false, false, true]
  junk i := UInt8.ofNat (200 + i)
  varsFit := .scalar rfl rfl (.pointer rfl (.pointer rfl (.pointer rfl (.scalar rfl rfl .nil))))
  signsFit := rfl

/-- The client's memory: every address holds its own number. -/
theorem exampleHost_transparent :
    ∃ call, remoteCall (exampleHost (some 8)) 5 [0, 10, 0, 20, 30] UInt8.ofNat = some call ∧
      Transparent (exampleHost (some 8)) 5 [0, 10, 0, 20, 30] UInt8.ofNat call :=
  (transparent_iff_filled (exampleHost (some 8)) 5 UInt8.ofNat rfl (by decide) (by decide)).mpr
    ((filled_iff_of_separate rfl rfl (by decide)).mpr (by decide)) (exampleHost (some 8)).junk

/-- A function that writes one byte of a buffer of two. -/
theorem partWritten_not_transparent :
    ¬ ∃ call, remoteCall (exampleHost none) 5 [0, 10, 0, 20, 30] UInt8.ofNat = some call ∧
      Transparent (exampleHost none) 5 [0, 10, 0, 20, 30] UInt8.ofNat call := by
  rintro ⟨call, called, transparent⟩
  rw [remoteCall_eq _ _ _ rfl (by decide)] at called
  cases called
  exact absurd (congrFun transparent.result 11) (by decide)

end FwkRtos.Rpc

import FwkRtos.Rpc.Call

/-!
# The messages of a remote call

The request that the client marshals is what the host reads back, the variables that the host
makes of it are ready for the function, and the response that it marshals is what the function
left in its buffers, with what the host found there where the function has written nothing.
The walks over the descriptors are followed parameter by parameter: what is left of a message at
each point of a walk is the concatenation of the parameters still to come.
-/

namespace FwkRtos.Rpc

open FwkRtos.Bytes

/-! ## Descriptors and integers in messages -/

theorem RpcParamDesc.length_toBytes (desc : RpcParamDesc) :
    desc.toBytes.length = RpcParamDesc.size :=
  length_leBytes _ _

/-- The host reads the descriptors that the client wrote. -/
theorem RpcParamDesc.ofBytes_toBytes (desc : RpcParamDesc) :
    RpcParamDesc.ofBytes desc.toBytes = desc := by
  obtain ⟨length, ptr, input, output⟩ := desc
  have bound := length.isLt
  have flags : ptr.toNat + 2 * input.toNat + 4 * output.toNat < 8 := by
    cases ptr <;> cases input <;> cases output <;> decide
  rw [RpcParamDesc.ofBytes, RpcParamDesc.toBytes, leValue_leBytes (by
    simp only [RpcParamDesc.size]
    omega)]
  congr 1
  · apply BitVec.eq_of_toNat_eq
    rw [BitVec.toNat_ofNat, Nat.add_mul_mod_self_left, Nat.mod_eq_of_lt bound]
  all_goals
    rw [Nat.testBit_eq_decide_div_mod_eq]
    cases ptr <;> cases input <;> cases output <;> simp <;> omega

/-- An `int` that is large enough for a number has its value. -/
theorem toInt_ofNat_of_lt {value : Nat} (fits : value < 2 ^ 31) :
    (BitVec.ofNat 32 value).toInt = value := by
  have toNat : (BitVec.ofNat 32 value).toNat = value := by
    rw [BitVec.toNat_ofNat, Nat.mod_eq_of_lt (by omega)]
  rw [BitVec.toInt_eq_toNat_of_lt (by rw [toNat]; omega), toNat]

/-- Narrowing undoes the promotion. -/
theorem setWidth_promote (isSigned : Bool) {width : Nat} (narrow : width ≤ 32) (value : Nat) :
    (promote isSigned width value).setWidth width = BitVec.ofNat width value := by
  apply BitVec.eq_of_getLsbD_eq
  intro i bound
  have inWord : i < 32 := by omega
  cases isSigned with
  | true => simp [promote, BitVec.getElem_signExtend, bound, inWord]
  | false => simp [promote, bound, inWord]

theorem listed_paramDescList (params : List RpcParam) :
    listed (paramDescList params) = params.map RpcParam.desc := by
  induction params with
  | nil => rfl
  | cons param params ih =>
      rw [paramDescList, listed, List.map_cons, List.cons_append, List.takeWhile_cons]
      cases param <;> exact congrArg (List.cons _) ih

theorem leBytes_ofNat_leValue {bytes : List UInt8} {length : Nat}
    (lengthEq : bytes.length = length) :
    leBytes length (BitVec.ofNat (8 * length) (leValue bytes)).toNat = bytes := by
  subst lengthEq
  have bound := leValue_lt bytes
  rw [BitVec.toNat_ofNat, Nat.mod_eq_of_lt (by rw [Nat.pow_mul]; exact bound)]
  exact leBytes_leValue bytes

/-- A scalar passed by value arrives with the bytes of the variable. -/
theorem narrow_pass (isSigned : Bool) {size : ScalarSize} {bytes : List UInt8}
    (length : bytes.length = size.bytes) :
    narrow size.bytes (HostVar.pass isSigned (.scalar bytes)) = some bytes := by
  rw [HostVar.pass, length]
  cases size with
  | one =>
      change some (leBytes 1 ((promote isSigned 8 (leValue bytes)).setWidth 8).toNat) = _
      rw [setWidth_promote _ (by decide)]
      exact congrArg some (leBytes_ofNat_leValue length)
  | two =>
      change some (leBytes 2 ((promote isSigned 16 (leValue bytes)).setWidth 16).toNat) = _
      rw [setWidth_promote _ (by decide)]
      exact congrArg some (leBytes_ofNat_leValue length)
  | four =>
      change some (leBytes 4 ((promote isSigned 32 (leValue bytes)).setWidth 32).toNat) = _
      rw [setWidth_promote _ (by decide)]
      exact congrArg some (leBytes_ofNat_leValue length)
  | eight => exact congrArg some (leBytes_ofNat_leValue length)

/-! ## The request -/

/-- The lengths of the arguments of one direction. -/
def lengths (direction : RpcParam → Bool) (params : List RpcParam) : List Nat :=
  (params.filter direction).map RpcParam.bytes

theorem lengths_cons (direction : RpcParam → Bool) (param : RpcParam) (params : List RpcParam) :
    lengths direction (param :: params) =
      if direction param then param.bytes :: lengths direction params
      else lengths direction params := by
  rw [lengths, List.filter_cons]
  cases direction param <;> rfl

theorem lengths_cons_of_true {direction : RpcParam → Bool} {param : RpcParam}
    {params : List RpcParam} (counts : direction param = true) :
    lengths direction (param :: params) = param.bytes :: lengths direction params := by
  rw [lengths_cons, counts, if_pos rfl]

theorem lengths_cons_of_false {direction : RpcParam → Bool} {param : RpcParam}
    {params : List RpcParam} (skips : direction param = false) :
    lengths direction (param :: params) = lengths direction params := by
  rw [lengths_cons, skips, if_neg (by decide)]

theorem paramTotalLength_eq {direction : RpcParamDesc → Bool} (counts : RpcParam → Bool)
    (same : ∀ param, direction param.desc = counts param) (params : List RpcParam) :
    paramTotalLength direction (params.map RpcParam.desc) =
      BitVec.ofNat 32 (lengths counts params).sum := by
  induction params with
  | nil => rfl
  | cons param params ih =>
      rw [List.map_cons, paramTotalLength, same, ih, lengths_cons]
      cases counts param with
      | true =>
          rw [if_pos rfl, if_pos rfl, List.sum_cons, BitVec.ofNat_add, RpcParam.bytes,
            BitVec.ofNat_toNat]
      | false => rfl

theorem copyInputs_eq (memory : Memory) (params : List RpcParam) (args : List Nat) :
    copyInputs memory (params.map RpcParam.desc) args =
      (readArguments RpcParam.isInput memory params args).flatten := by
  induction params generalizing args with
  | nil => rfl
  | cons param params ih =>
      cases args with
      | nil => rfl
      | cons arg args =>
          rw [List.map_cons, copyInputs, readArguments, ih]
          change (if param.isInput = true then _ else _) ++ _ = _
          cases param.isInput with
          | true => rfl
          | false => rfl

theorem readArguments_lengths (direction : RpcParam → Bool) (memory : Memory)
    {params : List RpcParam} {args : List Nat} (fit : args.length = params.length) :
    (readArguments direction memory params args).map List.length = lengths direction params := by
  induction params generalizing args with
  | nil => rfl
  | cons param params ih =>
      cases args with
      | nil => cases fit
      | cons arg args =>
          have rest := ih (Nat.succ.inj fit)
          rw [readArguments, lengths_cons]
          cases direction param with
          | true => rw [if_pos rfl, if_pos rfl, List.map_cons, rest, Memory.length_read]
          | false => exact rest

/-- Descriptors are read back one after the other. -/
theorem descriptors_read (descs : List RpcParamDesc) (before rest : List UInt8) :
    ((List.range descs.length).map fun i => RpcParamDesc.ofBytes
      (slice (before ++ (descs.flatMap RpcParamDesc.toBytes ++ rest))
        (before.length + RpcParamDesc.size * i) RpcParamDesc.size)) = descs := by
  induction descs generalizing before with
  | nil => rfl
  | cons desc descs ih =>
      rw [List.length_cons, List.range_succ_eq_map, List.map_cons, List.map_map,
        List.flatMap_cons, List.append_assoc]
      congr 1
      · rw [Nat.mul_zero, Nat.add_zero, slice_append rfl desc.length_toBytes,
          RpcParamDesc.ofBytes_toBytes]
      · rw [← List.append_assoc]
        refine Eq.trans (List.map_congr_left fun i _ => ?_) (ih (before ++ desc.toBytes))
        simp only [Function.comp, List.length_append, desc.length_toBytes, Nat.mul_succ,
          Nat.add_assoc, Nat.add_comm RpcParamDesc.size]

/-- What the client writes before the parameters. -/
def requestHeader (fcode : BitVec 32) (params : List RpcParam) : List UInt8 :=
  (intBytes fcode ++ intBytes (BitVec.ofNat 32 params.length)) ++
    (params.map RpcParam.desc).flatMap RpcParamDesc.toBytes

theorem length_requestHeader (fcode : BitVec 32) (params : List RpcParam) :
    (requestHeader fcode params).length = 8 + RpcParamDesc.size * params.length := by
  have descs : ((params.map RpcParam.desc).flatMap RpcParamDesc.toBytes).length =
      RpcParamDesc.size * params.length := by
    simp [List.length_flatMap, Function.comp_def, RpcParamDesc.length_toBytes, Nat.mul_comm]
  rw [requestHeader, List.length_append, List.length_append, length_intBytes, length_intBytes,
    descs]

theorem rpcRequestMarshallVa_eq (memory : Memory) (fcode : BitVec 32) (params : List RpcParam)
    (args : List Nat) :
    rpcRequestMarshallVa memory fcode (paramDescList params) args =
      (requestHeader fcode params ++ (readArguments RpcParam.isInput memory params args).flatten,
        BitVec.ofNat 32 (8 + RpcParamDesc.size * params.length +
          (lengths RpcParam.isInput params).sum)) := by
  rw [rpcRequestMarshallVa, listed_paramDescList, copyInputs_eq,
    paramTotalLength_eq RpcParam.isInput fun _ => rfl, List.length_map, requestHeader]
  simp only [List.append_assoc, BitVec.ofNat_add, BitVec.ofNat_mul]
  rfl

/-- Parsing a message that begins as a request does. -/
theorem rpcRequestParse_eq {memory : BlockMemory} {fcode : BitVec 32} {params : List RpcParam}
    {rest : List UInt8} (few : params.length < 2 ^ 31)
    (message : memory messageBlock = requestHeader fcode params ++ rest) :
    rpcRequestParse memory messageBlock =
      { fcode := fcode
        paramCount := BitVec.ofNat 32 params.length
        paramDesc := 8
        params := (requestHeader fcode params).length
        msgBuf := messageBlock } := by
  have fcodeBytes : slice (memory messageBlock) 0 4 = intBytes fcode := by
    rw [message, requestHeader, List.append_assoc, List.append_assoc]
    exact slice_append_left (length_intBytes _)
  have countBytes : slice (memory messageBlock) 4 4 =
      intBytes (BitVec.ofNat 32 params.length) := by
    rw [message, requestHeader, List.append_assoc, List.append_assoc]
    exact slice_append (length_intBytes _) (length_intBytes _)
  have count : (BitVec.ofNat 32 params.length).toNat = params.length := by
    rw [BitVec.toNat_ofNat, Nat.mod_eq_of_lt (by omega)]
  rw [rpcRequestParse, fcodeBytes, countBytes, intOfBytes_intBytes, intOfBytes_intBytes, count,
    length_requestHeader]

/-- The host reads back the client's descriptors from any message that begins
as the request does. -/
theorem descs_eq {memory : BlockMemory} {fcode : BitVec 32} {params : List RpcParam}
    {rest : List UInt8} {rpcMsg : RpcMsg} (few : params.length < 2 ^ 31)
    (paramCount : rpcMsg.paramCount = BitVec.ofNat 32 params.length)
    (paramDesc : rpcMsg.paramDesc = 8)
    (message : memory rpcMsg.msgBuf = requestHeader fcode params ++ rest) :
    rpcMsg.descs memory = params.map RpcParam.desc := by
  have count : (BitVec.ofNat 32 params.length).toInt.toNat = params.length := by
    rw [toInt_ofNat_of_lt few, Int.toNat_natCast]
  have begins : (intBytes fcode ++ intBytes (BitVec.ofNat 32 params.length)).length = 8 := by
    rw [List.length_append, length_intBytes, length_intBytes]
  have read := descriptors_read (params.map RpcParam.desc)
    (intBytes fcode ++ intBytes (BitVec.ofNat 32 params.length)) rest
  rw [begins, List.length_map] at read
  rw [RpcMsg.descs, paramCount, count, paramDesc, message, requestHeader, List.append_assoc]
  exact read

/-! ## The host -/

/-- Where an input buffer of the request is left for the function. -/
def inMessage (offset : Nat) (length : BitVec 24) : Pointer :=
  if 0 < length.toNat then .block messageBlock offset else .null

/-- The arguments of the function, for parameters from `offset` of the message
on and with buffers from the block `next` on. -/
inductive Ready (junk : Nat → UInt8) (memory : BlockMemory) :
    Nat → Nat → List RpcParam → List HostVar → Prop
  | nil {offset next : Nat} : Ready junk memory offset next [] []
  | type {offset next : Nat} {size : ScalarSize} {bytes : List UInt8} {params : List RpcParam}
      {vars : List HostVar} (length : bytes.length = (RpcParam.type size).bytes)
      (rest : Ready junk memory (offset + (RpcParam.type size).bytes) next params vars) :
      Ready junk memory offset next (.type size :: params) (.scalar bytes :: vars)
  | return {offset next : Nat} {size : ScalarSize} {bytes : List UInt8} {params : List RpcParam}
      {vars : List HostVar} (length : bytes.length = (RpcParam.return size).bytes)
      (rest : Ready junk memory offset next params vars) :
      Ready junk memory offset next (.return size :: params) (.scalar bytes :: vars)
  | inBuffer {offset next : Nat} {length : BitVec 24} {params : List RpcParam}
      {vars : List HostVar} (rest : Ready junk memory (offset + length.toNat) next params vars) :
      Ready junk memory offset next (.inBuffer length :: params)
        (.pointer (inMessage offset length) :: vars)
  | outBuffer {offset next : Nat} {length : BitVec 24} {params : List RpcParam}
      {vars : List HostVar} (allocated : memory next = (List.range length.toNat).map junk)
      (rest : Ready junk memory offset (next + 1) params vars) :
      Ready junk memory offset next (.outBuffer length :: params) (.pointer (.block next 0) :: vars)
  | inoutBuffer {offset next : Nat} {length : BitVec 24} {params : List RpcParam}
      {vars : List HostVar} (rest : Ready junk memory (offset + length.toNat) next params vars) :
      Ready junk memory offset next (.inoutBuffer length :: params)
        (.pointer (inMessage offset length) :: vars)

/-- Only the allocated buffers matter. -/
theorem Ready.congr {junk : Nat → UInt8} {memory after : BlockMemory} {offset next : Nat}
    {params : List RpcParam} {vars : List HostVar}
    (ready : Ready junk memory offset next params vars)
    (same : ∀ block, next ≤ block → after block = memory block) :
    Ready junk after offset next params vars := by
  induction ready with
  | nil => exact .nil
  | type length _ ih => exact .type length (ih same)
  | «return» length _ ih => exact .return length (ih same)
  | inBuffer _ ih => exact .inBuffer (ih same)
  | outBuffer allocated _ ih =>
      refine .outBuffer (by rw [same _ (Nat.le_refl _)]; exact allocated) (ih fun block above => ?_)
      exact same block (Nat.le_of_succ_le above)
  | inoutBuffer _ ih => exact .inoutBuffer (ih same)

theorem scalarSize_length (size : ScalarSize) :
    (BitVec.ofNat 24 size.bytes).toNat = size.bytes := by
  cases size <;> rfl

/-- What the host reads of an input that was left in the message. -/
theorem read_inMessage {memory : BlockMemory} {before part after : List UInt8} {offset : Nat}
    {length : BitVec 24} (message : memory messageBlock = before ++ (part ++ after))
    (offsetEq : before.length = offset) (lengthEq : part.length = length.toNat) :
    memory.read (inMessage offset length) length.toNat = part := by
  unfold inMessage
  split
  · rw [BlockMemory.read, message, slice_append offsetEq lengthEq]
  · rename_i empty
    have nothing : part = [] := List.eq_nil_of_length_eq_zero (by omega)
    rw [nothing]
    rfl

/-- Unmarshalling and allocating make the arguments ready, and the function
finds the inputs of the message in them. -/
theorem ready_of_unmarshallRequest (junk : Nat → UInt8) {source memory : BlockMemory}
    {params : List RpcParam} {vars : List HostVar} {inputs : List (List UInt8)}
    {before rest : List UInt8} {offset next : Nat} (fit : HostVarsFit params vars)
    (inputsFit : inputs.map List.length = lengths RpcParam.isInput params)
    (sourceMessage : source messageBlock = before ++ (inputs.flatten ++ rest))
    (message : memory messageBlock = before ++ (inputs.flatten ++ rest))
    (offsetEq : before.length = offset) (above : messageBlock < next) :
    let ready := allocateOutputs junk params next
      (unmarshallRequest source messageBlock (params.map RpcParam.desc) offset vars) memory
    Ready junk ready.2 offset next params ready.1 ∧
      (∀ block, block < next → ready.2 block = memory block) ∧
      hostInputs ready.2 params ready.1 = inputs := by
  induction params generalizing memory vars inputs before offset next with
  | nil =>
      cases fit
      have nothing : inputs = [] := by simpa [lengths] using inputsFit
      rw [nothing]
      exact ⟨.nil, fun _ _ => rfl, rfl⟩
  | cons param params ih =>
      cases param with
      | type size =>
          rw [lengths_cons_of_true rfl] at inputsFit
          obtain ⟨input, inputs, rfl, lengthEq, inputsFit⟩ := List.map_eq_cons_iff.mp inputsFit
          rw [List.flatten_cons, List.append_assoc] at sourceMessage message
          have head : slice (source messageBlock) offset (RpcParam.type size).bytes = input := by
            rw [sourceMessage, slice_append offsetEq lengthEq]
          rw [← List.append_assoc] at sourceMessage message
          cases fit with
          | pointer isPtr => cases isPtr
          | scalar _ _ fit =>
              obtain ⟨ready, same, found⟩ := ih fit inputsFit sourceMessage message
                (by rw [List.length_append, offsetEq, lengthEq]) above
              exact ⟨.type ((congrArg List.length head).trans lengthEq) ready, same,
                congr (congrArg List.cons head) found⟩
      | «return» size =>
          rw [lengths_cons_of_false rfl] at inputsFit
          cases fit with
          | pointer isPtr => cases isPtr
          | scalar _ length fit =>
              obtain ⟨ready, same, found⟩ := ih fit inputsFit sourceMessage message offsetEq above
              exact ⟨.return length ready, same, found⟩
      | inBuffer length | inoutBuffer length =>
          rw [lengths_cons_of_true rfl] at inputsFit
          obtain ⟨input, inputs, rfl, lengthEq, inputsFit⟩ := List.map_eq_cons_iff.mp inputsFit
          rw [List.flatten_cons, List.append_assoc] at sourceMessage message
          have whole := message
          rw [← List.append_assoc] at sourceMessage message
          cases fit with
          | scalar isScalar => cases isScalar
          | pointer _ fit =>
              obtain ⟨ready, same, found⟩ := ih fit inputsFit sourceMessage message
                (by rw [List.length_append, offsetEq, lengthEq]) above
              rw [← same messageBlock above] at whole
              have head := read_inMessage whole offsetEq lengthEq
              first
                | exact ⟨.inBuffer ready, same, congr (congrArg List.cons head) found⟩
                | exact ⟨.inoutBuffer ready, same, congr (congrArg List.cons head) found⟩
      | outBuffer length =>
          rw [lengths_cons_of_false rfl] at inputsFit
          cases fit with
          | scalar isScalar => cases isScalar
          | pointer _ fit =>
              have stays : ∀ block, block < next → Function.update memory next
                  ((List.range length.toNat).map junk) block = memory block := by
                intro block below
                rw [Function.update_of_ne (Nat.ne_of_lt below)]
              obtain ⟨ready, same, found⟩ := ih fit inputsFit sourceMessage
                ((stays _ above).trans message) offsetEq (Nat.lt_succ_of_lt above)
              have allocated := same next (Nat.lt_succ_self next)
              rw [Function.update_self] at allocated
              exact ⟨.outBuffer allocated ready,
                fun block below => (same block (Nat.lt_succ_of_lt below)).trans (stays block below),
                found⟩

/-- What the host sends back of an output: where the function wrote nothing, what
the buffer held when it was allocated. -/
def filled (junk : Nat → UInt8) (output : List (Option UInt8)) : List UInt8 :=
  merge output ((List.range output.length).map junk)

theorem length_merge {output : List (Option UInt8)} {old : List UInt8}
    (lengthEq : old.length = output.length) : (merge output old).length = output.length := by
  rw [merge, List.length_zipWith, lengthEq, Nat.min_self]

theorem length_filled (junk : Nat → UInt8) (output : List (Option UInt8)) :
    (filled junk output).length = output.length :=
  length_merge (by rw [List.length_map, List.length_range])

theorem filled_lengths (junk : Nat → UInt8) (outputs : List (List (Option UInt8))) :
    (outputs.map (filled junk)).map List.length = outputs.map List.length := by
  rw [List.map_map]
  exact List.map_congr_left fun output _ => length_filled junk output

/-- An output that the function writes whole hides what was there. -/
theorem merge_eq_filled (junk : Nat → UInt8) {output : List (Option UInt8)} {old : List UInt8}
    (lengthEq : old.length = output.length) (whole : none ∉ output) :
    merge output old = filled junk output := by
  refine List.ext_getElem ((length_merge lengthEq).trans (length_filled junk output).symm) ?_
  intro i _ bound
  rw [length_filled] at bound
  obtain ⟨byte, written⟩ : ∃ byte, output[i] = some byte :=
    Option.ne_none_iff_exists'.mp fun left => whole (left ▸ List.getElem_mem bound)
  simp only [merge, filled, List.getElem_zipWith, written, Option.getD_some]

/-- The function writes all other outputs whole. -/
def WritesOthers (params : List RpcParam) (outputs : List (List (Option UInt8))) : Prop :=
  List.Forall₂ (fun param output => none ∈ output → param.isOutBuffer = true)
    (params.filter RpcParam.isOutput) outputs

/-- What the function writes over an input replaces it in the message. -/
theorem write_inMessage {memory : BlockMemory} {before old new after : List UInt8}
    {offset : Nat} (length : BitVec 24)
    (message : memory messageBlock = before ++ (old ++ after)) (offsetEq : before.length = offset)
    (oldLength : old.length = length.toNat) (newLength : new.length = length.toNat) :
    memory.write (inMessage offset length) new =
      Function.update memory messageBlock (before ++ (new ++ after)) := by
  unfold inMessage
  split
  · rw [BlockMemory.write, message, splice_append offsetEq (oldLength.trans newLength.symm)]
  · rename_i empty
    have oldNothing : old = [] := List.eq_nil_of_length_eq_zero (by omega)
    have newNothing : new = [] := List.eq_nil_of_length_eq_zero (by omega)
    rw [newNothing, ← oldNothing, ← message, Function.update_eq_self]
    rfl

theorem copyOutputs_cons {memory : BlockMemory} {desc : RpcParamDesc} {descs : List RpcParamDesc}
    {arg : VaArg} {ap : List VaArg} {param params : List UInt8}
    (head : responseParam memory desc arg = some param)
    (tail : copyOutputs memory descs ap = some params) :
    copyOutputs memory (desc :: descs) (arg :: ap) =
      some ((if desc.output then param else []) ++ params) := by
  rw [copyOutputs, head, tail]
  rfl

theorem responseParam_scalar (memory : BlockMemory) (isSigned : Bool) {param : RpcParam}
    {bytes : List UInt8} (isScalar : param.isPtr = false) (length : bytes.length = param.bytes) :
    responseParam memory param.desc (HostVar.pass isSigned (.scalar bytes)) = some bytes := by
  cases param with
  | type size | «return» size =>
      change narrow (BitVec.ofNat 24 size.bytes).toNat _ = _
      rw [scalarSize_length]
      exact narrow_pass isSigned (length.trans (scalarSize_length size))
  | inBuffer | outBuffer | inoutBuffer => cases isScalar

/-- The function leaves the beginning of the message and the buffers before
`next` as they are, and the response holds its outputs in order. -/
theorem copyOutputs_storeOutputs {junk : Nat → UInt8} {memory : BlockMemory}
    {params : List RpcParam} {vars : List HostVar} {inputs : List (List UInt8)}
    {outputs : List (List (Option UInt8))} {before : List UInt8} {signs : List Bool}
    {offset next : Nat} (ready : Ready junk memory offset next params vars)
    (inputsFit : inputs.map List.length = lengths RpcParam.isInput params)
    (outputsFit : outputs.map List.length = lengths RpcParam.isOutput params)
    (written : WritesOthers params outputs)
    (message : memory messageBlock = before ++ inputs.flatten)
    (offsetEq : before.length = offset) (above : messageBlock < next)
    (signsFit : signs.length = params.length) :
    let stored := storeOutputs params vars outputs memory
    (∃ rest, stored.2 messageBlock = before ++ rest) ∧
      (∀ block, block ≠ messageBlock → block < next → stored.2 block = memory block) ∧
      copyOutputs stored.2 (params.map RpcParam.desc)
        (List.zipWith HostVar.pass signs stored.1) = some (outputs.map (filled junk)).flatten := by
  induction params generalizing memory vars inputs outputs before signs offset next with
  | nil =>
      cases ready
      have nothing : outputs = [] := by simpa [lengths] using outputsFit
      rw [nothing]
      exact ⟨⟨_, message⟩, fun _ _ _ => rfl, rfl⟩
  | cons param params ih =>
      obtain ⟨sign, signs, rfl⟩ : ∃ sign rest, signs = sign :: rest :=
        List.exists_cons_of_length_eq_add_one signsFit
      replace signsFit := Nat.succ.inj signsFit
      cases ready with
      | @type _ _ size bytes _ vars length ready =>
          rw [lengths_cons_of_true rfl] at inputsFit
          rw [lengths_cons_of_false rfl] at outputsFit
          obtain ⟨input, inputs, rfl, lengthEq, inputsFit⟩ := List.map_eq_cons_iff.mp inputsFit
          rw [List.flatten_cons, ← List.append_assoc] at message
          obtain ⟨⟨rest, kept⟩, same, copied⟩ := ih ready inputsFit outputsFit written message
            (by rw [List.length_append, offsetEq, lengthEq]) above signsFit
          refine ⟨⟨input ++ rest, by rw [← List.append_assoc]; exact kept⟩, same, ?_⟩
          exact copyOutputs_cons (responseParam_scalar _ sign rfl length) copied
      | @«return» _ _ size bytes _ vars length ready =>
          rw [lengths_cons_of_false rfl] at inputsFit
          rw [lengths_cons_of_true rfl] at outputsFit
          obtain ⟨output, outputs, rfl, lengthEq, outputsFit⟩ := List.map_eq_cons_iff.mp outputsFit
          obtain ⟨whole, written⟩ := List.forall₂_cons.mp written
          obtain ⟨kept, same, copied⟩ :=
            ih ready inputsFit outputsFit written message offsetEq above signsFit
          have merged := merge_eq_filled junk (length.trans lengthEq.symm)
            fun left => Bool.false_ne_true (whole left)
          have head : responseParam (storeOutputs params vars outputs memory).2
              (RpcParam.return size).desc (HostVar.pass sign (.scalar (merge output bytes))) =
                some (filled junk output) := by
            rw [merged]
            exact responseParam_scalar _ sign rfl ((length_filled junk output).trans lengthEq)
          exact ⟨kept, same, copyOutputs_cons head copied⟩
      | inBuffer ready =>
          rw [lengths_cons_of_true rfl] at inputsFit
          rw [lengths_cons_of_false rfl] at outputsFit
          obtain ⟨input, inputs, rfl, lengthEq, inputsFit⟩ := List.map_eq_cons_iff.mp inputsFit
          rw [List.flatten_cons, ← List.append_assoc] at message
          obtain ⟨⟨rest, kept⟩, same, copied⟩ := ih ready inputsFit outputsFit written message
            (by rw [List.length_append, offsetEq, lengthEq]; rfl) above signsFit
          exact ⟨⟨input ++ rest, by rw [← List.append_assoc]; exact kept⟩, same,
            copyOutputs_cons rfl copied⟩
      | @outBuffer _ _ length _ vars allocated ready =>
          rw [lengths_cons_of_false rfl] at inputsFit
          rw [lengths_cons_of_true rfl] at outputsFit
          obtain ⟨output, outputs, rfl, lengthEq, outputsFit⟩ := List.map_eq_cons_iff.mp outputsFit
          obtain ⟨_, written⟩ := List.forall₂_cons.mp written
          replace lengthEq : output.length = length.toNat := lengthEq
          have merged : merge output (memory.read (.block next 0) output.length) =
              filled junk output := by
            rw [BlockMemory.read, allocated, slice_whole (by
              rw [List.length_map, List.length_range, lengthEq]), filled, lengthEq]
          have stored : memory.write (.block next 0)
              (merge output (memory.read (.block next 0) output.length)) =
                Function.update memory next (filled junk output) := by
            rw [merged, BlockMemory.write, splice_whole (by
              rw [allocated, List.length_map, List.length_range, length_filled, lengthEq])]
          have stays : ∀ block, block ≠ next →
              memory.write (.block next 0)
                (merge output (memory.read (.block next 0) output.length)) block =
                  memory block := by
            intro block different
            rw [stored, Function.update_of_ne different]
          obtain ⟨kept, same, copied⟩ := ih
            (ready.congr fun block later => stays block (Nat.ne_of_gt later)) inputsFit outputsFit
            written ((stays _ (Nat.ne_of_lt above)).trans message) offsetEq
              (Nat.lt_succ_of_lt above) signsFit
          refine ⟨kept, fun block notMessage below =>
            (same block notMessage (Nat.lt_succ_of_lt below)).trans
              (stays block (Nat.ne_of_lt below)), ?_⟩
          have final := (same next (Nat.ne_of_gt above) (Nat.lt_succ_self next)).trans
            (congrFun stored next)
          rw [Function.update_self] at final
          have read : slice (filled junk output) 0 length.toNat = filled junk output :=
            slice_whole ((length_filled junk output).trans lengthEq)
          refine copyOutputs_cons
            (show responseParam _ _ _ = some (filled junk output) from congrArg some ?_) copied
          exact (congrArg (fun bytes => slice bytes 0 length.toNat) final).trans read
      | @inoutBuffer _ _ length _ vars ready =>
          rw [lengths_cons_of_true rfl] at inputsFit outputsFit
          obtain ⟨input, inputs, rfl, inputLength, inputsFit⟩ := List.map_eq_cons_iff.mp inputsFit
          obtain ⟨output, outputs, rfl, outputLength, outputsFit⟩ :=
            List.map_eq_cons_iff.mp outputsFit
          obtain ⟨whole, written⟩ := List.forall₂_cons.mp written
          replace outputLength : output.length = length.toNat := outputLength
          rw [List.flatten_cons] at message
          have filledLength := (length_filled junk output).trans outputLength
          have merged : merge output (memory.read (inMessage offset length) output.length) =
              filled junk output := by
            have inPlace : memory.read (inMessage offset length) length.toNat = _ :=
              read_inMessage message offsetEq inputLength
            rw [outputLength, inPlace]
            exact merge_eq_filled junk (inputLength.trans outputLength.symm)
              fun left => Bool.false_ne_true (whole left)
          have stored := write_inMessage length message offsetEq inputLength filledLength
          rw [← merged] at stored
          have stays : ∀ block, block ≠ messageBlock →
              memory.write (inMessage offset length)
                (merge output (memory.read (inMessage offset length) output.length)) block =
                  memory block := by
            intro block different
            rw [stored, Function.update_of_ne different]
          have messageAfter : memory.write (inMessage offset length)
              (merge output (memory.read (inMessage offset length) output.length)) messageBlock =
                (before ++ filled junk output) ++ inputs.flatten := by
            rw [stored, merged, Function.update_self, List.append_assoc]
          obtain ⟨⟨rest, kept⟩, same, copied⟩ := ih
            (ready.congr fun block later =>
              stays block (Nat.ne_of_gt (Nat.lt_of_lt_of_le above later)))
            inputsFit outputsFit written messageAfter
            (by rw [List.length_append, offsetEq, filledLength]) above signsFit
          rw [List.append_assoc] at kept
          refine ⟨⟨filled junk output ++ rest, kept⟩, fun block notMessage below =>
            (same block notMessage below).trans (stays block notMessage), ?_⟩
          exact copyOutputs_cons (congrArg some (read_inMessage kept offsetEq filledLength)) copied

end FwkRtos.Rpc

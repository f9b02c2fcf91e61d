import Mathlib.Data.List.Induction
import Mathlib.Logic.Function.Basic

/-!
# The configuration descriptor

A configuration is a header and, behind it, descriptors that begin with their own lengths.
The parser follows these lengths, which come from the application, and looks at a descriptor
only if it ends inside the configuration; but its type is looked at before its length.
-/

namespace FwkRtos.Usb

/-! ## Endpoints -/

/-- `RTOS_USB_ENDPOINT_COUNT_MAX`. -/
def rtosUsbEndpointCountMax : Nat := 12

/-- `XUD_EpTransferType`. -/
inductive XudEpTransferType
  | ctl
  | iso
  | bul
  | int
  | dis
  deriving DecidableEq

/-- An entry of a table: a transfer type, with `XUD_STATUS_ENABLE` or not. -/
structure XudEpType where
  transferType : XudEpTransferType
  statusEnable : Bool
  deriving DecidableEq

/-- `XUD_PwrConfig`. -/
inductive XudPwrConfig
  | bus
  | self
  deriving DecidableEq

/-- `tusb_dir_t`. -/
inductive TusbDir
  | out
  | in_
  deriving DecidableEq

/-- `epTypeTableOut` and `epTypeTableIn`. -/
abbrev EpTypeTables := TusbDir → Fin rtosUsbEndpointCountMax → XudEpType

/-- The bytes from the beginning of the configuration on. -/
abbrev DescBuf := Nat → UInt8

/-- `TUSB_DESC_CONFIGURATION`. -/
def tusbDescConfiguration : UInt8 := 2

/-- `TUSB_DESC_ENDPOINT`. -/
def tusbDescEndpoint : UInt8 := 5

/-- `sizeof(tusb_desc_configuration_t)`. -/
def configurationSize : Nat := 9

/-- `sizeof(tusb_desc_endpoint_t)`. -/
def endpointSize : Nat := 7

/-- `tu_edpt_number`. -/
def tuEdptNumber (address : UInt8) : Nat :=
  address.toNat % 128

/-- `tu_edpt_dir`. -/
def tuEdptDir (address : UInt8) : TusbDir :=
  if address.toNat < 128 then .out else .in_

/-- The transfer type for the two bits of `bmAttributes`. -/
def xudType (attributes : UInt8) : XudEpTransferType :=
  match attributes.toNat % 4 with
  | 0 => .ctl
  | 1 => .iso
  | 2 => .bul
  | _ => .int

namespace DescBuf

variable (descBuf : DescBuf)

/-- `bLength` of the descriptor at a place. -/
def bLength (place : Nat) : Nat :=
  (descBuf place).toNat

def bEndpointAddress (place : Nat) : UInt8 :=
  descBuf (place + 2)

def bmAttributes (place : Nat) : UInt8 :=
  descBuf (place + 3)

/-- `wTotalLength` of the header. -/
def totalLength : Nat :=
  (descBuf 2).toNat + 256 * (descBuf 3).toNat

end DescBuf

/-! ## The parser -/

/-- The variables of the loop, the tables, and the places that have been read. -/
structure ParseState where
  curIndex : Nat
  maxEpnum : Nat
  tables : EpTypeTables
  reads : List Nat

/-- An endpoint is entered in the table of its direction. -/
def ParseState.enable (state : ParseState) (epnum : Nat) (inside : epnum < rtosUsbEndpointCountMax)
    (dir : TusbDir) (xudType : XudEpTransferType) : ParseState :=
  { state with
    maxEpnum := if state.maxEpnum < epnum then epnum else state.maxEpnum
    tables := Function.update state.tables dir
      (Function.update (state.tables dir) ⟨epnum, inside⟩ ⟨xudType, false⟩) }

/-- One round of the loop; `none` if the assertion on the endpoint number fails. -/
def parseDescriptor (descBuf : DescBuf) (state : ParseState) : Option ParseState :=
  let place := state.curIndex
  let descLen := descBuf.bLength place
  let next := { state with curIndex := place + descLen, reads := place :: state.reads }
  if place + descLen ≤ descBuf.totalLength then
    let next := { next with reads := (place + 1) :: next.reads }
    if descBuf (place + 1) = tusbDescEndpoint ∧ endpointSize ≤ descLen then
      let next := { next with reads := (place + 3) :: (place + 2) :: next.reads }
      let epnum := tuEdptNumber (descBuf.bEndpointAddress place)
      if inside : epnum < rtosUsbEndpointCountMax then
        some (next.enable epnum inside (tuEdptDir (descBuf.bEndpointAddress place))
          (xudType (descBuf.bmAttributes place)))
      else none
    else some next
  else some next

/-- What keeps the parser from returning: an assertion, or too few rounds. -/
inductive ParseFailure
  | assertion
  | unfinished
  deriving DecidableEq

/-- The loop, for a number of rounds. -/
def parseDescriptors (descBuf : DescBuf) : Nat → ParseState → Except ParseFailure ParseState
  | 0, _ => .error .unfinished
  | rounds + 1, state =>
      if state.curIndex < descBuf.totalLength then
        match parseDescriptor descBuf state with
        | none => .error .assertion
        | some next => parseDescriptors descBuf rounds next
      else .ok state

/-- What the parser returns and leaves. -/
structure Parsed where
  endpointCount : Nat
  pwr : XudPwrConfig
  tables : EpTypeTables
  reads : List Nat

/-- `cfg_desc_parse`, for the tables of its caller and a number of rounds. -/
def cfgDescParse (descBuf : DescBuf) (tables : EpTypeTables) (rounds : Nat) :
    Except ParseFailure Parsed :=
  let descLen := descBuf.bLength 0
  if configurationSize ≤ descLen ∧ descBuf 1 = tusbDescConfiguration then
    let pwr := if (descBuf 7).toNat.testBit 6 then XudPwrConfig.self else .bus
    match parseDescriptors descBuf rounds ⟨descLen, 0, tables, [7, 1, 3, 2, 0]⟩ with
    | .error failure => .error failure
    | .ok state => .ok ⟨state.maxEpnum + 1, pwr, state.tables, state.reads⟩
  else .error .assertion

/-- The tables of `dcd_connect`: endpoint 0 is enabled and the others are not. -/
def dcdConnectTables : EpTypeTables := fun _ epnum =>
  if epnum.val = 0 then ⟨.ctl, true⟩ else ⟨.dis, false⟩

/-! ## What the configuration says -/

/-- An endpoint descriptor that lies wholly inside the configuration. -/
def DescBuf.IsEndpoint (descBuf : DescBuf) (place : Nat) : Prop :=
  place + descBuf.bLength place ≤ descBuf.totalLength ∧
    descBuf (place + 1) = tusbDescEndpoint ∧ endpointSize ≤ descBuf.bLength place

instance (descBuf : DescBuf) (place : Nat) : Decidable (descBuf.IsEndpoint place) :=
  inferInstanceAs (Decidable (_ ∧ _))

/-- The endpoint descriptor is for the given direction and number. -/
def DescBuf.Describes (descBuf : DescBuf) (dir : TusbDir) (epnum : Nat) (place : Nat) : Prop :=
  descBuf.IsEndpoint place ∧ tuEdptDir (descBuf.bEndpointAddress place) = dir ∧
    tuEdptNumber (descBuf.bEndpointAddress place) = epnum

instance (descBuf : DescBuf) (dir : TusbDir) (epnum : Nat) (place : Nat) :
    Decidable (descBuf.Describes dir epnum place) :=
  inferInstanceAs (Decidable (_ ∧ _))

/-- The places from a place on to which the lengths lead, up to the end. -/
inductive Chain (descBuf : DescBuf) : Nat → List Nat → Prop
  | done {place : Nat} (past : descBuf.totalLength ≤ place) : Chain descBuf place []
  | more {place : Nat} {places : List Nat} (inside : place < descBuf.totalLength)
      (rest : Chain descBuf (place + descBuf.bLength place) places) :
      Chain descBuf place (place :: places)

/-- A place to which the lengths lead from the header. -/
inductive InChain (descBuf : DescBuf) : Nat → Prop
  | first : InChain descBuf (descBuf.bLength 0)
  | next {place : Nat} (before : InChain descBuf place) (inside : place < descBuf.totalLength) :
      InChain descBuf (place + descBuf.bLength place)

/-- The parser has found what the descriptors say and has read nothing else. -/
structure Parsed.Describes (parsed : Parsed) (descBuf : DescBuf) (tables : EpTypeTables)
    (places : List Nat) : Prop where
  chain : Chain descBuf (descBuf.bLength 0) places
  reads : ∀ place ∈ parsed.reads, place < descBuf.totalLength
  tables : ∀ dir epnum, parsed.tables dir epnum =
    match (places.filter fun place => descBuf.Describes dir epnum place).getLast? with
    | some place => ⟨xudType (descBuf.bmAttributes place), false⟩
    | none => tables dir epnum
  endpointCount : parsed.endpointCount =
    ((places.filter fun place => descBuf.IsEndpoint place).map fun place =>
      tuEdptNumber (descBuf.bEndpointAddress place)).foldr max 0 + 1

/-- The condition on a configuration. -/
structure DescBuf.Sound (descBuf : DescBuf) : Prop where
  header : 8 ≤ descBuf.totalLength
  /-- No descriptor has the length 0. -/
  nonzero : ∀ place, InChain descBuf place → place < descBuf.totalLength →
    descBuf.bLength place ≠ 0
  /-- The last descriptor is not a single byte. -/
  type : ∀ place, InChain descBuf place → place < descBuf.totalLength →
    descBuf.bLength place = 1 → place + 1 ≠ descBuf.totalLength
  number : ∀ place, InChain descBuf place → place < descBuf.totalLength →
    descBuf.IsEndpoint place →
      tuEdptNumber (descBuf.bEndpointAddress place) < rtosUsbEndpointCountMax

/-! ## One descriptor -/

/-- The number of the endpoint, if the place has an endpoint descriptor, is in the tables. -/
def DescBuf.NumberFits (descBuf : DescBuf) (place : Nat) : Prop :=
  descBuf.IsEndpoint place →
    tuEdptNumber (descBuf.bEndpointAddress place) < rtosUsbEndpointCountMax

instance (descBuf : DescBuf) (place : Nat) : Decidable (descBuf.NumberFits place) :=
  inferInstanceAs (Decidable (_ → _))

/-- What is read of the descriptor at a place. -/
def DescBuf.readsAt (descBuf : DescBuf) (place : Nat) : List Nat :=
  if descBuf.IsEndpoint place then [place + 3, place + 2, place + 1, place]
  else if place + descBuf.bLength place ≤ descBuf.totalLength then [place + 1, place]
  else [place]

/-- The state after the descriptor at a place. -/
def ParseState.visit (descBuf : DescBuf) (state : ParseState) (place : Nat) : ParseState where
  curIndex := place + descBuf.bLength place
  maxEpnum :=
    if descBuf.IsEndpoint place then
      max state.maxEpnum (tuEdptNumber (descBuf.bEndpointAddress place))
    else state.maxEpnum
  tables dir epnum :=
    if descBuf.Describes dir epnum place then ⟨xudType (descBuf.bmAttributes place), false⟩
    else state.tables dir epnum
  reads := descBuf.readsAt place ++ state.reads

variable {descBuf : DescBuf} {state : ParseState}

/-- A place without an endpoint descriptor changes no table. -/
theorem ParseState.visit_of_not_isEndpoint {place : Nat} (other : ¬ descBuf.IsEndpoint place) :
    state.visit descBuf place =
      { state with
        curIndex := place + descBuf.bLength place
        reads := descBuf.readsAt place ++ state.reads } := by
  have describes : ∀ dir epnum, ¬ descBuf.Describes dir epnum place :=
    fun dir epnum describes => other describes.1
  simp only [ParseState.visit, if_neg other, if_neg (describes _ _)]

/-- The entry that is made is that of the endpoint which the descriptor describes. -/
theorem updated_tables {place : Nat} (isEndpoint : descBuf.IsEndpoint place)
    (fits : tuEdptNumber (descBuf.bEndpointAddress place) < rtosUsbEndpointCountMax)
    (tables : EpTypeTables) :
    Function.update tables (tuEdptDir (descBuf.bEndpointAddress place))
        (Function.update (tables (tuEdptDir (descBuf.bEndpointAddress place)))
          ⟨tuEdptNumber (descBuf.bEndpointAddress place), fits⟩
          ⟨xudType (descBuf.bmAttributes place), false⟩) =
      fun dir (epnum : Fin rtosUsbEndpointCountMax) =>
        if descBuf.Describes dir epnum place then ⟨xudType (descBuf.bmAttributes place), false⟩
        else tables dir epnum := by
  funext dir epnum
  by_cases sameDir : dir = tuEdptDir (descBuf.bEndpointAddress place)
  · subst sameDir
    rw [Function.update_self]
    by_cases same : epnum = ⟨tuEdptNumber (descBuf.bEndpointAddress place), fits⟩
    · have describes : descBuf.Describes (tuEdptDir (descBuf.bEndpointAddress place)) epnum place :=
        ⟨isEndpoint, rfl, (congrArg Fin.val same).symm⟩
      rw [if_pos describes, same, Function.update_self]
    · have other : ¬ descBuf.Describes (tuEdptDir (descBuf.bEndpointAddress place)) epnum
          place := fun describes => same (Fin.ext describes.2.2.symm)
      rw [if_neg other, Function.update_of_ne same]
  · have other : ¬ descBuf.Describes dir epnum place :=
      fun describes => sameDir describes.2.1.symm
    rw [if_neg other, Function.update_of_ne sameDir]

theorem ite_lt_eq_max (first second : Nat) :
    (if first < second then second else first) = max first second := by
  by_cases less : first < second
  · rw [if_pos less, Nat.max_eq_right (Nat.le_of_lt less)]
  · rw [if_neg less, Nat.max_eq_left (Nat.le_of_not_lt less)]

theorem parseDescriptor_eq (descBuf : DescBuf) (state : ParseState) :
    parseDescriptor descBuf state =
      if descBuf.NumberFits state.curIndex then some (state.visit descBuf state.curIndex)
      else none := by
  by_cases isEndpoint : descBuf.IsEndpoint state.curIndex
  · rcases isEndpoint with ⟨inside, isType, isLong⟩
    have isEndpoint : descBuf.IsEndpoint state.curIndex := ⟨inside, isType, isLong⟩
    rw [parseDescriptor, if_pos inside, if_pos ⟨isType, isLong⟩]
    by_cases fits : tuEdptNumber (descBuf.bEndpointAddress state.curIndex) <
        rtosUsbEndpointCountMax
    · have numberFits : descBuf.NumberFits state.curIndex := fun _ => fits
      rw [dif_pos fits, if_pos numberFits, ParseState.visit, if_pos isEndpoint,
        DescBuf.readsAt, if_pos isEndpoint, ← updated_tables isEndpoint fits state.tables,
        ← ite_lt_eq_max]
      rfl
    · have numberTooLarge : ¬ descBuf.NumberFits state.curIndex :=
        fun numberFits => fits (numberFits isEndpoint)
      rw [dif_neg fits, if_neg numberTooLarge]
  · have numberFits : descBuf.NumberFits state.curIndex := fun is => absurd is isEndpoint
    rw [if_pos numberFits, ParseState.visit_of_not_isEndpoint isEndpoint, parseDescriptor,
      DescBuf.readsAt, if_neg isEndpoint]
    by_cases inside : state.curIndex + descBuf.bLength state.curIndex ≤ descBuf.totalLength
    · have noEndpoint : ¬ (descBuf (state.curIndex + 1) = tusbDescEndpoint ∧
          endpointSize ≤ descBuf.bLength state.curIndex) := fun both => isEndpoint ⟨inside, both⟩
      rw [if_pos inside, if_neg noEndpoint, if_pos inside]
      rfl
    · rw [if_neg inside, if_neg inside]
      rfl

/-! ## All descriptors -/

/-- The loop returns after as many rounds as there are descriptors, if the numbers fit. -/
theorem parseDescriptors_eq_ok_iff {rounds : Nat} {final : ParseState} :
    parseDescriptors descBuf rounds state = .ok final ↔
      ∃ places, Chain descBuf state.curIndex places ∧ places.length < rounds ∧
        (∀ place ∈ places, descBuf.NumberFits place) ∧
        places.foldl (ParseState.visit descBuf) state = final := by
  induction rounds generalizing state with
  | zero =>
      constructor
      · intro parsed
        cases parsed
      · rintro ⟨places, _, short, _⟩
        exact absurd short (Nat.not_lt_zero _)
  | succ rounds ih =>
      rw [parseDescriptors, parseDescriptor_eq]
      by_cases inside : state.curIndex < descBuf.totalLength
      · rw [if_pos inside]
        by_cases fits : descBuf.NumberFits state.curIndex
        · rw [if_pos fits]
          change parseDescriptors descBuf rounds (state.visit descBuf state.curIndex) = _ ↔ _
          rw [ih]
          constructor
          · rintro ⟨places, chain, short, allFit, folded⟩
            exact ⟨state.curIndex :: places, .more inside chain, Nat.succ_lt_succ short,
              List.forall_mem_cons.mpr ⟨fits, allFit⟩, folded⟩
          · rintro ⟨places, chain, short, allFit, folded⟩
            cases chain with
            | done past => exact absurd inside (Nat.not_lt_of_le past)
            | more _ rest =>
                exact ⟨_, rest, Nat.lt_of_succ_lt_succ short,
                  (List.forall_mem_cons.mp allFit).2, folded⟩
        · rw [if_neg fits]
          constructor
          · intro parsed
            cases parsed
          · rintro ⟨places, chain, _, allFit, _⟩
            cases chain with
            | done past => exact absurd inside (Nat.not_lt_of_le past)
            | more _ _ => exact absurd (allFit _ List.mem_cons_self) fits
      · rw [if_neg inside]
        have past := Nat.le_of_not_lt inside
        constructor
        · intro parsed
          cases parsed
          exact ⟨[], .done past, Nat.succ_pos rounds,
            fun _ isMember => absurd isMember List.not_mem_nil, rfl⟩
        · rintro ⟨places, chain, _, _, folded⟩
          cases chain with
          | done _ => exact congrArg Except.ok folded
          | more here _ => exact absurd here inside

/-! ### What a chain of descriptors leaves -/

theorem foldl_visit_reads (places : List Nat) (state : ParseState) (place : Nat) :
    place ∈ (places.foldl (ParseState.visit descBuf) state).reads ↔
      place ∈ state.reads ∨ ∃ other ∈ places, place ∈ descBuf.readsAt other := by
  induction places generalizing state with
  | nil => simp
  | cons other places ih =>
      rw [List.foldl_cons, ih, ParseState.visit, List.mem_append]
      simp only [List.mem_cons, exists_eq_or_imp]
      tauto

theorem foldl_visit_tables (places : List Nat) (state : ParseState) (dir : TusbDir)
    (epnum : Fin rtosUsbEndpointCountMax) :
    (places.foldl (ParseState.visit descBuf) state).tables dir epnum =
      match (places.filter fun place => descBuf.Describes dir epnum place).getLast? with
      | some place => ⟨xudType (descBuf.bmAttributes place), false⟩
      | none => state.tables dir epnum := by
  induction places using List.reverseRecOn with
  | nil => rfl
  | append_singleton places place ih =>
      rw [List.foldl_append, List.filter_append]
      by_cases describes : descBuf.Describes dir epnum place
      · have kept : [place].filter (fun place => descBuf.Describes dir epnum place) = [place] :=
          List.filter_cons_of_pos (decide_eq_true describes)
        rw [kept, List.getLast?_append]
        exact if_pos describes
      · have dropped : [place].filter (fun place => descBuf.Describes dir epnum place) = [] :=
          List.filter_cons_of_neg (by rwa [decide_eq_true_eq])
        rw [dropped, List.append_nil, ← ih]
        exact if_neg describes

theorem foldl_visit_maxEpnum (places : List Nat) (state : ParseState) :
    (places.foldl (ParseState.visit descBuf) state).maxEpnum =
      max state.maxEpnum (((places.filter fun place => descBuf.IsEndpoint place).map fun place =>
        tuEdptNumber (descBuf.bEndpointAddress place)).foldr max 0) := by
  induction places generalizing state with
  | nil => exact (Nat.max_zero _).symm
  | cons place places ih =>
      rw [List.foldl_cons, ih]
      by_cases isEndpoint : descBuf.IsEndpoint place
      · have kept : (place :: places).filter (fun place => descBuf.IsEndpoint place) =
            place :: places.filter fun place => descBuf.IsEndpoint place :=
          List.filter_cons_of_pos (decide_eq_true isEndpoint)
        rw [kept, List.map_cons, List.foldr_cons, ParseState.visit, if_pos isEndpoint,
          Nat.max_assoc]
      · have dropped : (place :: places).filter (fun place => descBuf.IsEndpoint place) =
            places.filter fun place => descBuf.IsEndpoint place :=
          List.filter_cons_of_neg (by rwa [decide_eq_true_eq])
        rw [dropped, ParseState.visit, if_neg isEndpoint]

/-! ### Chains -/

theorem Chain.places_unique {place : Nat} {first second : List Nat}
    (chain : Chain descBuf place first) (other : Chain descBuf place second) : first = second := by
  induction chain generalizing second with
  | done past =>
      cases other with
      | done _ => rfl
      | more inside _ => exact absurd inside (Nat.not_lt_of_le past)
  | more inside _ ih =>
      cases other with
      | done past => exact absurd inside (Nat.not_lt_of_le past)
      | more _ rest => rw [ih rest]

/-- No descriptor of a chain that ends has the length 0. -/
theorem Chain.bLength_ne_zero {start : Nat} {places : List Nat}
    (chain : Chain descBuf start places) {place : Nat} (isPlace : place ∈ places) :
    descBuf.bLength place ≠ 0 := by
  induction chain with
  | done _ => cases isPlace
  | @more here places inside rest ih =>
      rcases List.mem_cons.mp isPlace with rfl | later
      · intro isZero
        rw [isZero, Nat.add_zero] at rest
        have again := (Chain.more inside (by rwa [isZero, Nat.add_zero])).places_unique rest
        exact absurd (congrArg List.length again) (Nat.succ_ne_self _)
      · exact ih later

/-- Behind a place of the chain there is the next one. -/
theorem Chain.next_mem {start : Nat} {places : List Nat} (chain : Chain descBuf start places)
    {place : Nat} (isPlace : place ∈ places)
    (inside : place + descBuf.bLength place < descBuf.totalLength) :
    place + descBuf.bLength place ∈ places := by
  induction chain with
  | done _ => cases isPlace
  | more _ rest ih =>
      rcases List.mem_cons.mp isPlace with rfl | later
      · cases rest with
        | done past => exact absurd inside (Nat.not_lt_of_le past)
        | more _ _ => exact List.mem_cons_of_mem _ List.mem_cons_self
      · exact List.mem_cons_of_mem _ (ih later)

/-- What is reached inside the configuration is in the chain. -/
theorem Chain.mem_of_inChain {places : List Nat}
    (chain : Chain descBuf (descBuf.bLength 0) places) {place : Nat}
    (inChain : InChain descBuf place) (inside : place < descBuf.totalLength) : place ∈ places := by
  induction inChain with
  | first =>
      cases chain with
      | done past => exact absurd inside (Nat.not_lt_of_le past)
      | more _ _ => exact List.mem_cons_self
  | next _ insideBefore ih => exact chain.next_mem (ih insideBefore) inside

/-- Where no length is 0, the lengths lead to the end. -/
theorem exists_chain {start : Nat} (reached : InChain descBuf start)
    (nonzero : ∀ place, InChain descBuf place → place < descBuf.totalLength →
      descBuf.bLength place ≠ 0) :
    ∃ places, Chain descBuf start places ∧
      ∀ place ∈ places, InChain descBuf place ∧ place < descBuf.totalLength := by
  induction left : descBuf.totalLength - start using Nat.strongRecOn generalizing start with
  | ind bound ih =>
      by_cases inside : start < descBuf.totalLength
      · have longer := nonzero start reached inside
        rcases ih (descBuf.totalLength - (start + descBuf.bLength start)) (by omega)
          (.next reached inside) rfl with ⟨places, chain, all⟩
        exact ⟨start :: places, .more inside chain,
          List.forall_mem_cons.mpr ⟨⟨reached, inside⟩, all⟩⟩
      · exact ⟨[], .done (Nat.le_of_not_lt inside),
          fun _ isMember => absurd isMember List.not_mem_nil⟩

/-! ## The whole configuration -/

/-- All that is read of a descriptor inside the configuration lies in it, unless the descriptor
is a single byte at the end or has no length. -/
theorem readsAt_lt_iff {place : Nat} (inside : place < descBuf.totalLength)
    (nonzero : descBuf.bLength place ≠ 0) :
    (∀ other ∈ descBuf.readsAt place, other < descBuf.totalLength) ↔
      (descBuf.bLength place = 1 → place + 1 ≠ descBuf.totalLength) := by
  rw [DescBuf.readsAt]
  by_cases isEndpoint : descBuf.IsEndpoint place
  · rcases isEndpoint with ⟨within, isType, isLong⟩
    have long : 7 ≤ descBuf.bLength place := isLong
    rw [if_pos ⟨within, isType, isLong⟩]
    simp only [List.forall_mem_cons, List.not_mem_nil, false_implies, implies_true, and_true]
    omega
  · rw [if_neg isEndpoint]
    by_cases within : place + descBuf.bLength place ≤ descBuf.totalLength
    · rw [if_pos within]
      simp only [List.forall_mem_cons, List.not_mem_nil, false_implies, implies_true, and_true]
      omega
    · rw [if_neg within]
      simp only [List.forall_mem_cons, List.not_mem_nil, false_implies, implies_true, and_true]
      omega

/-- The header has been read. -/
def ParseState.start (descBuf : DescBuf) (tables : EpTypeTables) : ParseState :=
  ⟨descBuf.bLength 0, 0, tables, [7, 1, 3, 2, 0]⟩

/-- What is returned when the loop has ended. -/
def Parsed.ofState (descBuf : DescBuf) (state : ParseState) : Parsed where
  endpointCount := state.maxEpnum + 1
  pwr := if (descBuf 7).toNat.testBit 6 then .self else .bus
  tables := state.tables
  reads := state.reads

theorem cfgDescParse_eq_ok_iff {tables : EpTypeTables} {rounds : Nat} {parsed : Parsed}
    (isLong : configurationSize ≤ descBuf.bLength 0)
    (isConfiguration : descBuf 1 = tusbDescConfiguration) :
    cfgDescParse descBuf tables rounds = .ok parsed ↔
      ∃ places, Chain descBuf (descBuf.bLength 0) places ∧ places.length < rounds ∧
        (∀ place ∈ places, descBuf.NumberFits place) ∧
        .ofState descBuf (places.foldl (ParseState.visit descBuf) (.start descBuf tables)) =
          parsed := by
  have loop := fun final =>
    @parseDescriptors_eq_ok_iff descBuf (.start descBuf tables) rounds final
  rw [cfgDescParse, if_pos ⟨isLong, isConfiguration⟩]
  change (match parseDescriptors descBuf rounds (.start descBuf tables) with
    | .error failure => .error failure
    | .ok state => .ok (.ofState descBuf state)) = Except.ok parsed ↔ _
  cases returned : parseDescriptors descBuf rounds (.start descBuf tables) with
  | error failure =>
      constructor
      · intro failed
        cases failed
      · rintro ⟨places, chain, short, fits, _⟩
        have executed := (loop _).mpr ⟨places, chain, short, fits, rfl⟩
        rw [returned] at executed
        cases executed
  | ok final =>
      rcases (loop final).mp returned with ⟨places, chain, short, fits, folded⟩
      constructor
      · intro executed
        cases executed
        exact ⟨places, chain, short, fits, congrArg (Parsed.ofState descBuf) folded⟩
      · rintro ⟨others, otherChain, _, _, same⟩
        obtain rfl : places = others := chain.places_unique otherChain
        rw [folded] at same
        exact congrArg Except.ok same

/-- The parser returns, has read nothing from the end of the configuration on and has found
what its descriptors say, just when the configuration is sound. -/
theorem cfgDescParse_iff (descBuf : DescBuf) (tables : EpTypeTables)
    (isLong : configurationSize ≤ descBuf.bLength 0)
    (isConfiguration : descBuf 1 = tusbDescConfiguration) :
    (∃ rounds parsed places, cfgDescParse descBuf tables rounds = .ok parsed ∧
      parsed.Describes descBuf tables places) ↔ descBuf.Sound := by
  constructor
  · rintro ⟨rounds, parsed, places, executed, describes⟩
    rcases (cfgDescParse_eq_ok_iff isLong isConfiguration).mp executed with
      ⟨visited, chain, _, fits, rfl⟩
    have reads : ∀ place, (place ∈ [7, 1, 3, 2, 0] ∨
        ∃ other ∈ visited, place ∈ descBuf.readsAt other) → place < descBuf.totalLength :=
      fun place isRead => describes.reads place ((foldl_visit_reads _ _ _).mpr isRead)
    constructor
    · exact reads 7 (.inl List.mem_cons_self)
    · intro place inChain inside
      exact chain.bLength_ne_zero (chain.mem_of_inChain inChain inside)
    · intro place inChain inside
      have isPlace := chain.mem_of_inChain inChain inside
      refine (readsAt_lt_iff inside (chain.bLength_ne_zero isPlace)).mp fun other isRead => ?_
      exact reads other (.inr ⟨place, isPlace, isRead⟩)
    · intro place inChain inside
      exact fits place (chain.mem_of_inChain inChain inside)
  · intro sound
    rcases exists_chain .first sound.nonzero with ⟨places, chain, all⟩
    have fits : ∀ place ∈ places, descBuf.NumberFits place :=
      fun place isPlace => sound.number place (all place isPlace).1 (all place isPlace).2
    refine ⟨places.length + 1, _, places, (cfgDescParse_eq_ok_iff isLong isConfiguration).mpr
      ⟨places, chain, Nat.lt_succ_self _, fits, rfl⟩, chain, ?_, ?_, ?_⟩
    · intro place isRead
      rcases (foldl_visit_reads _ _ _).mp isRead with ofHeader | ⟨other, isPlace, isRead⟩
      · have least := sound.header
        simp only [ParseState.start, List.mem_cons, List.not_mem_nil, or_false] at ofHeader
        omega
      · rcases all other isPlace with ⟨inChain, inside⟩
        exact (readsAt_lt_iff inside (sound.nonzero other inChain inside)).mpr
          (sound.type other inChain inside) place isRead
    · intro dir epnum
      exact foldl_visit_tables places _ dir epnum
    · exact congrArg (· + 1) ((foldl_visit_maxEpnum places _).trans (Nat.zero_max _))

/-- A configuration with the bulk endpoint `0x81`. -/
def oneEndpoint : DescBuf := fun place =>
  [9, 2, 16, 0, 1, 1, 0, 0x80, 50, 7, 5, 0x81, 2, 64, 0, 0].getD place 0

theorem oneEndpoint_parse_iff :
    (∃ rounds parsed places, cfgDescParse oneEndpoint dcdConnectTables rounds = .ok parsed ∧
      parsed.Describes oneEndpoint dcdConnectTables places) ↔ oneEndpoint.Sound :=
  cfgDescParse_iff oneEndpoint dcdConnectTables (by decide) (by decide)

/-- A configuration of 10 bytes whose last byte is a length of 0. -/
def lengthZero : DescBuf := fun place =>
  [9, 2, 10, 0, 0, 1, 0, 0x80, 50, 0].getD place 0

/-- A configuration of 10 bytes whose last byte is a length of 1. -/
def lengthOne : DescBuf := fun place =>
  [9, 2, 10, 0, 0, 1, 0, 0x80, 50, 1].getD place 0

/-- On the one the parser does not return, and of the other one it reads the byte behind. -/
theorem lengthZero_not_parsed :
    (¬ ∃ rounds parsed, cfgDescParse lengthZero dcdConnectTables rounds = .ok parsed) ∧
    ¬ ∃ rounds parsed places, cfgDescParse lengthOne dcdConnectTables rounds = .ok parsed ∧
      parsed.Describes lengthOne dcdConnectTables places := by
  constructor
  · rintro ⟨rounds, parsed, executed⟩
    rcases (cfgDescParse_eq_ok_iff (by decide) (by decide)).mp executed with ⟨places, chain, _⟩
    have isPlace := chain.mem_of_inChain .first (by decide)
    exact chain.bLength_ne_zero isPlace rfl
  · rintro ⟨rounds, parsed, places, executed, describes⟩
    rcases (cfgDescParse_eq_ok_iff (by decide) (by decide)).mp executed with
      ⟨visited, chain, _, _, rfl⟩
    have isPlace := chain.mem_of_inChain .first (by decide)
    have isRead := describes.reads 10 ((foldl_visit_reads _ _ _).mpr
      (.inr ⟨lengthOne.bLength 0, isPlace, by decide⟩))
    exact absurd isRead (by decide)

end FwkRtos.Usb

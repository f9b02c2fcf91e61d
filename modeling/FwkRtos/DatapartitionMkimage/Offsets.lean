import FwkRtos.DatapartitionMkimage.Arguments
import Mathlib.Data.List.TakeWhile

/-!
# The offsets of the inputs

An accepted command line names its inputs behind `-i`, each with a number of blocks, and what
is piped into the tool has the number behind the last `-s`.  Their offsets are the products
with the block size, taken modulo `2 ^ 32`, whatever the numbers are.
-/

namespace FwkRtos.DatapartitionMkimage

/-! ## What the arguments say -/

/-- The number that an argument begins with, in one of the two notations. -/
def numberOf (text : Arg) : Option Int :=
  (scanHex text).or (scanDecimal text)

/-- The value behind the last argument that has one of the names. -/
def lastText (names : List Arg) (default : Arg) : List Arg → Arg
  | [] => default
  | arg :: rest => lastText names (if arg ∈ names then rest.head?.getD default else default) rest

/-- The block number of what is piped. -/
def seekText (args : List Arg) : Arg :=
  lastText seekArg ['0'] args

def blockSizeText (args : List Arg) : Arg :=
  lastText blockSizeArg ['5', '1', '2'] args

/-- A parsed number as it is kept in 32 bits. -/
def toUInt32 (text : Arg) : UInt32 :=
  UInt32.ofInt (((parseNumber text).map Int64.toInt).getD 0)

/-- The values behind `-i`. -/
def inputValues : List Arg → List Arg
  | [] => []
  | arg :: rest => if arg ∈ inputFileArg then argValues rest else inputValues rest

/-- The inputs that the arguments name, each with the text of its block number. -/
def inputsOf (inFilePiped : Bool) (args : List Arg) : List (String × Arg) :=
  (inputValues args).filterMap (fun value =>
    (splitAtColon value).map fun parts => (String.ofList parts.1, parts.2)) ++
  if inFilePiped then [(stdinFilename, seekText args)] else []

namespace Outcome

/-- The arguments are accepted, and neither the help nor the version is asked for. -/
structure Accepted (outcome : Outcome) : Prop where
  exitCode : outcome.exitCode = .none
  noHelp : outcome.settings.showHelp = false
  noVersion : outcome.settings.showVersion = false

/-- Every input is entered in its place, with its block number times the block size. -/
def OffsetsExact (outcome : Outcome) (inputs : List (String × Arg)) : Prop :=
  List.Forall₂ (fun entry input => entry.filename = input.1 ∧
    ∃ number, numberOf input.2 = some number ∧
      (entry.offset.toNat : Int) = number * outcome.settings.blockSize.toNat)
    (outcome.settings.inputFiles.getD []) inputs

end Outcome

/-- No offset is negative or too large for 32 bits. -/
def OffsetsFit (inFilePiped : Bool) (args : List Arg) : Prop :=
  ∀ input ∈ inputsOf inFilePiped args, ∀ number, numberOf input.2 = some number →
    0 ≤ number * ((toUInt32 (blockSizeText args)).toNat : Int) ∧
      number * ((toUInt32 (blockSizeText args)).toNat : Int) < 2 ^ 32

/-! ## Numbers -/

theorem numberOf_isSome_iff (text : Arg) :
    (numberOf text).isSome = (parseNumber text).isSome := by
  rw [numberOf, parseNumber]
  cases scanHex text with
  | some number => rfl
  | none => rw [Option.none_or, Option.isSome_map]

/-- Numbers of 32 bits are parsed as they are. -/
theorem parseNumber_of_numberOf {text : Arg} {number : Int} (isNumber : numberOf text = some number)
    (least : 0 ≤ number) (most : number < 2 ^ 32) :
    parseNumber text = some (Int64.ofInt number) := by
  rw [numberOf] at isNumber
  rw [parseNumber]
  cases hex : scanHex text with
  | some found =>
      rw [hex] at isNumber
      obtain rfl : found = number := Option.some.inj isNumber
      have small : found.natAbs < 2 ^ 64 := by omega
      change some (storeHex found) = _
      rw [storeHex, if_pos small]
  | none =>
      rw [hex, Option.none_or] at isNumber
      have upper : min number (2 ^ 63 - 1) = number := Int.min_eq_left (by omega)
      have lower : max (-2 ^ 63) number = number := Int.max_eq_right (by omega)
      change (scanDecimal text).map storeDecimal = _
      rw [isNumber, Option.map_some, storeDecimal, upper, lower]

theorem toInt_ofInt {number : Int} (least : 0 ≤ number) (most : number < 2 ^ 32) :
    (Int64.ofInt number).toInt = number :=
  Int64.toInt_ofInt_of_le (by omega) (by omega)

/-! ## One argument -/

/-- The texts of the numbers that have been set. -/
structure Settings.Texts (settings : Settings) (seek size : Arg) : Prop where
  parsed : (parseNumber seek).isSome = true
  seekBlocks : settings.stdinSeekBlocks = toUInt32 seek
  blockSize : settings.blockSize = toUInt32 size

/-- The text of a number behind one argument. -/
def nextText (names : List Arg) (text arg : Arg) (rest : List Arg) : Arg :=
  if arg ∈ names then rest.head?.getD text else text

/-- Values have none of the names. -/
theorem lastText_drop {names : List Arg} (dashed : ∀ name ∈ names, isValue name = false)
    {consumed : Nat} {rest : List Arg} (values : ∀ arg ∈ rest.take consumed, isValue arg = true)
    (text : Arg) : lastText names text (rest.drop consumed) = lastText names text rest := by
  induction rest generalizing consumed with
  | nil => rw [List.drop_nil]
  | cons arg rest ih =>
      cases consumed with
      | zero => rfl
      | succ consumed =>
          have isNoName : arg ∉ names := by
            intro isName
            have undashed := values arg List.mem_cons_self
            rw [dashed arg isName] at undashed
            cases undashed
          rw [List.drop_succ_cons, lastText, if_neg isNoName]
          exact ih fun other taken => values other (List.mem_cons_of_mem _ taken)

theorem inputValues_drop {consumed : Nat} {rest : List Arg}
    (values : ∀ arg ∈ rest.take consumed, isValue arg = true) :
    inputValues (rest.drop consumed) = inputValues rest := by
  induction rest generalizing consumed with
  | nil => rw [List.drop_nil]
  | cons arg rest ih =>
      cases consumed with
      | zero => rfl
      | succ consumed =>
          have isNoName : arg ∉ inputFileArg := by
            intro isName
            have dashed : ∀ name ∈ inputFileArg, isValue name = false := by decide
            have undashed := values arg List.mem_cons_self
            rw [dashed arg isName] at undashed
            cases undashed
          rw [List.drop_succ_cons, inputValues, if_neg isNoName]
          exact ih fun other taken => values other (List.mem_cons_of_mem _ taken)

/-- What a round has done that goes on. -/
structure Goes (settings : Settings) (arg : Arg) (rest : List Arg) (consumed : Nat)
    (target : Settings) : Prop where
  values : ∀ value ∈ rest.take consumed, isValue value = true
  texts : ∀ seek size, settings.Texts seek size →
    target.Texts (nextText seekArg seek arg rest) (nextText blockSizeArg size arg rest)
  /-- The block size is not changed once the inputs are entered. -/
  fixed : settings.inputFiles.isSome = true → target.blockSize = settings.blockSize
  inputs : if arg ∈ inputFileArg then
      settings.inputFiles = none ∧ target.blockSize = settings.blockSize ∧
        ∃ entries, parseEntries settings.blockSize (argValues rest) = .ok entries ∧
          target.inputFiles = some entries
    else target.inputFiles = settings.inputFiles

/-- An argument that neither is a number to be kept nor names inputs. -/
theorem Goes.of_same {settings target : Settings} {arg : Arg} {rest : List Arg} {consumed : Nat}
    (values : ∀ value ∈ rest.take consumed, isValue value = true)
    (other : arg ∉ seekArg ∧ arg ∉ blockSizeArg ∧ arg ∉ inputFileArg)
    (seekBlocks : target.stdinSeekBlocks = settings.stdinSeekBlocks)
    (blockSize : target.blockSize = settings.blockSize)
    (inputFiles : target.inputFiles = settings.inputFiles) :
    Goes settings arg rest consumed target := by
  refine ⟨values, fun seek size texts => ?_, fun _ => blockSize, ?_⟩
  · rw [nextText, nextText, if_neg other.1, if_neg other.2.1]
    exact ⟨texts.parsed, seekBlocks.trans texts.seekBlocks, blockSize.trans texts.blockSize⟩
  · rw [if_neg other.2.2]
    exact inputFiles

/-- An argument with a value: the value is consumed. -/
theorem nextArgValue_eq_some {rest : List Arg} {value : Arg}
    (next : nextArgValue rest = some value) :
    rest.head? = some value ∧ ∀ arg ∈ rest.take 1, isValue arg = true := by
  rcases Option.filter_eq_some_iff.mp next with ⟨first, isOne⟩
  refine ⟨first, fun arg taken => ?_⟩
  cases rest with
  | nil => cases first
  | cons other rest =>
      obtain rfl : other = value := Option.some.inj first
      rw [List.take_succ_cons, List.take_zero, List.mem_singleton] at taken
      rw [taken]
      exact isOne

theorem numberRound_next {settings target : Settings} {name rangeName : Arg} {least most : Int}
    {set : (tmp : Int64) → least ≤ tmp.toInt ∧ tmp.toInt ≤ most → Settings} {arg : Arg}
    {rest : List Arg} {consumed : Nat}
    (round : numberRound settings name rangeName least most set arg rest =
      .next consumed target) :
    consumed = 1 ∧ ∃ value, nextArgValue rest = some value ∧
      ∃ tmp, parseNumber value = some tmp ∧ ∃ inRange, target = set tmp inRange := by
  rw [numberRound] at round
  cases next : nextArgValue rest with
  | none =>
      rw [next] at round
      cases round
  | some value =>
      rw [next] at round
      cases parsed : parseNumber value with
      | none =>
          simp only [parsed] at round
          cases round
      | some tmp =>
          simp only [parsed] at round
          by_cases inRange : least ≤ tmp.toInt ∧ tmp.toInt ≤ most
          · rw [dif_pos inRange] at round
            cases round
            exact ⟨rfl, value, rfl, tmp, parsed, inRange, rfl⟩
          · rw [dif_neg inRange] at round
            cases round

/-- What has been parsed is what is kept. -/
theorem toUInt32_of_parseNumber {text : Arg} {tmp : Int64} (parsed : parseNumber text = some tmp) :
    toUInt32 text = UInt32.ofInt tmp.toInt := by
  rw [toUInt32, parsed]
  rfl

theorem seekRound_next {settings target : Settings} {arg : Arg} {rest : List Arg} {consumed : Nat}
    (isSeek : arg ∈ seekArg) (round : seekRound settings arg rest = .next consumed target) :
    Goes settings arg rest consumed target := by
  have other : ∀ arg ∈ seekArg, arg ∉ blockSizeArg ∧ arg ∉ inputFileArg := by decide
  rcases other arg isSeek with ⟨noSize, noInputs⟩
  rcases numberRound_next round with ⟨rfl, value, next, tmp, parsed, _, rfl⟩
  rcases nextArgValue_eq_some next with ⟨first, values⟩
  refine ⟨values, fun seek size texts => ?_, fun _ => rfl, ?_⟩
  · rw [nextText, nextText, if_pos isSeek, if_neg noSize, first]
    refine ⟨?_, (toUInt32_of_parseNumber parsed).symm, texts.blockSize⟩
    rw [Option.getD_some, parsed]
    rfl
  · rw [if_neg noInputs]

theorem blockSizeRound_next {settings target : Settings} {arg : Arg} {rest : List Arg}
    {consumed : Nat} (isSize : arg ∈ blockSizeArg)
    (round : blockSizeRound settings arg rest = .next consumed target) :
    Goes settings arg rest consumed target := by
  have other : ∀ arg ∈ blockSizeArg, arg ∉ seekArg ∧ arg ∉ inputFileArg := by decide
  rcases other arg isSize with ⟨noSeek, noInputs⟩
  rw [blockSizeRound] at round
  by_cases entered : settings.inputFiles.isSome = true
  · rw [if_pos entered] at round
    cases round
  · rw [if_neg entered] at round
    rcases numberRound_next round with ⟨rfl, value, next, tmp, parsed, _, rfl⟩
    rcases nextArgValue_eq_some next with ⟨first, values⟩
    refine ⟨values, fun seek size texts => ?_, fun isEntered => absurd isEntered entered, ?_⟩
    · rw [nextText, nextText, if_neg noSeek, if_pos isSize, first]
      exact ⟨texts.parsed, texts.seekBlocks, (toUInt32_of_parseNumber parsed).symm⟩
    · rw [if_neg noInputs]

theorem outFileRound_next {settings target : Settings} {arg : Arg} {rest : List Arg}
    {consumed : Nat} (isOutput : arg ∈ outputFileArg)
    (round : outFileRound settings arg rest = .next consumed target) :
    Goes settings arg rest consumed target := by
  have other : ∀ arg ∈ outputFileArg,
      arg ∉ seekArg ∧ arg ∉ blockSizeArg ∧ arg ∉ inputFileArg := by decide
  rw [outFileRound] at round
  cases next : nextArgValue rest with
  | none =>
      rw [next] at round
      cases round
  | some value =>
      rw [next] at round
      cases round
      exact .of_same (nextArgValue_eq_some next).2 (other arg isOutput) rfl rfl rfl

theorem mem_argValues {rest : List Arg} {value : Arg} (isOne : value ∈ argValues rest) :
    isValue value = true :=
  List.mem_takeWhile_imp isOne

theorem take_argValues (rest : List Arg) : rest.take (argValues rest).length = argValues rest := by
  have split : argValues rest ++ rest.dropWhile isValue = rest := List.takeWhile_append_dropWhile
  conv_lhs => rw [← split]
  rw [List.take_left']
  rw [split]

theorem inFileRound_next {inFilePiped : Bool} {allocates : Nat → Bool}
    {settings target : Settings} {arg : Arg} {rest : List Arg} {consumed : Nat}
    (isInput : arg ∈ inputFileArg)
    (round : inFileRound inFilePiped allocates settings arg rest = .next consumed target) :
    Goes settings arg rest consumed target := by
  have other : ∀ arg ∈ inputFileArg, arg ∉ seekArg ∧ arg ∉ blockSizeArg := by decide
  rcases other arg isInput with ⟨noSeek, noSize⟩
  rw [inFileRound] at round
  by_cases entered : settings.inputFiles.isSome = true
  · rw [if_pos entered] at round
    cases round
  rw [if_neg entered] at round
  by_cases nothing : (argValues rest).length + (if inFilePiped then 1 else 0) = 0
  · rw [if_pos nothing] at round
    cases round
  rw [if_neg nothing] at round
  by_cases allocated :
      allocates (((argValues rest).length + if inFilePiped then 1 else 0) * fileEntrySize) = true
  · rw [if_pos allocated] at round
    cases parsed : parseEntries settings.blockSize (argValues rest) with
    | error text =>
        simp only [parsed] at round
        cases round
    | ok entries =>
        simp only [parsed] at round
        cases round
        refine ⟨fun value taken => ?_, fun seek size texts => ?_, fun _ => rfl, ?_⟩
        · rw [take_argValues] at taken
          exact mem_argValues taken
        · rw [nextText, nextText, if_neg noSeek, if_neg noSize]
          exact ⟨texts.parsed, texts.seekBlocks, texts.blockSize⟩
        · rw [if_pos isInput]
          exact ⟨Option.not_isSome_iff_eq_none.mp entered, rfl, entries, parsed, rfl⟩
  · rw [if_neg allocated] at round
    cases round

/-- One argument and its values. -/
theorem processArg_next {inFilePiped : Bool} {allocates : Nat → Bool}
    {settings target : Settings} {arg : Arg} {rest : List Arg} {consumed : Nat}
    (round : processArg inFilePiped allocates settings arg rest = .next consumed target) :
    Goes settings arg rest consumed target := by
  have none : ∀ value ∈ rest.take 0, isValue value = true := by
    intro value taken
    cases taken
  rw [processArg] at round
  by_cases help : arg ∈ helpArg
  · rw [if_pos help] at round
    cases round
  rw [if_neg help] at round
  by_cases version : arg ∈ versionArg
  · rw [if_pos version] at round
    cases round
  rw [if_neg version] at round
  by_cases verbose : arg ∈ verboseArg
  · rw [if_pos verbose] at round
    cases round
    have other : ∀ arg ∈ verboseArg, arg ∉ seekArg ∧ arg ∉ blockSizeArg ∧ arg ∉ inputFileArg := by
      decide
    exact .of_same none (other arg verbose) rfl rfl rfl
  rw [if_neg verbose] at round
  by_cases truncate : arg ∈ truncateArg
  · rw [if_pos truncate] at round
    cases round
    have other : ∀ arg ∈ truncateArg, arg ∉ seekArg ∧ arg ∉ blockSizeArg ∧ arg ∉ inputFileArg := by
      decide
    exact .of_same none (other arg truncate) rfl rfl rfl
  rw [if_neg truncate] at round
  by_cases inFile : arg ∈ inputFileArg
  · rw [if_pos inFile] at round
    exact inFileRound_next inFile round
  rw [if_neg inFile] at round
  by_cases outFile : arg ∈ outputFileArg
  · rw [if_pos outFile] at round
    exact outFileRound_next outFile round
  rw [if_neg outFile] at round
  by_cases seek : arg ∈ seekArg
  · rw [if_pos seek] at round
    exact seekRound_next seek round
  rw [if_neg seek] at round
  by_cases blockSize : arg ∈ blockSizeArg
  · rw [if_pos blockSize] at round
    exact blockSizeRound_next blockSize round
  rw [if_neg blockSize] at round
  by_cases fillByte : arg ∈ fillByteArg
  · rw [if_pos fillByte] at round
    rcases numberRound_next round with ⟨rfl, value, next, tmp, _, inRange, rfl⟩
    exact .of_same (nextArgValue_eq_some next).2 ⟨seek, blockSize, inFile⟩ rfl rfl rfl
  · rw [if_neg fillByte] at round
    cases round

/-! ## All arguments -/

/-- What an accepted outcome has, for the texts of the numbers that were set before the
arguments. -/
structure Outcome.Processed (outcome : Outcome) (inFilePiped : Bool) (settings : Settings)
    (seek size : Arg) (args : List Arg) : Prop where
  parsed : (parseNumber (lastText seekArg seek args)).isSome = true
  blockSize : outcome.settings.blockSize = toUInt32 (lastText blockSizeArg size args)
  fixed : settings.inputFiles.isSome = true → outcome.settings.blockSize = settings.blockSize
  inputs : ∃ entries,
    (match settings.inputFiles with
      | some entered => entries = entered
      | none => parseEntries outcome.settings.blockSize (inputValues args) = .ok entries) ∧
    outcome.settings.inputFiles.getD [] = entries ++
      if inFilePiped then
        [⟨stdinFilename, 0,
          toUInt32 (lastText seekArg seek args) * outcome.settings.blockSize⟩]
      else []

theorem checkPresent_settings (inFilePiped : Bool) (settings : Settings) :
    (checkPresent inFilePiped settings).settings = settings := by
  rw [checkPresent]
  by_cases present : ((inFilePiped || settings.inputFiles.isSome) &&
      settings.outputFilename.isSome) = true
  · rw [if_pos present]
  · rw [if_neg present]

/-- The end of the loop. -/
theorem finishArgs_processed {inFilePiped : Bool} {allocates : Nat → Bool} {settings : Settings}
    {seek size : Arg} (texts : settings.Texts seek size)
    (accepted : (finishArgs inFilePiped allocates settings).Accepted) :
    (finishArgs inFilePiped allocates settings).Processed inFilePiped settings seek size [] := by
  have entered : match settings.inputFiles with
      | some entered => settings.inputFiles.getD [] = entered
      | none => parseEntries settings.blockSize (inputValues []) =
          .ok (settings.inputFiles.getD []) := by
    cases settings.inputFiles with
    | some entered => rfl
    | none => rfl
  rw [finishArgs] at accepted ⊢
  by_cases piped : inFilePiped = true
  · rw [if_pos piped] at accepted ⊢
    by_cases allocated : settings.inputFiles.isSome = true ∨ allocates fileEntrySize = true
    · rw [if_pos allocated]
      refine ⟨texts.parsed, ?_, fun _ => ?_, settings.inputFiles.getD [], ?_, ?_⟩
      · rw [checkPresent_settings]
        exact texts.blockSize
      · rw [checkPresent_settings]
      · rw [checkPresent_settings]
        exact entered
      · rw [checkPresent_settings, if_pos piped, lastText, ← texts.seekBlocks]
        rfl
    · rw [if_neg allocated] at accepted
      cases accepted.exitCode
  · rw [if_neg piped] at accepted ⊢
    refine ⟨texts.parsed, ?_, fun _ => ?_, settings.inputFiles.getD [], ?_, ?_⟩
    · rw [checkPresent_settings]
      exact texts.blockSize
    · rw [checkPresent_settings]
    · rw [checkPresent_settings]
      exact entered
    · rw [checkPresent_settings, if_neg piped, List.append_nil]

/-- The round goes on or returns an error. -/
def Round.GoesOrFails : Round → Prop
  | .next _ _ => True
  | .stop outcome => outcome.exitCode ≠ .none

theorem numberRound_goesOrFails (settings : Settings) (name rangeName : Arg) (least most : Int)
    (set : (tmp : Int64) → least ≤ tmp.toInt ∧ tmp.toInt ≤ most → Settings) (arg : Arg)
    (rest : List Arg) :
    (numberRound settings name rangeName least most set arg rest).GoesOrFails := by
  rw [numberRound]
  cases nextArgValue rest with
  | none => exact ErrorCode.noConfusion
  | some value =>
      cases parsed : parseNumber value with
      | none =>
          simp only [parsed]
          exact ErrorCode.noConfusion
      | some tmp =>
          simp only [parsed]
          by_cases inRange : least ≤ tmp.toInt ∧ tmp.toInt ≤ most
          · rw [dif_pos inRange]
            trivial
          · rw [dif_neg inRange]
            exact ErrorCode.noConfusion

theorem inFileRound_goesOrFails (inFilePiped : Bool) (allocates : Nat → Bool)
    (settings : Settings) (arg : Arg) (rest : List Arg) :
    (inFileRound inFilePiped allocates settings arg rest).GoesOrFails := by
  rw [inFileRound]
  by_cases entered : settings.inputFiles.isSome = true
  · rw [if_pos entered]
    exact ErrorCode.noConfusion
  rw [if_neg entered]
  by_cases nothing : (argValues rest).length + (if inFilePiped then 1 else 0) = 0
  · rw [if_pos nothing]
    exact ErrorCode.noConfusion
  rw [if_neg nothing]
  by_cases allocated :
      allocates (((argValues rest).length + if inFilePiped then 1 else 0) * fileEntrySize) = true
  · rw [if_pos allocated]
    cases parseEntries settings.blockSize (argValues rest) with
    | error text => exact ErrorCode.noConfusion
    | ok entries => trivial
  · rw [if_neg allocated]
    exact ErrorCode.noConfusion

/-- A round that returns accepts nothing but the request for the help or the version. -/
theorem processArg_stop {inFilePiped : Bool} {allocates : Nat → Bool} {settings : Settings}
    {arg : Arg} {rest : List Arg} {outcome : Outcome}
    (round : processArg inFilePiped allocates settings arg rest = .stop outcome) :
    ¬ outcome.Accepted := by
  rintro ⟨exitCode, noHelp, noVersion⟩
  have failing : ∀ round : Round, round.GoesOrFails → round ≠ .stop outcome := by
    rintro round fails rfl
    exact fails exitCode
  rw [processArg] at round
  by_cases help : arg ∈ helpArg
  · rw [if_pos help] at round
    cases round
    cases noHelp
  rw [if_neg help] at round
  by_cases version : arg ∈ versionArg
  · rw [if_pos version] at round
    cases round
    cases noVersion
  rw [if_neg version] at round
  by_cases verbose : arg ∈ verboseArg
  · rw [if_pos verbose] at round
    cases round
  rw [if_neg verbose] at round
  by_cases truncate : arg ∈ truncateArg
  · rw [if_pos truncate] at round
    cases round
  rw [if_neg truncate] at round
  by_cases inFile : arg ∈ inputFileArg
  · rw [if_pos inFile] at round
    exact failing _ (inFileRound_goesOrFails inFilePiped allocates settings arg rest) round
  rw [if_neg inFile] at round
  by_cases outFile : arg ∈ outputFileArg
  · rw [if_pos outFile, outFileRound] at round
    cases next : nextArgValue rest with
    | none =>
        rw [next] at round
        cases round
        cases exitCode
    | some value =>
        rw [next] at round
        cases round
  rw [if_neg outFile] at round
  by_cases seek : arg ∈ seekArg
  · rw [if_pos seek] at round
    exact failing _ (numberRound_goesOrFails ..) round
  rw [if_neg seek] at round
  by_cases blockSize : arg ∈ blockSizeArg
  · rw [if_pos blockSize, blockSizeRound] at round
    by_cases entered : settings.inputFiles.isSome = true
    · rw [if_pos entered] at round
      cases round
      cases exitCode
    · rw [if_neg entered] at round
      exact failing _ (numberRound_goesOrFails ..) round
  rw [if_neg blockSize] at round
  by_cases fillByte : arg ∈ fillByteArg
  · rw [if_pos fillByte] at round
    exact failing _ (numberRound_goesOrFails ..) round
  · rw [if_neg fillByte] at round
    cases round
    cases exitCode

/-- From behind an argument and its values back to the argument. -/
theorem Goes.processed {inFilePiped : Bool} {settings target : Settings} {arg : Arg}
    {rest : List Arg} {consumed : Nat} {outcome : Outcome} {seek size : Arg}
    (goes : Goes settings arg rest consumed target)
    (later : outcome.Processed inFilePiped target (nextText seekArg seek arg rest)
      (nextText blockSizeArg size arg rest) (rest.drop consumed)) :
    outcome.Processed inFilePiped settings seek size (arg :: rest) := by
  have seekDashed : ∀ name ∈ seekArg, isValue name = false := by decide
  have sizeDashed : ∀ name ∈ blockSizeArg, isValue name = false := by decide
  rcases later with ⟨parsed, blockSize, fixed, entries, listed, all⟩
  rw [lastText_drop seekDashed goes.values] at parsed all
  rw [lastText_drop sizeDashed goes.values] at blockSize
  have inputs := goes.inputs
  refine ⟨parsed, blockSize, fun entered => ?_, entries, ?_, all⟩
  · by_cases isInput : arg ∈ inputFileArg
    · rw [if_pos isInput] at inputs
      rw [inputs.1] at entered
      cases entered
    · rw [if_neg isInput] at inputs
      exact (fixed (inputs ▸ entered)).trans (goes.fixed entered)
  · by_cases isInput : arg ∈ inputFileArg
    · rw [if_pos isInput] at inputs
      rcases inputs with ⟨nothing, same, given, parsedEntries, entered⟩
      rw [entered] at listed fixed
      rw [nothing, inputValues, if_pos isInput, fixed rfl, same, listed]
      exact parsedEntries
    · rw [if_neg isInput] at inputs
      rw [inputs] at listed
      cases entered : settings.inputFiles with
      | some given =>
          rw [entered] at listed
          exact listed
      | none =>
          rw [entered, inputValues_drop goes.values] at listed
          rw [inputValues, if_neg isInput]
          exact listed

theorem processFrom_processed {inFilePiped : Bool} {allocates : Nat → Bool} {skipped : Nat}
    {args : List Arg} {settings : Settings} {seek size : Arg} (texts : settings.Texts seek size)
    (accepted : (processFrom inFilePiped allocates skipped args settings).Accepted) :
    (processFrom inFilePiped allocates skipped args settings).Processed inFilePiped settings
      seek size (args.drop skipped) := by
  induction args generalizing skipped settings seek size with
  | nil =>
      rw [processFrom] at accepted ⊢
      rw [List.drop_nil]
      exact finishArgs_processed texts accepted
  | cons arg rest ih =>
      cases skipped with
      | succ skipped =>
          rw [processFrom] at accepted ⊢
          exact ih texts accepted
      | zero =>
          rw [processFrom] at accepted ⊢
          cases round : processArg inFilePiped allocates settings arg rest with
          | stop outcome =>
              rw [round] at accepted
              exact absurd accepted (processArg_stop round)
          | next consumed target =>
              rw [round] at accepted
              have goes := processArg_next round
              have later := ih (goes.texts seek size texts) accepted
              exact goes.processed later

/-! ## The offsets -/

/-- A parsed number has an exact value. -/
theorem exists_numberOf {text : Arg} (parsed : (parseNumber text).isSome = true) :
    ∃ number, numberOf text = some number := by
  rw [← numberOf_isSome_iff] at parsed
  exact Option.isSome_iff_exists.mp parsed

/-- One offset, computed from any integer that is the number as long as it has 32 bits. -/
theorem offset_exact_iff {text : Arg} {blockSize : Nat} (positive : 0 < blockSize)
    (parsed : (parseNumber text).isSome = true) (offset : UInt32)
    (computed : ∀ number, numberOf text = some number → 0 ≤ number → number < 2 ^ 32 →
      (offset.toNat : Int) = number * blockSize % 2 ^ 32) :
    (∃ number, numberOf text = some number ∧ (offset.toNat : Int) = number * blockSize) ↔
      ∀ number, numberOf text = some number →
        0 ≤ number * (blockSize : Int) ∧ number * (blockSize : Int) < 2 ^ 32 := by
  constructor
  · rintro ⟨number, isNumber, exact⟩ other isOther
    obtain rfl : number = other := Option.some.inj (isNumber.symm.trans isOther)
    have small := offset.toNat_lt
    rw [← exact]
    omega
  · intro fits
    rcases exists_numberOf parsed with ⟨number, isNumber⟩
    rcases fits number isNumber with ⟨least, most⟩
    have positiveInt : 0 < (blockSize : Int) := Int.natCast_pos.mpr positive
    have notNegative : 0 ≤ number := Int.nonneg_of_mul_nonneg_left least positiveInt
    have small : number < 2 ^ 32 := by
      have grows : number * 1 ≤ number * (blockSize : Int) :=
        Int.mul_le_mul_of_nonneg_left positiveInt notNegative
      omega
    refine ⟨number, isNumber, ?_⟩
    rw [computed number isNumber notNegative small, Int.emod_eq_of_lt least most]

theorem toNat_ofInt_eq_emod (number : Int) :
    ((UInt32.ofInt number).toNat : Int) = number % 2 ^ 32 := by
  have least := Int.emod_nonneg number (show (2 ^ 32 : Int) ≠ 0 by decide)
  have most := Int.emod_lt_of_pos number (show (0 : Int) < 2 ^ 32 by decide)
  rw [← toNat_ofInt least most, UInt32.ofInt, UInt32.ofInt, Int.emod_emod]

/-- A number that has been kept in 32 bits, times the block size. -/
theorem piped_offset {text : Arg} {blockSize : UInt32} {number : Int}
    (isNumber : numberOf text = some number) (least : 0 ≤ number) (most : number < 2 ^ 32) :
    ((toUInt32 text * blockSize).toNat : Int) = number * blockSize.toNat % 2 ^ 32 := by
  have kept : ((toUInt32 text).toNat : Int) = number := by
    rw [toUInt32_of_parseNumber (parseNumber_of_numberOf isNumber least most),
      toInt_ofInt least most]
    exact toNat_ofInt least most
  rw [UInt32.toNat_mul, Int.natCast_emod, Int.natCast_mul, kept]
  rfl

/-- A `long` times the block size, put into 32 bits. -/
theorem named_offset {blocks : Int64} {blockSize : UInt32} {number : Int}
    (isNumber : blocks = Int64.ofInt number) (least : 0 ≤ number) (most : number < 2 ^ 32) :
    ((UInt32.ofInt (blocks * Int64.ofNat blockSize.toNat).toInt).toNat : Int) =
      number * blockSize.toNat % 2 ^ 32 := by
  have size := blockSize.toNat_lt
  have divides : (2 ^ 32 : Int) ∣ 2 ^ 64 := by decide
  rw [toNat_ofInt_eq_emod, Int64.toInt_mul, isNumber, toInt_ofInt least most,
    Int64.toInt_ofNat_of_lt (by omega), ← Int.emod_emod_of_dvd _ divides]
  have bound : (2 ^ 64 : Int) = ((2 ^ 64 : Nat) : Int) := rfl
  rw [bound, Int.bmod_emod, ← bound, Int.emod_emod_of_dvd _ divides]

/-- How an entry comes from the name and the number of an input. -/
def Enters (blockSize : UInt32) (entry : FileEntry) (input : String × Arg) : Prop :=
  entry.filename = input.1 ∧ (parseNumber input.2).isSome = true ∧
    ∀ number, numberOf input.2 = some number → 0 ≤ number → number < 2 ^ 32 →
      (entry.offset.toNat : Int) = number * blockSize.toNat % 2 ^ 32

theorem parseEntry_enters {blockSize : UInt32} {value : Arg} {entry : FileEntry}
    (parsed : parseEntry blockSize value = .ok entry) :
    ∃ parts, splitAtColon value = some parts ∧
      Enters blockSize entry (String.ofList parts.1, parts.2) := by
  rw [parseEntry] at parsed
  cases split : splitAtColon value with
  | none =>
      rw [split] at parsed
      cases parsed
  | some parts =>
      rw [split] at parsed
      cases isNumber : parseNumber parts.2 with
      | none =>
          simp only [isNumber] at parsed
          cases parsed
      | some blocks =>
          simp only [isNumber] at parsed
          cases parsed
          refine ⟨parts, rfl, rfl, ?_, fun number exact least most => ?_⟩
          · rw [isNumber]
            rfl
          · have same := parseNumber_of_numberOf exact least most
            rw [isNumber] at same
            exact named_offset (Option.some.inj same) least most

theorem parseEntries_enters {blockSize : UInt32} {values : List Arg} {entries : List FileEntry}
    (parsed : parseEntries blockSize values = .ok entries) :
    List.Forall₂ (Enters blockSize) entries (values.filterMap fun value =>
      (splitAtColon value).map fun parts => (String.ofList parts.1, parts.2)) := by
  induction values generalizing entries with
  | nil =>
      cases parsed
      exact .nil
  | cons value values ih =>
      rw [parseEntries] at parsed
      cases first : parseEntry blockSize value with
      | error text =>
          simp only [first] at parsed
          cases parsed
      | ok entry =>
          cases others : parseEntries blockSize values with
          | error text =>
              simp only [first, others] at parsed
              cases parsed
          | ok rest =>
              simp only [first, others] at parsed
              cases parsed
              rcases parseEntry_enters first with ⟨parts, split, enters⟩
              rw [List.filterMap_cons, split]
              exact .cons enters (ih others)

/-- All pairs of two lists are in a relation that is a condition on the second one of them. -/
theorem forall₂_iff_forall_mem {α β : Type} {base relation : α → β → Prop} {condition : β → Prop}
    (isCondition : ∀ a b, base a b → (relation a b ↔ condition b)) {first : List α}
    {second : List β} (paired : List.Forall₂ base first second) :
    List.Forall₂ relation first second ↔ ∀ b ∈ second, condition b := by
  induction paired with
  | nil =>
      refine ⟨fun _ b isMember => ?_, fun _ => .nil⟩
      cases isMember
  | cons pair _ ih => rw [List.forall₂_cons, List.forall_mem_cons, ih, isCondition _ _ pair]

/-- The offsets that accepted arguments lead to are exact just where they fit. -/
theorem offsets_exact_iff (inFilePiped : Bool) (allocates : Nat → Bool) (args : List Arg)
    (accepted : (processArgs inFilePiped allocates args).Accepted) :
    (processArgs inFilePiped allocates args).OffsetsExact (inputsOf inFilePiped args) ↔
      OffsetsFit inFilePiped args := by
  have texts : Settings.initial.Texts ['0'] ['5', '1', '2'] := by
    refine ⟨rfl, ?_, ?_⟩ <;> decide
  have processed := processFrom_processed texts accepted
  rcases processed.inputs with ⟨entries, parsed, all⟩
  have paired : List.Forall₂ (Enters (processArgs inFilePiped allocates args).settings.blockSize)
      ((processArgs inFilePiped allocates args).settings.inputFiles.getD [])
      (inputsOf inFilePiped args) := by
    rw [processArgs, all]
    refine List.rel_append (parseEntries_enters parsed) ?_
    cases inFilePiped with
    | false => exact .nil
    | true =>
        refine .cons ⟨rfl, processed.parsed, fun number isNumber least most => ?_⟩ .nil
        exact piped_offset isNumber least most
  refine forall₂_iff_forall_mem (fun entry input enters => ?_) paired
  rcases enters with ⟨name, isParsed, computed⟩
  have blockSize := processed.blockSize
  rw [← processArgs] at blockSize
  have exact := offset_exact_iff (processArgs inFilePiped allocates args).settings.positive isParsed
    entry.offset computed
  rw [and_iff_right name, exact, blockSize]
  rfl

theorem Outcome.OffsetsExact.products {outcome : Outcome} {inputs : List (String × Arg)}
    (exact : outcome.OffsetsExact inputs) :
    (outcome.settings.inputFiles.getD []).map (fun entry => (entry.offset.toNat : Int)) =
      inputs.map fun input => (numberOf input.2).getD 0 * outcome.settings.blockSize.toNat := by
  rw [OffsetsExact] at exact
  generalize outcome.settings.inputFiles.getD [] = entries at exact ⊢
  induction exact with
  | nil => rfl
  | cons pair _ ih =>
      rcases pair with ⟨_, number, isNumber, product⟩
      rw [List.map_cons, List.map_cons, ih, isNumber, product]
      rfl

/-- Two files and what is piped: `-b 1024 -i a:2 b:0x10 -o c --seek 3`. -/
def twoNamedOnePiped : List Arg :=
  [['-', 'b'], ['1', '0', '2', '4'], ['-', 'i'], ['a', ':', '2'], ['b', ':', '0', 'x', '1', '0'],
    ['-', 'o'], ['c'], ['-', '-', 's', 'e', 'e', 'k'], ['3']]

theorem twoNamedOnePiped_exact_iff :
    (processArgs true (fun _ => true) twoNamedOnePiped).OffsetsExact
        (inputsOf true twoNamedOnePiped) ↔ OffsetsFit true twoNamedOnePiped :=
  offsets_exact_iff true (fun _ => true) twoNamedOnePiped
    ⟨by decide +kernel, by decide +kernel, by decide +kernel⟩

/-- A file one block before the beginning: `-i a:-1 -o b`. -/
def beforeBeginning : List Arg :=
  [['-', 'i'], ['a', ':', '-', '1'], ['-', 'o'], ['b']]

/-- What is piped, `2 ^ 32` bytes behind the beginning: `-s 8388608 -o b`. -/
def behind32Bits : List Arg :=
  [['-', 's'], ['8', '3', '8', '8', '6', '0', '8'], ['-', 'o'], ['b']]

/-- Both are accepted: the one offset becomes `2 ^ 32 - 512` and the other one 0. -/
theorem beforeBeginning_not_exact :
    ((processArgs false (fun _ => true) beforeBeginning).Accepted ∧
      ¬ (processArgs false (fun _ => true) beforeBeginning).OffsetsExact
        (inputsOf false beforeBeginning)) ∧
    (processArgs true (fun _ => true) behind32Bits).Accepted ∧
      ¬ (processArgs true (fun _ => true) behind32Bits).OffsetsExact
        (inputsOf true behind32Bits) := by
  constructor
  · refine ⟨⟨by decide +kernel, by decide +kernel, by decide +kernel⟩, fun exact => ?_⟩
    exact absurd exact.products (by decide +kernel)
  · refine ⟨⟨by decide +kernel, by decide +kernel, by decide +kernel⟩, fun exact => ?_⟩
    exact absurd exact.products (by decide +kernel)

end FwkRtos.DatapartitionMkimage

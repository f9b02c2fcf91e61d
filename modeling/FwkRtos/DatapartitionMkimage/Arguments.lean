import FwkRtos.DatapartitionMkimage.Image

/-!
# The arguments

The options in any order, each with its value behind it, and behind `-i` as many values as
come before the next argument with a dash.  Numbers are read by `sscanf` into a `long`, which
has 64 bits, and the offsets that are computed from them are kept in 32 bits.
-/

namespace FwkRtos.DatapartitionMkimage

/-- An argument by its characters. -/
abbrev Arg := List Char

instance lawfulBEqArg : LawfulBEq Arg := List.instLawfulBEq

/-! ## Numbers -/

def isSpace (c : Char) : Bool :=
  c.toNat = 32 || (9 ≤ c.toNat && c.toNat ≤ 13)

/-- The value of a digit, of which there are `base`. -/
def digitValue (base : Nat) (c : Char) : Option Nat :=
  let value :=
    if '0' ≤ c ∧ c ≤ '9' then c.toNat - 48
    else if 'A' ≤ c ∧ c ≤ 'F' then c.toNat - 55
    else if 'a' ≤ c ∧ c ≤ 'f' then c.toNat - 87
    else base
  if value < base then some value else none

/-- The digits at the beginning, of which there has to be one. -/
def scanDigits (base : Nat) (text : List Char) : Option Nat :=
  match (text.takeWhile fun c => (digitValue base c).isSome).filterMap (digitValue base) with
  | [] => none
  | digits => some (digits.foldl (fun value digit => base * value + digit) 0)

/-- The digits of a number; hexadecimal ones may have a prefix. -/
def scanUnsigned (base : Nat) : List Char → Option Nat
  | '0' :: 'x' :: text =>
      if base = 16 then scanDigits base text else scanDigits base ('0' :: 'x' :: text)
  | '0' :: 'X' :: text =>
      if base = 16 then scanDigits base text else scanDigits base ('0' :: 'X' :: text)
  | text => scanDigits base text

/-- A number with a sign, behind white space. -/
def scanSigned (base : Nat) (text : List Char) : Option Int :=
  match text.dropWhile isSpace with
  | '-' :: digits => (scanUnsigned base digits).map fun value => -(value : Int)
  | '+' :: digits => (scanUnsigned base digits).map fun value => (value : Int)
  | digits => (scanUnsigned base digits).map fun value => (value : Int)

/-- What the format `0x%lX` reads. -/
def scanHex : Arg → Option Int
  | '0' :: 'x' :: text => scanSigned 16 text
  | _ => none

/-- What the format `%ld` reads. -/
def scanDecimal (text : Arg) : Option Int :=
  scanSigned 10 text

theorem toNat_ofInt {number : Int} (least : 0 ≤ number) (most : number < 2 ^ 32) :
    ((UInt32.ofInt number).toNat : Int) = number := by
  rw [UInt32.ofInt, Int.emod_eq_of_lt least most, UInt32.toNat_ofNat_of_lt',
    Int.toNat_of_nonneg least]
  exact (Int.toNat_lt least).mpr most

theorem toNat_ofInt_pos {number : Int} (least : 1 ≤ number) (most : number ≤ 0xFFFFFFFF) :
    0 < (UInt32.ofInt number).toNat := by
  have exact := toNat_ofInt (Int.le_trans Int.one_nonneg least) (Int.lt_add_one_of_le most)
  omega

/-- A number as `%lX` stores it, by `strtoul`: the largest `unsigned long` if it is too large,
otherwise negated as an `unsigned long` if it is negative. -/
def storeHex (number : Int) : Int64 :=
  if number.natAbs < 2 ^ 64 then Int64.ofInt number else Int64.ofInt (2 ^ 64 - 1)

/-- A number as `%ld` stores it, by `strtol`: the nearest `long`. -/
def storeDecimal (number : Int) : Int64 :=
  Int64.ofInt (max (-2 ^ 63) (min number (2 ^ 63 - 1)))

def parseNumber (text : Arg) : Option Int64 :=
  match scanHex text with
  | some number => some (storeHex number)
  | none => (scanDecimal text).map storeDecimal

/-! ## Messages -/

inductive LogLevel
  | inf
  | wrn
  | err
  deriving DecidableEq, Repr

/-- The number of a log level. -/
def LogLevel.number : LogLevel → Nat
  | .inf => 1
  | .wrn => 2
  | .err => 4

/-- `write_log`, for the level from which on is logged. -/
def writeLog (logLevel level : LogLevel) (text : String) : String :=
  if logLevel.number ≤ level.number then
    match level with
    | .wrn => "WARNING: " ++ text
    | .err => "ERROR: " ++ text
    | .inf => text
  else ""

/-- What `write_arg_error` prints. -/
def writeArgError : ErrorCode → List Arg → String
  | .argValueParsingFailure, [option, value] =>
      "ERROR: " ++ String.ofList option ++ " : Argument value (" ++ String.ofList value ++
        ") could not be parsed.\n"
  | .argValueOutOfRange, [option, value] =>
      "ERROR: " ++ String.ofList option ++ " : Argument value (" ++ String.ofList value ++
        ") is out-of-range.\n"
  | .argValueMissing, [option] =>
      "ERROR: " ++ String.ofList option ++ " : Argument value missing.\n"
  | .argOrder, [option, other] =>
      "ERROR: " ++ String.ofList option ++ " : Argument must be specified prior to " ++
        String.ofList other ++ ".\n"
  | .argUnkown, [option] =>
      "ERROR: " ++ String.ofList option ++ " : Unkown argument.\n"
  | .argSingleInstance, [option] =>
      "ERROR: " ++ String.ofList option ++ " : Argument must only be specified once.\n"
  | exitCode, _ =>
      "ERROR: Application encountered an error (" ++ toString exitCode.ctorIdx ++ ").\n"

/-! ## Options -/

def helpArg : List Arg := [['-', 'h'], ['-', '-', 'h', 'e', 'l', 'p']]

def versionArg : List Arg := [['-', '-', 'v', 'e', 'r', 's', 'i', 'o', 'n']]

def verboseArg : List Arg := [['-', 'v'], ['-', '-', 'v', 'e', 'r', 'b', 'o', 's', 'e']]

def inputFileArg : List Arg := [['-', 'i'], ['-', '-', 'i', 'n', '-', 'f', 'i', 'l', 'e']]

def outputFileArg : List Arg := [['-', 'o'], ['-', '-', 'o', 'u', 't', '-', 'f', 'i', 'l', 'e']]

def seekArg : List Arg := [['-', 's'], ['-', '-', 's', 'e', 'e', 'k']]

def blockSizeArg : List Arg :=
  [['-', 'b'], ['-', '-', 'b', 'l', 'o', 'c', 'k', '-', 's', 'i', 'z', 'e']]

def fillByteArg : List Arg :=
  [['-', 'f'], ['-', '-', 'f', 'i', 'l', 'l', '-', 'b', 'y', 't', 'e']]

def truncateArg : List Arg := [['-', 't'], ['-', '-', 't', 'r', 'u', 'n', 'c', 'a', 't', 'e']]

/-- The variables that the arguments set: no file name and no inputs are null pointers. -/
structure Settings where
  logLevel : LogLevel
  showHelp : Bool
  showVersion : Bool
  outputFilename : Option Arg
  stdinSeekBlocks : UInt32
  blockSize : UInt32
  positive : 0 < blockSize.toNat
  fillValue : UInt8
  inputFiles : Option (List FileEntry)
  truncateOutFile : Bool

/-- The values before the arguments are processed. -/
def Settings.initial : Settings where
  logLevel := .wrn
  showHelp := false
  showVersion := false
  outputFilename := none
  stdinSeekBlocks := 0
  blockSize := 512
  positive := defaultBlockSize_pos
  fillValue := 0xFF
  inputFiles := none
  truncateOutFile := false

/-- How `process_args` ends: its result, what it has printed and what it has set. -/
structure Outcome where
  exitCode : ErrorCode
  printed : String
  settings : Settings

/-- One round of the loop goes on behind the values that it consumed, or returns. -/
inductive Round
  | next (consumed : Nat) (settings : Settings)
  | stop (outcome : Outcome)

/-- An argument that is no option. -/
def isValue (arg : Arg) : Bool :=
  arg.head? ≠ some '-'

/-- `next_arg_value`: the next argument, if it is a value. -/
def nextArgValue (rest : List Arg) : Option Arg :=
  rest.head?.filter isValue

/-- What `next_arg_value` logs about an option without a value. -/
def missingValue (settings : Settings) (option : Arg) : Round :=
  .stop ⟨.argValueMissing, writeLog settings.logLevel .err
    ("Missing argument value (" ++ String.ofList option ++ ").\n"), settings⟩

/-- `write_arg_error` as what is returned. -/
def Settings.argError (settings : Settings) (exitCode : ErrorCode) (args : List Arg) : Round :=
  .stop ⟨exitCode, writeArgError exitCode args, settings⟩

/-- The values that follow, as `num_arg_values` counts them. -/
def argValues (rest : List Arg) : List Arg :=
  rest.takeWhile isValue

/-- What is before the last colon and what is behind it (`strrchr`). -/
def splitAtColon : List Char → Option (List Char × List Char)
  | [] => none
  | c :: text =>
      match splitAtColon text with
      | some (before, behind) => some (c :: before, behind)
      | none => if c = ':' then some ([], text) else none

/-- An entry for a value of the form `<FILENAME>:<N>`; what cannot be parsed is printed up to
the colon, where the tool has put the end of the string. -/
def parseEntry (blockSize : UInt32) (arg : Arg) : Except Arg FileEntry :=
  match splitAtColon arg with
  | none => .error arg
  | some (filename, token) =>
      match parseNumber token with
      | none => .error filename
      | some blocks => .ok
          { filename := String.ofList filename
            size := 0
            offset := UInt32.ofInt (blocks * Int64.ofNat blockSize.toNat).toInt }

def parseEntries (blockSize : UInt32) : List Arg → Except Arg (List FileEntry)
  | [] => .ok []
  | arg :: args =>
      match parseEntry blockSize arg, parseEntries blockSize args with
      | .error text, _ => .error text
      | .ok _, .error text => .error text
      | .ok entry, .ok entries => .ok (entry :: entries)

/-- `sizeof(file_entry_t)`. -/
def fileEntrySize : Nat := 24

section
variable (inFilePiped : Bool) (allocates : Nat → Bool)

/-- The branch of `--in-file`. -/
def inFileRound (settings : Settings) (arg : Arg) (rest : List Arg) : Round :=
  if settings.inputFiles.isSome then settings.argError .argSingleInstance [arg]
  else
    let values := argValues rest
    let numEntriesAllocated := values.length + if inFilePiped then 1 else 0
    if numEntriesAllocated = 0 then settings.argError .argValueMissing [arg]
    else if allocates (numEntriesAllocated * fileEntrySize) then
      match parseEntries settings.blockSize values with
      | .error text => settings.argError .argValueParsingFailure [['-', 'i'], text]
      | .ok entries => .next values.length { settings with inputFiles := some entries }
    else .stop ⟨.outOfResources, "", settings⟩

/-- A branch that reads a number: it has to be in the given range to be set. -/
def numberRound (settings : Settings) (name rangeName : Arg) (least most : Int)
    (set : (tmp : Int64) → least ≤ tmp.toInt ∧ tmp.toInt ≤ most → Settings)
    (arg : Arg) (rest : List Arg) : Round :=
  match nextArgValue rest with
  | none => missingValue settings arg
  | some value =>
      match parseNumber value with
      | none => settings.argError .argValueParsingFailure [name, value]
      | some tmp =>
          if inRange : least ≤ tmp.toInt ∧ tmp.toInt ≤ most then .next 1 (set tmp inRange)
          else settings.argError .argValueOutOfRange [rangeName, value]

/-- The branch of `--seek`; its error for the range names another option. -/
def seekRound (settings : Settings) (arg : Arg) (rest : List Arg) : Round :=
  numberRound settings ['-', 's'] ['-', 'b'] 0 0xFFFFFFFF
    (fun tmp _ => { settings with stdinSeekBlocks := UInt32.ofInt tmp.toInt }) arg rest

/-- The branch of `--block-size`. -/
def blockSizeRound (settings : Settings) (arg : Arg) (rest : List Arg) : Round :=
  if settings.inputFiles.isSome then settings.argError .argOrder [['-', 'b'], ['-', 'i']]
  else numberRound settings ['-', 'b'] ['-', 'b'] 1 0xFFFFFFFF
    (fun tmp inRange => { settings with
      blockSize := UInt32.ofInt tmp.toInt
      positive := toNat_ofInt_pos inRange.1 inRange.2 }) arg rest

/-- The branch of `--fill-byte`. -/
def fillByteRound (settings : Settings) (arg : Arg) (rest : List Arg) : Round :=
  numberRound settings ['-', 'f'] ['-', 'f'] 1 0xFF
    (fun tmp _ => { settings with fillValue := UInt8.ofInt tmp.toInt }) arg rest

/-- The branch of `--out-file`. -/
def outFileRound (settings : Settings) (arg : Arg) (rest : List Arg) : Round :=
  match nextArgValue rest with
  | none => missingValue settings arg
  | some value => .next 1 { settings with outputFilename := some value }

/-- One round of the loop of `process_args`: an argument and those behind it. -/
def processArg (settings : Settings) (arg : Arg) (rest : List Arg) : Round :=
  if arg ∈ helpArg then .stop ⟨.none, "", { settings with showHelp := true }⟩
  else if arg ∈ versionArg then .stop ⟨.none, "", { settings with showVersion := true }⟩
  else if arg ∈ verboseArg then .next 0 { settings with logLevel := .inf }
  else if arg ∈ truncateArg then .next 0 { settings with truncateOutFile := true }
  else if arg ∈ inputFileArg then inFileRound inFilePiped allocates settings arg rest
  else if arg ∈ outputFileArg then outFileRound settings arg rest
  else if arg ∈ seekArg then seekRound settings arg rest
  else if arg ∈ blockSizeArg then blockSizeRound settings arg rest
  else if arg ∈ fillByteArg then fillByteRound settings arg rest
  else settings.argError .argUnkown [arg]

/-- The check for an input and an output at the end of `process_args`. -/
def checkPresent (settings : Settings) : Outcome :=
  let inFilePresent := inFilePiped || settings.inputFiles.isSome
  if inFilePresent && settings.outputFilename.isSome then ⟨.none, "", settings⟩
  else
    ⟨.argMissing,
      (if settings.outputFilename.isSome then ""
        else writeLog settings.logLevel .err "Missing required -o argument.\n") ++
      (if inFilePresent then ""
        else writeLog settings.logLevel .err
          "Missing required input from either -i or stdin.\n"),
      settings⟩

/-- What follows the loop of `process_args`: an entry for what is piped. -/
def finishArgs (settings : Settings) : Outcome :=
  if inFilePiped then
    if settings.inputFiles.isSome ∨ allocates fileEntrySize then
      let entry : FileEntry :=
        { filename := stdinFilename
          size := 0
          offset := settings.stdinSeekBlocks * settings.blockSize }
      checkPresent inFilePiped { settings with
        inputFiles := some (settings.inputFiles.getD [] ++ [entry]) }
    else ⟨.outOfResources, "", settings⟩
  else checkPresent inFilePiped settings

/-- The loop of `process_args`, with the number of arguments still to be skipped. -/
def processFrom : Nat → List Arg → Settings → Outcome
  | _, [], settings => finishArgs inFilePiped allocates settings
  | skipped + 1, _ :: rest, settings => processFrom skipped rest settings
  | 0, arg :: rest, settings =>
      match processArg inFilePiped allocates settings arg rest with
      | .stop outcome => outcome
      | .next consumed settings => processFrom consumed rest settings

/-- `process_args`, for the arguments behind the name of the tool. -/
def processArgs (args : List Arg) : Outcome :=
  processFrom inFilePiped allocates 0 args .initial

end

end FwkRtos.DatapartitionMkimage

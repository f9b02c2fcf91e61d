import FwkRtos.AsciiTrace.Itoa

/-!
# Formatting trace messages

`traceFreeRTOS_to_xscope` compares its position with the end of the buffer, less the longest
number, once for each character of the format.  A string is compared with the whole buffer and not
with what is left of it, and a `%` takes the next character of the format even at its end.
-/

namespace FwkRtos.AsciiTrace

/-! ## The program -/

/-- A string in memory, without its terminator: none of its characters is `NUL`, and its size fits a
`size_t`. -/
structure CString where
  chars : List UInt8
  noNul : 0 ∉ chars
  fits : chars.length < 2 ^ 32

/-- `int len = strlen(...)`. -/
def CString.len (string : CString) : Int :=
  (BitVec.ofNat 32 string.chars.length).toInt

/-- `xcoretraceconfigXSCOPE_TRACE_BUFFER` and `xcoretraceconfigXSCOPE_TRACE_RAW_BYTES`. -/
structure Config where
  traceBuffer : Nat
  rawBytes : Bool
  isEnough : 12 ≤ traceBuffer
  fits : traceBuffer < 2 ^ 32

/-- `MAX_XSCOPE_INT_STRING_SIZE`. -/
def maxXscopeIntStringSize : Nat := 10

/-- `end - buf`. -/
def Config.last (config : Config) : Nat :=
  config.traceBuffer - 1 - maxXscopeIntStringSize

/-- An argument behind the format. -/
inductive Argument
  | int (value : BitVec 32)
  | string (value : CString)

/-- `va_arg(args, int)`. -/
def vaInt : List Argument → Except Fault (BitVec 32 × List Argument)
  | .int value :: args => .ok (value, args)
  | _ => .error .noArgument

/-- `va_arg(args, char *)`. -/
def vaString : List Argument → Except Fault (CString × List Argument)
  | .string value :: args => .ok (value, args)
  | _ => .error .noArgument

/-- `tolower`. -/
def tolower (char : UInt8) : UInt8 :=
  if ascii 'A' ≤ char ∧ char ≤ ascii 'Z' then char + 32 else char

/-- The cases of the inner switch. -/
inductive Conversion
  | d
  | u
  | p
  | x
  | c
  | s
  deriving DecidableEq

/-- The case of a character; none is the default. -/
def conversion? (char : UInt8) : Option Conversion :=
  if char = ascii 'd' then some .d
  else if char = ascii 'u' then some .u
  else if char = ascii 'p' then some .p
  else if char = ascii 'x' then some .x
  else if char = ascii 'c' then some .c
  else if char = ascii 's' then some .s
  else none

/-- The four bytes of a number, the highest first. -/
def rawText (n : BitVec 32) : List UInt8 :=
  [UInt8.ofNat (n.toNat / 2 ^ 24), UInt8.ofNat (n.toNat / 2 ^ 16), UInt8.ofNat (n.toNat / 2 ^ 8),
    UInt8.ofNat n.toNat]

/-- `buf`, and the index that `p` points to. -/
structure Writer (size : Nat) where
  buf : Buffer size
  p : Nat

namespace Writer

variable {size : Nat}

/-- `*p++ = byte`. -/
def put (writer : Writer size) (byte : UInt8) : Except Fault (Writer size) := do
  let buf ← store writer.buf writer.p byte
  return { buf := buf, p := writer.p + 1 }

/-- `p += itoa(n, p, base, 0)`. -/
def putNumber (writer : Writer size) (base : Base) (n : BitVec 32) :
    Except Fault (Writer size) := do
  let (buf, length) ← itoa n writer.buf writer.p base 0
  return { buf := buf, p := writer.p + length }

/-- The case of `'d'`; the negation of the least `int` wraps around. -/
def putSigned (writer : Writer size) (n : BitVec 32) : Except Fault (Writer size) :=
  if n.toInt < 0 then do
    let writer ← writer.put (ascii '-')
    writer.putNumber .ten (-n)
  else writer.putNumber .ten n

/-- Bytes put one after the other. -/
def putAll (writer : Writer size) : List UInt8 → Except Fault (Writer size)
  | [] => .ok writer
  | byte :: bytes => do
      let writer ← writer.put byte
      writer.putAll bytes

/-- The two forms of a number: its bytes where they are configured, or its text. -/
def putRawOr (writer : Writer size) (rawBytes : Bool) (n : BitVec 32)
    (putText : Except Fault (Writer size)) : Except Fault (Writer size) :=
  if rawBytes then writer.putAll (rawText n) else putText

/-- The default of the outer switch, which ignores spaces. -/
def putLiteral (writer : Writer size) (char : UInt8) : Except Fault (Writer size) :=
  if char = 0x20 then .ok writer else writer.put char

/-- `memcpy(p, strArg, len); p += len`.  As a `size_t` the length is that of the string again, and a
negative `int` moves the pointer back. -/
def copy (writer : Writer size) (string : CString) : Except Fault (Writer size) := do
  let copied ← writer.putAll string.chars
  let p := writer.p + string.len
  if 0 ≤ p ∧ p ≤ size then return { buf := copied.buf, p := p.toNat }
  else .error .pointerOutside

end Writer

section Program

variable (config : Config)

/-- The case of `'s'`.  A string longer than `end - buf` starts the buffer again, so that the
second comparison with it never cuts one. -/
def putString (writer : Writer config.traceBuffer) (string : CString) :
    Except Fault (Writer config.traceBuffer) :=
  if config.last < string.len then .ok { writer with p := 0 } else writer.copy string

/-- The inner switch, for the character behind a `%`. -/
def convert (char : UInt8) (args : List Argument) (writer : Writer config.traceBuffer) :
    Except Fault (List Argument × Writer config.traceBuffer) :=
  match conversion? (tolower char) with
  | some .s => do
      let (string, args) ← vaString args
      let writer ← putString config writer string
      return (args, writer)
  | some .c => do
      let (value, args) ← vaInt args
      let writer ← writer.put (UInt8.ofNat value.toNat)
      return (args, writer)
  | some .d => do
      let (value, args) ← vaInt args
      let writer ← writer.putRawOr config.rawBytes value (writer.putSigned value)
      return (args, writer)
  | some .u => do
      let (value, args) ← vaInt args
      let writer ← writer.putRawOr config.rawBytes value (writer.putNumber .ten value)
      return (args, writer)
  | some .p | some .x => do
      let (value, args) ← vaInt args
      let writer ← writer.putRawOr config.rawBytes value (writer.putNumber .sixteen value)
      return (args, writer)
  | none => .ok (args, writer)

/-- The loop over the format, of which these characters are left before the terminator. -/
def formatLoop : List UInt8 → List Argument → Writer config.traceBuffer →
    Except Fault (Writer config.traceBuffer)
  | [], _, writer => .ok writer
  | char :: fmt, args, writer =>
      if config.last < writer.p then .ok writer
      else if char = ascii '%' then
        match fmt with
        -- The terminator has no case, and the pointer goes past it.
        | [] => .error .readBeyondFormat
        | char :: fmt => do
            let (args, writer) ← convert config char args writer
            formatLoop fmt args writer
      else do
        let writer ← writer.putLiteral char
        formatLoop fmt args writer

/-- `traceFreeRTOS_to_xscope`: the length and the bytes that are passed to `xscope_core_bytes`. -/
def traceFreeRTOSToXscope (fmt : CString) (args : List Argument)
    (buf : Buffer config.traceBuffer) : Except Fault (Int × List UInt8) := do
  let writer ← formatLoop config fmt.chars args { buf := buf, p := 0 }
  return (writer.p, writer.buf.toList.take writer.p)

end Program

/-! ## What a message consists of -/

/-- An item of a format: a character, a conversion (none for a character without a case), or a `%`
at the end. -/
inductive Item
  | literal (char : UInt8)
  | conversion (kind : Option Conversion)
  | dangling
  deriving DecidableEq

/-- The items of a format. -/
def items : List UInt8 → List Item
  | [] => []
  | char :: fmt =>
      if char = ascii '%' then
        match fmt with
        | [] => [.dangling]
        | char :: fmt => .conversion (conversion? (tolower char)) :: items fmt
      else .literal char :: items fmt

/-- The argument has the type that the conversion takes. -/
def Conversion.Takes : Conversion → Argument → Prop
  | .s, .string _ => True
  | .s, .int _ => False
  | _, .int _ => True
  | _, .string _ => False

/-- The arguments match the conversions in order; more arguments are ignored. -/
def Matching : List Item → List Argument → Prop
  | [], _ => True
  | .conversion (some kind) :: items, arg :: args => kind.Takes arg ∧ Matching items args
  | .conversion (some _) :: _, [] => False
  | _ :: items, args => Matching items args

/-- A piece of a message: a text of a character or a number, a string, a string that is so long that
it starts the message again, a string whose length is no `int`, or a `%` at the end. -/
inductive Piece
  | short (text : List UInt8)
  | string (text : List UInt8)
  | restart
  | oversize
  | dangling
  deriving DecidableEq

/-- The text of an `int`. -/
def signedText (n : BitVec 32) : List UInt8 :=
  if n.toInt < 0 then ascii '-' :: numberText .ten (-n) 0 else numberText .ten n 0

section Message

variable (config : Config)

/-- The text of a number in the form of the configuration. -/
def Config.numeral (text : BitVec 32 → List UInt8) (n : BitVec 32) : List UInt8 :=
  if config.rawBytes then rawText n else text n

/-- The piece of a string. -/
def stringPiece (string : CString) : Piece :=
  if config.last < string.len then .restart
  else if string.len < 0 then .oversize
  else .string string.chars

/-- The piece of a conversion. -/
def Conversion.piece : Conversion → Argument → Piece
  | .s, .string value => stringPiece config value
  | .c, .int value => .short [UInt8.ofNat value.toNat]
  | .d, .int value => .short (config.numeral signedText value)
  | .u, .int value => .short (config.numeral (numberText .ten · 0) value)
  | .p, .int value | .x, .int value => .short (config.numeral (numberText .sixteen · 0) value)
  | _, _ => .short []

/-- The pieces of a message. -/
def pieces : List Item → List Argument → List Piece
  | [], _ => []
  | .literal char :: items, args =>
      .short (if char = 0x20 then [] else [char]) :: pieces items args
  | .conversion none :: items, args => .short [] :: pieces items args
  | .conversion (some kind) :: items, arg :: args => kind.piece config arg :: pieces items args
  | .conversion (some _) :: _, [] => []
  | .dangling :: items, args => .dangling :: pieces items args

namespace Piece

/-- The message after the piece. -/
def after (written : List UInt8) : Piece → List UInt8
  | short text => written ++ text
  | string text => written ++ text
  | restart => []
  | oversize => written
  | dangling => written

/-- A string fits behind what has been written; there is nothing that a string of such a length, or
a `%` at the end, could fit. -/
def Fits (written : List UInt8) : Piece → Prop
  | short _ => True
  | string text => written.length + text.length ≤ config.traceBuffer
  | restart => True
  | oversize => False
  | dangling => False

instance (written : List UInt8) : (piece : Piece) → Decidable (piece.Fits config written)
  | short _ => .isTrue trivial
  | string text => Nat.decLe (written.length + text.length) config.traceBuffer
  | restart => .isTrue trivial
  | oversize => .isFalse not_false
  | dangling => .isFalse not_false

end Piece

/-- What the pieces leave in the buffer. -/
def written (pieces : List Piece) : List UInt8 :=
  pieces.foldl Piece.after []

/-- The format is read on behind these pieces: the buffer has never been filled beyond `end`. -/
def Reached (before : List Piece) : Prop :=
  ∀ earlier, earlier <+: before → (written earlier).length ≤ config.last

/-- Every piece that is reached fits. -/
def AllFit (pieces : List Piece) : Prop :=
  ∀ before piece rest, pieces = before ++ piece :: rest → Reached config before →
    piece.Fits config (written before)

/-- For every content of the buffer, the program comes to its end without a fault, and passes a
length between zero and the size of the buffer. -/
def StaysInside (fmt : CString) (args : List Argument) : Prop :=
  ∀ buf : Buffer config.traceBuffer, ∃ length bytes,
    traceFreeRTOSToXscope config fmt args buf = .ok (length, bytes) ∧
      0 ≤ length ∧ length ≤ config.traceBuffer

/-- The message as a list: one piece after the other while the text is not too long, and nothing
once a piece does not fit. -/
def place : List UInt8 → List Piece → Option (List UInt8)
  | written, [] => some written
  | written, piece :: rest =>
      if config.last < written.length then some written
      else if piece.Fits config written then place (piece.after written) rest
      else none

end Message

/-! ## The pieces are placed exactly if all of them fit -/

section Place

variable {config : Config}

/-- Every piece that is reached behind this text fits. -/
theorem place_isSome_iff (start : List UInt8) (pieces : List Piece) :
    (place config start pieces).isSome ↔
      ∀ before piece rest, pieces = before ++ piece :: rest →
        (∀ earlier, earlier <+: before →
          (earlier.foldl Piece.after start).length ≤ config.last) →
        piece.Fits config (before.foldl Piece.after start) := by
  induction pieces generalizing start with
  | nil => simp [place]
  | cons first others ih =>
      rw [place]
      by_cases full : config.last < start.length
      case pos =>
        rw [if_pos full]
        apply iff_of_true rfl
        intro before piece rest _ reached
        exact absurd (reached [] List.nil_prefix) (Nat.not_le_of_lt full)
      case neg =>
        have short := Nat.le_of_not_lt full
        rw [if_neg full]
        by_cases fits : first.Fits config start
        case pos =>
          rw [if_pos fits, ih]
          constructor
          · intro allFit before piece rest isSplit reached
            cases before with
            | nil =>
                cases isSplit
                exact fits
            | cons _ before =>
                cases isSplit
                apply allFit before piece rest rfl
                intro earlier isPrefix
                exact reached (first :: earlier) (List.cons_prefix_cons.mpr ⟨rfl, isPrefix⟩)
          · intro allFit before piece rest isSplit reached
            apply allFit (first :: before) piece rest (congrArg _ isSplit)
            intro earlier isPrefix
            cases earlier with
            | nil => exact short
            | cons _ earlier =>
                rcases List.cons_prefix_cons.mp isPrefix with ⟨rfl, inner⟩
                exact reached earlier inner
        case neg =>
          rw [if_neg fits]
          apply iff_of_false (fun isSome => nomatch isSome)
          intro allFit
          apply fits
          apply allFit [] first others rfl
          intro earlier isPrefix
          rw [List.prefix_nil.mp isPrefix]
          exact short

theorem place_isSome_iff_allFit (pieces : List Piece) :
    (place config [] pieces).isSome ↔ AllFit config pieces :=
  place_isSome_iff [] pieces

end Place

/-! ## One conversion -/

/-- The buffer holds this text up to the pointer. -/
structure Writer.Holds {size : Nat} (writer : Writer size) (text : List UInt8) : Prop where
  begins : Begins writer.buf text
  p : text.length = writer.p

namespace Writer.Holds

variable {size : Nat} {writer : Writer size} {text : List UInt8}

theorem put (holds : writer.Holds text) (room : text.length < size) (byte : UInt8) :
    Succeeds (writer.put byte) fun after => after.Holds (text ++ [byte]) := by
  apply (holds.begins.concat holds.p (holds.p ▸ room) byte).bind
  intro buf begins
  exact ⟨_, rfl, begins, by rw [List.length_append, holds.p]; rfl⟩

theorem putNumber (holds : writer.Holds text) {base : Base} {n : BitVec 32}
    (room : text.length + (numberText base n 0).length ≤ size) :
    Succeeds (writer.putNumber base n) fun after => after.Holds (text ++ numberText base n 0) := by
  apply (holds.begins.itoa holds.p room).bind
  rintro ⟨buf, length⟩ ⟨begins, isLength⟩
  exact ⟨_, rfl, begins, by rw [List.length_append, holds.p, ← isLength]⟩

theorem putSigned (holds : writer.Holds text) {n : BitVec 32}
    (room : text.length + (signedText n).length ≤ size) :
    Succeeds (writer.putSigned n) fun after => after.Holds (text ++ signedText n) := by
  rw [signedText] at room ⊢
  rw [Writer.putSigned]
  by_cases negative : n.toInt < 0
  case pos =>
    rw [if_pos negative] at room ⊢
    rw [if_pos negative]
    rw [List.length_cons] at room
    apply (holds.put (by omega) (ascii '-')).bind
    intro signed isSigned
    apply (isSigned.putNumber (by rw [List.length_append, List.length_singleton]; omega)).mono
    intro after isAfter
    rwa [List.append_assoc] at isAfter
  case neg =>
    rw [if_neg negative] at room ⊢
    rw [if_neg negative]
    exact holds.putNumber room

theorem putAll (holds : writer.Holds text) {bytes : List UInt8}
    (room : text.length + bytes.length ≤ size) :
    Succeeds (writer.putAll bytes) fun after => after.Holds (text ++ bytes) := by
  induction bytes generalizing writer text with
  | nil => exact ⟨writer, rfl, by rwa [List.append_nil]⟩
  | cons byte bytes ih =>
      rw [List.length_cons] at room
      apply (holds.put (by omega) byte).bind
      intro stored isStored
      apply (ih isStored (by rw [List.length_append, List.length_singleton]; omega)).mono
      intro after isAfter
      rwa [List.append_assoc] at isAfter

/-- Bytes that do not fit are written outside of the buffer. -/
theorem putAll_fails (holds : writer.Holds text) {bytes : List UInt8}
    (tooMany : size < text.length + bytes.length) : Fails (writer.putAll bytes) := by
  induction bytes generalizing writer text with
  | nil => exact absurd holds.begins.length_le (Nat.not_le_of_lt tooMany)
  | cons byte bytes ih =>
      rw [List.length_cons] at tooMany
      by_cases room : text.length < size
      case pos =>
        apply (holds.put room byte).bind_fails
        intro stored isStored
        exact ih isStored (by rw [List.length_append, List.length_singleton]; omega)
      case neg =>
        have outside : size ≤ writer.p := holds.p ▸ Nat.le_of_not_lt room
        exact (store_fails writer.buf outside byte).bind.bind

end Writer.Holds

/-- The length is negative exactly if it is no `int`. -/
theorem CString.len_eq (string : CString) :
    string.len = string.chars.length ∨
      string.len = string.chars.length - (2 : Int) ^ 32 := by
  have fits := string.fits
  rw [CString.len, BitVec.toInt_eq_toNat_cond, BitVec.toNat_ofNat, Nat.mod_eq_of_lt fits]
  split
  · exact .inl rfl
  · exact .inr (by push_cast; rfl)

section Convert

variable {config : Config} {writer : Writer config.traceBuffer} {text : List UInt8}

theorem Config.last_add (config : Config) : config.last + 11 = config.traceBuffer := by
  have enough := config.isEnough
  rw [Config.last, maxXscopeIntStringSize]
  omega

/-- What a conversion does: its piece is written, or does not fit. -/
def Places (result : Except Fault (Writer config.traceBuffer)) (text : List UInt8)
    (piece : Piece) : Prop :=
  (piece.Fits config text → Succeeds result fun after => after.Holds (piece.after text)) ∧
    (¬ piece.Fits config text → Fails result)

theorem Places.short {result : Except Fault (Writer config.traceBuffer)} {bytes : List UInt8}
    (succeeds : Succeeds result fun after => after.Holds (text ++ bytes)) :
    Places result text (.short bytes) :=
  ⟨fun _ => succeeds, fun unfit => absurd trivial unfit⟩

/-- A string is copied, starts the buffer again, or leaves the buffer. -/
theorem Writer.Holds.putString (holds : writer.Holds text) (string : CString) :
    Places (putString config writer string) text (stringPiece config string) := by
  have inside := holds.begins.length_le
  rw [AsciiTrace.putString, stringPiece]
  by_cases long : config.last < string.len
  case pos =>
    rw [if_pos long, if_pos long]
    apply And.intro _ fun unfit => absurd trivial unfit
    intro _
    exact ⟨_, rfl, List.nil_prefix, rfl⟩
  case neg =>
    rw [if_neg long, if_neg long, Writer.copy]
    by_cases negative : string.len < 0
    case pos =>
      rw [if_pos negative]
      apply And.intro False.elim
      intro _
      by_cases room : text.length + string.chars.length ≤ config.traceBuffer
      case pos =>
        apply (holds.putAll room).bind_fails
        intro copied _
        have fits := config.fits
        have outside : ¬ (0 ≤ writer.p + string.len ∧
            writer.p + string.len ≤ config.traceBuffer) := by
          rw [← holds.p]
          rcases string.len_eq with isLen | isLen <;> omega
        rw [if_neg outside]
        exact ⟨_, rfl⟩
      case neg => exact (holds.putAll_fails (Nat.lt_of_not_le room)).bind
    case neg =>
      rw [if_neg negative]
      have isLen : string.len = string.chars.length := by
        have fits := string.fits
        rcases string.len_eq with isLen | isLen <;> omega
      constructor
      · intro room
        apply (holds.putAll room).bind
        intro copied isCopied
        have room : text.length + string.chars.length ≤ config.traceBuffer := room
        have within : 0 ≤ (writer.p : Int) + string.len ∧
            (writer.p : Int) + string.len ≤ config.traceBuffer := by
          rw [isLen, ← holds.p]
          omega
        rw [if_pos within]
        refine ⟨_, rfl, isCopied.begins, ?_⟩
        change (text ++ string.chars).length = ((writer.p : Int) + string.len).toNat
        rw [isLen, ← holds.p, List.length_append]
        omega
      · intro tooLong
        exact (holds.putAll_fails (Nat.lt_of_not_le tooLong)).bind

theorem length_signedText (n : BitVec 32) : (signedText n).length ≤ 11 := by
  rw [signedText]
  split
  · exact Nat.succ_le_succ (length_numberText .ten (-n))
  · exact (length_numberText .ten n).trans (by decide)

/-- The number that a conversion writes, in the form of the configuration. -/
theorem Writer.Holds.putRawOr (holds : writer.Holds text) (room : text.length ≤ config.last)
    {putText : Except Fault (Writer config.traceBuffer)} (numeral : BitVec 32 → List UInt8)
    {n : BitVec 32} (few : (numeral n).length ≤ 11)
    (writes : text.length + (numeral n).length ≤ config.traceBuffer →
      Succeeds putText fun after => after.Holds (text ++ numeral n)) :
    Places (writer.putRawOr config.rawBytes n putText) text
      (.short (config.numeral numeral n)) := by
  have reserve := config.last_add
  apply Places.short
  rw [Config.numeral, Writer.putRawOr]
  cases config.rawBytes with
  | true =>
      apply holds.putAll
      rw [rawText]
      simp only [List.length_cons, List.length_nil]
      omega
  | false => exact writes (by omega)

/-- What the inner switch does: these arguments are left, and the piece is placed. -/
def Converts (result : Except Fault (List Argument × Writer config.traceBuffer))
    (text : List UInt8) (args : List Argument) (piece : Piece) : Prop :=
  (piece.Fits config text → Succeeds result fun (rest, after) =>
      rest = args ∧ after.Holds (piece.after text)) ∧
    (¬ piece.Fits config text → Fails result)

theorem Places.converts {result : Except Fault (Writer config.traceBuffer)} {piece : Piece}
    (places : Places result text piece) (args : List Argument) :
    Converts (result >>= fun writer => .ok (args, writer)) text args piece := by
  constructor
  · intro fits
    apply (places.1 fits).bind
    intro after holds
    exact ⟨_, rfl, rfl, holds⟩
  · intro unfit
    exact (places.2 unfit).bind

/-- The inner switch takes the argument of its conversion, and places its piece. -/
theorem Writer.Holds.convert (holds : writer.Holds text) (room : text.length ≤ config.last)
    {char : UInt8} {kind : Conversion} (isKind : conversion? (tolower char) = some kind)
    {arg : Argument} (takes : kind.Takes arg) (args : List Argument) :
    Converts (convert config char (arg :: args) writer) text args (kind.piece config arg) := by
  have reserve := config.last_add
  have number : ∀ (base : Base) (value : BitVec 32),
      Places (writer.putRawOr config.rawBytes value (writer.putNumber base value)) text
        (.short (config.numeral (numberText base · 0) value)) := by
    intro base value
    apply holds.putRawOr room
    · exact (length_numberText base value).trans (by decide)
    · exact fun fits => holds.putNumber fits
  rw [AsciiTrace.convert, isKind]
  cases kind with
  | s =>
      cases arg with
      | int value => cases takes
      | string value => exact (holds.putString value).converts args
  | c =>
      cases arg with
      | int value => exact (Places.short (holds.put (by omega) _)).converts args
      | string value => cases takes
  | d =>
      cases arg with
      | int value =>
          have signed := holds.putRawOr room signedText (length_signedText value) holds.putSigned
          exact signed.converts args
      | string value => cases takes
  | u =>
      cases arg with
      | int value => exact (number .ten value).converts args
      | string value => cases takes
  | p =>
      cases arg with
      | int value => exact (number .sixteen value).converts args
      | string value => cases takes
  | x =>
      cases arg with
      | int value => exact (number .sixteen value).converts args
      | string value => cases takes

end Convert

/-! ## The whole message -/

section Loop

variable {config : Config}

/-- The message is in the buffer, or there is a fault if there is none. -/
def Leaves (result : Except Fault (Writer config.traceBuffer)) : Option (List UInt8) → Prop
  | some message => Succeeds result fun writer => writer.Holds message
  | none => Fails result

theorem Succeeds.leaves {α : Type} {first : Except Fault α} {Mid : α → Prop}
    {next : α → Except Fault (Writer config.traceBuffer)} {message : Option (List UInt8)}
    (succeeds : Succeeds first Mid) (rest : ∀ value, Mid value → Leaves (next value) message) :
    Leaves (first >>= next) message := by
  cases message with
  | some message => exact succeeds.bind rest
  | none => exact succeeds.bind_fails rest

variable {writer : Writer config.traceBuffer} {text : List UInt8}

/-- Beyond `end` nothing more is written. -/
theorem Writer.Holds.leaves_full (holds : writer.Holds text) (full : config.last < text.length)
    (fmt : List UInt8) (args : List Argument) (pieces : List Piece) :
    Leaves (formatLoop config fmt args writer) (place config text pieces) := by
  have placed : place config text pieces = some text := by
    cases pieces with
    | nil => rfl
    | cons piece rest => rw [place, if_pos full]
  have loop : formatLoop config fmt args writer = .ok writer := by
    cases fmt with
    | nil => rw [formatLoop]
    | cons char fmt =>
        rw [formatLoop.eq_def]
        exact if_pos (holds.p ▸ full)
  rw [placed, loop]
  exact ⟨writer, rfl, holds⟩

theorem place_cons (room : text.length ≤ config.last) (piece : Piece) (rest : List Piece) :
    place config text (piece :: rest) =
      if piece.Fits config text then place config (piece.after text) rest else none := by
  rw [place, if_neg (Nat.not_lt_of_le room)]

theorem Writer.Holds.putLiteral (holds : writer.Holds text) (room : text.length ≤ config.last)
    (char : UInt8) :
    Succeeds (writer.putLiteral char) fun after =>
      after.Holds (text ++ if char = 0x20 then [] else [char]) := by
  have reserve := config.last_add
  rw [Writer.putLiteral]
  split
  · exact ⟨writer, rfl, by rwa [List.append_nil]⟩
  · exact holds.put (by omega) char

/-- The loop places one piece after the other. -/
theorem formatLoop_leaves (fmt : List UInt8) {args : List Argument} (holds : writer.Holds text)
    (matching : Matching (items fmt) args) :
    Leaves (formatLoop config fmt args writer)
      (place config text (pieces config (items fmt) args)) := by
  induction fmt using items.induct generalizing args writer text with
  | case1 =>
      rw [items, pieces, place, formatLoop]
      exact ⟨writer, rfl, holds⟩
  | case2 =>
      rcases Nat.lt_or_ge config.last text.length with full | room
      · exact holds.leaves_full full _ _ _
      · have here : ¬ config.last < writer.p := holds.p ▸ Nat.not_lt_of_le room
        rw [formatLoop, if_neg here, if_pos rfl]
        change Leaves _ (place config text [.dangling])
        rw [place_cons room]
        exact ⟨_, rfl⟩
  | case3 char fmt ih =>
      rcases Nat.lt_or_ge config.last text.length with full | room
      · exact holds.leaves_full full _ _ _
      · have here : ¬ config.last < writer.p := holds.p ▸ Nat.not_lt_of_le room
        have isItems : items (ascii '%' :: char :: fmt) =
            .conversion (conversion? (tolower char)) :: items fmt := rfl
        rw [isItems] at matching ⊢
        rw [formatLoop, if_neg here, if_pos rfl]
        generalize isKind : conversion? (tolower char) = kind at matching ⊢
        cases kind with
        | none =>
            have skipped : convert config char args writer = .ok (args, writer) := by
              rw [convert, isKind]
            have rest := ih holds matching
            rw [pieces, place_cons room, skipped]
            change Leaves (formatLoop config fmt args writer) (place config (text ++ []) _)
            rwa [List.append_nil]
        | some kind =>
            cases args with
            | nil => cases matching
            | cons arg args =>
                rcases matching with ⟨takes, matching⟩
                rcases holds.convert room isKind takes args with ⟨converts, fails⟩
                rw [pieces, place_cons room]
                by_cases fits : (kind.piece config arg).Fits config text
                case pos =>
                  rw [if_pos fits]
                  apply (converts fits).leaves
                  rintro ⟨rest, after⟩ ⟨rfl, isAfter⟩
                  exact ih isAfter matching
                case neg =>
                  rw [if_neg fits]
                  exact (fails fits).bind
  | case4 char fmt notPercent ih =>
      rcases Nat.lt_or_ge config.last text.length with full | room
      · exact holds.leaves_full full _ _ _
      · have here : ¬ config.last < writer.p := holds.p ▸ Nat.not_lt_of_le room
        have isItems : items (char :: fmt) = .literal char :: items fmt := by
          rw [items.eq_def]
          exact if_neg notPercent
        rw [isItems] at matching ⊢
        rw [formatLoop.eq_def]
        dsimp only
        rw [if_neg here, if_neg notPercent, pieces, place_cons room]
        apply (holds.putLiteral room char).leaves
        intro after isAfter
        exact ih isAfter matching

end Loop

/-! ## The whole program -/

section Program

variable {config : Config} {fmt : CString} {args : List Argument}

/-- The program passes the message, whatever the buffer holds at first. -/
theorem traceFreeRTOSToXscope_eq (matching : Matching (items fmt.chars) args)
    {message : List UInt8}
    (placed : place config [] (pieces config (items fmt.chars) args) = some message)
    (buf : Buffer config.traceBuffer) :
    traceFreeRTOSToXscope config fmt args buf = .ok (message.length, message) := by
  have start : Writer.Holds ⟨buf, 0⟩ [] := ⟨List.nil_prefix, rfl⟩
  have leaves := formatLoop_leaves fmt.chars start matching
  rw [placed] at leaves
  rcases leaves with ⟨writer, isOk, holds⟩
  rw [traceFreeRTOSToXscope, isOk]
  change Except.ok ((writer.p : Int), writer.buf.toList.take writer.p) = _
  rw [← holds.p, ← List.prefix_iff_eq_take.mp holds.begins]

theorem traceFreeRTOSToXscope_fails (matching : Matching (items fmt.chars) args)
    (unplaced : place config [] (pieces config (items fmt.chars) args) = none)
    (buf : Buffer config.traceBuffer) : Fails (traceFreeRTOSToXscope config fmt args buf) := by
  have start : Writer.Holds ⟨buf, 0⟩ [] := ⟨List.nil_prefix, rfl⟩
  have leaves := formatLoop_leaves fmt.chars start matching
  rw [unplaced] at leaves
  exact leaves.bind

/-- No message is longer than the buffer. -/
theorem length_message_le (matching : Matching (items fmt.chars) args) {message : List UInt8}
    (placed : place config [] (pieces config (items fmt.chars) args) = some message) :
    message.length ≤ config.traceBuffer := by
  have start : Writer.Holds ⟨Vector.replicate config.traceBuffer 0, 0⟩ [] := ⟨List.nil_prefix, rfl⟩
  have leaves := formatLoop_leaves fmt.chars start matching
  rw [placed] at leaves
  rcases leaves with ⟨writer, _, holds⟩
  exact holds.begins.length_le

theorem staysInside_of_placed (matching : Matching (items fmt.chars) args)
    (placed : (place config [] (pieces config (items fmt.chars) args)).isSome) :
    StaysInside config fmt args := by
  intro buf
  rcases Option.isSome_iff_exists.mp placed with ⟨message, placed⟩
  refine ⟨message.length, message, traceFreeRTOSToXscope_eq matching placed buf, ?_, ?_⟩
  · exact Int.natCast_nonneg _
  · exact Int.ofNat_le.mpr (length_message_le matching placed)

theorem not_staysInside_of_unplaced (matching : Matching (items fmt.chars) args)
    (unplaced : place config [] (pieces config (items fmt.chars) args) = none) :
    ¬ StaysInside config fmt args := by
  intro inside
  rcases inside (Vector.replicate config.traceBuffer 0) with ⟨length, bytes, isOk, _⟩
  exact (traceFreeRTOSToXscope_fails matching unplaced _).ne_ok _ isOk

/-- The program stays in its buffers exactly if every string that is reached, and not so long that
it starts the message again, fits behind what has been written, and no `%` at the end is
reached. -/
theorem staysInside_iff (matching : Matching (items fmt.chars) args) :
    StaysInside config fmt args ↔ AllFit config (pieces config (items fmt.chars) args) := by
  rw [← place_isSome_iff_allFit]
  constructor
  · intro inside
    by_contra unplaced
    exact not_staysInside_of_unplaced matching (Option.not_isSome_iff_eq_none.mp unplaced) inside
  · exact staysInside_of_placed matching

end Program

/-! ## Messages that fit, and messages that do not -/

/-- A string of these characters. -/
def stringOf (text : List Char) (noNul : 0 ∉ text.map ascii)
    (fits : (text.map ascii).length < 2 ^ 32) : CString :=
  ⟨text.map ascii, noNul, fits⟩

/-- A configuration with a buffer of 24 bytes. -/
def smallConfig : Config where
  traceBuffer := 24
  rawBytes := false
  isEnough := by decide
  fits := by decide

/-- `"%s=%d"`. -/
def nameAndNumber : CString := stringOf ['%', 's', '=', '%', 'd'] (by decide) (by decide)

/-- A string and a number. -/
def tickArguments : List Argument :=
  [.string (stringOf ['t', 'i', 'c', 'k'] (by decide) (by decide)), .int (-7)]

theorem nameAndNumber_staysInside_iff :
    StaysInside smallConfig nameAndNumber tickArguments ↔
      AllFit smallConfig (pieces smallConfig (items nameAndNumber.chars) tickArguments) :=
  staysInside_iff ⟨trivial, trivial, trivial⟩

/-- `"%s%s"`. -/
def twoStrings : CString := stringOf ['%', 's', '%', 's'] (by decide) (by decide)

/-- A string of thirteen characters. -/
def thirteen : CString := stringOf (List.replicate 13 'a') (by decide) (by decide)

/-- Each of two strings is no longer than `end - buf`, but the second one does not fit behind the
first. -/
theorem twoStrings_not_staysInside :
    ¬ StaysInside smallConfig twoStrings [.string thirteen, .string thirteen] :=
  not_staysInside_of_unplaced ⟨trivial, trivial, trivial⟩ (by decide)

/-- A format that ends with a `%` is read behind its terminator. -/
theorem dangling_not_staysInside :
    ¬ StaysInside smallConfig (stringOf ['5', '%'] (by decide) (by decide)) [] :=
  not_staysInside_of_unplaced trivial (by decide)

end FwkRtos.AsciiTrace

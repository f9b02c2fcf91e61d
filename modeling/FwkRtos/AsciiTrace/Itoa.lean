import Mathlib.Data.List.Induction
import Mathlib.Data.Nat.Digits.Lemmas

/-!
# Numbers in the trace buffer

`itoa` writes the digits of a number from the lowest one on and then reverses them in place.  The
buffer is a checked array: what is read or written outside of it is a fault.
-/

namespace FwkRtos.AsciiTrace

/-- What the program must not do. -/
inductive Fault
  | readBeyondFormat
  | accessOutside
  | pointerOutside
  | noArgument
  deriving DecidableEq

/-- An array of so many `char`s. -/
abbrev Buffer (size : Nat) := Vector UInt8 size

/-- A character of the source. -/
def ascii (char : Char) : UInt8 := char.toNat.toUInt8

variable {size : Nat}

/-- `buf[i]`. -/
def load (buf : Buffer size) (i : Nat) : Except Fault UInt8 :=
  if inside : i < size then .ok (buf.get ⟨i, inside⟩) else .error .accessOutside

/-- `buf[i] = byte`. -/
def store (buf : Buffer size) (i : Nat) (byte : UInt8) : Except Fault (Buffer size) :=
  if inside : i < size then .ok (buf.set i byte inside) else .error .accessOutside

/-- The loop of `reverse_array`, for the array at `p`. -/
def reverseLoop (buf : Buffer size) (p begin_ end_ : Nat) : Except Fault (Buffer size) :=
  if begin_ < end_ then do
    let tmp ← load buf (p + begin_)
    let last ← load buf (p + end_)
    let buf ← store buf (p + begin_) last
    let buf ← store buf (p + end_) tmp
    reverseLoop buf p (begin_ + 1) (end_ - 1)
  else .ok buf
termination_by end_ - begin_

/-- `reverse_array`.  For no elements the source starts with an end of -1, and does nothing
either. -/
def reverseArray (buf : Buffer size) (p count : Nat) : Except Fault (Buffer size) :=
  reverseLoop buf p 0 (count - 1)

/-- The bases of the calls of `itoa`. -/
inductive Base
  | ten
  | sixteen
  deriving DecidableEq

def Base.value : Base → Nat
  | ten => 10
  | sixteen => 16

theorem Base.one_lt (base : Base) : 1 < base.value := by
  cases base <;> decide

/-- `digits` of `itoa`. -/
def digits : List UInt8 := "0123456789ABCDEF".toList.map ascii

/-- The loop of `itoa` over the digits; a digit is below 16 for both bases. -/
def digitLoop (buf : Buffer size) (p : Nat) (base : Base) (n i : Nat) (fill : Int) :
    Except Fault (Buffer size × Nat × Int) :=
  if positive : 0 < n then do
    let buf ← store buf (p + i) (digits.getD (n % base.value) 0)
    digitLoop buf p base (n / base.value) (i + 1) (fill - 1)
  else .ok (buf, i, fill)
termination_by n
decreasing_by exact Nat.div_lt_self positive base.one_lt

/-- The loop of `itoa` that writes zeros. -/
def fillLoop (buf : Buffer size) (p i : Nat) : Nat → Except Fault (Buffer size × Nat)
  | 0 => .ok (buf, i)
  | fill + 1 => do
      let buf ← store buf (p + i) (ascii '0')
      fillLoop buf p (i + 1) fill

/-- `itoa` into the array at `p`: the buffer, and the length returned. -/
def itoa (n : BitVec 32) (buf : Buffer size) (p : Nat) (base : Base) (fill : Int) :
    Except Fault (Buffer size × Nat) := do
  let fill := if n = 0 then fill + 1 else fill
  let (buf, i, fill) ← digitLoop buf p base n.toNat 0 fill
  let (buf, i) ← fillLoop buf p i fill.toNat
  let buf ← reverseArray buf p i
  return (buf, i)

/-! ## Results without faults -/

section Results

variable {α β : Type} {result : Except Fault α} {next : α → Except Fault β}

/-- There is no fault, and the result satisfies the postcondition. -/
def Succeeds (result : Except Fault α) (Post : α → Prop) : Prop :=
  ∃ value, result = .ok value ∧ Post value

/-- There is a fault. -/
def Fails (result : Except Fault α) : Prop :=
  ∃ fault, result = .error fault

theorem Succeeds.bind {Mid : α → Prop} {Post : β → Prop} (first : Succeeds result Mid)
    (rest : ∀ value, Mid value → Succeeds (next value) Post) : Succeeds (result >>= next) Post := by
  rcases first with ⟨value, rfl, mid⟩
  exact rest value mid

theorem Succeeds.bind_fails {Mid : α → Prop} (first : Succeeds result Mid)
    (rest : ∀ value, Mid value → Fails (next value)) : Fails (result >>= next) := by
  rcases first with ⟨value, rfl, mid⟩
  exact rest value mid

theorem Fails.bind (fails : Fails result) : Fails (result >>= next) := by
  rcases fails with ⟨fault, rfl⟩
  exact ⟨fault, rfl⟩

theorem Fails.ne_ok (fails : Fails result) (value : α) : result ≠ .ok value := by
  rcases fails with ⟨fault, rfl⟩
  intro isOk
  cases isOk

theorem Succeeds.mono {Post Weaker : α → Prop} (succeeds : Succeeds result Post)
    (weaker : ∀ value, Post value → Weaker value) : Succeeds result Weaker := by
  rcases succeeds with ⟨value, isOk, post⟩
  exact ⟨value, isOk, weaker value post⟩

end Results

/-! ## What the buffer begins with -/

/-- The buffer begins with this text. -/
def Begins (buf : Buffer size) (text : List UInt8) : Prop :=
  text <+: buf.toList

namespace Begins

variable {buf : Buffer size} {text before after : List UInt8} {i : Nat} {old : UInt8}

theorem length_le (begins : Begins buf text) : text.length ≤ size := by
  have bound := List.IsPrefix.length_le begins
  rwa [Vector.length_toList] at bound

theorem load (begins : Begins buf (before ++ old :: after)) (isAt : before.length = i) :
    load buf i = .ok old := by
  subst isAt
  have inside : before.length < (before ++ old :: after).length := by
    rw [List.length_append, List.length_cons]
    omega
  rw [AsciiTrace.load, dif_pos (inside.trans_le begins.length_le)]
  have same := List.IsPrefix.getElem begins inside
  rw [List.getElem_append_right le_rfl] at same
  simp only [Nat.sub_self, List.getElem_cons_zero] at same
  exact congrArg Except.ok same.symm

/-- A byte in the text is overwritten. -/
theorem store (begins : Begins buf (before ++ old :: after)) (isAt : before.length = i)
    (byte : UInt8) :
    Succeeds (store buf i byte) fun stored => Begins stored (before ++ byte :: after) := by
  subst isAt
  have bound := begins.length_le
  rw [List.length_append, List.length_cons] at bound
  rw [AsciiTrace.store, dif_pos (by omega)]
  rcases begins with ⟨rest, isBuf⟩
  refine ⟨_, rfl, rest, ?_⟩
  rw [Vector.toList_set, ← isBuf, List.append_assoc before (old :: after),
    List.set_append_right _ _ le_rfl, Nat.sub_self, List.append_assoc]
  rfl

/-- A byte is written behind the text. -/
theorem concat (begins : Begins buf text) (isAt : text.length = i) (room : i < size)
    (byte : UInt8) :
    Succeeds (AsciiTrace.store buf i byte) fun stored => Begins stored (text ++ [byte]) := by
  subst isAt
  rcases begins with ⟨rest, isBuf⟩
  have length := congrArg List.length isBuf
  rw [List.length_append, Vector.length_toList] at length
  cases rest with
  | nil =>
      rw [List.length_nil] at length
      omega
  | cons old rest =>
      have whole : Begins buf (text ++ old :: rest) := ⟨[], by rw [List.append_nil, isBuf]⟩
      apply (whole.store rfl byte).mono
      rintro stored ⟨others, isStored⟩
      exact ⟨rest ++ others, by rw [← isStored]; simp⟩

end Begins

/-- No byte is written behind the buffer. -/
theorem store_fails (buf : Buffer size) {i : Nat} (outside : size ≤ i) (byte : UInt8) :
    Fails (store buf i byte) := by
  rw [store, dif_neg (Nat.not_lt_of_le outside)]
  exact ⟨_, rfl⟩

/-! ## Reversing -/

/-- The elements from `begin_` up to `end_` are reversed, and no others changed. -/
theorem Begins.reverseLoop {buf : Buffer size} {before after : List UInt8} (middle : List UInt8)
    {p begin_ end_ : Nat} (starts : before.length = p + begin_)
    (stops : end_ + 1 = begin_ + middle.length)
    (begins : Begins buf (before ++ (middle ++ after))) :
    Succeeds (reverseLoop buf p begin_ end_) fun reversed =>
      Begins reversed (before ++ (middle.reverse ++ after)) := by
  induction middle using List.bidirectionalRec generalizing buf before after begin_ end_ with
  | nil =>
      rw [List.length_nil] at stops
      rw [AsciiTrace.reverseLoop, if_neg (by omega)]
      exact ⟨buf, rfl, begins⟩
  | singleton only =>
      rw [List.length_singleton] at stops
      rw [AsciiTrace.reverseLoop, if_neg (by omega)]
      exact ⟨buf, rfl, begins⟩
  | cons_append first middle last ih =>
      rw [List.length_cons, List.length_append, List.length_singleton] at stops
      have whole : Begins buf (before ++ first :: (middle ++ last :: after)) := by
        simpa using begins
      have regroup : ∀ left : UInt8, before ++ left :: (middle ++ last :: after) =
          (before ++ left :: middle) ++ last :: after := by
        intro left
        rw [List.append_assoc, List.cons_append]
      have atEnd : ∀ left : UInt8, (before ++ left :: middle).length = p + end_ := by
        intro left
        rw [List.length_append, List.length_cons, starts]
        omega
      have inside : begin_ < end_ := by omega
      rw [AsciiTrace.reverseLoop, if_pos inside, whole.load starts]
      change Succeeds (AsciiTrace.load buf (p + end_) >>= _) _
      rw [Begins.load (regroup first ▸ whole) (atEnd first)]
      change Succeeds (AsciiTrace.store buf (p + begin_) last >>= _) _
      apply Succeeds.bind (whole.store starts last)
      intro stored isStored
      apply Succeeds.bind (Begins.store (regroup last ▸ isStored) (atEnd last) first)
      intro swapped isSwapped
      have inner : Begins swapped ((before ++ [last]) ++ (middle ++ (first :: after))) := by
        simpa using isSwapped
      have next : (before ++ [last]).length = p + (begin_ + 1) := by
        rw [List.length_append, List.length_singleton, starts, Nat.add_assoc]
      have reversed := ih next (by omega : (end_ - 1) + 1 = begin_ + 1 + middle.length) inner
      simpa using reversed

/-- `reverse_array` reverses what the array holds. -/
theorem Begins.reverseArray {buf : Buffer size} {before part : List UInt8} {p count : Nat}
    (starts : before.length = p) (stops : part.length = count)
    (begins : Begins buf (before ++ part)) :
    Succeeds (reverseArray buf p count) fun reversed =>
      Begins reversed (before ++ part.reverse) := by
  rw [AsciiTrace.reverseArray]
  by_cases empty : count = 0
  case pos =>
    have nothing : part = [] := List.eq_nil_of_length_eq_zero (stops.trans empty)
    subst nothing
    rw [empty, AsciiTrace.reverseLoop, if_neg (Nat.lt_irrefl 0)]
    exact ⟨buf, rfl, begins⟩
  case neg =>
    have whole : Begins buf (before ++ (part ++ [])) := by rwa [List.append_nil]
    have ends : count - 1 + 1 = 0 + part.length := by omega
    have reversed := Begins.reverseLoop part starts ends whole
    rwa [List.append_nil] at reversed

/-! ## The text of a number -/

/-- The digits of a number, the lowest first. -/
def lowDigits (base : Base) (n : Nat) : List UInt8 :=
  (Nat.digits base.value n).map fun digit => digits.getD digit 0

/-- What `itoa` writes. -/
def numberText (base : Base) (n : BitVec 32) (fill : Int) : List UInt8 :=
  let low := lowDigits base n.toNat
  let zeros := ((if n = 0 then fill + 1 else fill) - low.length).toNat
  (low ++ List.replicate zeros (ascii '0')).reverse

section Number

variable {base : Base} {n : Nat}

theorem lowDigits_of_pos (positive : 0 < n) :
    lowDigits base n = digits.getD (n % base.value) 0 :: lowDigits base (n / base.value) := by
  rw [lowDigits, Nat.digits_def' base.one_lt positive, List.map_cons]
  rfl

/-- A 32-bit number has at most ten digits. -/
theorem length_lowDigits_le (base : Base) (n : BitVec 32) :
    (lowDigits base n.toNat).length ≤ 10 := by
  rw [lowDigits, List.length_map, Nat.digits_length_le_iff base.one_lt]
  apply n.isLt.trans_le
  cases base <;> decide

theorem length_numberText (base : Base) (n : BitVec 32) :
    (numberText base n 0).length ≤ 10 := by
  have few := length_lowDigits_le base n
  rw [numberText, List.length_reverse, List.length_append, List.length_replicate]
  split <;> omega

variable {buf : Buffer size} {text : List UInt8} {p i : Nat} {fill : Int}

theorem Begins.digitLoop (starts : text.length = p + i)
    (room : text.length + (lowDigits base n).length ≤ size) (begins : Begins buf text) :
    Succeeds (digitLoop buf p base n i fill) fun (written, count, left) =>
      Begins written (text ++ lowDigits base n) ∧ count = i + (lowDigits base n).length ∧
        left = fill - (lowDigits base n).length := by
  induction n using Nat.strong_induction_on generalizing buf text i fill with
  | _ n ih =>
      rw [AsciiTrace.digitLoop]
      by_cases positive : 0 < n
      case pos =>
        rw [lowDigits_of_pos positive, List.length_cons] at room ⊢
        rw [dif_pos positive]
        apply Succeeds.bind (begins.concat starts (by omega) _)
        intro stored isStored
        have next : (text ++ [digits.getD (n % base.value) 0]).length = p + (i + 1) := by
          rw [List.length_append, List.length_singleton, starts, Nat.add_assoc]
        apply (ih (n / base.value) (Nat.div_lt_self positive base.one_lt) next
          (by rw [List.length_append, List.length_singleton]; omega) isStored).mono
        rintro ⟨written, count, left⟩ ⟨isWritten, isCount, isLeft⟩
        refine ⟨?_, ?_, ?_⟩
        · simpa using isWritten
        · omega
        · push_cast
          omega
      case neg =>
        have zero : n = 0 := Nat.eq_zero_of_not_pos positive
        subst zero
        rw [dif_neg positive]
        exact ⟨_, rfl, by simpa [lowDigits] using begins, by simp [lowDigits], by simp [lowDigits]⟩

theorem Begins.fillLoop {zeros : Nat} (starts : text.length = p + i)
    (room : text.length + zeros ≤ size) (begins : Begins buf text) :
    Succeeds (fillLoop buf p i zeros) fun (written, count) =>
      Begins written (text ++ List.replicate zeros (ascii '0')) ∧ count = i + zeros := by
  induction zeros generalizing buf text i with
  | zero => exact ⟨_, rfl, by simpa using begins, rfl⟩
  | succ zeros ih =>
      apply Succeeds.bind (begins.concat starts (by omega) _)
      intro stored isStored
      have next : (text ++ [ascii '0']).length = p + (i + 1) := by
        rw [List.length_append, List.length_singleton, starts, Nat.add_assoc]
      apply (ih next (by rw [List.length_append, List.length_singleton]; omega) isStored).mono
      rintro ⟨written, count⟩ ⟨isWritten, isCount⟩
      constructor
      · simpa [List.replicate_succ] using isWritten
      · omega

/-- `itoa` writes the text of the number behind the text before it. -/
theorem Begins.itoa {n : BitVec 32} (starts : text.length = p)
    (room : text.length + (numberText base n fill).length ≤ size) (begins : Begins buf text) :
    Succeeds (itoa n buf p base fill) fun (written, count) =>
      Begins written (text ++ numberText base n fill) ∧
        count = (numberText base n fill).length := by
  rw [numberText, List.length_reverse, List.length_append, List.length_replicate] at room ⊢
  apply Succeeds.bind (begins.digitLoop (i := 0) starts (by omega))
  rintro ⟨stored, count, left⟩ ⟨isStored, isCount, isLeft⟩
  dsimp only at isStored isCount isLeft ⊢
  rw [isLeft]
  apply Succeeds.bind (isStored.fillLoop
    (by rw [List.length_append, starts, isCount, Nat.zero_add])
    (by rw [List.length_append]; omega))
  rintro ⟨filled, all⟩ ⟨isFilled, isAll⟩
  dsimp only at isFilled isAll ⊢
  rw [List.append_assoc] at isFilled
  apply Succeeds.bind (isFilled.reverseArray starts
    (by rw [List.length_append, List.length_replicate, isAll, isCount, Nat.zero_add]))
  intro reversed isReversed
  exact ⟨_, rfl, isReversed, by rw [isAll, isCount, Nat.zero_add]⟩

end Number

/-- A negative number is written as its absolute value, which is no `int` for the least one. -/
example : numberText .ten (-0x80000000#32) 0 = "2147483648".toList.map ascii := by decide

end FwkRtos.AsciiTrace

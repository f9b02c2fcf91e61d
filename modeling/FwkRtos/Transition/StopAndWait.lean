import Mathlib.Data.List.Basic
import Mathlib.Data.Option.Basic

/-!
# Stop and wait with an alternating flag

A sender repeats an item until it learns that the item was heard, and its acknowledgement may
get lost.  It marks items alternately, so the receiver can tell a repeated one from the next.
Some items restart the alternation instead; those are heard whenever they are sent.
-/

namespace FwkRtos.Transition.StopAndWait

universe u

variable {ι : Type u} (restarts : ι → Bool)

/-- What the sender was asked to send, and what of that it knows to be heard. -/
structure Sender (ι : Type u) where
  asked : List ι
  acked : List ι
  current : Option ι
  flag : Bool
  deriving DecidableEq

structure Receiver (ι : Type u) where
  expected : Bool
  heard : List ι
  deriving DecidableEq

/-- The flag of the next item. -/
def nextFlag (item : ι) (flag : Bool) : Bool :=
  if restarts item then true else !flag

def Sender.submit (sender : Sender ι) (item : ι) : Sender ι :=
  { sender with asked := sender.asked ++ [item], current := some item }

/-- The acknowledgement of the current item arrives. -/
def Sender.acknowledged (sender : Sender ι) (item : ι) : Sender ι :=
  { sender with
    acked := sender.acked ++ [item]
    current := none
    flag := nextFlag restarts item sender.flag }

/-- The receiver takes an item for a new one. -/
def accepts (item : ι) (flag expected : Bool) : Bool :=
  restarts item || flag == expected

def Receiver.hear (receiver : Receiver ι) (item : ι) (flag : Bool) : Receiver ι :=
  if accepts restarts item flag receiver.expected then
    ⟨nextFlag restarts item receiver.expected, receiver.heard ++ [item]⟩
  else receiver

/-- Everything was heard once and in order, but for an item that restarts the alternation,
which may have been heard more often. -/
inductive Heard : List ι → List ι → Prop
  | nil : Heard [] []
  | next {sent heard : List ι} (item : ι) : Heard sent heard →
      Heard (sent ++ [item]) (heard ++ [item])
  | again {sent heard : List ι} {item : ι} : restarts item = true →
      Heard (sent ++ [item]) heard → Heard (sent ++ [item]) (heard ++ [item])

variable {restarts}

/-- The other items were heard exactly once. -/
theorem Heard.filter_eq {sent heard : List ι} (all : Heard restarts sent heard) :
    heard.filter (fun item => !restarts item) = sent.filter fun item => !restarts item := by
  induction all with
  | nil => rfl
  | next item _ ih => rw [List.filter_append, List.filter_append, ih]
  | again isRestart _ ih =>
      rw [List.filter_append, ih]
      simp [isRestart]

/-- Where the two are: the current item was not heard, or it was, and only its
acknowledgement is missing. -/
inductive InStep (restarts : ι → Bool) (sender : Sender ι) (receiver : Receiver ι) : Prop
  | unheard (asked : sender.asked = sender.acked ++ sender.current.toList)
      (heard : Heard restarts sender.acked receiver.heard)
      (same : receiver.expected = sender.flag)
  | unacknowledged (item : ι) (isCurrent : sender.current = some item)
      (asked : sender.asked = sender.acked ++ [item])
      (heard : Heard restarts (sender.acked ++ [item]) receiver.heard)
      (next : receiver.expected = nextFlag restarts item sender.flag)

theorem inStep_start (flag : Bool) :
    InStep restarts (⟨[], [], none, flag⟩ : Sender ι) ⟨flag, []⟩ :=
  .unheard rfl .nil rfl

variable {sender : Sender ι} {receiver : Receiver ι} {item : ι}

theorem InStep.submit (inStep : InStep restarts sender receiver)
    (free : sender.current = none) (item : ι) :
    InStep restarts (sender.submit item) receiver := by
  cases inStep with
  | unheard asked heard same =>
      refine .unheard ?_ heard same
      show sender.asked ++ [item] = sender.acked ++ [item]
      rw [asked, free, Option.toList_none, List.append_nil]
  | unacknowledged other isCurrent =>
      rw [free] at isCurrent
      cases isCurrent

/-- The current item gets to the receiver. -/
theorem InStep.hear (inStep : InStep restarts sender receiver)
    (isCurrent : sender.current = some item) :
    Heard restarts (sender.acked ++ [item]) (receiver.hear restarts item sender.flag).heard ∧
      (receiver.hear restarts item sender.flag).expected =
        nextFlag restarts item sender.flag ∧ sender.asked = sender.acked ++ [item] := by
  cases inStep with
  | unheard asked heard same =>
      have accepted : accepts restarts item sender.flag receiver.expected = true := by
        rw [accepts, same, beq_self_eq_true, Bool.or_true]
      rw [Receiver.hear, if_pos accepted, same]
      refine ⟨heard.next item, rfl, ?_⟩
      rw [asked, isCurrent]
      rfl
  | unacknowledged other isOther asked heard next =>
      obtain rfl : other = item := Option.some.inj (isOther.symm.trans isCurrent)
      refine ⟨?_, ?_, asked⟩ <;> rw [Receiver.hear, next, nextFlag] <;>
        cases isRestart : restarts other
      · simpa [accepts, isRestart] using heard
      · simpa [accepts, isRestart] using heard.again isRestart
      · simp [accepts, isRestart, next, nextFlag]
      · simp [accepts, isRestart, nextFlag]

/-- It does, and the acknowledgement arrives. -/
theorem InStep.acknowledged (inStep : InStep restarts sender receiver)
    (isCurrent : sender.current = some item) :
    InStep restarts (sender.acknowledged restarts item)
      (receiver.hear restarts item sender.flag) := by
  obtain ⟨heard, expected, asked⟩ := inStep.hear isCurrent
  refine .unheard ?_ heard expected
  show sender.asked = sender.acked ++ [item] ++ []
  rw [asked, List.append_nil]

/-- It does, and the acknowledgement gets lost. -/
theorem InStep.unanswered (inStep : InStep restarts sender receiver)
    (isCurrent : sender.current = some item) :
    InStep restarts sender (receiver.hear restarts item sender.flag) := by
  obtain ⟨heard, expected, asked⟩ := inStep.hear isCurrent
  exact .unacknowledged item isCurrent asked heard expected

/-- Hearing does not depend on what was heard. -/
theorem Receiver.hear_append (expected flag : Bool) (heard : List ι) (item : ι) :
    Receiver.hear restarts ⟨expected, heard⟩ item flag =
      ⟨(Receiver.hear restarts ⟨expected, []⟩ item flag).expected,
        heard ++ (Receiver.hear restarts ⟨expected, []⟩ item flag).heard⟩ := by
  rw [Receiver.hear, Receiver.hear]
  split
  · rfl
  · rw [List.append_nil]

/-- What was heard is what was asked for up to some item, with all that is acknowledged. -/
theorem InStep.heard (inStep : InStep restarts sender receiver) :
    ∃ sent, Heard restarts sent receiver.heard ∧ sender.acked <+: sent ∧
      sent <+: sender.asked := by
  cases inStep with
  | unheard asked heard _ =>
      refine ⟨sender.acked, heard, List.prefix_refl _, ?_⟩
      rw [asked]
      exact List.prefix_append _ _
  | unacknowledged item _ asked heard _ =>
      exact ⟨sender.acked ++ [item], heard, List.prefix_append _ _, asked ▸ List.prefix_refl _⟩

end FwkRtos.Transition.StopAndWait

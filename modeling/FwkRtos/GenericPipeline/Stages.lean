import FwkRtos.Transition.Labelled
import Mathlib.Logic.Function.Basic

/-!
# The stages of a generic pipeline

One thread runs each stage: it takes a frame from the input function or from
the queue behind it, passes the frame to its stage function and hands it to the
queue before it or to the output function.  `stageCount - 1` queues of two
frames lie between the stages.
-/

namespace FwkRtos.GenericPipeline

open FwkRtos.Transition

universe u

/-- A frame buffer returned by the input function.  `number` is a ghost: the count
of the frames returned before it. -/
structure Frame (Buffer : Type u) where
  number : Nat
  buffer : Buffer
  deriving DecidableEq

/-- Where a stage thread is in its loop. -/
inductive Point (Buffer : Type u)
  /-- About to receive from the input queue or to call `input`. -/
  | fetch
  /-- About to call the stage function. -/
  | ready (frame : Frame Buffer)
  /-- Inside the stage function. -/
  | running (frame : Frame Buffer)
  /-- About to send to the output queue or to call `output`. -/
  | put (frame : Frame Buffer)
  /-- About to free the frame that `output` returned non-zero for. -/
  | free (frame : Frame Buffer)
  /-- About to yield. -/
  | yield
  deriving DecidableEq

/-- A pipeline.  The fields after the queues are ghosts: the frames returned by
`input`, the calls of each stage function, what each stage has handed on, the
results of `output`, and what was freed, all in order. -/
structure Pipeline (Buffer : Type u) where
  point : Nat → Point Buffer
  queues : Nat → List (Frame Buffer)
  input : List (Frame Buffer)
  called : Nat → List (Frame Buffer)
  passed : Nat → List (Frame Buffer)
  output : List (Frame Buffer × Int)
  freed : List (Frame Buffer)

/-- What happens in a step of a stage thread: the input or the output function
returns, or the thread goes on by itself. -/
inductive Event (Buffer : Type u)
  | input (returned : Option Buffer)
  | output (returned : Int)
  | go
  deriving DecidableEq

/-- The stage thread that takes a step, and the event. -/
structure Label (Buffer : Type u) where
  stage : Nat
  event : Event Buffer
  deriving DecidableEq

/-- The number of frames that a queue holds. -/
def queueLength : Nat := 2

variable {Buffer : Type u}

/-- The pipeline whose threads have been created. -/
def start : Pipeline Buffer where
  point := fun _ => .fetch
  queues := fun _ => []
  input := []
  called := fun _ => []
  passed := fun _ => []
  output := []
  freed := []

/-- `generic_pipeline_init`, which asserts in front of every thread that it creates that the
number of stages is one digit. -/
def genericPipelineInit (stageCount : Nat) : Option (Pipeline Buffer) :=
  if stageCount < 10 then some start else none

namespace Pipeline

def moveTo (pipeline : Pipeline Buffer) (stage : Nat) (point : Point Buffer) : Pipeline Buffer :=
  { pipeline with point := Function.update pipeline.point stage point }

/-- `input` has returned. -/
def read (pipeline : Pipeline Buffer) (stage : Nat) : Option Buffer → Pipeline Buffer
  | none => pipeline
  | some buffer =>
      { pipeline.moveTo stage (.ready ⟨pipeline.input.length, buffer⟩) with
        input := pipeline.input ++ [⟨pipeline.input.length, buffer⟩] }

/-- `rtos_osal_queue_receive` from the queue behind the stage. -/
def receive? (pipeline : Pipeline Buffer) (stage : Nat) : Option (Pipeline Buffer) :=
  match pipeline.queues (stage - 1) with
  | [] => none
  | frame :: rest =>
      some
        { pipeline.moveTo stage (.ready frame) with
          queues := Function.update pipeline.queues (stage - 1) rest }

/-- The stage function is called. -/
def call (pipeline : Pipeline Buffer) (stage : Nat) (frame : Frame Buffer) : Pipeline Buffer :=
  { pipeline.moveTo stage (.running frame) with
    called := Function.update pipeline.called stage (pipeline.called stage ++ [frame]) }

/-- `rtos_osal_queue_send` to the queue before the stage. -/
def send? (pipeline : Pipeline Buffer) (stage : Nat) (frame : Frame Buffer) :
    Option (Pipeline Buffer) :=
  if (pipeline.queues stage).length < queueLength then
    some
      { pipeline.moveTo stage .yield with
        queues := Function.update pipeline.queues stage (pipeline.queues stage ++ [frame])
        passed := Function.update pipeline.passed stage (pipeline.passed stage ++ [frame]) }
  else none

/-- `output` has returned. -/
def write (pipeline : Pipeline Buffer) (stage : Nat) (frame : Frame Buffer) (returned : Int) :
    Pipeline Buffer :=
  { pipeline.moveTo stage (if returned ≠ 0 then .free frame else .yield) with
    passed := Function.update pipeline.passed stage (pipeline.passed stage ++ [frame])
    output := pipeline.output ++ [(frame, returned)] }

/-- `rtos_osal_free`. -/
def release (pipeline : Pipeline Buffer) (stage : Nat) (frame : Frame Buffer) : Pipeline Buffer :=
  { pipeline.moveTo stage .yield with freed := pipeline.freed ++ [frame] }

end Pipeline

/-- One pass through the loop of `generic_pipeline_stage`, step by step.  The first
stage has no input queue and the last one no output queue. -/
def stageStep (stageCount stage : Nat) (pipeline : Pipeline Buffer) :
    Point Buffer → Event Buffer → Option (Pipeline Buffer)
  | .fetch, .input returned => if 0 < stage then none else some (pipeline.read stage returned)
  | .fetch, .go => if 0 < stage then pipeline.receive? stage else none
  | .ready frame, .go => some (pipeline.call stage frame)
  | .running frame, .go => some (pipeline.moveTo stage (.put frame))
  | .put frame, .go => if stage < stageCount - 1 then pipeline.send? stage frame else none
  | .put frame, .output returned =>
      if stage < stageCount - 1 then none else some (pipeline.write stage frame returned)
  | .free frame, .go => some (pipeline.release stage frame)
  | .yield, .go => some (pipeline.moveTo stage .fetch)
  | _, _ => none

/-- One step of one of the stage threads. -/
def next (stageCount : Nat) : LStep (Pipeline Buffer) (Label Buffer)
  | pipeline, ⟨stage, event⟩ =>
      if stage < stageCount then
        stageStep stageCount stage pipeline (pipeline.point stage) event
      else none

/-- What one step of a stage thread does, by its point. -/
inductive Took (stageCount stage : Nat) (source : Pipeline Buffer) : Pipeline Buffer → Prop
  | readNull : stage = 0 → source.point stage = .fetch → Took stageCount stage source source
  | read (buffer : Buffer) : stage = 0 → source.point stage = .fetch →
      Took stageCount stage source (source.read stage (some buffer))
  | receive {target : Pipeline Buffer} : 0 < stage → source.point stage = .fetch →
      source.receive? stage = some target → Took stageCount stage source target
  | call (frame : Frame Buffer) : source.point stage = .ready frame →
      Took stageCount stage source (source.call stage frame)
  | finish (frame : Frame Buffer) : source.point stage = .running frame →
      Took stageCount stage source (source.moveTo stage (.put frame))
  | send {target : Pipeline Buffer} (frame : Frame Buffer) : stage < stageCount - 1 →
      source.point stage = .put frame → source.send? stage frame = some target →
      Took stageCount stage source target
  | write (frame : Frame Buffer) (returned : Int) : ¬ stage < stageCount - 1 →
      source.point stage = .put frame →
      Took stageCount stage source (source.write stage frame returned)
  | release (frame : Frame Buffer) : source.point stage = .free frame →
      Took stageCount stage source (source.release stage frame)
  | yield : source.point stage = .yield →
      Took stageCount stage source (source.moveTo stage .fetch)

theorem took_of_next {stageCount : Nat} {source target : Pipeline Buffer} {label : Label Buffer}
    (step : next stageCount source label = some target) :
    label.stage < stageCount ∧ Took stageCount label.stage source target := by
  obtain ⟨stage, event⟩ := label
  simp only [next] at step
  by_cases inside : stage < stageCount
  · rw [if_pos inside] at step
    refine ⟨inside, ?_⟩
    cases point : source.point stage with
    | fetch =>
        rw [point] at step
        by_cases behind : 0 < stage
        · cases event with
          | input returned => simp [stageStep, behind] at step
          | output returned => cases step
          | go =>
              simp only [stageStep, behind, if_true] at step
              exact .receive behind point step
        · have isFirst : stage = 0 := Nat.eq_zero_of_not_pos behind
          cases event with
          | input returned =>
              simp only [stageStep, behind, if_false, Option.some.injEq] at step
              subst step
              cases returned with
              | none => exact .readNull isFirst point
              | some buffer => exact .read buffer isFirst point
          | output returned => cases step
          | go => simp [stageStep, behind] at step
    | ready frame =>
        rw [point] at step
        cases event with
        | go =>
            cases step
            exact .call frame point
        | input returned => cases step
        | output returned => cases step
    | running frame =>
        rw [point] at step
        cases event with
        | go =>
            cases step
            exact .finish frame point
        | input returned => cases step
        | output returned => cases step
    | put frame =>
        rw [point] at step
        by_cases before : stage < stageCount - 1
        · cases event with
          | go =>
              simp only [stageStep, before, if_true] at step
              exact .send frame before point step
          | input returned => cases step
          | output returned => simp [stageStep, before] at step
        · cases event with
          | go => simp [stageStep, before] at step
          | input returned => cases step
          | output returned =>
              simp only [stageStep, before, if_false, Option.some.injEq] at step
              subst step
              exact .write frame returned before point
    | free frame =>
        rw [point] at step
        cases event with
        | go =>
            cases step
            exact .release frame point
        | input returned => cases step
        | output returned => cases step
    | yield =>
        rw [point] at step
        cases event with
        | go =>
            cases step
            exact .yield point
        | input returned => cases step
        | output returned => cases step
  · rw [if_neg inside] at step
    cases step

end FwkRtos.GenericPipeline

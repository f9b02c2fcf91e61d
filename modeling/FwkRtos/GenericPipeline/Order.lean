import FwkRtos.GenericPipeline.Stages
import Mathlib.Data.List.Infix
import Mathlib.Data.List.Nodup

/-!
# Where every frame is

Laid end to end, the frames that a stage has handed on, the frame in its hand
and the frames in the queue behind it are the frames that the stage behind it
has handed on.  So what each stage has seen is a first part of what the input
function returned, in the same order and without repetition.
-/

namespace FwkRtos.GenericPipeline

open FwkRtos.Transition

universe u

variable {Buffer : Type u}

/-- The frame that a stage has taken and has not handed on. -/
def Point.inHand : Point Buffer → List (Frame Buffer)
  | .ready frame => [frame]
  | .running frame => [frame]
  | .put frame => [frame]
  | _ => []

/-- The frame in hand, once the stage function is called. -/
def Point.begun : Point Buffer → List (Frame Buffer)
  | .running frame => [frame]
  | .put frame => [frame]
  | _ => []

/-- The frame that is still to be freed. -/
def Point.unfreed : Point Buffer → List (Frame Buffer)
  | .free frame => [frame]
  | _ => []

/-- The frames whose buffer the stage uses. -/
def Point.holds : Point Buffer → List (Frame Buffer)
  | .free frame => [frame]
  | point => point.inHand

section
variable (frame : Frame Buffer)

@[simp]
theorem Point.inHand_put : (Point.put frame).inHand = [frame] :=
  rfl

@[simp]
theorem Point.begun_put : (Point.put frame).begun = [frame] :=
  rfl

end

/-- The frames that `output` returned non-zero for. -/
def Pipeline.toFree (pipeline : Pipeline Buffer) : List (Frame Buffer) :=
  (pipeline.output.filter fun returned => returned.2 ≠ 0).map Prod.fst

/-- What every step keeps. -/
structure PipelineInv (stageCount : Nat) (pipeline : Pipeline Buffer) : Prop where
  numbered : ∀ k (frame : Frame Buffer), pipeline.input[k]? = some frame → frame.number = k
  first : 0 < stageCount → pipeline.input = pipeline.passed 0 ++ (pipeline.point 0).inHand
  linked : ∀ stage, stage + 1 < stageCount →
    pipeline.passed stage =
      pipeline.passed (stage + 1) ++ (pipeline.point (stage + 1)).inHand ++ pipeline.queues stage
  called : ∀ stage, stage < stageCount →
    pipeline.called stage = pipeline.passed stage ++ (pipeline.point stage).begun
  output : ∀ stage, stage + 1 = stageCount →
    pipeline.output.map Prod.fst = pipeline.passed stage
  freed : ∀ stage, stage + 1 = stageCount →
    pipeline.freed ++ (pipeline.point stage).unfreed = pipeline.toFree
  onlyLast : ∀ stage, stage + 1 < stageCount → (pipeline.point stage).unfreed = []

theorem pipelineInv_start (stageCount : Nat) :
    PipelineInv stageCount (start : Pipeline Buffer) where
  numbered := fun _ _ found => nomatch found
  first := fun _ => rfl
  linked := fun _ _ => rfl
  called := fun _ _ => rfl
  output := fun _ _ => rfl
  freed := fun _ _ => rfl
  onlyLast := fun _ _ => rfl

section
variable {stageCount stage : Nat} {pipeline : Pipeline Buffer}

/-- A step that changes nothing but where its thread is, with the same frame in hand,
keeps the invariant. -/
theorem PipelineInv.moveTo (inv : PipelineInv stageCount pipeline) {point : Point Buffer}
    (inHand : point.inHand = (pipeline.point stage).inHand)
    (begun : point.begun = (pipeline.point stage).begun)
    (unfreed : point.unfreed = (pipeline.point stage).unfreed) :
    PipelineInv stageCount (pipeline.moveTo stage point) := by
  have samePoint : ∀ (part : Point Buffer → List (Frame Buffer)),
      part point = part (pipeline.point stage) → ∀ other,
        part (Function.update pipeline.point stage point other) = part (pipeline.point other) := by
    intro part same other
    by_cases isStage : other = stage
    · subst isStage
      rw [Function.update_self, same]
    · rw [Function.update_of_ne isStage]
  refine ⟨inv.numbered, ?_, ?_, ?_, inv.output, ?_, ?_⟩
  · intro some_
    exact (inv.first some_).trans (congrArg _ (samePoint _ inHand 0).symm)
  · intro other inside
    refine (inv.linked other inside).trans ?_
    rw [← samePoint _ inHand]
    rfl
  · intro other inside
    exact (inv.called other inside).trans (congrArg _ (samePoint _ begun other).symm)
  · intro other isLast
    exact (congrArg _ (samePoint _ unfreed other)).trans (inv.freed other isLast)
  · intro other inside
    exact (samePoint _ unfreed other).trans (inv.onlyLast other inside)

theorem PipelineInv.read (inv : PipelineInv stageCount pipeline) (inside : 0 < stageCount)
    (point : pipeline.point 0 = .fetch) (buffer : Buffer) :
    PipelineInv stageCount (pipeline.read 0 (some buffer)) := by
  have passed : pipeline.input = pipeline.passed 0 := by
    have first := inv.first inside
    rwa [point, show (Point.fetch : Point Buffer).inHand = [] from rfl, List.append_nil] at first
  refine ⟨?_, ?_, ?_, ?_, inv.output, ?_, ?_⟩
  · intro k frame found
    rcases Nat.lt_or_ge k pipeline.input.length with before | past
    · exact inv.numbered k frame (by rwa [← List.getElem?_append_left before])
    · have found := (List.getElem?_append_right past).symm.trans found
      have isFirst : k - pipeline.input.length = 0 := by
        simpa using (List.getElem?_eq_some_iff.mp found).1
      rw [isFirst] at found
      cases found
      exact Nat.le_antisymm past (Nat.sub_eq_zero_iff_le.mp isFirst)
  · intro _
    simp [Pipeline.read, Pipeline.moveTo, Point.inHand, ← passed]
  · intro other otherInside
    have kept : Function.update pipeline.point 0 (.ready ⟨pipeline.input.length, buffer⟩)
        (other + 1) = pipeline.point (other + 1) := Function.update_of_ne (by simp) _ _
    simpa [Pipeline.read, Pipeline.moveTo, kept] using inv.linked other otherInside
  · intro other otherInside
    by_cases isStage : other = 0
    · subst isStage
      simpa [Pipeline.read, Pipeline.moveTo, Point.begun, point] using inv.called 0 inside
    · simpa [Pipeline.read, Pipeline.moveTo, Function.update_of_ne isStage]
        using inv.called other otherInside
  · intro other isLast
    by_cases isStage : other = 0
    · subst isStage
      simpa [Pipeline.read, Pipeline.moveTo, Pipeline.toFree, Point.unfreed, point]
        using inv.freed 0 isLast
    · simpa [Pipeline.read, Pipeline.moveTo, Pipeline.toFree, Function.update_of_ne isStage]
        using inv.freed other isLast
  · intro other otherInside
    by_cases isStage : other = 0
    · subst isStage
      simp [Pipeline.read, Pipeline.moveTo, Point.unfreed]
    · simpa [Pipeline.read, Pipeline.moveTo, Function.update_of_ne isStage]
        using inv.onlyLast other otherInside

theorem PipelineInv.receive (inv : PipelineInv stageCount pipeline) (inside : stage < stageCount)
    (behind : 0 < stage) (point : pipeline.point stage = .fetch) {target : Pipeline Buffer}
    (received : pipeline.receive? stage = some target) : PipelineInv stageCount target := by
  obtain ⟨earlier, rfl⟩ : ∃ earlier, stage = earlier + 1 := ⟨stage - 1, by omega⟩
  unfold Pipeline.receive? at received
  rw [Nat.add_sub_cancel] at received
  cases queue : pipeline.queues earlier with
  | nil => simp [queue] at received
  | cons frame rest =>
      simp only [queue, Option.some.injEq] at received
      subst received
      refine ⟨inv.numbered, ?_, ?_, ?_, inv.output, ?_, ?_⟩
      · intro some_
        simpa [Pipeline.moveTo] using inv.first some_
      · intro other otherInside
        by_cases isBehind : other = earlier
        · subst isBehind
          simpa [Pipeline.moveTo, Point.inHand, point, queue] using inv.linked other inside
        · have notStage : other + 1 ≠ earlier + 1 := by omega
          simpa [Pipeline.moveTo, Function.update_of_ne isBehind, Function.update_of_ne notStage]
            using inv.linked other otherInside
      · intro other otherInside
        by_cases isStage : other = earlier + 1
        · subst isStage
          simpa [Pipeline.moveTo, Point.begun, point] using inv.called _ inside
        · simpa [Pipeline.moveTo, Function.update_of_ne isStage]
            using inv.called other otherInside
      · intro other isLast
        by_cases isStage : other = earlier + 1
        · subst isStage
          simpa [Pipeline.moveTo, Pipeline.toFree, Point.unfreed, point] using inv.freed _ isLast
        · simpa [Pipeline.moveTo, Pipeline.toFree, Function.update_of_ne isStage]
            using inv.freed other isLast
      · intro other otherInside
        by_cases isStage : other = earlier + 1
        · subst isStage
          simp [Pipeline.moveTo, Point.unfreed]
        · simpa [Pipeline.moveTo, Function.update_of_ne isStage]
            using inv.onlyLast other otherInside

theorem PipelineInv.call (inv : PipelineInv stageCount pipeline) (inside : stage < stageCount)
    {frame : Frame Buffer} (point : pipeline.point stage = .ready frame) :
    PipelineInv stageCount (pipeline.call stage frame) := by
  have sameHand : ∀ other,
      (Function.update pipeline.point stage (.running frame) other).inHand =
        (pipeline.point other).inHand := by
    intro other
    by_cases isStage : other = stage
    · subst isStage
      rw [Function.update_self, point]
      rfl
    · rw [Function.update_of_ne isStage]
  have sameUnfreed : ∀ other,
      (Function.update pipeline.point stage (.running frame) other).unfreed =
        (pipeline.point other).unfreed := by
    intro other
    by_cases isStage : other = stage
    · subst isStage
      rw [Function.update_self, point]
      rfl
    · rw [Function.update_of_ne isStage]
  refine ⟨inv.numbered, ?_, ?_, ?_, inv.output, ?_, ?_⟩
  · intro some_
    simpa [Pipeline.call, Pipeline.moveTo, sameHand] using inv.first some_
  · intro other otherInside
    simpa [Pipeline.call, Pipeline.moveTo, sameHand] using inv.linked other otherInside
  · intro other otherInside
    by_cases isStage : other = stage
    · subst isStage
      have called := inv.called other inside
      rw [point, show (Point.ready frame).begun = [] from rfl, List.append_nil] at called
      simp [Pipeline.call, Pipeline.moveTo, Point.begun, called]
    · simpa [Pipeline.call, Pipeline.moveTo, Function.update_of_ne isStage]
        using inv.called other otherInside
  · intro other isLast
    simpa [Pipeline.call, Pipeline.moveTo, Pipeline.toFree, sameUnfreed]
      using inv.freed other isLast
  · intro other otherInside
    simpa [Pipeline.call, Pipeline.moveTo, sameUnfreed] using inv.onlyLast other otherInside

/-- Handing a frame on moves it from the stage's hand to the frames handed on. -/
theorem PipelineInv.handOn (inv : PipelineInv stageCount pipeline) (inside : stage < stageCount)
    {frame : Frame Buffer} (point : pipeline.point stage = .put frame)
    {target : Pipeline Buffer} (after : Point Buffer) (afterHand : after.inHand = [])
    (points : target.point = Function.update pipeline.point stage after)
    (passed : target.passed =
      Function.update pipeline.passed stage (pipeline.passed stage ++ [frame]))
    (input : target.input = pipeline.input) (called : target.called = pipeline.called)
    (queues : ∀ other, other + 1 < stageCount →
      target.queues other = pipeline.queues other ++ if other = stage then [frame] else [])
    (output : ∀ other, other + 1 = stageCount →
      target.output.map Prod.fst = pipeline.output.map Prod.fst ++
        if other = stage then [frame] else [])
    (freed : ∀ other, other + 1 = stageCount →
      target.freed ++ (target.point other).unfreed = target.toFree)
    (onlyLast : stage + 1 < stageCount → after.unfreed = []) :
    PipelineInv stageCount target := by
  have afterBegun : after.begun = [] := by
    cases after <;> first | rfl | cases afterHand
  refine ⟨?_, ?_, ?_, ?_, ?_, freed, ?_⟩
  · rw [input]
    exact inv.numbered
  · intro some_
    rw [input, points, passed]
    by_cases isStage : 0 = stage
    · subst isStage
      simpa [afterHand, point] using inv.first some_
    · simpa [Function.update_of_ne isStage] using inv.first some_
  · intro other otherInside
    rw [points, passed, queues other otherInside]
    by_cases isStage : other = stage
    · subst isStage
      have next : other + 1 ≠ other := by omega
      have linked := congrArg (· ++ [frame]) (inv.linked other otherInside)
      simpa [Function.update_of_ne next] using linked
    · by_cases isBehind : other + 1 = stage
      · subst isBehind
        have linked := inv.linked other otherInside
        simpa [Function.update_of_ne isStage, afterHand, point, isStage] using linked
      · simpa [Function.update_of_ne isStage, Function.update_of_ne isBehind, isStage]
          using inv.linked other otherInside
  · intro other otherInside
    rw [points, passed, called]
    by_cases isStage : other = stage
    · subst isStage
      simpa [afterBegun, point] using inv.called other otherInside
    · simpa [Function.update_of_ne isStage] using inv.called other otherInside
  · intro other isLast
    rw [passed, output other isLast, inv.output other isLast]
    by_cases isStage : other = stage
    · subst isStage
      simp
    · simp [isStage]
  · intro other otherInside
    rw [points]
    by_cases isStage : other = stage
    · subst isStage
      rw [Function.update_self]
      exact onlyLast otherInside
    · rw [Function.update_of_ne isStage]
      exact inv.onlyLast other otherInside

theorem PipelineInv.send (inv : PipelineInv stageCount pipeline) (inside : stage < stageCount)
    (before : stage < stageCount - 1) {frame : Frame Buffer}
    (point : pipeline.point stage = .put frame) {target : Pipeline Buffer}
    (sent : pipeline.send? stage frame = some target) : PipelineInv stageCount target := by
  unfold Pipeline.send? at sent
  by_cases room : (pipeline.queues stage).length < queueLength
  · rw [if_pos room, Option.some.injEq] at sent
    subst sent
    refine inv.handOn inside point .yield rfl rfl rfl rfl rfl ?_ ?_ ?_ fun _ => rfl
    · intro other _
      by_cases isStage : other = stage
      · subst isStage
        simp
      · simp [isStage]
    · intro other isLast
      have notStage : other ≠ stage := by omega
      simp [Pipeline.moveTo, notStage]
    · intro other isLast
      have notStage : other ≠ stage := by omega
      simpa [Pipeline.moveTo, Pipeline.toFree, Function.update_of_ne notStage]
        using inv.freed other isLast
  · rw [if_neg room] at sent
    cases sent

theorem PipelineInv.write (inv : PipelineInv stageCount pipeline) (inside : stage < stageCount)
    (last : ¬ stage < stageCount - 1) {frame : Frame Buffer}
    (point : pipeline.point stage = .put frame) (returned : Int) :
    PipelineInv stageCount (pipeline.write stage frame returned) := by
  have isLast : ∀ other, other + 1 = stageCount → other = stage := by omega
  refine inv.handOn inside point (if returned ≠ 0 then .free frame else .yield)
    ?_ rfl rfl rfl rfl ?_ ?_ ?_ ?_
  · by_cases toFree : returned ≠ 0
    · rw [if_pos toFree]
      rfl
    · rw [if_neg toFree]
      rfl
  · intro other otherInside
    have notStage : other ≠ stage := by omega
    simp [Pipeline.write, Pipeline.moveTo, notStage]
  · intro other otherLast
    simp [Pipeline.write, isLast other otherLast]
  · intro other otherLast
    obtain rfl := isLast other otherLast
    have freed := inv.freed other otherLast
    rw [point, show (Point.put frame).unfreed = [] from rfl, List.append_nil] at freed
    by_cases toFree : returned ≠ 0
    · simp [Pipeline.write, Pipeline.moveTo, Pipeline.toFree, Point.unfreed, toFree, freed]
    · rw [not_not] at toFree
      simp [Pipeline.write, Pipeline.moveTo, Pipeline.toFree, Point.unfreed, toFree, freed]
  · omega

theorem PipelineInv.release (inv : PipelineInv stageCount pipeline) (inside : stage < stageCount)
    {frame : Frame Buffer} (point : pipeline.point stage = .free frame) :
    PipelineInv stageCount (pipeline.release stage frame) := by
  have isLast : stage + 1 = stageCount := by
    by_contra notLast
    have unfreed := inv.onlyLast stage (by omega)
    rw [point] at unfreed
    cases unfreed
  refine ⟨inv.numbered, ?_, ?_, ?_, inv.output, ?_, ?_⟩
  · intro some_
    have first := inv.first some_
    by_cases isStage : 0 = stage
    · subst isStage
      simpa [Pipeline.release, Pipeline.moveTo, Point.inHand, point] using first
    · simpa [Pipeline.release, Pipeline.moveTo, Function.update_of_ne isStage] using first
  · intro other otherInside
    have linked := inv.linked other otherInside
    by_cases isStage : other + 1 = stage
    · subst isStage
      simpa [Pipeline.release, Pipeline.moveTo, Point.inHand, point] using linked
    · simpa [Pipeline.release, Pipeline.moveTo, Function.update_of_ne isStage] using linked
  · intro other otherInside
    have called := inv.called other otherInside
    by_cases isStage : other = stage
    · subst isStage
      simpa [Pipeline.release, Pipeline.moveTo, Point.begun, point] using called
    · simpa [Pipeline.release, Pipeline.moveTo, Function.update_of_ne isStage] using called
  · intro other otherLast
    obtain rfl : other = stage := by omega
    have freed := inv.freed other otherLast
    rw [point] at freed
    simpa [Pipeline.release, Pipeline.moveTo, Pipeline.toFree, Point.unfreed] using freed
  · intro other otherInside
    have notStage : other ≠ stage := by omega
    simpa [Pipeline.release, Pipeline.moveTo, Function.update_of_ne notStage]
      using inv.onlyLast other otherInside

end

/-- Every step of a stage thread keeps the invariant. -/
theorem PipelineInv.step {stageCount : Nat} {source target : Pipeline Buffer}
    {label : Label Buffer} (inv : PipelineInv stageCount source)
    (step : next stageCount source label = some target) : PipelineInv stageCount target := by
  obtain ⟨inside, took⟩ := took_of_next step
  generalize label.stage = stage at inside took
  cases took with
  | readNull isFirst point => exact inv
  | read buffer isFirst point =>
      subst isFirst
      exact inv.read inside point buffer
  | receive behind point received => exact inv.receive inside behind point received
  | call frame point => exact inv.call inside point
  | finish frame point =>
      exact inv.moveTo (by rw [point]; rfl) (by rw [point]; rfl) (by rw [point]; rfl)
  | send frame before point sent => exact inv.send inside before point sent
  | write frame returned last point => exact inv.write inside last point returned
  | release frame point => exact inv.release inside point
  | yield point => exact inv.moveTo (by rw [point]; rfl) (by rw [point]; rfl) (by rw [point]; rfl)

theorem pipelineInv_of_reachable {stageCount : Nat} {pipeline : Pipeline Buffer}
    (reachable : Reachable (next stageCount) start pipeline) : PipelineInv stageCount pipeline :=
  reachable.invariant (pipelineInv_start stageCount) fun _ _ _ inv _ step => inv.step step

/-! ## Exactly once and in order -/

namespace PipelineInv

variable {stageCount : Nat} {pipeline : Pipeline Buffer}

theorem next_le_passed (inv : PipelineInv stageCount pipeline) {stage : Nat}
    (inside : stage + 1 < stageCount) :
    pipeline.passed (stage + 1) ++
      (pipeline.point (stage + 1)).inHand <+: pipeline.passed stage := by
  rw [inv.linked stage inside]
  exact List.prefix_append _ _

/-- What a stage has taken is a first part of what was read. -/
theorem taken_le_input (inv : PipelineInv stageCount pipeline) {stage : Nat}
    (inside : stage < stageCount) :
    pipeline.passed stage ++ (pipeline.point stage).inHand <+: pipeline.input := by
  induction stage with
  | zero =>
      rw [inv.first inside]
  | succ stage ih =>
      exact (inv.next_le_passed inside).trans
        ((List.prefix_append _ _).trans (ih (Nat.lt_of_succ_lt inside)))

/-- What a stage has taken has been handed on by every stage behind it. -/
theorem taken_le_passed (inv : PipelineInv stageCount pipeline) {behind stage : Nat}
    (order : behind < stage) (inside : stage < stageCount) :
    pipeline.passed stage ++ (pipeline.point stage).inHand <+: pipeline.passed behind := by
  induction stage, order using Nat.le_induction with
  | base => exact inv.next_le_passed inside
  | succ stage later ih =>
      exact (inv.next_le_passed inside).trans
        ((List.prefix_append _ _).trans (ih (Nat.lt_of_succ_lt inside)))

theorem passed_le_passed (inv : PipelineInv stageCount pipeline) {behind stage : Nat}
    (order : behind ≤ stage) (inside : stage < stageCount) :
    pipeline.passed stage <+: pipeline.passed behind := by
  rcases Nat.lt_or_eq_of_le order with before | rfl
  · exact (List.prefix_append _ _).trans (inv.taken_le_passed before inside)
  · exact List.prefix_refl _

/-- The frames that were read are distinct. -/
theorem input_nodup (inv : PipelineInv stageCount pipeline) : pipeline.input.Nodup := by
  rw [List.nodup_iff_getElem?_ne_getElem?]
  intro first second before inside same
  rw [List.getElem?_eq_getElem inside, List.getElem?_eq_some_iff] at same
  obtain ⟨_, same⟩ := same
  have firstNumber := inv.numbered first _ (List.getElem?_eq_getElem (before.trans inside))
  have secondNumber := inv.numbered second _ (List.getElem?_eq_getElem inside)
  rw [same, secondNumber] at firstNumber
  exact Nat.ne_of_gt before firstNumber

/-- A stage has begun with what it has handed on and at most its frame in hand. -/
theorem called_le_taken (inv : PipelineInv stageCount pipeline) {stage : Nat}
    (inside : stage < stageCount) :
    pipeline.called stage <+: pipeline.passed stage ++ (pipeline.point stage).inHand := by
  rw [inv.called stage inside, List.prefix_append_right_inj]
  cases pipeline.point stage with
  | running frame => exact List.prefix_refl _
  | put frame => exact List.prefix_refl _
  | ready frame => exact List.nil_prefix
  | fetch => exact List.prefix_refl _
  | free frame => exact List.prefix_refl _
  | yield => exact List.prefix_refl _

/-- The frame that a stage uses is in its hand, or the last stage is about to free
it. -/
theorem holds_cases (inv : PipelineInv stageCount pipeline) {stage : Nat}
    (inside : stage < stageCount) {frame : Frame Buffer}
    (holds : frame ∈ (pipeline.point stage).holds) :
    frame ∈ (pipeline.point stage).inHand ∨
      stage + 1 = stageCount ∧ frame ∈ pipeline.passed stage := by
  cases point : pipeline.point stage with
  | free other =>
      rw [point] at holds
      obtain rfl : frame = other := List.mem_singleton.mp holds
      have isLast : stage + 1 = stageCount := by
        by_contra notLast
        have unfreed := inv.onlyLast stage (by omega)
        rw [point] at unfreed
        cases unfreed
      refine .inr ⟨isLast, ?_⟩
      have freed := inv.freed stage isLast
      rw [point] at freed
      have inToFree : frame ∈ pipeline.toFree := by
        rw [← freed]
        exact List.mem_append_right _ List.mem_cons_self
      obtain ⟨returned, kept, rfl⟩ := List.mem_map.mp inToFree
      rw [← inv.output stage isLast]
      exact List.mem_map_of_mem (List.mem_of_mem_filter kept)
  | fetch | ready _ | running _ | put _ | yield =>
      rw [point] at holds
      exact .inl holds

/-- No frame is used by two stages. -/
theorem holds_disjoint (inv : PipelineInv stageCount pipeline) {behind stage : Nat}
    (order : behind < stage) (inside : stage < stageCount) {frame : Frame Buffer}
    (first : frame ∈ (pipeline.point behind).holds)
    (second : frame ∈ (pipeline.point stage).holds) : False := by
  have passedOn : frame ∈ pipeline.passed behind := by
    have taken := inv.taken_le_passed order inside
    rcases inv.holds_cases inside second with inHand | ⟨_, passed⟩
    · exact taken.subset (List.mem_append_right _ inHand)
    · exact taken.subset (List.mem_append_left _ passed)
  rcases inv.holds_cases (order.trans inside) first with inHand | ⟨isLast, _⟩
  · have distinct := inv.input_nodup.sublist (inv.taken_le_input (order.trans inside)).sublist
    exact (List.nodup_append.mp distinct).2.2 frame passedOn frame inHand rfl
  · omega

end PipelineInv

/-- Every frame that was read goes through the stage functions in their order, once
through each and in the order of reading; one stage at a time uses it; `output`
is called with the frames in that order; and a frame is freed once when `output`
returned non-zero for it, and not otherwise. -/
structure InOrder (stageCount : Nat) (pipeline : Pipeline Buffer) : Prop where
  distinct : pipeline.input.Nodup
  called : ∀ stage, stage < stageCount → pipeline.called stage <+: pipeline.input
  stageOrder : ∀ stage, stage + 1 < stageCount →
    pipeline.called (stage + 1) <+: pipeline.passed stage ∧
      pipeline.passed stage <+: pipeline.called stage
  exclusive : ∀ stage other, stage < stageCount → other < stageCount → stage ≠ other →
    ∀ frame ∈ (pipeline.point stage).holds, frame ∉ (pipeline.point other).holds
  output : ∀ stage, stage + 1 = stageCount →
    pipeline.output.map Prod.fst <+: pipeline.input ∧
      pipeline.output.map Prod.fst <+: pipeline.called stage
  freed : pipeline.freed <+: pipeline.toFree
  freedOnce : pipeline.freed.Nodup

theorem PipelineInv.inOrder {stageCount : Nat} {pipeline : Pipeline Buffer}
    (inv : PipelineInv stageCount pipeline) (some_ : 0 < stageCount) :
    InOrder stageCount pipeline := by
  have passed_called : ∀ stage, stage < stageCount →
      pipeline.passed stage <+: pipeline.called stage := by
    intro stage inside
    rw [inv.called stage inside]
    exact List.prefix_append _ _
  have outputs : ∀ stage, stage + 1 = stageCount →
      pipeline.output.map Prod.fst <+: pipeline.input := by
    intro stage isLast
    rw [inv.output stage isLast]
    exact (List.prefix_append _ _).trans (inv.taken_le_input (by omega))
  obtain ⟨last, isLast⟩ : ∃ last, last + 1 = stageCount := ⟨stageCount - 1, by omega⟩
  have freed : pipeline.freed <+: pipeline.toFree := by
    rw [← inv.freed last isLast]
    exact List.prefix_append _ _
  refine ⟨inv.input_nodup, ?_, ?_, ?_, ?_, freed, ?_⟩
  · intro stage inside
    exact (inv.called_le_taken inside).trans (inv.taken_le_input inside)
  · intro stage inside
    exact ⟨(inv.called_le_taken inside).trans (inv.next_le_passed inside),
      passed_called stage (Nat.lt_of_succ_lt inside)⟩
  · intro stage other inside otherInside different frame first second
    rcases Nat.lt_or_gt_of_ne different with before | after
    · exact inv.holds_disjoint before otherInside first second
    · exact inv.holds_disjoint after inside second first
  · intro stage stageLast
    refine ⟨outputs stage stageLast, ?_⟩
    rw [inv.output stage stageLast]
    exact passed_called stage (by omega)
  · have distinct := inv.input_nodup.sublist (outputs last isLast).sublist
    exact distinct.sublist
      (freed.sublist.trans (List.Sublist.map Prod.fst List.filter_sublist))

end FwkRtos.GenericPipeline

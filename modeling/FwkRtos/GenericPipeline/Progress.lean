import FwkRtos.GenericPipeline.Order
import FwkRtos.Transition.Fairness

/-!
# Every frame goes through

The frame that is furthest on is never held up: the queue before its stage is
empty, and the stage before it has nothing in its hand.  When no stage thread
that can go on is left out for ever, that frame reaches the output function,
and then the next one is the furthest on.
-/

namespace FwkRtos.GenericPipeline

open FwkRtos.Transition

universe u

variable {Buffer : Type u}

/-- The stage thread has a step to take. -/
def CanStep (stageCount stage : Nat) (pipeline : Pipeline Buffer) : Prop :=
  ∃ event target, next stageCount pipeline ⟨stage, event⟩ = some target

/-- The frames that have come as far as the stage. -/
def Pipeline.ahead (pipeline : Pipeline Buffer) : Nat → List (Frame Buffer)
  | 0 => pipeline.input
  | stage + 1 => pipeline.passed stage

/-- `m` frames have gone through the last stage, and the next one has come as far as
the given stage and has not been handed on by it. -/
structure At (last m stage : Nat) (pipeline : Pipeline Buffer) : Prop where
  inv : PipelineInv (last + 1) pipeline
  within : stage ≤ last
  through : (pipeline.passed last).length = m
  passed : (pipeline.passed stage).length = m
  arrived : m < (pipeline.ahead stage).length

/-- The steps that are left to the stage thread until it hands a frame on. -/
def Point.remaining : Point Buffer → Nat
  | .free _ => 5
  | .yield => 4
  | .fetch => 3
  | .ready _ => 2
  | .running _ => 1
  | .put _ => 0

/-- The frame has gone on to the next stage, or has gone through. -/
def GoneOn (last m stage : Nat) (pipeline : Pipeline Buffer) : Prop :=
  if stage = last then m < (pipeline.passed last).length
  else At last m (stage + 1) pipeline

/-! ## Steps of other stages -/

section
variable {stageCount : Nat} {source target : Pipeline Buffer} {label : Label Buffer}

/-- A step changes the point of its own stage only, and what that stage has handed
on. -/
theorem next_other (step : next stageCount source label = some target) (stage : Nat)
    (other : stage ≠ label.stage) :
    target.point stage = source.point stage ∧ target.passed stage = source.passed stage := by
  obtain ⟨inside, took⟩ := took_of_next step
  generalize label.stage = own at inside took other
  cases took with
  | readNull isFirst point => exact ⟨rfl, rfl⟩
  | read buffer isFirst point => exact ⟨Function.update_of_ne other _ _, rfl⟩
  | receive behind point received =>
      unfold Pipeline.receive? at received
      split at received
      · cases received
      · cases received
        exact ⟨Function.update_of_ne other _ _, rfl⟩
  | call frame point => exact ⟨Function.update_of_ne other _ _, rfl⟩
  | finish frame point => exact ⟨Function.update_of_ne other _ _, rfl⟩
  | send frame before point sent =>
      unfold Pipeline.send? at sent
      split at sent
      · cases sent
        exact ⟨Function.update_of_ne other _ _, Function.update_of_ne other _ _⟩
      · cases sent
  | write frame returned last point =>
      exact ⟨Function.update_of_ne other _ _, Function.update_of_ne other _ _⟩
  | release frame point => exact ⟨Function.update_of_ne other _ _, rfl⟩
  | yield point => exact ⟨Function.update_of_ne other _ _, rfl⟩

/-- What was read stays read. -/
theorem next_input (step : next stageCount source label = some target) :
    source.input <+: target.input := by
  obtain ⟨_, took⟩ := took_of_next step
  cases took with
  | read buffer isFirst point => exact List.prefix_append _ _
  | receive behind point received =>
      unfold Pipeline.receive? at received
      split at received
      · cases received
      · cases received
        exact List.prefix_refl _
  | send frame before point sent =>
      unfold Pipeline.send? at sent
      split at sent
      · cases sent
        exact List.prefix_refl _
      · cases sent
  | readNull | call | finish | write | release | yield => exact List.prefix_refl _

/-- What `output` was called with stays so, and what is freed stays freed. -/
theorem next_output (step : next stageCount source label = some target) :
    source.output <+: target.output ∧ source.freed <+: target.freed := by
  obtain ⟨_, took⟩ := took_of_next step
  cases took with
  | receive behind point received =>
      unfold Pipeline.receive? at received
      split at received
      · cases received
      · cases received
        exact ⟨List.prefix_refl _, List.prefix_refl _⟩
  | send frame before point sent =>
      unfold Pipeline.send? at sent
      split at sent
      · cases sent
        exact ⟨List.prefix_refl _, List.prefix_refl _⟩
      · cases sent
  | write frame returned last point => exact ⟨List.prefix_append _ _, List.prefix_refl _⟩
  | release frame point => exact ⟨List.prefix_refl _, List.prefix_append _ _⟩
  | read | readNull | call | finish | yield => exact ⟨List.prefix_refl _, List.prefix_refl _⟩

/-- What a stage has handed on stays handed on. -/
theorem next_passed (step : next stageCount source label = some target) (stage : Nat) :
    source.passed stage <+: target.passed stage := by
  by_cases own : stage = label.stage
  · obtain ⟨_, took⟩ := took_of_next step
    rw [← own] at took
    cases took with
    | receive behind point received =>
        unfold Pipeline.receive? at received
        split at received
        · cases received
        · cases received
          exact List.prefix_refl _
    | send frame before point sent =>
        unfold Pipeline.send? at sent
        split at sent
        · cases sent
          simp
        · cases sent
    | write frame returned last point => simp [Pipeline.write]
    | read | readNull | call | finish | release | yield => exact List.prefix_refl _
  · rw [(next_other step _ own).2]

theorem next_ahead (step : next stageCount source label = some target) (stage : Nat) :
    source.ahead stage <+: target.ahead stage := by
  cases stage with
  | zero => exact next_input step
  | succ stage => exact next_passed step stage

end

/-! ## The frame that is furthest on -/

section
variable {last m stage : Nat} {source target : Pipeline Buffer} {label : Label Buffer}

/-- A step that does not hand the frame on leaves it where it is. -/
theorem At.keep (isAt : At last m stage source)
    (step : next (last + 1) source label = some target)
    (passed : target.passed stage = source.passed stage) : At last m stage target := by
  have inv := isAt.inv.step step
  refine ⟨inv, isAt.within, ?_, by rw [passed, isAt.passed], ?_⟩
  · apply Nat.le_antisymm
    · rw [← isAt.passed, ← passed]
      exact (inv.passed_le_passed isAt.within (Nat.lt_succ_self last)).length_le
    · rw [← isAt.through]
      exact (next_passed step last).length_le
  · exact isAt.arrived.trans_le (next_ahead step stage).length_le

/-- The first stage has the frame in its hand. -/
theorem At.inHand_of_first (isAt : At last m 0 source) : (source.point 0).inHand ≠ [] := by
  intro empty
  have first := congrArg List.length (isAt.inv.first (Nat.succ_pos last))
  rw [empty, List.append_nil, isAt.passed] at first
  have arrived : m < source.input.length := isAt.arrived
  omega

/-- Every stage from the frame's to the last one has handed on the same frames. -/
theorem At.passed_eq (isAt : At last m stage source) {later : Nat} (order : stage ≤ later)
    (within : later ≤ last) : (source.passed later).length = m := by
  apply Nat.le_antisymm
  · rw [← isAt.passed]
    exact (isAt.inv.passed_le_passed order (Nat.lt_succ_of_le within)).length_le
  · rw [← isAt.through]
    exact (isAt.inv.passed_le_passed within (Nat.lt_succ_self last)).length_le

/-- Every step of the frame's stage brings it nearer to handing the frame on, and no
other step takes it back. -/
theorem At.step (isAt : At last m stage source)
    (step : next (last + 1) source label = some target) :
    At last m stage target ∧
        ((target.point stage).remaining < (source.point stage).remaining ∨
          (target.point stage).remaining = (source.point stage).remaining ∧
            ¬ label.stage = stage) ∨
      GoneOn last m stage target := by
  by_cases own : label.stage = stage
  · obtain ⟨inside, took⟩ := took_of_next step
    have keep := isAt.keep step
    rw [own] at inside took
    cases took with
    | readNull isFirst point =>
        subst isFirst
        exact absurd (by rw [point]; rfl) isAt.inHand_of_first
    | read buffer isFirst point =>
        subst isFirst
        exact absurd (by rw [point]; rfl) isAt.inHand_of_first
    | receive behind point received =>
        unfold Pipeline.receive? at received
        split at received
        · cases received
        · cases received
          refine .inl ⟨keep rfl, .inl ?_⟩
          simp [Pipeline.moveTo, point, Point.remaining]
    | call frame point =>
        refine .inl ⟨keep rfl, .inl ?_⟩
        simp [Pipeline.call, Pipeline.moveTo, point, Point.remaining]
    | finish frame point =>
        refine .inl ⟨keep rfl, .inl ?_⟩
        simp [Pipeline.moveTo, point, Point.remaining]
    | send frame before point sent =>
        right
        have notLast : stage ≠ last := by omega
        have nextPassed := (next_other step (stage + 1) (by omega)).2
        have lastPassed := (next_other step last (by omega)).2
        rw [GoneOn, if_neg notLast]
        refine ⟨isAt.inv.step step, by omega, by rw [lastPassed, isAt.through], ?_, ?_⟩
        · rw [nextPassed]
          exact isAt.passed_eq (Nat.le_succ stage) (by omega)
        · unfold Pipeline.send? at sent
          split at sent
          · cases sent
            simp [Pipeline.ahead, isAt.passed]
          · cases sent
    | write frame returned notBefore point =>
        right
        have isLast : stage = last := by
          have := isAt.within
          omega
        subst isLast
        rw [GoneOn, if_pos rfl]
        simp [Pipeline.write, isAt.passed]
    | release frame point =>
        refine .inl ⟨keep rfl, .inl ?_⟩
        simp [Pipeline.release, Pipeline.moveTo, point, Point.remaining]
    | yield point =>
        refine .inl ⟨keep rfl, .inl ?_⟩
        simp [Pipeline.moveTo, point, Point.remaining]
  · obtain ⟨point, passed⟩ := next_other step stage (Ne.symm own)
    exact .inl ⟨isAt.keep step passed, .inr ⟨by rw [point], own⟩⟩

/-- The frame's stage is never held up. -/
theorem At.canStep (isAt : At last m stage source) : CanStep (last + 1) stage source := by
  have inside : stage < last + 1 := Nat.lt_succ_of_le isAt.within
  cases point : source.point stage with
  | fetch =>
      cases stage with
      | zero => exact absurd (by rw [point]; rfl) isAt.inHand_of_first
      | succ behind =>
          have linked := congrArg List.length (isAt.inv.linked behind inside)
          rw [point, show (Point.fetch : Point Buffer).inHand = [] from rfl, List.append_nil,
            List.length_append, isAt.passed] at linked
          have arrived : m < (source.passed behind).length := isAt.arrived
          cases queue : source.queues behind with
          | nil =>
              rw [queue, List.length_nil] at linked
              omega
          | cons frame rest =>
              refine ⟨.go, { source.moveTo (behind + 1) (.ready frame) with
                queues := Function.update source.queues behind rest }, ?_⟩
              simp only [next, inside, if_true, point, stageStep, Nat.succ_pos, Pipeline.receive?,
                Nat.add_sub_cancel, queue]
  | ready frame =>
      refine ⟨.go, source.call stage frame, ?_⟩
      simp only [next, inside, if_true, point, stageStep]
  | running frame =>
      refine ⟨.go, source.moveTo stage (.put frame), ?_⟩
      simp only [next, inside, if_true, point, stageStep]
  | put frame =>
      by_cases before : stage < last
      · have linked := congrArg List.length (isAt.inv.linked stage (by omega))
        rw [List.length_append, List.length_append, isAt.passed,
          isAt.passed_eq (Nat.le_succ stage) before] at linked
        have room : (source.queues stage).length < queueLength := by
          rw [queueLength]
          omega
        refine ⟨.go, { source.moveTo stage .yield with
          queues := Function.update source.queues stage (source.queues stage ++ [frame])
          passed := Function.update source.passed stage (source.passed stage ++ [frame]) }, ?_⟩
        simp only [next, inside, if_true, point, stageStep, Nat.add_sub_cancel, before,
          Pipeline.send?, room]
      · refine ⟨.output 0, source.write stage frame 0, ?_⟩
        simp only [next, inside, if_true, point, stageStep, Nat.add_sub_cancel, before, if_false]
  | free frame =>
      refine ⟨.go, source.release stage frame, ?_⟩
      simp only [next, inside, if_true, point, stageStep]
  | yield =>
      refine ⟨.go, source.moveTo stage .fetch, ?_⟩
      simp only [next, inside, if_true, point, stageStep]

end

/-- While not all frames have gone through, one stage has the frame that is furthest
on. -/
theorem exists_at {last m : Nat} {pipeline : Pipeline Buffer}
    (inv : PipelineInv (last + 1) pipeline) (through : (pipeline.passed last).length = m)
    (unfinished : m < pipeline.input.length) : ∃ stage, At last m stage pipeline := by
  -- From the last stage back to the first one that the frame has come as far as.
  have search : ∀ stage, stage ≤ last → (pipeline.passed stage).length = m →
      ∃ stage, At last m stage pipeline := by
    intro stage
    induction stage with
    | zero => exact fun within passed => ⟨0, inv, within, through, passed, unfinished⟩
    | succ stage ih =>
        intro within passed
        by_cases arrived : m < (pipeline.passed stage).length
        · exact ⟨stage + 1, inv, within, through, passed, arrived⟩
        · refine ih (Nat.le_of_succ_le within) (Nat.le_antisymm (Nat.le_of_not_lt arrived) ?_)
          rw [← passed]
          exact (inv.passed_le_passed (Nat.le_succ stage) (Nat.lt_succ_of_le within)).length_le
  exact search last (Nat.le_refl last) through

/-! ## Fair runs -/

section
variable {last : Nat} {execution : Execution (next (last + 1)) (start : Pipeline Buffer)}

/-- No stage thread that can go on is left out for ever. -/
def Fair (stageCount : Nat) {initial : Pipeline Buffer}
    (execution : Execution (next stageCount) initial) : Prop :=
  ∀ stage, stage < stageCount →
    execution.WeaklyFair (CanStep stageCount stage) fun label => label.stage = stage

theorem Fair.gone_on (fair : Fair (last + 1) execution) (m : Nat) {stage : Nat}
    (within : stage ≤ last) : execution.LeadsTo (At last m stage) (GoneOn last m stage) :=
  .of_rank (fun pipeline => (pipeline.point stage).remaining)
    ((fair stage (Nat.lt_succ_of_le within)).mono fun _ isAt => isAt.canStep)
    fun n isAt => isAt.step (execution.step n)

/-- The frame that is furthest on goes through. -/
theorem Fair.gone_through (fair : Fair (last + 1) execution) (m : Nat) {stage : Nat}
    (within : stage ≤ last) :
    execution.LeadsTo (At last m stage) fun pipeline => m < (pipeline.passed last).length := by
  induction left : last - stage generalizing stage with
  | zero =>
      have isLast : stage = last := by omega
      refine (fair.gone_on m within).trans (.of_imp fun n gone => ?_)
      rwa [GoneOn, if_pos isLast] at gone
  | succ left ih =>
      have notLast : stage ≠ last := by omega
      refine (fair.gone_on m within).trans
        (.trans (.of_imp fun n gone => ?_) (@ih (stage + 1) (by omega) (by omega)))
      rwa [GoneOn, if_neg notLast] at gone

/-- Every frame that was read goes through. -/
theorem Fair.goes_through (fair : Fair (last + 1) execution) (m : Nat) :
    execution.LeadsTo (fun pipeline => m < pipeline.input.length)
      fun pipeline => m < (pipeline.passed last).length := by
  have inv : ∀ n, PipelineInv (last + 1) (execution.state n) :=
    execution.invariant (pipelineInv_start _) fun n inv => inv.step (execution.step n)
  intro n wasRead
  induction left : m + 1 - ((execution.state n).passed last).length using Nat.strong_induction_on
    generalizing n with
  | h bound ih =>
      by_cases through : m < ((execution.state n).passed last).length
      · exact ⟨n, Nat.le_refl n, through⟩
      · have unfinished : ((execution.state n).passed last).length <
            (execution.state n).input.length := by omega
        obtain ⟨stage, isAt⟩ := exists_at (inv n) rfl unfinished
        obtain ⟨k, later, further⟩ := fair.gone_through _ isAt.within n isAt
        have stillRead : m < (execution.state k).input.length := by
          clear further
          induction k, later using Nat.le_induction with
          | base => exact wasRead
          | succ k _ stillRead =>
              exact stillRead.trans_le (next_input (execution.step k)).length_le
        obtain ⟨j, evenLater, through⟩ := ih _ (by omega) k stillRead rfl
        exact ⟨j, later.trans evenLater, through⟩

/-- Frame `k` has gone through: every stage function was called with it, `output`
was, and it is freed when `output` returned non-zero. -/
structure Finished (stageCount k : Nat) (pipeline : Pipeline Buffer) : Prop where
  called : ∀ stage, stage < stageCount → k < (pipeline.called stage).length
  output : k < (pipeline.output).length
  freed : ∀ returned, pipeline.output[k]? = some returned → returned.2 ≠ 0 →
    returned.1 ∈ pipeline.freed

/-- The last stage is about to free the frame. -/
structure Freeing (last k : Nat) (returned : Frame Buffer × Int) (pipeline : Pipeline Buffer) :
    Prop where
  inv : PipelineInv (last + 1) pipeline
  output : pipeline.output[k]? = some returned
  point : pipeline.point last = .free returned.1

theorem Freeing.canStep {k : Nat} {returned : Frame Buffer × Int} {pipeline : Pipeline Buffer}
    (freeing : Freeing last k returned pipeline) : CanStep (last + 1) last pipeline := by
  refine ⟨.go, pipeline.release last returned.1, ?_⟩
  simp only [next, Nat.lt_succ_self last, if_true, freeing.point, stageStep]

theorem Freeing.step {k : Nat} {returned : Frame Buffer × Int} {source target : Pipeline Buffer}
    {label : Label Buffer} (freeing : Freeing last k returned source)
    (step : next (last + 1) source label = some target) :
    Freeing last k returned target ∧ ¬ label.stage = last ∨ returned.1 ∈ target.freed := by
  by_cases own : label.stage = last
  · right
    obtain ⟨_, took⟩ := took_of_next step
    have point := freeing.point
    rw [own] at took
    cases took with
    | release frame isFree =>
        rw [point] at isFree
        cases isFree
        exact List.mem_append_right _ List.mem_cons_self
    | readNull _ other | read _ _ other | receive _ other _ | call _ other | finish _ other
    | send _ _ other _ | write _ _ _ other | yield other =>
        rw [point] at other
        cases other
  · left
    refine ⟨⟨freeing.inv.step step, ?_, ?_⟩, own⟩
    · obtain ⟨more, same⟩ := (next_output step).1
      rw [← same, List.getElem?_append_left (List.getElem?_eq_some_iff.mp freeing.output).1]
      exact freeing.output
    · rw [(next_other step _ (Ne.symm own)).1]
      exact freeing.point

/-- Once it has gone through, a frame is freed when it is to be. -/
theorem Fair.finishes (fair : Fair (last + 1) execution) (k : Nat) :
    execution.LeadsTo (fun pipeline => k < (pipeline.passed last).length)
      (Finished (last + 1) k) := by
  have inv : ∀ n, PipelineInv (last + 1) (execution.state n) :=
    execution.invariant (pipelineInv_start _) fun n inv => inv.step (execution.step n)
  have called : ∀ n, k < ((execution.state n).passed last).length → ∀ stage, stage < last + 1 →
      k < ((execution.state n).called stage).length := by
    intro n through stage inside
    rw [(inv n).called stage inside, List.length_append]
    have longer := ((inv n).passed_le_passed (Nat.le_of_lt_succ inside)
      (Nat.lt_succ_self last)).length_le
    omega
  have output : ∀ n, ((execution.state n).output).length =
      ((execution.state n).passed last).length := by
    intro n
    rw [← (inv n).output last rfl, List.length_map]
  intro n through
  obtain ⟨returned, found⟩ : ∃ returned, (execution.state n).output[k]? = some returned :=
    ⟨_, List.getElem?_eq_getElem (by rwa [output n])⟩
  by_cases done : returned.2 ≠ 0 → returned.1 ∈ (execution.state n).freed
  · refine ⟨n, Nat.le_refl n, called n through, by rwa [output n], ?_⟩
    intro other same
    rw [found] at same
    cases same
    exact done
  · obtain ⟨toFree, unfreed⟩ := Classical.not_imp.mp done
    have inToFree : returned.1 ∈ (execution.state n).toFree := by
      refine List.mem_map_of_mem (List.mem_filter.mpr ⟨List.mem_of_getElem? found, ?_⟩)
      simpa using toFree
    rw [← (inv n).freed last rfl, List.mem_append, or_iff_right unfreed] at inToFree
    have point : (execution.state n).point last = .free returned.1 := by
      cases isPoint : (execution.state n).point last with
      | free frame =>
          rw [isPoint] at inToFree
          rw [List.mem_singleton.mp inToFree]
      | fetch | ready _ | running _ | put _ | yield =>
          rw [isPoint] at inToFree
          cases inToFree
    have frees : execution.LeadsTo (Freeing last k returned)
        fun pipeline => returned.1 ∈ pipeline.freed :=
      .of_step ((fair last (Nat.lt_succ_self last)).mono fun _ freeing => freeing.canStep)
        fun n freeing => freeing.step (execution.step n)
    obtain ⟨m, later, freed⟩ := frees n ⟨inv n, found, point⟩
    have kept : (execution.state n).output <+: (execution.state m).output := by
      clear freed
      induction m, later using Nat.le_induction with
      | base => exact List.prefix_refl _
      | succ m _ kept => exact kept.trans (next_output (execution.step m)).1
    have foundLater : (execution.state m).output[k]? = some returned := by
      obtain ⟨more, same⟩ := kept
      rw [← same, List.getElem?_append_left (List.getElem?_eq_some_iff.mp found).1]
      exact found
    have throughLater : k < ((execution.state m).passed last).length := by
      rw [← output m]
      exact (List.getElem?_eq_some_iff.mp foundLater).1
    refine ⟨m, later, called m throughLater, by rwa [output m], ?_⟩
    intro other same _
    rw [foundLater] at same
    cases same
    exact freed

end

/-- A pipeline of so many stages is started; in every interleaving of the stage threads the
frames go through in order and once each; and in every fair run each frame that was read
does go through. -/
def OnceInOrder (Buffer : Type u) (stageCount : Nat) : Prop :=
  ∃ initial : Pipeline Buffer, genericPipelineInit stageCount = some initial ∧
    (∀ pipeline, Reachable (next stageCount) initial pipeline → InOrder stageCount pipeline) ∧
    ∀ execution : Execution (next stageCount) initial, Fair stageCount execution → ∀ k,
      execution.LeadsTo (fun pipeline => k < pipeline.input.length) (Finished stageCount k)

/-- The frames go through as they are to for up to nine stages, and only for these. -/
theorem onceInOrder_iff (stageCount : Nat) (some_ : 0 < stageCount) :
    OnceInOrder Buffer stageCount ↔ stageCount < 10 := by
  constructor
  · rintro ⟨initial, started, _⟩
    by_contra many
    rw [genericPipelineInit, if_neg many] at started
    cases started
  · intro few
    refine ⟨start, if_pos few, ?_, ?_⟩
    · intro pipeline reachable
      exact (pipelineInv_of_reachable reachable).inOrder some_
    · obtain ⟨last, rfl⟩ : ∃ last, stageCount = last + 1 := ⟨stageCount - 1, by omega⟩
      intro execution fair k
      exact (fair.goes_through k).trans (fair.finishes k)

/-- Ten stages, the limit of the interface, do not start. -/
theorem tenStages_not_onceInOrder : ¬ OnceInOrder Nat 10 := by
  rintro ⟨initial, started, _⟩
  cases started

/-! ## Two stages and one frame -/

/-- One frame is read, goes through both stages and is freed. -/
def oneFrame : List (Label Nat) :=
  [⟨0, .input (some 7)⟩, ⟨0, .go⟩, ⟨0, .go⟩, ⟨0, .go⟩, ⟨0, .go⟩, ⟨1, .go⟩, ⟨1, .go⟩, ⟨1, .go⟩,
    ⟨1, .output 1⟩, ⟨1, .go⟩, ⟨1, .go⟩]

/-- Where that run ends. -/
def afterOneFrame : Pipeline Nat :=
  (run (next 2) start oneFrame).get (by decide)

theorem oneFrame_executed : run (next 2) start oneFrame = some afterOneFrame :=
  (Option.some_get _).symm

/-- From there the input function returns NULL for ever. -/
def oneFrameExecution : Execution (next 2) (start : Pipeline Nat) :=
  .ofRun ⟨0, .input none⟩ oneFrame_executed rfl

theorem oneFrame_fair : Fair 2 oneFrameExecution := by
  intro stage inside
  rcases Nat.lt_or_ge stage 1 with first | second
  · obtain rfl : stage = 0 := Nat.lt_one_iff.mp first
    refine Execution.Recurs.weaklyFair (fun n => ⟨max n oneFrame.length, Nat.le_max_left _ _, ?_⟩) _
    show (oneFrame[max n oneFrame.length]?.getD ⟨0, .input none⟩).stage = 0
    rw [List.getElem?_eq_none (Nat.le_max_right _ _)]
    rfl
  · obtain rfl : stage = 1 := by omega
    refine Execution.ofRun_weaklyFair _ _ _ ?_
    rintro ⟨event, target, step⟩
    cases event with
    | input returned => cases step
    | output returned => cases step
    | go => cases step

theorem oneFrame_onceInOrder :
    InOrder 2 afterOneFrame ∧ oneFrameExecution.LeadsTo (fun pipeline => 0 < pipeline.input.length)
      (Finished 2 0) := by
  obtain ⟨initial, started, inOrder, finishes⟩ := (onceInOrder_iff 2 (by decide)).mpr (by decide)
  cases started
  exact ⟨inOrder afterOneFrame (reachable_of_run oneFrame_executed),
    finishes oneFrameExecution oneFrame_fair 0⟩

end FwkRtos.GenericPipeline

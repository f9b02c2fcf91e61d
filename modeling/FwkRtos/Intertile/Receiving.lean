import FwkRtos.Intertile.Listening

/-!
# Steps of the receiving side

Every step keeps what the link keeps, as long as the calls of `rtos_intertile_rx_len` return
right and memory does not run out.
-/

namespace FwkRtos.Intertile

open FwkRtos.Transition
open FwkRtos.Osal (Timeout rtosOsalPortWaitForever)

universe u

variable {T : Type u} [DecidableEq T] {listeners : Listeners T} {receiver target : Receiver T}

/-! ## Bytes of messages -/

omit [DecidableEq T] in
@[simp]
theorem frames_append (first second : List (Entry T)) :
    frames (first ++ second) = frames first ++ frames second :=
  List.flatMap_append

omit [DecidableEq T] in
@[simp]
theorem frames_cons (entry : Entry T) (entries : List (Entry T)) :
    frames (entry :: entries) = entry.2.frame ++ frames entries :=
  List.flatMap_cons

omit [DecidableEq T] in
theorem bytes_bytes (task : T) (bytes : List UInt8) :
    (bytes.map (RxEvent.byte task) ++ [RxEvent.enable task]).flatMap RxEvent.bytes = bytes := by
  induction bytes with
  | nil => rfl
  | cons byte bytes ih => exact congrArg (byte :: ·) ih

omit [DecidableEq T] in
theorem afterPort_bytes (entry : Entry T) :
    (afterPort entry).flatMap RxEvent.bytes = wordBytes entry.2.len ++ entry.2.bytes := by
  rw [afterPort, List.flatMap_cons, bytes_bytes]
  rfl

/-! ## The link and the interrupt handler -/

theorem RxInv.sends (inv : RxInv listeners receiver) {task : T} {bytes : List UInt8}
    {fits : bytes.length < 2 ^ 32}
    (step : nextRx listeners receiver (.send task bytes fits) = some target) :
    RxInv listeners target := by
  cases step
  have addressed : Addressed listeners receiver.sent →
      Addressed listeners (receiver.sent ++ [(task, ⟨listeners.port task, bytes, fits⟩)]) := by
    intro addressed entry member
    rcases List.mem_append.mp member with earlier | last
    · exact addressed entry earlier
    · rw [List.mem_singleton.mp last]
  cases inv with
  | free done rest sent trace link trigger isr events rxLen outside settled isAddressed =>
      refine .free done (rest ++ [(task, ⟨listeners.port task, bytes, fits⟩)]) ?_ trace ?_ trigger
        isr events rxLen outside settled (addressed isAddressed)
      · exact (congrArg (· ++ _) sent).trans (List.append_assoc _ _ _)
      · show receiver.channel ++ (receiver.wire ++ _) = _
        rw [← List.append_assoc, link, frames_append, frames_cons]
        exact congrArg _ (List.append_nil _).symm
  | busy done entry rest past todo sent trace begun block link trigger busy settled isAddressed =>
      refine .busy done entry (rest ++ [(task, ⟨listeners.port task, bytes, fits⟩)]) past todo ?_
        trace begun block ?_ trigger busy settled (addressed isAddressed)
      · refine (congrArg (· ++ _) sent).trans ?_
        rw [List.append_assoc, List.cons_append]
      · show receiver.channel ++ (receiver.wire ++ _) = _
        rw [← List.append_assoc, link, frames_append, frames_cons, List.append_assoc]
        exact congrArg (_ ++ ·) (congrArg (_ ++ ·) (List.append_nil _).symm)

theorem RxInv.arrives (inv : RxInv listeners receiver)
    (step : nextRx listeners receiver .arrive = some target) : RxInv listeners target := by
  simp only [nextRx] at step
  split at step <;> cases step
  next byte wire isWire =>
    have same : (receiver.channel ++ [byte]) ++ wire = receiver.channel ++ receiver.wire := by
      rw [isWire, List.append_assoc, List.singleton_append]
    cases inv with
    | free done rest sent trace link trigger isr events rxLen outside settled addressed =>
        exact .free done rest sent trace (same.trans link) trigger isr events rxLen outside settled
          addressed
    | busy done entry rest past todo sent trace begun block link trigger busy settled addressed =>
        exact .busy done entry rest past todo sent trace begun block (same.trans link) trigger busy
          settled addressed

/-- The next thing is done for the message that is being received. -/
theorem RxInv.goesOn {done : List (Entry T)} {entry : Entry T} {rest : List (Entry T)}
    {past : List (RxEvent T)} {event : RxEvent T} {todo : List (RxEvent T)}
    (sent : receiver.sent = done ++ entry :: rest)
    (trace : receiver.trace = done.flatMap rxBlock ++ past)
    (block : rxBlock entry = past ++ event :: todo) (trigger : receiver.trigger = false)
    (settled : Settled done receiver.results) (addressed : Addressed listeners receiver.sent)
    (link : target.channel ++ target.wire = todo.flatMap RxEvent.bytes ++ frames rest)
    (isTrace : target.trace = receiver.trace ++ [event])
    (isSent : target.sent = receiver.sent) (isTrigger : target.trigger = receiver.trigger)
    (isResults : target.results = receiver.results)
    (busy : Busy entry target.isr target.events target.rxLen target.point todo) :
    RxInv listeners target := by
  refine .busy done entry rest (past ++ [event]) todo (isSent.trans sent) ?_ (by simp) ?_ link
    (isTrigger.trans trigger) busy (isResults ▸ settled) (isSent ▸ addressed)
  · rw [isTrace, trace, List.append_assoc]
  · rw [block, List.append_assoc, List.singleton_append]

/-- Nothing is done for it that others can see. -/
theorem RxInv.stays {done : List (Entry T)} {entry : Entry T} {rest : List (Entry T)}
    {past todo : List (RxEvent T)} (sent : receiver.sent = done ++ entry :: rest)
    (trace : receiver.trace = done.flatMap rxBlock ++ past) (begun : past ≠ [])
    (block : rxBlock entry = past ++ todo)
    (link : receiver.channel ++ receiver.wire = todo.flatMap RxEvent.bytes ++ frames rest)
    (trigger : receiver.trigger = false)
    (settled : Settled done receiver.results) (addressed : Addressed listeners receiver.sent)
    (isLink : target.channel ++ target.wire = receiver.channel ++ receiver.wire)
    (isTrace : target.trace = receiver.trace) (isSent : target.sent = receiver.sent)
    (isTrigger : target.trigger = receiver.trigger) (isResults : target.results = receiver.results)
    (busy : Busy entry target.isr target.events target.rxLen target.point todo) :
    RxInv listeners target :=
  .busy done entry rest past todo (isSent.trans sent) (isTrace.trans trace) begun block
    (isLink.trans link) (isTrigger.trans trigger) busy (isResults ▸ settled) (isSent ▸ addressed)

theorem RxInv.isr (inv : RxInv listeners receiver)
    (step : rtosIntertileIsr receiver = some target) : RxInv listeners target := by
  cases inv with
  | free done rest sent trace link trigger isr events rxLen outside settled addressed =>
      simp only [rtosIntertileIsr, isr] at step
      split at step <;> cases step
      next fires =>
        cases rest with
        | nil =>
            have none_ := List.append_eq_nil_iff.mp link
            exact absurd none_.1 fires.2
        | cons entry rest =>
            refine .busy done entry rest [.disable] (.port entry.2.port :: afterPort entry) sent ?_
              nofun rfl ?_ rfl ?_ settled addressed
            · show receiver.trace ++ [.disable] = _
              rw [trace]
            · refine link.trans ?_
              rw [frames_cons, List.flatMap_cons, afterPort_bytes]
              rfl
            · show Busy entry .inByte receiver.events receiver.rxLen receiver.point _
              rw [events, rxLen]
              exact .fired outside
  | busy done entry rest past todo sent trace begun block link trigger busy settled addressed =>
      generalize isIsr : receiver.isr = isr at busy
      generalize isEvents : receiver.events = events at busy
      generalize isRxLen : receiver.rxLen = rxLen at busy
      cases busy with
      | fired outside =>
          simp only [rtosIntertileIsr, isIsr] at step
          rw [List.flatMap_cons, afterPort_bytes] at link
          split at step
          · cases step
          · next port channel isChannel =>
            cases step
            rw [isChannel] at link
            obtain ⟨rfl, unread⟩ := List.cons.inj link
            refine .goesOn sent trace block trigger settled addressed ?_ rfl rfl rfl rfl ?_
            · rw [afterPort_bytes]
              exact unread
            · show Busy entry _ receiver.events receiver.rxLen receiver.point _
              rw [isEvents, isRxLen]
              exact .read outside
      | read outside =>
          simp only [rtosIntertileIsr, isIsr] at step
          cases step
          refine .stays sent trace begun block link trigger settled addressed rfl rfl rfl rfl rfl ?_
          show Busy entry .idle (Function.update receiver.events entry.2.port true) receiver.rxLen
            receiver.point _
          rw [isEvents, isRxLen]
          exact .flagged outside
      | flagged | word | reads =>
          simp only [rtosIntertileIsr, isIsr, trigger] at step
          split at step
          · next fires => exact absurd fires.1 nofun
          · cases step

/-! ## Tasks that are not concerned with a message -/

theorem BeforeWord.not_outside {point : RxPoint} (before : BeforeWord point) :
    point.outside = false := by
  cases before <;> rfl

theorem Reads.not_outside {message : Message} {rxLen : UInt32} {point : RxPoint}
    {left : List UInt8} (reads : Reads message rxLen point left) : point.outside = false := by
  cases reads <;> rfl

/-- A message is not concerned with what such tasks do. -/
theorem Busy.outsideMoves {entry : Entry T} {isr : RxIsr} {events : UInt8 → Bool}
    {rxLen : UInt32} {point : T → RxPoint} {todo : List (RxEvent T)}
    (busy : Busy entry isr events rxLen point todo) {task : T} {goesTo : RxPoint}
    (before : (point task).outside = true) (after : goesTo.outside = true) :
    Busy entry isr events rxLen (Function.update point task goesTo) todo := by
  have everybody : ∀ {other}, (point other).outside = true →
      (Function.update point task goesTo other).outside = true := by
    intro other outside
    by_cases same : other = task
    · rw [same, Function.update_self, after]
    · rw [Function.update_of_ne same, outside]
  have listener : (point entry.1).outside = false →
      Function.update point task goesTo entry.1 = point entry.1 := by
    intro inside
    apply Function.update_of_ne
    rintro rfl
    rw [before] at inside
    cases inside
  cases busy with
  | fired outside => exact .fired fun other => everybody (outside other)
  | read outside => exact .read fun other => everybody (outside other)
  | flagged outside => exact .flagged fun other => everybody (outside other)
  | word beforeWord outside =>
      refine .word ?_ fun other different => everybody (outside other different)
      rw [listener beforeWord.not_outside]
      exact beforeWord
  | reads reads outside =>
      refine .reads ?_ fun other different => everybody (outside other different)
      rw [listener reads.not_outside]
      exact reads

section Listener

variable {entry : Entry T} {point : T → RxPoint} {goesTo : RxPoint}
  (outside : ∀ task, task ≠ entry.1 → (point task).outside = true)

include outside

/-- The listener goes on before it has read the length. -/
theorem Busy.listenerBeforeWord (before : BeforeWord goesTo) :
    Busy entry .idle noEvents 0 (Function.update point entry.1 goesTo) (afterPort entry) := by
  refine .word ?_ fun other different => ?_
  · rw [Function.update_self]
    exact before
  · rw [Function.update_of_ne different]
    exact outside other different

/-- The listener goes on after it has read the length. -/
theorem Busy.listenerReads {rxLen : UInt32} {left : List UInt8}
    (reads : Reads entry.2 rxLen goesTo left) :
    Busy entry .idle noEvents rxLen (Function.update point entry.1 goesTo)
      (left.map (.byte entry.1) ++ [.enable entry.1]) := by
  refine .reads ?_ fun other different => ?_
  · rw [Function.update_self]
    exact reads
  · rw [Function.update_of_ne different]
    exact outside other different

end Listener

theorem RxInv.outsideMoves (inv : RxInv listeners receiver) {task : T} {goesTo : RxPoint}
    {results : T → List RxResult} (before : (receiver.point task).outside = true)
    (after : goesTo.outside = true)
    (settles : ∀ done, Settled done receiver.results → Settled done results) :
    RxInv listeners { receiver with
      point := Function.update receiver.point task goesTo
      results := results } := by
  cases inv with
  | free done rest sent trace link trigger isr events rxLen outside settled addressed =>
      refine .free done rest sent trace link trigger isr events rxLen ?_ (settles done settled)
        addressed
      intro other
      by_cases same : other = task
      · subst same
        exact (congrArg RxPoint.outside (Function.update_self ..)).trans after
      · exact (congrArg RxPoint.outside (Function.update_of_ne same ..)).trans (outside other)
  | busy done entry rest past todo sent trace begun block link trigger busy settled addressed =>
      exact .busy done entry rest past todo sent trace begun block link trigger
        (busy.outsideMoves before after) (settles done settled) addressed

/-- A call that timed out got nothing. -/
theorem Settled.timesOut {done : List (Entry T)} {results : T → List RxResult}
    (settled : Settled done results) (task : T) :
    Settled done (Function.update results task (results task ++ [.timedOut 0])) := by
  constructor
  · intro other
    rw [← settled.received other]
    by_cases same : other = task
    · subst same
      rw [Function.update_self, List.filter_append]
      exact List.append_nil _
    · rw [Function.update_of_ne same]
  · intro other len member
    by_cases same : other = task
    · subst same
      rw [Function.update_self] at member
      rcases List.mem_append.mp member with earlier | last
      · exact settled.timedOut other len earlier
      · cases List.mem_singleton.mp last
        rfl
    · rw [Function.update_of_ne same] at member
      exact settled.timedOut other len member

theorem RxInv.listens (inv : RxInv listeners receiver) {task : T} {listens : Listens}
    {timeout : Timeout}
    (step : nextRx listeners receiver (.listen task listens timeout) = some target) :
    RxInv listeners target := by
  cases point : receiver.point task <;> simp only [nextRx, point] at step
  case idle =>
    have before : (receiver.point task).outside = true := by
      rw [point]
      rfl
    cases listens with
    | rx =>
        cases step
        exact inv.outsideMoves before rfl fun _ => id
    | rxLen plan =>
        cases step
        exact inv.outsideMoves before rfl fun _ => id
  all_goals cases step

theorem RxInv.expires (inv : RxInv listeners receiver) {task : T}
    (step : expires listeners receiver task = some target) : RxInv listeners target := by
  unfold Intertile.expires at step
  split at step
  · cases step
  · cases point : receiver.point task <;> simp only [point] at step
    case rxGet timeout =>
      have before : (receiver.point task).outside = true := by
        rw [point]
        rfl
      split at step <;> cases step
      exact inv.outsideMoves before rfl fun _ settled => settled.timesOut task
    case lenGet timeout plan =>
      have before : (receiver.point task).outside = true := by
        rw [point]
        rfl
      split at step <;> cases step
      exact inv.outsideMoves before rfl fun _ => id
    all_goals cases step

/-! ## The listener of a message -/

omit [DecidableEq T] in
/-- A flag that is set is that of the message. -/
theorem Busy.flag {entry : Entry T} {isr : RxIsr} {events : UInt8 → Bool} {rxLen : UInt32}
    {point : T → RxPoint} {todo : List (RxEvent T)}
    (busy : Busy entry isr events rxLen point todo) {port : UInt8} (isSet : events port = true) :
    isr = .idle ∧ rxLen = 0 ∧ port = entry.2.port ∧
      Function.update events port false = noEvents ∧
        (∀ task, (point task).outside = true) ∧ todo = afterPort entry := by
  cases busy with
  | flagged outside =>
      have same : port = entry.2.port := by
        by_contra different
        rw [Function.update_of_ne different] at isSet
        cases isSet
      subst same
      refine ⟨rfl, rfl, rfl, ?_, outside, rfl⟩
      rw [Function.update_idem]
      exact Function.update_eq_self _ noEvents
  | fired | read | word | reads => cases isSet

/-- A task that sees its flag is the listener of the message. -/
theorem RxInv.takesFlag (inv : RxInv listeners receiver) {task : T} {goesTo : RxPoint}
    (isSet : receiver.events (listeners.port task) = true) (before : BeforeWord goesTo) :
    RxInv listeners { receiver with
      events := Function.update receiver.events (listeners.port task) false
      point := Function.update receiver.point task goesTo } := by
  cases inv with
  | free done rest sent trace link trigger isr events =>
      rw [events] at isSet
      cases isSet
  | busy done entry rest past todo sent trace begun block link trigger busy settled addressed =>
      obtain ⟨isr, rxLen, port, cleared, outside, rfl⟩ := busy.flag isSet
      have member : entry ∈ receiver.sent := by
        rw [sent]
        exact List.mem_append_right _ (List.mem_cons_self ..)
      obtain rfl : task = entry.1 := listeners.injective (port.trans (addressed entry member))
      refine .busy done entry rest past _ sent trace begun block link trigger ?_ settled addressed
      show Busy entry receiver.isr (Function.update receiver.events _ false) receiver.rxLen
        (Function.update receiver.point _ goesTo) _
      rw [isr, rxLen, cleared]
      exact .listenerBeforeWord (fun other _ => outside other) before

/-- The length of a message is read whole. -/
theorem word_of_link {channel wire rest : List UInt8} {word : UInt32}
    (link : channel ++ wire = wordBytes word ++ rest) (enough : 4 ≤ channel.length) :
    channel.take 4 = wordBytes word ∧ channel.drop 4 ++ wire = rest := by
  have split : channel.take 4 ++ (channel.drop 4 ++ wire) = wordBytes word ++ rest := by
    rw [← List.append_assoc, List.take_append_drop, link]
  refine List.append_inj split ?_
  rw [List.length_take, Nat.min_eq_left enough, length_wordBytes]

/-- The listener goes on, and nothing is done that others can see. -/
theorem RxInv.listenerStays {done : List (Entry T)} {entry : Entry T} {rest : List (Entry T)}
    {past : List (RxEvent T)} {left : List UInt8} {goesTo : RxPoint} {rxLen : UInt32}
    (sent : receiver.sent = done ++ entry :: rest)
    (trace : receiver.trace = done.flatMap rxBlock ++ past) (begun : past ≠ [])
    (block : rxBlock entry = past ++ (left.map (.byte entry.1) ++ [.enable entry.1]))
    (link : receiver.channel ++ receiver.wire = left ++ frames rest)
    (trigger : receiver.trigger = false) (settled : Settled done receiver.results)
    (addressed : Addressed listeners receiver.sent) (isr : receiver.isr = .idle)
    (events : receiver.events = noEvents)
    (outside : ∀ task, task ≠ entry.1 → (receiver.point task).outside = true)
    (reads : Reads entry.2 rxLen goesTo left) :
    RxInv listeners
      ({ receiver with rxLen := rxLen }.goTo entry.1 goesTo) := by
  refine .busy done entry rest past _ sent trace begun block ?_ trigger ?_ settled addressed
  · rw [bytes_bytes]
    exact link
  · show Busy entry receiver.isr receiver.events rxLen
      (Function.update receiver.point entry.1 goesTo) _
    rw [isr, events]
    exact .listenerReads outside reads

/-- The listener reads a byte. -/
theorem RxInv.listenerReads {done : List (Entry T)} {entry : Entry T} {rest : List (Entry T)}
    {past : List (RxEvent T)} {byte : UInt8} {left channel : List UInt8} {goesTo : RxPoint}
    (sent : receiver.sent = done ++ entry :: rest)
    (trace : receiver.trace = done.flatMap rxBlock ++ past)
    (block : rxBlock entry =
      past ++ (.byte entry.1 byte :: (left.map (.byte entry.1) ++ [.enable entry.1])))
    (link : channel ++ receiver.wire = left ++ frames rest)
    (trigger : receiver.trigger = false) (settled : Settled done receiver.results)
    (addressed : Addressed listeners receiver.sent) (isr : receiver.isr = .idle)
    (events : receiver.events = noEvents)
    (outside : ∀ task, task ≠ entry.1 → (receiver.point task).outside = true)
    (reads : Reads entry.2 receiver.rxLen goesTo left) :
    RxInv listeners
      ((receiver.input (.byte entry.1 byte) channel).goTo entry.1 goesTo) := by
  refine .goesOn sent trace block trigger settled addressed ?_ rfl rfl rfl rfl ?_
  · rw [bytes_bytes]
    exact link
  · show Busy entry receiver.isr receiver.events receiver.rxLen
      (Function.update receiver.point entry.1 goesTo) _
    rw [isr, events]
    exact .listenerReads outside reads

theorem received_append (task : T) (done : List (Entry T)) (entry : Entry T) :
    received task (done ++ [entry]) =
      if entry.1 = task then received task done ++ [.received entry.2.bytes]
      else received task done := by
  simp only [received, List.filter_append, List.map_append]
  by_cases isListener : entry.1 = task
  · simp [isListener]
  · simp [isListener]

/-- The listener has got the message. -/
theorem Settled.receives {done : List (Entry T)} {results : T → List RxResult}
    (settled : Settled done results) (entry : Entry T) :
    Settled (done ++ [entry]) (Function.update results entry.1
      (results entry.1 ++ [.received entry.2.bytes])) := by
  constructor
  · intro other
    rw [received_append, ← settled.received other]
    by_cases same : entry.1 = other
    · subst same
      rw [if_pos rfl, Function.update_self, List.filter_append]
      rfl
    · rw [if_neg same, Function.update_of_ne (Ne.symm same)]
  · intro other len member
    by_cases same : other = entry.1
    · subst same
      rw [Function.update_self] at member
      rcases List.mem_append.mp member with earlier | last
      · exact settled.timedOut _ len earlier
      · cases List.mem_singleton.mp last
    · rw [Function.update_of_ne same] at member
      exact settled.timedOut other len member

/-- The listener enables the trigger, with the whole message read. -/
theorem RxInv.listenerEnables {done : List (Entry T)} {entry : Entry T} {rest : List (Entry T)}
    {past : List (RxEvent T)} (sent : receiver.sent = done ++ entry :: rest)
    (trace : receiver.trace = done.flatMap rxBlock ++ past)
    (block : rxBlock entry = past ++ [.enable entry.1])
    (link : receiver.channel ++ receiver.wire = frames rest)
    (settled : Settled done receiver.results) (addressed : Addressed listeners receiver.sent)
    (isr : receiver.isr = .idle) (events : receiver.events = noEvents) (rxLen : receiver.rxLen = 0)
    (outside : ∀ task, task ≠ entry.1 → (receiver.point task).outside = true) :
    RxInv listeners
      (((receiver.enable entry.1).result entry.1 (.received entry.2.bytes)).goTo entry.1
        .idle) := by
  refine .free (done ++ [entry]) rest ?_ ?_ link rfl isr events rxLen ?_ (settled.receives entry)
    addressed
  · rw [List.append_assoc, List.singleton_append]
    exact sent
  · show receiver.trace ++ [.enable entry.1] = _
    rw [trace, List.flatMap_append, List.flatMap_singleton, block, List.append_assoc]
  · intro other
    by_cases same : other = entry.1
    · subst same
      show (Function.update receiver.point entry.1 RxPoint.idle entry.1).outside = true
      rw [Function.update_self]
      rfl
    · exact (congrArg RxPoint.outside (Function.update_of_ne same ..)).trans (outside other same)

/-- The listener runs before it has read the length. -/
theorem RxInv.beforeWordRuns {done : List (Entry T)} {entry : Entry T} {rest : List (Entry T)}
    {past : List (RxEvent T)} (sent : receiver.sent = done ++ entry :: rest)
    (trace : receiver.trace = done.flatMap rxBlock ++ past) (begun : past ≠ [])
    (block : rxBlock entry = past ++ afterPort entry)
    (link : receiver.channel ++ receiver.wire =
      (afterPort entry).flatMap RxEvent.bytes ++ frames rest)
    (trigger : receiver.trigger = false) (settled : Settled done receiver.results)
    (addressed : Addressed listeners receiver.sent) (isr : receiver.isr = .idle)
    (events : receiver.events = noEvents) (rxLen : receiver.rxLen = 0)
    (before : BeforeWord (receiver.point entry.1))
    (outside : ∀ task, task ≠ entry.1 → (receiver.point task).outside = true)
    (step : runRx listeners receiver entry.1 = some target) : RxInv listeners target := by
  have unread : receiver.channel ++ receiver.wire =
      wordBytes entry.2.len ++ (entry.2.bytes ++ frames rest) := by
    rw [link, afterPort_bytes, List.append_assoc]
  -- After the word the whole message is left to be read.
  have reads : ∀ {goesTo : RxPoint} {len : UInt32}, 4 ≤ receiver.channel.length →
      Reads entry.2 len goesTo entry.2.bytes →
        RxInv listeners ({ receiver.input (.word entry.1 (receiver.channel.take 4))
          (receiver.channel.drop 4) with rxLen := len }.goTo entry.1 goesTo) := by
    intro goesTo len enough reads
    obtain ⟨word, left⟩ := word_of_link unread enough
    refine .goesOn sent trace block trigger settled addressed ?_ ?_ rfl rfl rfl ?_
    · rw [bytes_bytes]
      exact left
    · exact congrArg (fun bytes => receiver.trace ++ [.word entry.1 bytes]) word
    · show Busy entry receiver.isr receiver.events len
        (Function.update receiver.point entry.1 goesTo) _
      rw [isr, events]
      exact .listenerReads outside reads
  have len : 4 ≤ receiver.channel.length →
      wordOfBytes (receiver.channel.take 4) = entry.2.len := by
    intro enough
    rw [(word_of_link unread enough).1, wordOfBytes_wordBytes]
  generalize point : receiver.point entry.1 = goesOn at before
  cases before with
  | rxWord =>
      simp only [runRx, rtosIntertileRx, Receiver.inWord?, point] at step
      split at step
      · next enough =>
        cases step
        rw [len enough]
        exact reads enough (.rxMalloc rxLen)
      · cases step
  | @lenAssert plan =>
      simp only [runRx, rtosIntertileRxLen, point, if_pos rxLen] at step
      cases step
      refine .stays sent trace begun block link trigger settled addressed rfl rfl rfl rfl rfl ?_
      show Busy entry receiver.isr receiver.events receiver.rxLen
        (Function.update receiver.point entry.1 (.lenWord plan)) _
      rw [isr, events, rxLen]
      exact .listenerBeforeWord outside .lenWord
  | lenWord =>
      simp only [runRx, rtosIntertileRxLen, Receiver.inWord?, point] at step
      split at step
      · next enough =>
        cases step
        rw [len enough]
        exact reads enough (.lenReturn rfl)
      · cases step

/-- The listener runs after it has read the length. -/
theorem RxInv.listenerRuns {done : List (Entry T)} {entry : Entry T} {rest : List (Entry T)}
    {past : List (RxEvent T)} {left : List UInt8} (sent : receiver.sent = done ++ entry :: rest)
    (trace : receiver.trace = done.flatMap rxBlock ++ past) (begun : past ≠ [])
    (block : rxBlock entry = past ++ (left.map (.byte entry.1) ++ [.enable entry.1]))
    (link : receiver.channel ++ receiver.wire = left ++ frames rest)
    (trigger : receiver.trigger = false) (settled : Settled done receiver.results)
    (addressed : Addressed listeners receiver.sent) (isr : receiver.isr = .idle)
    (events : receiver.events = noEvents)
    (reads : Reads entry.2 receiver.rxLen (receiver.point entry.1) left)
    (outside : ∀ task, task ≠ entry.1 → (receiver.point task).outside = true)
    (right : ReturnsRight receiver (receiver.point entry.1))
    (step : runRx listeners receiver entry.1 = some target) : RxInv listeners target := by
  -- What the steps have in common: nothing is done, a byte is read, or the trigger enabled.
  have stays : ∀ {goesTo : RxPoint} {rxLen : UInt32}, Reads entry.2 rxLen goesTo left →
      RxInv listeners ({ receiver with rxLen := rxLen }.goTo entry.1 goesTo) := fun reads =>
    .listenerStays sent trace begun block link trigger settled addressed isr events outside reads
  have byteRead : ∀ {byte : UInt8} {channel later : List UInt8} {goesTo : RxPoint},
      left = byte :: later → channel ++ receiver.wire = later ++ frames rest →
        Reads entry.2 receiver.rxLen goesTo later →
          RxInv listeners ((receiver.input (.byte entry.1 byte) channel).goTo entry.1 goesTo) := by
    rintro byte channel later goesTo rfl link reads
    exact .listenerReads sent trace block link trigger settled addressed isr events outside reads
  have enables : left = [] → receiver.rxLen = 0 → RxInv listeners
      (((receiver.enable entry.1).result entry.1 (.received entry.2.bytes)).goTo entry.1
        .idle) := by
    rintro rfl rxLen
    exact .listenerEnables sent trace block link settled addressed isr events rxLen outside
  generalize point : receiver.point entry.1 = goesOn at reads right
  cases reads with
  | rxMalloc none_ =>
      simp only [runRx, rtosIntertileRx, point, Message.toNat_len] at step
      cases step
      exact stays (.rxBytes none_ rfl)
  | @rxBytes msg left none_ bytes =>
      cases left with
      | nil =>
          simp only [runRx, rtosIntertileRx, point, List.length_nil] at step
          cases step
          rw [List.append_nil] at bytes
          subst bytes
          exact stays (.rxEnable none_)
      | cons byte later =>
          simp only [runRx, rtosIntertileRx, point, List.length_cons] at step
          split at step
          · cases step
          · next first channel isChannel =>
            cases step
            rw [isChannel] at link
            obtain ⟨rfl, unread⟩ := List.cons.inj link
            refine byteRead rfl unread (.rxBytes none_ ?_)
            rw [bytes, List.append_assoc, List.singleton_append]
  | rxEnable none_ =>
      simp only [runRx, rtosIntertileRx, point] at step
      cases step
      exact enables rfl none_
  | @lenReturn plan len =>
      have isProper : ReadsAll receiver.rxLen (plan receiver.rxLen) := right
      simp only [runRx, rtosIntertileRxLen, point] at step
      generalize isPlan : plan receiver.rxLen = pieces at step isProper
      cases pieces with
      | nil => exact isProper.elim
      | cons piece pieces =>
          cases step
          have length : receiver.rxLen.toNat = entry.2.bytes.length := by
            rw [len, Message.toNat_len]
          refine stays (.dataLen rfl length ?_)
          rw [← length]
          exact isProper
  | @dataLen piece pieces data left bytes len rest =>
      simp only [runRx, rtosIntertileRxData, point] at step
      by_cases small : piece ≤ receiver.rxLen
      · rw [if_pos small] at step
        cases step
        have inside : piece.toNat ≤ left.length := by
          rw [← len]
          exact UInt32.le_iff_toNat_le.mp small
        have now : (left.take piece.toNat).length = piece.toNat := by
          rw [List.length_take, Nat.min_eq_left inside]
        have split := List.take_append_drop piece.toNat left
        have reads : Reads entry.2 receiver.rxLen
            (.dataBytes (left.take piece.toNat).length piece pieces data)
            (left.take piece.toNat ++ left.drop piece.toNat) := by
          refine .dataBytes (by rw [split]; exact bytes) ?_ ?_
          · rw [List.length_drop, len, Nat.sub_add_cancel inside]
          · rw [List.length_drop]
            exact rest
        rw [now, split] at reads
        exact stays reads
      · rw [if_neg small] at step
        cases step
        have beyond : left.length - piece.toNat = 0 := by
          rw [UInt32.le_iff_toNat_le] at small
          omega
        rw [beyond] at rest
        have reads : Reads entry.2 receiver.rxLen
            (.dataBytes left.length receiver.rxLen pieces data)
            (left ++ []) := by
          refine .dataBytes (by rw [List.append_nil]; exact bytes) ?_ rest
          rw [List.length_nil, Nat.zero_add]
        rw [List.append_nil, ← len] at reads
        exact stays reads
  | @dataBytes now later count pieces data bytes len rest =>
      cases now with
      | nil =>
          simp only [runRx, rtosIntertileRxData, point, List.length_nil] at step
          cases step
          exact stays (.dataSub bytes len rest)
      | cons byte now =>
          simp only [runRx, rtosIntertileRxData, point, List.length_cons] at step
          split at step
          · cases step
          · next first channel isChannel =>
            cases step
            rw [isChannel] at link
            obtain ⟨rfl, unread⟩ := List.cons.inj link
            refine byteRead rfl unread (.dataBytes ?_ len rest)
            rw [bytes, List.append_assoc, List.singleton_append]
            rfl
  | @dataSub count pieces data left bytes len rest =>
      simp only [runRx, rtosIntertileRxData, point] at step
      cases step
      refine stays (.dataTest bytes ?_ rest)
      have enough : count ≤ receiver.rxLen := by
        rw [UInt32.le_iff_toNat_le, len]
        exact Nat.le_add_left _ _
      rw [UInt32.toNat_sub_of_le _ _ enough, len, Nat.add_sub_cancel]
  | @dataTest pieces data left bytes len rest =>
      simp only [runRx, rtosIntertileRxData, point] at step
      by_cases none_ : receiver.rxLen = 0
      · rw [if_pos none_] at step
        cases step
        rw [none_] at len
        obtain rfl : left = [] := List.length_eq_zero_iff.mp len.symm
        rw [List.append_nil] at bytes
        subst bytes
        cases pieces with
        | nil => exact stays (.dataEnable none_)
        | cons piece pieces => exact absurd rest.1 (Nat.lt_irrefl 0)
      · rw [if_neg none_] at step
        cases pieces with
        | nil =>
            have zero : receiver.rxLen.toNat = 0 := len.trans rest
            exact absurd (UInt32.toNat_inj.mp zero) none_
        | cons piece pieces =>
            cases step
            exact stays (.dataLen bytes len rest.2)
  | dataEnable none_ =>
      simp only [runRx, rtosIntertileRxData, point] at step
      cases step
      exact enables rfl none_

/-! ## Every step -/

/-- A task that is not concerned with a message runs. -/
theorem RxInv.outsideRuns (inv : RxInv listeners receiver) {task : T}
    (outside : (receiver.point task).outside = true)
    (right : ReturnsRight receiver (receiver.point task))
    (step : runRx listeners receiver task = some target) : RxInv listeners target := by
  have before := outside
  cases point : receiver.point task <;> rw [point] at outside right <;>
    simp only [runRx, rtosIntertileRx, rtosIntertileRxLen, Receiver.getBits?, point] at step
  case rxGet timeout =>
    split at step
    · next isSet =>
      cases step
      exact inv.takesFlag isSet .rxWord
    · cases step
  case lenGet timeout plan =>
    split at step
    · next isSet =>
      cases step
      exact inv.takesFlag isSet .lenAssert
    · cases step
  case lenReturn timedOut plan =>
    cases timedOut with
    | false => cases outside
    | true =>
        obtain ⟨none_, nothing⟩ := right
        rw [none_, nothing] at step
        cases step
        exact inv.outsideMoves before rfl fun _ settled => settled.timesOut task
  case idle | trap => cases step
  all_goals cases outside

theorem RxInv.runs (inv : RxInv listeners receiver) {task : T}
    (right : ReturnsRight receiver (receiver.point task))
    (step : runRx listeners receiver task = some target) : RxInv listeners target := by
  by_cases outside : (receiver.point task).outside = true
  · exact inv.outsideRuns outside right step
  · cases inv with
    | free _ _ _ _ _ _ _ _ _ everybody => exact absurd (everybody task) outside
    | busy done entry rest past todo sent trace begun block link trigger busy settled addressed =>
        generalize isIsr : receiver.isr = isr at busy
        generalize isEvents : receiver.events = events at busy
        generalize isRxLen : receiver.rxLen = rxLen at busy
        cases busy with
        | fired everybody | read everybody | flagged everybody =>
            exact absurd (everybody task) outside
        | word before others =>
            have isListener : task = entry.1 := by
              by_contra different
              exact outside (others task different)
            subst isListener
            exact .beforeWordRuns sent trace begun block link trigger settled addressed isIsr
              isEvents isRxLen before others step
        | reads reads others =>
            have isListener : task = entry.1 := by
              by_contra different
              exact outside (others task different)
            subst isListener
            subst isRxLen
            rw [bytes_bytes] at link
            exact .listenerRuns sent trace begun block link trigger settled addressed isIsr isEvents
              reads others right step

theorem RxInv.next (inv : RxInv listeners receiver) {label : RxLabel T}
    (right : ListensRight receiver label) (step : nextRx listeners receiver label = some target) :
    RxInv listeners target := by
  cases label with
  | send task bytes fits => exact inv.sends step
  | arrive => exact inv.arrives step
  | isr => exact inv.isr step
  | listen task listens timeout => exact inv.listens step
  | run task => exact inv.runs right step
  | expire task => exact inv.expires step
  | mallocFails task => exact right.elim

/-! ## It implies the contract -/

omit [DecidableEq T] in
theorem rxBlock_bytes (entry : Entry T) :
    (rxBlock entry).flatMap RxEvent.bytes = entry.2.frame := by
  show entry.2.port :: (afterPort entry).flatMap RxEvent.bytes = _
  rw [afterPort_bytes]
  rfl

omit [DecidableEq T] in
theorem blocks_bytes (done : List (Entry T)) :
    (done.flatMap rxBlock).flatMap RxEvent.bytes = frames done := by
  induction done with
  | nil => rfl
  | cons entry done ih =>
      rw [List.flatMap_cons, List.flatMap_append, rxBlock_bytes, ih, frames_cons]

theorem Busy.notTrapped {entry : Entry T} {isr : RxIsr} {events : UInt8 → Bool} {rxLen : UInt32}
    {point : T → RxPoint} {todo : List (RxEvent T)}
    (busy : Busy entry isr events rxLen point todo) (task : T) : point task ≠ .trap := by
  intro trapped
  have notOutside : (point task).outside ≠ true := by
    rw [trapped]
    nofun
  cases busy with
  | fired outside | read outside | flagged outside => exact notOutside (outside task)
  | word before outside =>
      by_cases isListener : task = entry.1
      · rw [← isListener, trapped] at before
        cases before
      · exact notOutside (outside task isListener)
  | reads reads outside =>
      by_cases isListener : task = entry.1
      · rw [← isListener, trapped] at reads
        cases reads
      · exact notOutside (outside task isListener)

omit [DecidableEq T] in
/-- Something has still to be done for a message that is being received. -/
theorem Busy.todo_ne_nil {entry : Entry T} {isr : RxIsr} {events : UInt8 → Bool} {rxLen : UInt32}
    {point : T → RxPoint} {todo : List (RxEvent T)}
    (busy : Busy entry isr events rxLen point todo) : todo ≠ [] := by
  cases busy with
  | reads => simp
  | _ => exact nofun

theorem RxInv.received (inv : RxInv listeners receiver) : Received receiver := by
  cases inv with
  | free done rest sent trace link trigger isr events rxLen outside settled addressed =>
      constructor
      · exact ⟨done, rest, [], sent, trace.trans (List.append_nil _).symm, .inl ⟨rfl, trigger⟩,
          settled.received⟩
      · rw [trace, blocks_bytes, List.append_assoc, link, sent, frames_append]
      · exact settled.timedOut
      · intro task trapped
        have isOutside := outside task
        rw [trapped] at isOutside
        cases isOutside
  | busy done entry rest past todo sent trace begun block link trigger busy settled addressed =>
      constructor
      · refine ⟨done, entry :: rest, past, sent, trace, .inr ⟨entry, rest, rfl, ?_, begun, ?_,
          trigger⟩, settled.received⟩
        · exact ⟨todo, block.symm⟩
        · intro whole
          rw [← whole] at block
          exact busy.todo_ne_nil
            (List.append_cancel_left (block.symm.trans (List.append_nil _).symm))
      · have bytes := congrArg (List.flatMap RxEvent.bytes) block
        rw [rxBlock_bytes, List.flatMap_append] at bytes
        rw [trace, List.flatMap_append, blocks_bytes, List.append_assoc, link, sent, frames_append,
          frames_cons, bytes]
        simp only [List.append_assoc]
      · exact settled.timedOut
      · exact busy.notTrapped

/-- In every run in which calls of `rtos_intertile_rx_len` return right and memory does not
run out, every message is received once, by the listener of its port, with its own bytes. -/
theorem messages_received (listeners : Listeners T) {labels : List (RxLabel T)}
    (right : StepsMeet (nextRx listeners) startRx labels ListensRight) :
    StatesSatisfy (nextRx listeners) (startRx : Receiver T) labels Received := by
  refine right.statesSatisfy (rxInv_start listeners) ?_ ?_
  · intro source target label inv right step
    exact inv.next right step
  · intro receiver inv
    exact inv.received

/-! ## Two listeners -/

/-- Task 0 listens on port 0, and task 1 on port 1. -/
def twoListeners : Listeners (Fin 2) where
  port task := UInt8.ofNat task
  injective := by decide
  inGroup := by decide

def rxSteps (task : Fin 2) (count : Nat) : List (RxLabel (Fin 2)) :=
  List.replicate count (.run task)

/-- So many bytes arrive, and the interrupt handler reads the first. -/
def arrival (count : Nat) : List (RxLabel (Fin 2)) :=
  List.replicate count .arrive ++ List.replicate 3 .isr

/-- One byte, and the rest. -/
def firstByte : Plan := fun len => [1, len - 1]

def allAtOnce : Plan := fun len => [len]

/-- A call of task 0 times out; then it reads two bytes in two pieces, and task 1 an empty
message. -/
def bothReceive : List (RxLabel (Fin 2)) :=
  [.listen 0 .rx ⟨5⟩, .expire 0, .listen 0 (.rxLen firstByte) ⟨5⟩,
    .listen 1 (.rxLen allAtOnce) rtosOsalPortWaitForever, .send 0 [7, 8] (by decide),
    .send 1 [] (by decide)] ++ arrival 7 ++ rxSteps 0 15 ++ arrival 5 ++ rxSteps 1 9

theorem bothReceive_received :
    (∃ receiver, run (nextRx twoListeners) startRx bothReceive = some receiver ∧
      receiver.results 0 = [.timedOut 0, .received [7, 8]] ∧
        receiver.results 1 = [.received []]) ∧
      StatesSatisfy (nextRx twoListeners) startRx bothReceive Received := by
  have executed : (run (nextRx twoListeners) startRx bothReceive).map (fun receiver =>
      decide (receiver.results 0 = [.timedOut 0, .received [7, 8]] ∧
        receiver.results 1 = [.received []])) = some true := by decide +kernel
  obtain ⟨receiver, executed, holds⟩ := Option.map_eq_some_iff.mp executed
  exact ⟨⟨receiver, executed, of_decide_eq_true holds⟩,
    messages_received twoListeners (by decide +kernel)⟩

/-- A call of task 1 times out while task 0 has one of two bytes still to read. -/
def timeoutBetween : List (RxLabel (Fin 2)) :=
  [.listen 0 (.rxLen firstByte) ⟨5⟩, .listen 1 (.rxLen allAtOnce) ⟨5⟩,
    .send 0 [7, 8] (by decide)] ++ arrival 7 ++ rxSteps 0 8 ++ [.expire 1] ++ rxSteps 1 3

theorem timeoutBetween_executed :
    ∃ receiver, run (nextRx twoListeners) startRx timeoutBetween = some receiver ∧
      .timedOut 1 ∈ receiver.results 1 ∧ .byte 1 8 ∈ receiver.trace := by
  have executed : (run (nextRx twoListeners) startRx timeoutBetween).map (fun receiver =>
      decide (.timedOut 1 ∈ receiver.results 1 ∧ .byte 1 8 ∈ receiver.trace)) = some true := by
    decide +kernel
  obtain ⟨receiver, executed, holds⟩ := Option.map_eq_some_iff.mp executed
  exact ⟨receiver, executed, of_decide_eq_true holds⟩

/-- The call returns 1, and task 1 reads a byte of a message to task 0. -/
theorem timeoutBetween_not_received :
    ¬ StatesSatisfy (nextRx twoListeners) startRx timeoutBetween Received := by
  intro right
  obtain ⟨receiver, executed, returned, _⟩ := timeoutBetween_executed
  have zero := (right (List.prefix_refl _) executed).timedOut 1 1 returned
  exact absurd zero (by decide)

end FwkRtos.Intertile

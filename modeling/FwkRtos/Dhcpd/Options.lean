import FwkRtos.Dhcpd.Server

/-!
# Reading and writing options

The option area of a message, read within what was received of it.  The reader
checks the place of the next byte before it goes on, so it is run here on the
received bytes alone, where a read of any other byte fails.
-/

namespace FwkRtos.Dhcpd

open FwkRtos.Bytes

/-! ## A reader that sees the received bytes only -/

/-- How many bytes of the option area were received. -/
def receivedLength (optionsLength : Nat) : Nat :=
  min optionsLength dhcpOptionsLength

/-- The bytes of the option area that were received. -/
def received (options : List UInt8) (optionsLength : Nat) : List UInt8 :=
  options.take (receivedLength optionsLength)

/-- The bytes of a memory; `none` when some of them are outside. -/
def sliceWithin (area : List UInt8) (offset length : Nat) : Option (List UInt8) :=
  if offset + length ≤ area.length then some (slice area offset length) else none

/-- `dhcp_option_get_next` on the given bytes alone; `none` when it reads another one. -/
def readOption (area : List UInt8) (optPtr : Nat) : Option OptionRead :=
  let optionsEnd := area.length - 1
  area[optPtr]?.bind fun opt =>
    if opt = dhcpOptionEnd then some ⟨dhcpOptionEnd, [], optPtr⟩
    else if opt = dhcpOptionPad then
      if optPtr + 1 ≤ optionsEnd then some ⟨dhcpOptionPad, [], optPtr + 1⟩
      else some ⟨dhcpOptionEnd, [], optPtr⟩
    else if optionsEnd < optPtr + 1 then some ⟨dhcpOptionEnd, [], optPtr⟩
    else
      area[optPtr + 1]?.bind fun len =>
        if optPtr + 2 + len.toNat ≤ optionsEnd then
          (sliceWithin area (optPtr + 2) len.toNat).map fun data =>
            ⟨opt, data, optPtr + 2 + len.toNat⟩
        else some ⟨dhcpOptionEnd, [], optPtr⟩

/-- What the loop over the options reads, in so many passes at most. -/
def optionTrace (area : List UInt8) : Nat → Nat → Option (List OptionRead)
  | 0, _ => none
  | passes + 1, optPtr =>
      (readOption area optPtr).bind fun read =>
        if read.opt = dhcpOptionEnd then some [read]
        else (optionTrace area passes read.next).map fun rest => read :: rest

/-- The loop has ended with its first END, and what it has read lies in the area. -/
structure Parsed (area : List UInt8) (trace : List OptionRead) : Prop where
  ends : ∃ before last, trace = before ++ [last] ∧ last.opt = dhcpOptionEnd ∧
    ∀ read ∈ before, read.opt ≠ dhcpOptionEnd
  inside : ∀ read ∈ trace, read.data.length ≤ read.next ∧ read.next < area.length ∧
    read.data = slice area (read.next - read.data.length) read.data.length

/-- `dhcp_option_add` at a place in the option area: the area afterwards and where the next
option goes; `none` when one of its assertions fails. -/
def dhcpOptionAddAt (options : List UInt8) (optPtr : Nat) (code : UInt8) (data : List UInt8) :
    Option (List UInt8 × Nat) :=
  let optionsEnd := dhcpOptionsLength - 1
  if 255 < data.length then none
  else if optionsEnd < optPtr then none
  else if data ≠ [] ∧ optionsEnd < optPtr + 1 + data.length then none
  else
    some (splice options optPtr (dhcpOptionAdd code data),
      optPtr + (dhcpOptionAdd code data).length)

/-- Options added one after the other. -/
def addOptions : List (UInt8 × List UInt8) → List UInt8 → Nat → Option (List UInt8 × Nat)
  | [], options, optPtr => some (options, optPtr)
  | item :: rest, options, optPtr =>
      (dhcpOptionAddAt options optPtr item.1 item.2).bind fun added =>
        addOptions rest added.1 added.2

/-- The bytes of options one behind the other. -/
def optionBytes (items : List (UInt8 × List UInt8)) : List UInt8 :=
  items.flatMap fun item => dhcpOptionAdd item.1 item.2

/-- An option proper: neither padding nor the end, with 1 to 255 bytes of data. -/
structure IsOption (item : UInt8 × List UInt8) : Prop where
  notPad : item.1 ≠ dhcpOptionPad
  notEnd : item.1 ≠ dhcpOptionEnd
  data : item.2 ≠ []
  short : item.2.length ≤ 255

/-- The items are the options with padding in between. -/
structure Padded (items options : List (UInt8 × List UInt8)) : Prop where
  filtered : items.filter (fun item => item.1 ≠ dhcpOptionPad) = options
  pads : ∀ item ∈ items, item.1 = dhcpOptionPad → item.2 = []

/-! ## Reading -/

section
variable {options : List UInt8} {optPtr optionsLength : Nat}

theorem length_received (whole : options.length = dhcpOptionsLength) (optionsLength : Nat) :
    (received options optionsLength).length = receivedLength optionsLength := by
  rw [received, List.length_take, whole, receivedLength]
  exact Nat.min_eq_left (Nat.min_le_right _ _)

theorem received_getElem? {i : Nat} (whole : options.length = dhcpOptionsLength)
    (inside : i < receivedLength optionsLength) :
    (received options optionsLength)[i]? = some (options.getD i 0) := by
  have bound : i < options.length := by
    rw [whole]
    exact Nat.lt_of_lt_of_le inside (Nat.min_le_right _ _)
  rw [received, List.getElem?_take_of_lt inside, List.getD_eq_getElem?_getD,
    List.getElem?_eq_getElem bound, Option.getD_some]

/-- Within the received bytes a part of the option area is a part of them. -/
theorem slice_received {offset length : Nat}
    (inside : offset + length ≤ receivedLength optionsLength) :
    slice (received options optionsLength) offset length = slice options offset length := by
  rw [received, slice, slice, List.drop_take, List.take_take]
  congr 1
  exact Nat.min_eq_left (Nat.le_sub_of_add_le' inside)

/-- From a byte that was received on, the reader sees received bytes only. -/
theorem readOption_received (whole : options.length = dhcpOptionsLength)
    (inside : optPtr < receivedLength optionsLength) :
    readOption (received options optionsLength) optPtr =
      some (dhcpOptionGetNext options optPtr optionsLength) := by
  have length := length_received whole optionsLength
  have bound : min optionsLength dhcpOptionsLength = receivedLength optionsLength := rfl
  have padNotEnd : dhcpOptionPad ≠ dhcpOptionEnd := by decide
  simp only [readOption, received_getElem? whole inside, Option.bind_some, length,
    dhcpOptionGetNext, bound]
  by_cases isEnd : options.getD optPtr 0 = dhcpOptionEnd
  · simp only [isEnd, if_true]
  · by_cases isPad : options.getD optPtr 0 = dhcpOptionPad
    · simp only [isPad, padNotEnd, if_false, if_true, apply_ite some]
    · by_cases short : receivedLength optionsLength - 1 < optPtr + 1
      · simp only [isEnd, isPad, if_false, short, if_true]
      · have next : optPtr + 1 < receivedLength optionsLength := by omega
        simp only [isEnd, isPad, if_false, short, received_getElem? whole next, Option.bind_some]
        by_cases fits : optPtr + 2 + (options.getD (optPtr + 1) 0).toNat ≤
            receivedLength optionsLength - 1
        · have within : optPtr + 2 + (options.getD (optPtr + 1) 0).toNat ≤
              receivedLength optionsLength := by omega
          simp only [fits, if_true, sliceWithin, length, within, Option.map_some,
            slice_received within]
        · simp only [fits, if_false]

/-- What one call finds lies in the area, and it moves on unless it finds the end. -/
theorem dhcpOptionGetNext_inside (whole : options.length = dhcpOptionsLength)
    (inside : optPtr < receivedLength optionsLength) :
    let read := dhcpOptionGetNext options optPtr optionsLength
    (read.opt ≠ dhcpOptionEnd → optPtr < read.next) ∧ read.data.length ≤ read.next ∧
      read.next < receivedLength optionsLength ∧
        read.data = slice (received options optionsLength) (read.next - read.data.length)
          read.data.length := by
  intro read
  have length_slice : ∀ {offset length : Nat}, offset + length ≤ receivedLength optionsLength →
      (slice options offset length).length = length := by
    intro offset length within
    have bound : receivedLength optionsLength ≤ dhcpOptionsLength := Nat.min_le_right _ _
    rw [slice, List.length_take, List.length_drop, whole]
    omega
  have nothing : ∀ offset, ([] : List UInt8) =
      slice (received options optionsLength) (offset - ([] : List UInt8).length) 0 := by
    intro offset
    rw [slice, List.take_zero]
  have isRead : read = dhcpOptionGetNext options optPtr optionsLength := rfl
  have bound : min optionsLength dhcpOptionsLength = receivedLength optionsLength := rfl
  simp only [dhcpOptionGetNext, bound] at isRead
  by_cases isEnd : options.getD optPtr 0 = dhcpOptionEnd
  · rw [if_pos isEnd] at isRead
    rw [isRead]
    exact ⟨fun notEnd => absurd rfl notEnd, Nat.zero_le _, inside, nothing _⟩
  · rw [if_neg isEnd] at isRead
    by_cases isPad : options.getD optPtr 0 = dhcpOptionPad
    · rw [if_pos isPad] at isRead
      by_cases more : optPtr + 1 ≤ receivedLength optionsLength - 1
      · rw [if_pos more] at isRead
        rw [isRead]
        refine ⟨fun _ => Nat.lt_succ_self _, Nat.zero_le _, ?_, nothing _⟩
        change optPtr + 1 < _
        omega
      · rw [if_neg more] at isRead
        rw [isRead]
        exact ⟨fun notEnd => absurd rfl notEnd, Nat.zero_le _, inside, nothing _⟩
    · rw [if_neg isPad] at isRead
      by_cases short : receivedLength optionsLength - 1 < optPtr + 1
      · rw [if_pos short] at isRead
        rw [isRead]
        exact ⟨fun notEnd => absurd rfl notEnd, Nat.zero_le _, inside, nothing _⟩
      · rw [if_neg short] at isRead
        by_cases fits : optPtr + 2 + (options.getD (optPtr + 1) 0).toNat ≤
            receivedLength optionsLength - 1
        · rw [if_pos fits] at isRead
          have within : optPtr + 2 + (options.getD (optPtr + 1) 0).toNat ≤
              receivedLength optionsLength := by omega
          rw [isRead]
          simp only [length_slice within]
          refine ⟨fun _ => by omega, by omega, by omega, ?_⟩
          rw [Nat.add_sub_cancel, slice_received within]
        · rw [if_neg fits] at isRead
          rw [isRead]
          exact ⟨fun notEnd => absurd rfl notEnd, Nat.zero_le _, inside, nothing _⟩

/-- The loop ends, and sets what the options that it reads set. -/
theorem optionTrace_received (whole : options.length = dhcpOptionsLength) {passes : Nat}
    (inside : optPtr < receivedLength optionsLength)
    (enough : receivedLength optionsLength ≤ optPtr + passes) (requested : Requested) :
    ∃ trace, optionTrace (received options optionsLength) passes optPtr = some trace ∧
      Parsed (received options optionsLength) trace ∧
        readOptions options optionsLength passes optPtr requested =
          trace.foldl Requested.set requested := by
  induction passes generalizing optPtr requested with
  | zero => exact absurd inside (Nat.not_lt.mpr enough)
  | succ passes ih =>
      have read := readOption_received whole inside
      rcases dhcpOptionGetNext_inside whole inside with ⟨moves, room, within, data⟩
      rw [← length_received whole] at within
      rw [optionTrace, read, Option.bind_some, readOptions]
      by_cases isEnd : (dhcpOptionGetNext options optPtr optionsLength).opt = dhcpOptionEnd
      · refine ⟨[dhcpOptionGetNext options optPtr optionsLength], if_pos isEnd, ⟨?_, ?_⟩, ?_⟩
        · exact ⟨[], _, rfl, isEnd, List.forall_mem_nil _⟩
        · exact List.forall_mem_singleton.mpr ⟨room, within, data⟩
        · simp only [isEnd, if_true, List.foldl_cons, List.foldl_nil]
      · have isLess := moves isEnd
        have left : (dhcpOptionGetNext options optPtr optionsLength).next <
            receivedLength optionsLength := by
          rw [← length_received whole]
          exact within
        rcases ih left (by omega)
            (requested.set (dhcpOptionGetNext options optPtr optionsLength)) with
          ⟨trace, traced, parsed, folded⟩
        rcases parsed.ends with ⟨before, last, split, isLast, notBefore⟩
        refine ⟨dhcpOptionGetNext options optPtr optionsLength :: trace, ?_, ⟨?_, ?_⟩, ?_⟩
        · rw [if_neg isEnd, traced]
          rfl
        · refine ⟨dhcpOptionGetNext options optPtr optionsLength :: before, last, ?_, isLast, ?_⟩
          · rw [split, List.cons_append]
          · exact List.forall_mem_cons.mpr ⟨isEnd, notBefore⟩
        · exact List.forall_mem_cons.mpr ⟨⟨room, within, data⟩, parsed.inside⟩
        · simp only [isEnd, if_false, List.foldl_cons]
          exact folded

end

/-! ## Writing -/

section
variable {options : List UInt8} {optPtr : Nat} {items : List (UInt8 × List UInt8)}

theorem length_dhcpOptionAdd (code : UInt8) (data : List UInt8) :
    (dhcpOptionAdd code data).length = if data = [] then 1 else 2 + data.length := by
  by_cases none_ : data = []
  · rw [dhcpOptionAdd, if_pos none_, if_pos none_]
    rfl
  · rw [dhcpOptionAdd, if_neg none_, if_neg none_, List.length_cons, List.length_cons]
    omega

/-- The assertions of `dhcp_option_add` hold exactly when the option fits. -/
theorem dhcpOptionAddAt_fits {code : UInt8} {data : List UInt8} (short : data.length ≤ 255)
    (fits : optPtr + (dhcpOptionAdd code data).length ≤ dhcpOptionsLength) :
    dhcpOptionAddAt options optPtr code data =
      some (splice options optPtr (dhcpOptionAdd code data),
        optPtr + (dhcpOptionAdd code data).length) := by
  have length := length_dhcpOptionAdd code data
  have room : ¬ dhcpOptionsLength - 1 < optPtr := by
    by_cases none_ : data = []
    · rw [if_pos none_] at length
      omega
    · rw [if_neg none_] at length
      omega
  have dataRoom : ¬ (data ≠ [] ∧ dhcpOptionsLength - 1 < optPtr + 1 + data.length) := by
    rintro ⟨some_, past⟩
    rw [if_neg some_] at length
    omega
  simp only [dhcpOptionAddAt, if_neg (Nat.not_lt.mpr short), if_neg room, if_neg dataRoom]

theorem splice_splice {first second : List UInt8} (within : optPtr ≤ options.length) :
    splice (splice options optPtr first) (optPtr + first.length) second =
      splice options optPtr (first ++ second) := by
  have taken : (options.take optPtr).length = optPtr := by
    rw [List.length_take, Nat.min_eq_left within]
  have place : (options.take optPtr ++ first).length = optPtr + first.length := by
    rw [List.length_append, taken]
  have head : (splice options optPtr first).take (optPtr + first.length) =
      options.take optPtr ++ first := by
    rw [← place]
    exact List.take_left
  have tail : (splice options optPtr first).drop (optPtr + first.length + second.length) =
      options.drop (optPtr + (first ++ second).length) := by
    have shifted : optPtr + first.length + second.length =
        (options.take optPtr ++ first).length + second.length := by rw [place]
    rw [splice, shifted, List.drop_length_add_append, List.drop_drop, List.length_append,
      Nat.add_assoc]
  rw [splice, head, tail, splice, List.append_assoc (options.take optPtr)]

theorem length_splice {part : List UInt8} (fits : optPtr + part.length ≤ options.length) :
    (splice options optPtr part).length = options.length := by
  rw [splice, List.length_append, List.length_append, List.length_take, List.length_drop]
  omega

/-- Options that fit are written one behind the other. -/
theorem addOptions_eq (whole : options.length = dhcpOptionsLength)
    (short : ∀ item ∈ items, item.2.length ≤ 255)
    (fits : optPtr + (optionBytes items).length ≤ dhcpOptionsLength) :
    addOptions items options optPtr =
      some (splice options optPtr (optionBytes items), optPtr + (optionBytes items).length) := by
  induction items generalizing options optPtr with
  | nil =>
      rw [addOptions, optionBytes, List.flatMap_nil, splice, List.append_nil, List.length_nil,
        Nat.add_zero, List.take_append_drop]
  | cons item rest ih =>
      have bytes : optionBytes (item :: rest) =
          dhcpOptionAdd item.1 item.2 ++ optionBytes rest := List.flatMap_cons
      rw [bytes, List.length_append] at fits
      have first : optPtr + (dhcpOptionAdd item.1 item.2).length ≤ options.length := by omega
      rw [addOptions, dhcpOptionAddAt_fits (short item List.mem_cons_self) (by omega),
        Option.bind_some, ih (by rw [length_splice first, whole])
          (fun other member => short other (List.mem_cons_of_mem _ member)) (by omega),
        splice_splice (by omega), bytes, List.length_append, Nat.add_assoc]

/-! ## Reading what was written -/

/-- One option is read where it was written, when a byte follows. -/
theorem readOption_written {before after : List UInt8} {item : UInt8 × List UInt8}
    (isItem : IsOption item ∨ item = (dhcpOptionPad, []))
    (more : after ≠ []) :
    readOption (before ++ (dhcpOptionAdd item.1 item.2 ++ after)) before.length =
      some ⟨item.1, item.2, before.length + (dhcpOptionAdd item.1 item.2).length⟩ := by
  have some_ : 0 < after.length := List.length_pos_of_ne_nil more
  rcases isItem with isOption | rfl
  · rcases item with ⟨code, data⟩
    have bytes : dhcpOptionAdd code data = code :: UInt8.ofNat data.length :: data :=
      if_neg isOption.data
    have isLength : (UInt8.ofNat data.length).toNat = data.length :=
      UInt8.toNat_ofNat_of_lt' (Nat.lt_succ_of_le isOption.short)
    rw [bytes]
    have first : (before ++ (code :: UInt8.ofNat data.length :: data ++ after))[before.length]? =
        some code := by
      rw [List.getElem?_append_right (Nat.le_refl _), Nat.sub_self]
      rfl
    have second : (before ++ (code :: UInt8.ofNat data.length :: data ++ after))[before.length +
        1]? = some (UInt8.ofNat data.length) := by
      rw [List.getElem?_append_right (Nat.le_add_right _ 1), Nat.add_sub_cancel_left]
      rfl
    have length : (before ++ (code :: UInt8.ofNat data.length :: data ++ after)).length =
        before.length + 2 + data.length + after.length := by
      simp only [List.length_append, List.length_cons]
      omega
    have hasData : slice (before ++ (code :: UInt8.ofNat data.length :: data ++ after))
        (before.length + 2) data.length = data := by
      have regrouped : before ++ (code :: UInt8.ofNat data.length :: data ++ after) =
          (before ++ [code, UInt8.ofNat data.length]) ++ (data ++ after) := by
        simp only [List.append_assoc, List.cons_append, List.nil_append]
      rw [regrouped]
      exact slice_append (by rw [List.length_append]; rfl) rfl
    have hasLength : ¬ before.length + 2 + data.length + after.length - 1 < before.length + 1 := by
      omega
    have hasEnd : before.length + 2 + data.length ≤
        before.length + 2 + data.length + after.length - 1 := by omega
    have within : before.length + 2 + data.length ≤
        before.length + 2 + data.length + after.length := by omega
    simp only [readOption, first, Option.bind_some, if_neg isOption.notEnd,
      if_neg isOption.notPad, length, if_neg hasLength, second, isLength, if_pos hasEnd,
      sliceWithin, if_pos within, hasData, Option.map_some, List.length_cons, Option.some.injEq,
      OptionRead.mk.injEq, true_and]
    omega
  · have first : (before ++ (dhcpOptionAdd dhcpOptionPad [] ++ after))[before.length]? =
        some dhcpOptionPad := by
      rw [List.getElem?_append_right (Nat.le_refl _), Nat.sub_self]
      rfl
    have length : (before ++ (dhcpOptionAdd dhcpOptionPad [] ++ after)).length =
        before.length + 1 + after.length := by
      rw [List.length_append, List.length_append, Nat.add_assoc]
      rfl
    have padNotEnd : dhcpOptionPad ≠ dhcpOptionEnd := by decide
    have hasNext : before.length + 1 ≤ before.length + 1 + after.length - 1 := by omega
    simp only [readOption, first, Option.bind_some, if_neg padNotEnd, if_true, length,
      if_pos hasNext]
    rfl

/-- The options are read as they were written, up to the end. -/
theorem optionTrace_written {before after : List UInt8} {passes : Nat}
    (areItems : ∀ item ∈ items, IsOption item ∨ item = (dhcpOptionPad, []))
    (enough : items.length < passes) :
    ∃ trace, optionTrace (before ++ (optionBytes items ++ dhcpOptionEnd :: after)) passes
        before.length = some trace ∧
      trace.map (fun read => (read.opt, read.data)) = items ++ [(dhcpOptionEnd, [])] := by
  induction items generalizing before passes with
  | nil =>
      rcases Nat.exists_eq_add_one.mpr (Nat.zero_lt_of_lt enough) with ⟨passes, rfl⟩
      have first : (before ++ (optionBytes [] ++ dhcpOptionEnd :: after))[before.length]? =
          some dhcpOptionEnd := by
        rw [List.getElem?_append_right (Nat.le_refl _), Nat.sub_self]
        rfl
      refine ⟨[⟨dhcpOptionEnd, [], before.length⟩], ?_, rfl⟩
      simp only [optionTrace, readOption, first, Option.bind_some, if_true]
  | cons item rest ih =>
      rcases Nat.exists_eq_add_one.mpr (Nat.zero_lt_of_lt enough) with ⟨passes, rfl⟩
      have isItem := areItems item List.mem_cons_self
      have notEnd : item.1 ≠ dhcpOptionEnd := by
        rcases isItem with isOption | rfl
        · exact isOption.notEnd
        · decide
      have regrouped : before ++ (optionBytes (item :: rest) ++ dhcpOptionEnd :: after) =
          before ++ (dhcpOptionAdd item.1 item.2 ++
            (optionBytes rest ++ dhcpOptionEnd :: after)) := by
        rw [optionBytes, List.flatMap_cons, List.append_assoc]
        rfl
      have written : readOption (before ++ (optionBytes (item :: rest) ++ dhcpOptionEnd :: after))
          before.length =
            some ⟨item.1, item.2, before.length + (dhcpOptionAdd item.1 item.2).length⟩ := by
        rw [regrouped]
        exact readOption_written isItem (by simp)
      have others : ∃ trace, optionTrace ((before ++ dhcpOptionAdd item.1 item.2) ++
            (optionBytes rest ++ dhcpOptionEnd :: after)) passes
            (before ++ dhcpOptionAdd item.1 item.2).length = some trace ∧
          trace.map (fun read => (read.opt, read.data)) = rest ++ [(dhcpOptionEnd, [])] :=
        ih (fun other member => areItems other (List.mem_cons_of_mem _ member))
          (Nat.lt_of_succ_lt_succ enough)
      rcases others with ⟨trace, traced, items_⟩
      refine ⟨⟨item.1, item.2, before.length + (dhcpOptionAdd item.1 item.2).length⟩ :: trace,
        ?_, ?_⟩
      · rw [optionTrace, written, Option.bind_some, if_neg notEnd]
        rw [List.append_assoc, List.length_append] at traced
        rw [regrouped, traced]
        rfl
      · rw [List.map_cons, items_, List.cons_append]

/-- The items of a padded list are options proper or padding. -/
theorem Padded.areItems {options : List (UInt8 × List UInt8)} (padded : Padded items options)
    (areOptions : ∀ option ∈ options, IsOption option) :
    ∀ item ∈ items, IsOption item ∨ item = (dhcpOptionPad, []) := by
  intro item member
  by_cases isPad : item.1 = dhcpOptionPad
  · exact .inr (Prod.ext isPad (padded.pads item member isPad))
  · refine .inl (areOptions item ?_)
    rw [← padded.filtered]
    exact List.mem_filter.mpr ⟨member, decide_eq_true isPad⟩

theorem length_le_optionBytes (items : List (UInt8 × List UInt8)) :
    items.length ≤ (optionBytes items).length := by
  induction items with
  | nil => exact Nat.le_refl _
  | cons item rest ih =>
      have some_ : 0 < (dhcpOptionAdd item.1 item.2).length := by
        rw [length_dhcpOptionAdd]
        split_ifs
        all_goals omega
      rw [optionBytes, List.flatMap_cons, List.length_append, List.length_cons]
      rw [optionBytes] at ih
      omega

end

/-! ## The options of an answer -/

/-- The options of an OFFER or an ACK, in the order in which they are added. -/
def replyItems (config : Config) (messageType : UInt8) (informing : Bool)
    (params : List UInt8) : List (UInt8 × List UInt8) :=
  let included (code : UInt8) (data : List UInt8) : List (UInt8 × List UInt8) :=
    if code ∈ params then [(code, data)] else []
  [(dhcpOptionDhcpMessageType, [messageType]),
    (dhcpOptionServerIdentifier, beBytes 4 config.serverIp.toNat)] ++
    (if informing then []
      else [(dhcpOptionIpAddressLeaseTime, beBytes 4 config.leaseTime.toNat)]) ++
    included dhcpOptionSubnetMask (beBytes 4 config.netmask.toNat) ++
    included dhcpOptionRouter (beBytes 4 config.gateway.toNat) ++
    included dhcpOptionDomainNameServer
      (beBytes 4 config.dns0.toNat ++ beBytes 4 config.dns1.toNat) ++
    included dhcpOptionInterfaceMtu (beBytes 2 config.networkMtu.toNat) ++
    included dhcpOptionBroadcastAddress (beBytes 4 inaddrBroadcast.toNat) ++
    included dhcpOptionRenewalTimeValue (beBytes 4 (config.leaseTime.toNat / 2)) ++
    included dhcpOptionRebindingTimeValue (beBytes 4 (config.leaseTime.toNat * 7 / 8)) ++
    [(dhcpOptionEnd, [])]

theorem optionBytes_append (first second : List (UInt8 × List UInt8)) :
    optionBytes (first ++ second) = optionBytes first ++ optionBytes second :=
  List.flatMap_append

theorem replyOptions_eq (config : Config) (messageType : UInt8) (informing : Bool)
    (params : List UInt8) :
    replyOptions config messageType informing params =
      optionBytes (replyItems config messageType informing params) := by
  have included : ∀ (code : UInt8) (data : List UInt8),
      (if code ∈ params then dhcpOptionAdd code data else []) =
        optionBytes (if code ∈ params then [(code, data)] else []) := by
    intro code data
    split_ifs
    · simp [optionBytes]
    · rfl
  simp only [replyOptions, replyItems, included, optionBytes_append]
  cases informing with
  | true => simp [optionBytes]
  | false => simp [optionBytes]

theorem length_beBytes (width value : Nat) : (beBytes width value).length = width := by
  rw [beBytes, List.length_reverse, length_leBytes]

/-- The options that a client may ask for. -/
def optionalCodes : List UInt8 :=
  [dhcpOptionSubnetMask, dhcpOptionRouter, dhcpOptionDomainNameServer, dhcpOptionInterfaceMtu,
    dhcpOptionBroadcastAddress, dhcpOptionRenewalTimeValue, dhcpOptionRebindingTimeValue]

/-- An answer's options are among those of an answer to a client that asks for all of them. -/
theorem replyItems_split (config : Config) (messageType : UInt8) (informing : Bool)
    (params : List UInt8) :
    ∃ options, replyItems config messageType informing params =
        options ++ [(dhcpOptionEnd, [])] ∧
      options.Sublist (replyItems config messageType false optionalCodes).dropLast := by
  have included : ∀ (code : UInt8) (data : List UInt8), code ∈ optionalCodes →
      (if code ∈ params then [(code, data)] else []).Sublist
        (if code ∈ optionalCodes then [(code, data)] else []) := by
    intro code data isOptional
    rw [if_pos isOptional]
    split_ifs
    · exact List.Sublist.refl _
    · exact List.nil_sublist _
  have lease : ∀ item : UInt8 × List UInt8,
      (if informing = true then [] else [item]).Sublist [item] := by
    intro item
    split_ifs
    · exact List.nil_sublist _
    · exact List.Sublist.refl _
  refine ⟨_, rfl, ?_⟩
  simp only [replyItems, List.dropLast_concat, Bool.false_eq_true, if_false]
  exact ((((((((List.Sublist.refl _).append (lease _)).append (included _ _ (by decide))).append
    (included _ _ (by decide))).append (included _ _ (by decide))).append
    (included _ _ (by decide))).append (included _ _ (by decide))).append
    (included _ _ (by decide))).append (included _ _ (by decide))

theorem isOption_of_length {code : UInt8} {data : List UInt8}
    (proper : code ≠ dhcpOptionPad ∧ code ≠ dhcpOptionEnd)
    (length : 0 < data.length ∧ data.length ≤ 255) : IsOption (code, data) :=
  ⟨proper.1, proper.2, List.ne_nil_of_length_pos length.1, length.2⟩

/-- All of them are options proper. -/
theorem replyItems_areOptions (config : Config) (messageType : UInt8) :
    ∀ option ∈ (replyItems config messageType false optionalCodes).dropLast,
      IsOption option := by
  intro option member
  change option ∈ [_, _, _, _, _, _, _, _, _, _] at member
  simp only [List.mem_cons, List.not_mem_nil, or_false] at member
  rcases member with rfl | rfl | rfl | rfl | rfl | rfl | rfl | rfl | rfl | rfl
  all_goals exact isOption_of_length (by decide) (by simp [length_beBytes])

/-- The options of a NAK, in the order in which they are added. -/
def nakItems (config : Config) : List (UInt8 × List UInt8) :=
  [(dhcpOptionDhcpMessageType, [dhcpNak]),
    (dhcpOptionServerIdentifier, beBytes 4 config.serverIp.toNat), (dhcpOptionEnd, [])]

/-- These options are added to the area without a failing assertion, and are what is read of
the bytes of the answer that are sent. -/
structure Reply.Carries (reply : Reply) (area : List UInt8) (items : List (UInt8 × List UInt8)) :
    Prop where
  added : addOptions items area 0 = some (reply.message.options, reply.optionsLength)
  read : ∃ trace, optionTrace (received reply.message.options reply.optionsLength)
      dhcpOptionsLength 0 = some trace ∧
    trace.map (fun read => (read.opt, read.data)) = items

theorem carries_of_areOptions {area : List UInt8} {options : List (UInt8 × List UInt8)}
    {reply : Reply} (whole : area.length = dhcpOptionsLength)
    (areOptions : ∀ option ∈ options, IsOption option)
    (fits : (optionBytes (options ++ [(dhcpOptionEnd, [])])).length ≤ dhcpOptionsLength)
    (isMessage : reply.message.options =
      splice area 0 (optionBytes (options ++ [(dhcpOptionEnd, [])])))
    (isLength : reply.optionsLength =
      (optionBytes (options ++ [(dhcpOptionEnd, [])])).length) :
    reply.Carries area (options ++ [(dhcpOptionEnd, [])]) := by
  have short : ∀ item ∈ options ++ [(dhcpOptionEnd, [])], item.2.length ≤ 255 := by
    intro item member
    rcases List.mem_append.mp member with isOption | isEnd
    · exact (areOptions item isOption).short
    · rw [List.mem_singleton.mp isEnd]
      exact Nat.zero_le _
  have sent : received reply.message.options reply.optionsLength =
      optionBytes options ++ [dhcpOptionEnd] := by
    rw [received, receivedLength, isLength, Nat.min_eq_left fits, isMessage, splice,
      List.take_zero, List.nil_append, List.take_left, optionBytes_append]
    rfl
  constructor
  · rw [addOptions_eq whole short (by rwa [Nat.zero_add]), isMessage, isLength, Nat.zero_add]
  · rw [sent]
    rw [optionBytes_append, List.length_append] at fits
    exact @optionTrace_written options [] [] _ (fun item member => .inl (areOptions item member))
      ((length_le_optionBytes options).trans_lt (Nat.lt_of_succ_le fits))

/-- Whatever the configuration and whatever options a client asks for, the options of every
answer are added without a failing assertion, and the option reader finds in what is sent just
these options, in their order. -/
theorem replies_carry (config : Config) {message : DhcpMessage}
    (whole : message.options.length = dhcpOptionsLength) (state : ClientState)
    (params : List UInt8) :
    (acceptingReply config message state params).Carries message.options
        (replyItems config (acceptingReply config message state params).messageType
          (state == .informing) params) ∧
      (refusingReply config message).Carries message.options (nakItems config) := by
  constructor
  · generalize isType : (acceptingReply config message state params).messageType = messageType
    obtain ⟨options, split, among⟩ :=
      replyItems_split config messageType (state == .informing) params
    have isBytes := replyOptions_eq config messageType (state == .informing) params
    rw [split] at isBytes ⊢
    have size : (optionBytes (options ++ [(dhcpOptionEnd, [])])).length ≤ 59 + 1 := by
      rw [optionBytes_append, List.length_append]
      exact Nat.add_le_add_right (among.flatMap _).length_le 1
    have same : (acceptingReply config message state params).optionsLength =
        (replyOptions config messageType (state == .informing) params).length := by
      rw [← isType]
      rfl
    have area : (acceptingReply config message state params).message.options =
        splice message.options 0
          (replyOptions config messageType (state == .informing) params) := by
      rw [← isType]
      simp only [acceptingReply, dhcpdSendResponse, DhcpMessage.withOptions, DhcpMessage.asReply]
      split_ifs <;> rfl
    rw [isBytes] at same area
    exact carries_of_areOptions whole
      (fun item member => replyItems_areOptions config messageType item (among.subset member))
      (size.trans (by decide)) area same
  · have areOptions : ∀ option ∈ (nakItems config).dropLast, IsOption option := by
      intro option member
      change option ∈ [_, _] at member
      simp only [List.mem_cons, List.not_mem_nil, or_false] at member
      rcases member with rfl | rfl
      all_goals exact isOption_of_length (by decide) (by simp [length_beBytes])
    have size : (optionBytes (nakItems config)).length = 10 := rfl
    exact carries_of_areOptions whole areOptions (size.le.trans (by decide)) rfl rfl

/-- The server 10.0.0.1, and leases of a minute. -/
def minuteConfig : Config :=
  ⟨0x0a000001, 0xffffff00, 0x0a000001, 0, 0, 0x0a000002, 0x0a000009, 60, 10, 1, false, 10, 1500⟩

theorem replies_carry_offer :
    (acceptingReply minuteConfig (DhcpMessage.ofBytes (List.replicate 548 0)) .discover
        [58, 3, 12]).Carries (DhcpMessage.ofBytes (List.replicate 548 0)).options
      [(53, [2]), (54, [10, 0, 0, 1]), (51, [0, 0, 0, 60]), (3, [10, 0, 0, 1]),
        (58, [0, 0, 0, 30]), (255, [])] :=
  (replies_carry minuteConfig (by decide +kernel) .discover [58, 3, 12]).1

/-- For every option area and every length but zero the loop over the options ends, reads
received bytes alone and takes its data from them; and options that fit, with any
padding between them and an END behind, are written without a failing assertion and
read back as they are. -/
theorem option_codec :
    (∀ (message : DhcpMessage) (optionsLength : Nat),
        message.options.length = dhcpOptionsLength → 1 ≤ optionsLength →
        ∃ trace, optionTrace (received message.options optionsLength) dhcpOptionsLength 0 =
            some trace ∧
          Parsed (received message.options optionsLength) trace ∧
            message.requested optionsLength =
              trace.foldl Requested.set ⟨0, none, none, defaultParams⟩) ∧
      ∀ (area : List UInt8) (options items : List (UInt8 × List UInt8)) (optionsLength : Nat),
        area.length = dhcpOptionsLength → (∀ option ∈ options, IsOption option) →
        Padded items options → (optionBytes items).length + 1 ≤ dhcpOptionsLength →
        (optionBytes items).length + 1 ≤ optionsLength →
        ∃ written trace,
          addOptions (items ++ [(dhcpOptionEnd, [])]) area 0 =
              some (written, (optionBytes items).length + 1) ∧
            optionTrace (received written optionsLength) dhcpOptionsLength 0 = some trace ∧
              (trace.map fun read => (read.opt, read.data)).filter
                  (fun item => item.1 ≠ dhcpOptionPad) =
                options ++ [(dhcpOptionEnd, [])] := by
  constructor
  · intro message optionsLength whole some_
    have inside : 0 < receivedLength optionsLength := Nat.lt_min.mpr ⟨some_, by decide⟩
    have enough : receivedLength optionsLength ≤ 0 + dhcpOptionsLength := by
      rw [Nat.zero_add]
      exact Nat.min_le_right _ _
    exact optionTrace_received whole inside enough _
  · intro area options items optionsLength whole areOptions padded fits within
    have areItems := padded.areItems areOptions
    have bytes : optionBytes (items ++ [(dhcpOptionEnd, [])]) =
        optionBytes items ++ [dhcpOptionEnd] := List.flatMap_append
    have length : (optionBytes (items ++ [(dhcpOptionEnd, [])])).length =
        (optionBytes items).length + 1 := by
      rw [bytes, List.length_append]
      rfl
    have short : ∀ item ∈ items ++ [(dhcpOptionEnd, [])], item.2.length ≤ 255 := by
      intro item member
      rcases List.mem_append.mp member with inItems | isEnd
      · rcases areItems item inItems with isOption | rfl
        · exact isOption.short
        · exact Nat.zero_le _
      · rw [List.mem_singleton.mp isEnd]
        exact Nat.zero_le _
    have added := addOptions_eq whole short (by rw [length]; omega : 0 + _ ≤ _)
    have bound : (optionBytes items).length + 1 ≤ receivedLength optionsLength :=
      Nat.le_min.mpr ⟨within, fits⟩
    have area_ : received (splice area 0 (optionBytes (items ++ [(dhcpOptionEnd, [])])))
        optionsLength = [] ++ (optionBytes items ++ dhcpOptionEnd ::
          (area.drop ((optionBytes items).length + 1)).take
            (receivedLength optionsLength - ((optionBytes items).length + 1))) := by
      have whole_ : (optionBytes items ++ [dhcpOptionEnd]).length =
          (optionBytes items).length + 1 := List.length_append
      rw [received, splice, length, Nat.zero_add, List.take_zero, List.nil_append, bytes,
        List.take_append, whole_, List.take_of_length_le (by rw [whole_]; exact bound),
        List.append_assoc, List.nil_append]
      rfl
    rcases optionTrace_written areItems (Nat.lt_of_le_of_lt (length_le_optionBytes items) fits)
      with ⟨trace, traced, items_⟩
    refine ⟨splice area 0 (optionBytes (items ++ [(dhcpOptionEnd, [])])), trace, ?_, ?_, ?_⟩
    · rw [added, length, Nat.zero_add]
    · rw [area_]
      exact traced
    · rw [items_, List.filter_append, padded.filtered]
      rfl

/-- A REQUEST of 10.0.0.2 with padding before its second option. -/
theorem request_codec :
    (∃ trace, optionTrace (received (DhcpMessage.ofBytes (List.replicate 548 0)).options 1)
        dhcpOptionsLength 0 = some trace ∧
        Parsed (received (DhcpMessage.ofBytes (List.replicate 548 0)).options 1) trace ∧
          (DhcpMessage.ofBytes (List.replicate 548 0)).requested 1 =
            trace.foldl Requested.set ⟨0, none, none, defaultParams⟩) ∧
      ∃ written trace,
        addOptions ([(53, [3]), (0, []), (50, [10, 0, 0, 2])] ++ [(dhcpOptionEnd, [])])
            (List.replicate dhcpOptionsLength 0) 0 = some (written, 11) ∧
          optionTrace (received written 11) dhcpOptionsLength 0 = some trace ∧
            (trace.map fun read => (read.opt, read.data)).filter
                (fun item => item.1 ≠ dhcpOptionPad) =
              [(53, [3]), (50, [10, 0, 0, 2])] ++ [(dhcpOptionEnd, [])] := by
  have first : IsOption (53, [3]) := ⟨by decide, by decide, by decide, by decide⟩
  have second : IsOption (50, [10, 0, 0, 2]) := ⟨by decide, by decide, by decide, by decide⟩
  exact ⟨option_codec.1 (DhcpMessage.ofBytes (List.replicate 548 0)) 1 (by decide +kernel)
      (by decide),
    option_codec.2 (List.replicate dhcpOptionsLength 0) [(53, [3]), (50, [10, 0, 0, 2])]
      [(53, [3]), (0, []), (50, [10, 0, 0, 2])] 11 (by decide +kernel)
      (List.forall_mem_cons.mpr ⟨first, List.forall_mem_singleton.mpr second⟩)
      ⟨by decide, by decide⟩ (by decide) (by decide)⟩

end FwkRtos.Dhcpd

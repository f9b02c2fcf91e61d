import FwkRtos.SlWfx.NetworkProfiles

/-!
# The profile store when FatFs fails

Wherever a call of FatFs fails inside `WIFI_NetworkAdd` or `WIFI_NetworkDelete`,
the profiles that are not deleted are still in the file.  The loop of a deletion
writes over one place at a time, and the profile of that place is the deleted one
or already has its copy one place before; so they are there also when the close
loses the last writes.

The reply is a different matter.  Both operations discard the result of `f_close`,
and report success when it has failed to write the directory entry, which then
keeps the length that the file had before.
-/

namespace FwkRtos.SlWfx

open FwkRtos.Bytes

/-! ## What the disk has -/

theorem length_overwrite (bytes : List UInt8) (pos : Nat) (part : List UInt8) :
    (overwrite bytes pos part).length = bytes.length := by
  have longer : bytes.length ≤ (splice bytes pos part).length := by
    simp only [splice, List.length_append, List.length_take, List.length_drop]
    omega
  rw [overwrite, List.length_take, Nat.min_eq_left longer]

/-- The directory entry decides the length. -/
theorem DiskFile.length_left (disk : DiskFile) (lost kept : Nat) :
    (disk.left lost kept).length = disk.entry.length := by
  rcases disk with ⟨entry, writes⟩
  show (leftOf entry kept writes lost).length = entry.length
  fun_induction leftOf entry kept writes lost with
  | case1 lost => rfl
  | case2 pos part writes ih => rw [length_overwrite, ih]
  | case3 pos part writes ih => rw [length_overwrite, ih]
  | case4 write writes lost ih => exact ih

/-- Of the last write, the disk has the first bytes or none. -/
theorem DiskFile.left_write (disk : DiskFile) (pos : Nat) (part : List UInt8) (lost kept : Nat) :
    (∃ first, (disk.write pos part).left lost kept =
        overwrite (disk.left 0 kept) pos (part.take first)) ∨
      ∃ fewer, (disk.write pos part).left lost kept = disk.left fewer kept := by
  rcases lost with _ | _ | lost
  · exact .inl ⟨part.length, congrArg (overwrite _ pos) List.take_length.symm⟩
  · exact .inl ⟨kept, rfl⟩
  · exact .inr ⟨lost + 1, rfl⟩

/-- A write over one of the profiles stays inside the file. -/
theorem overwrite_pack {profiles : List Profile} {i : Nat} (inside : i < profiles.length)
    {part : List UInt8} (small : part.length ≤ sizeofProfile) :
    overwrite (pack profiles) (i * sizeofProfile) part =
      splice (pack profiles) (i * sizeofProfile) part := by
  have ends : (i + 1) * sizeofProfile ≤ (pack profiles).length := by
    rw [length_pack]
    exact Nat.mul_le_mul_right _ inside
  apply List.take_of_length_le
  simp only [splice, List.length_append, List.length_take, List.length_drop]
  rw [Nat.succ_mul] at ends
  omega

/-- A write behind the end is not in the file before its directory entry is. -/
theorem overwrite_end (bytes part : List UInt8) : overwrite bytes bytes.length part = bytes := by
  rw [overwrite, splice, List.take_length, List.append_assoc, List.take_left]

/-! ## One call of FatFs -/

/-- None of the first calls fails. -/
def Succeed (calls : Nat) (outcomes : List Outcome) : Prop :=
  ∀ outcome ∈ outcomes.take calls, outcome.fails = false

instance (calls : Nat) (outcomes : List Outcome) : Decidable (Succeed calls outcomes) :=
  inferInstanceAs (Decidable (∀ outcome ∈ outcomes.take calls, outcome.fails = false))

theorem succeed_succ {calls : Nat} {outcomes : List Outcome} :
    Succeed (calls + 1) outcomes ↔
      (outcomes.headD .done).fails = false ∧ Succeed calls outcomes.tail := by
  cases outcomes with
  | nil => simp [Succeed]
  | cons outcome rest => simp [Succeed]

theorem succeed_one {outcomes : List Outcome} :
    Succeed 1 outcomes ↔ (outcomes.headD .done).fails = false :=
  succeed_succ.trans (and_iff_left (by simp [Succeed]))

theorem succeed_add {first second : Nat} {outcomes : List Outcome} :
    Succeed (first + second) outcomes ↔
      Succeed first outcomes ∧ Succeed second (outcomes.drop first) := by
  simp only [Succeed, List.take_add, List.mem_append, or_imp, forall_and]

/-- The call that follows some calls. -/
theorem Fil.outcome_eq_getD {fil : Fil} {outcomes : List Outcome} {calls : Nat}
    (used : fil.outcomes = outcomes.drop calls) : fil.outcome = outcomes.getD calls .done := by
  rw [Fil.outcome, used, List.headD_eq_head?_getD, List.head?_drop, List.getD_eq_getElem?_getD]

/-- A call that has changed the position at most. -/
structure Moved (fil after : Fil) : Prop where
  bytes : after.bytes = fil.bytes
  disk : after.disk = fil.disk
  outcomes : after.outcomes = fil.outcomes.tail

/-- A call that has written. -/
structure Written (fil : Fil) (part : List UInt8) (after : Fil) : Prop where
  bytes : after.bytes = splice fil.bytes fil.fptr part
  disk : after.disk = fil.disk.write fil.fptr part
  outcomes : after.outcomes = fil.outcomes.tail

theorem not_succeed_of_fails {fil : Fil} (fails : fil.outcome.fails = true) (calls : Nat) :
    ¬ Succeed (calls + 1) fil.outcomes :=
  fun all => Bool.false_ne_true ((succeed_succ.mp all).1.symm.trans fails)

/-- A call that does not fail leaves the question to the others. -/
theorem succeed_iff_of_not_fails {fil after : Fil} (works : fil.outcome.fails = false)
    (outcomes : after.outcomes = fil.outcomes.tail) (calls : Nat) :
    Succeed (calls + 1) fil.outcomes ↔ Succeed calls after.outcomes := by
  rw [succeed_succ, outcomes]
  exact and_iff_right works

theorem fOpen_cases (volume : Volume) (access : Access) :
    (∃ after, fOpen volume access = .error after ∧ after.networks = volume.networks ∧
        (¬ Succeed 1 volume.outcomes ∨ access = .read ∧ volume.networks = none)) ∨
      ∃ fil, fOpen volume access = .ok fil ∧ fil.bytes = volume.networks.getD [] ∧
        (access = .append → fil.fptr = fil.bytes.length) ∧
        fil.disk = ⟨volume.networks.getD [], []⟩ ∧ Succeed 1 volume.outcomes ∧
        fil.outcomes = volume.outcomes.drop 1 := by
  rcases volume with ⟨networks, outcomes⟩
  by_cases fails : (outcomes.headD .done).fails = true
  · exact .inl ⟨_, if_pos fails, rfl,
      .inl fun all => Bool.false_ne_true ((succeed_one.mp all).symm.trans fails)⟩
  have works : Succeed 1 outcomes := succeed_one.mpr (Bool.eq_false_iff.mpr fails)
  cases networks with
  | none =>
      cases access with
      | read => exact .inl ⟨_, if_neg fails, rfl, .inr ⟨rfl, rfl⟩⟩
      | append =>
          exact .inr ⟨_, if_neg fails, rfl, fun _ => rfl, rfl, works, List.drop_one.symm⟩
  | some bytes =>
      cases access with
      | read => exact .inr ⟨_, if_neg fails, rfl, nofun, rfl, works, List.drop_one.symm⟩
      | append =>
          exact .inr ⟨_, if_neg fails, rfl, fun _ => rfl, rfl, works, List.drop_one.symm⟩

theorem fLseek_cases (fil : Fil) {ofs : Nat} (within : ofs ≤ fil.bytes.length) :
    (∃ after, fLseek fil ofs = (.error, after) ∧ Moved fil after ∧ fil.outcome.fails = true) ∨
      ∃ after, fLseek fil ofs = (.ok, after) ∧ Moved fil after ∧ after.fptr = ofs ∧
        fil.outcome.fails = false := by
  by_cases fails : fil.outcome.fails = true
  · exact .inl ⟨_, if_pos fails, ⟨rfl, rfl, rfl⟩, fails⟩
  · exact .inr ⟨_, if_neg fails, ⟨rfl, rfl, rfl⟩, Nat.min_eq_left within,
      Bool.eq_false_iff.mpr fails⟩

theorem fRead_cases (fil : Fil) (count : Nat) :
    (∃ after, fRead fil count = (.error, [], after) ∧ Moved fil after ∧
        fil.outcome.fails = true) ∨
      ∃ after, fRead fil count = (.ok, slice fil.bytes fil.fptr count, after) ∧
        Moved fil after ∧ fil.outcome.fails = false := by
  by_cases fails : fil.outcome.fails = true
  · exact .inl ⟨_, if_pos fails, ⟨rfl, rfl, rfl⟩, fails⟩
  · exact .inr ⟨_, if_neg fails, ⟨rfl, rfl, rfl⟩, Bool.eq_false_iff.mpr fails⟩

theorem fTruncate_cases (fil : Fil) :
    (∃ after, fTruncate fil = (.error, after) ∧ Moved fil after ∧ fil.outcome.fails = true) ∨
      ∃ after, fTruncate fil = (.ok, after) ∧ after.bytes = fil.bytes.take fil.fptr ∧
        (after.disk = fil.disk ∨ after.disk = fil.disk.flushed) ∧
        after.outcomes = fil.outcomes.tail ∧ fil.outcome.fails = false := by
  by_cases fails : fil.outcome.fails = true
  · exact .inl ⟨_, if_pos fails, ⟨rfl, rfl, rfl⟩, fails⟩
  · refine .inr ⟨_, if_neg fails, rfl, ?_, rfl, Bool.eq_false_iff.mpr fails⟩
    by_cases cuts : fil.fptr < fil.bytes.length
    · exact .inr (if_pos cuts)
    · exact .inl (if_neg cuts)

/-- A write that fails leaves something in its target or nothing; one that does not writes a
part of its bytes. -/
theorem fWrite_cases (fil : Fil) (bytes : List UInt8) :
    (∃ after, fWrite fil bytes = (.error, 0, after) ∧ fil.outcome.fails = true ∧
      (Moved fil after ∨
        ∃ part : List UInt8, part.length ≤ bytes.length ∧ Written fil part after)) ∨
    ∃ after, fWrite fil bytes = (.ok, fil.transferred bytes.length, after) ∧
      fil.outcome.fails = false ∧
      Written fil (bytes.take (fil.transferred bytes.length)) after := by
  unfold fWrite
  cases outcome : fil.outcome with
  | done => exact .inr ⟨_, rfl, rfl, ⟨rfl, rfl, rfl⟩⟩
  | error => exact .inl ⟨_, rfl, rfl, .inl ⟨rfl, rfl, rfl⟩⟩
  | torn left =>
      refine .inl ⟨_, rfl, rfl, .inr ⟨left.take bytes.length, ?_, ⟨rfl, rfl, rfl⟩⟩⟩
      exact List.length_take_le _ _
  | short count => exact .inr ⟨_, rfl, rfl, ⟨rfl, rfl, rfl⟩⟩
  | unsynced lost kept => exact .inl ⟨_, rfl, rfl, .inl ⟨rfl, rfl, rfl⟩⟩

/-- A write inside the file has its clusters. -/
theorem transferred_of_inside {fil : Fil} {count : Nat}
    (inside : fil.fptr + count ≤ fil.bytes.length) : fil.transferred count = count := by
  unfold Fil.transferred
  split
  · omega
  · rfl

/-! ## The loop of a deletion -/

/-- Whatever becomes of the close, the others are in the file. -/
structure Safe (others : List Profile) (fil : Fil) : Prop where
  bytes : Contains fil.bytes others
  disk : ∀ lost kept, Contains (fil.disk.left lost kept) others

/-- The file holds the profiles, and the others wherever the writing to the disk has stopped. -/
structure Holds (profiles others : List Profile) (fil : Fil) : Prop where
  bytes : fil.bytes = pack profiles
  written : ∀ kept, fil.disk.left 0 kept = pack profiles
  others : ∀ lost kept, Contains (fil.disk.left lost kept) others

namespace Holds

variable {profiles others : List Profile} {fil after : Fil}

theorem safe (holds : Holds profiles others fil) : Safe others fil where
  bytes := by
    have there := holds.others 0 0
    rwa [holds.written, ← holds.bytes] at there
  disk := holds.others

theorem moved (holds : Holds profiles others fil) (moved : Moved fil after) :
    Holds profiles others after where
  bytes := moved.bytes.trans holds.bytes
  written := moved.disk ▸ holds.written
  others := moved.disk ▸ holds.others

theorem length (holds : Holds profiles others fil) :
    fil.bytes.length = profiles.length * sizeofProfile := by
  rw [holds.bytes, length_pack]

/-- Whatever a write leaves over one place, the other profiles stay. -/
theorem safe_write {i : Nat} (holds : Holds profiles (profiles.eraseIdx i) fil)
    (inside : i < profiles.length) {part : List UInt8} (small : part.length ≤ sizeofProfile)
    (place : fil.fptr = i * sizeofProfile) (write : Written fil part after) :
    Safe (profiles.eraseIdx i) after where
  bytes := by
    rw [write.bytes, holds.bytes, place]
    exact contains_eraseIdx inside small
  disk lost kept := by
    rw [write.disk, place]
    rcases fil.disk.left_write (i * sizeofProfile) part lost kept with ⟨first, isLeft⟩ | ⟨_, isLeft⟩
    · have fewer : (part.take first).length ≤ sizeofProfile :=
        (List.length_take_le' _ _).trans small
      rw [isLeft, holds.written, overwrite_pack inside fewer]
      exact contains_eraseIdx inside fewer
    · rw [isLeft]
      exact holds.others _ kept

/-- A profile that is written over one place is there. -/
theorem write {i : Nat} (holds : Holds profiles (profiles.eraseIdx i) fil)
    (inside : i < profiles.length) {profile : Profile} (place : fil.fptr = i * sizeofProfile)
    (write : Written fil profile.val after) :
    Holds (profiles.set i profile) (profiles.eraseIdx i) after where
  bytes := by rw [write.bytes, holds.bytes, place, splice_pack inside]
  written kept := by
    rw [write.disk, place]
    show overwrite (fil.disk.left 0 kept) _ profile.val = _
    rw [holds.written, overwrite_pack inside profile.property.le, splice_pack inside]
  others := (holds.safe_write inside profile.property.le place write).disk

end Holds

/-- A round moves the next profile to a place, or it fails and at most that place is damaged. -/
theorem shiftOne_cases {profiles : List Profile} {i : Nat} (inside : i + 1 < profiles.length)
    {fil : Fil} (holds : Holds profiles (profiles.eraseIdx i) fil) (tmp : Profile) :
    (∃ rest after, shiftOne fil tmp (i * sizeofProfile) ((i + 1) * sizeofProfile) =
        (.error, rest, after) ∧ Safe (profiles.eraseIdx i) after ∧ ¬ Succeed 4 fil.outcomes) ∨
      ∃ after, shiftOne fil tmp (i * sizeofProfile) ((i + 1) * sizeofProfile) =
        (.ok, profiles[i + 1], after) ∧
        Holds (profiles.set i profiles[i + 1]) (profiles.eraseIdx i) after ∧
        Succeed 4 fil.outcomes ∧ after.outcomes = fil.outcomes.drop 4 := by
  have before : i < profiles.length := Nat.lt_of_succ_lt inside
  have within {j : Nat} (le : j ≤ profiles.length) {file : Fil}
      (there : Holds profiles (profiles.eraseIdx i) file) :
      j * sizeofProfile ≤ file.bytes.length := by
    rw [there.length]
    exact Nat.mul_le_mul_right _ le
  unfold shiftOne
  rcases fLseek_cases fil (within inside.le holds) with
    ⟨after, sought, same, fails⟩ | ⟨source, sought, same, position, works⟩
  · rw [sought]
    exact .inl ⟨_, after, rfl, (holds.moved same).safe, not_succeed_of_fails fails 3⟩
  have holds₁ := holds.moved same
  have calls₁ := succeed_iff_of_not_fails works same.outcomes 3
  rw [sought, calls₁]
  dsimp only
  rcases fRead_cases source sizeofProfile with
    ⟨after, read, unread, fails⟩ | ⟨target, read, unread, works₁⟩
  · rw [read]
    exact .inl ⟨_, after, rfl, (holds₁.moved unread).safe, not_succeed_of_fails fails 2⟩
  have holds₂ := holds₁.moved unread
  rw [succeed_iff_of_not_fails works₁ unread.outcomes 2]
  rw [holds₁.bytes, position, slice_pack inside] at read
  rw [read]
  have whole : (profiles[i + 1].val ++ tmp.val.drop profiles[i + 1].val.length).take
      sizeofProfile = profiles[i + 1].val := by
    rw [profiles[i + 1].property]
    exact List.take_left' profiles[i + 1].property
  simp only [whole, Subtype.coe_eta]
  rcases fLseek_cases target (within before.le holds₂) with
    ⟨after, found, kept, fails⟩ | ⟨dest, found, kept, place, works₂⟩
  · rw [found]
    exact .inl ⟨_, after, rfl, (holds₂.moved kept).safe, not_succeed_of_fails fails 1⟩
  have holds₃ := holds₂.moved kept
  rw [found, succeed_iff_of_not_fails works₂ kept.outcomes 1]
  dsimp only
  have room : dest.fptr + profiles[i + 1].val.length ≤ dest.bytes.length := by
    rw [place, profiles[i + 1].property, ← Nat.succ_mul]
    exact within before holds₃
  rcases fWrite_cases dest profiles[i + 1].val with
    ⟨after, failed, fails, left⟩ | ⟨after, wrote, works₃, replaced⟩
  · rw [failed]
    refine .inl ⟨_, after, rfl, ?_, not_succeed_of_fails fails 0⟩
    rcases left with same' | ⟨part, small, damaged⟩
    · exact (holds₃.moved same').safe
    · exact holds₃.safe_write before (small.trans_eq profiles[i + 1].property) place damaged
  · rw [transferred_of_inside room, List.take_length] at replaced
    rw [wrote]
    refine .inr ⟨after, rfl, holds₃.write before place replaced, ?_, ?_⟩
    · rw [succeed_iff_of_not_fails works₃ replaced.outcomes 0]
      simp [Succeed]
    · rw [replaced.outcomes, kept.outcomes, unread.outcomes, same.outcomes]
      simp only [← List.drop_one, List.drop_drop]

/-- Wherever the loop stops, every profile but the one at the place is in the file; when it comes
to its end, they are its first ones. -/
theorem shiftLoop_cases {profiles : List Profile} {i : Nat} (inside : i < profiles.length)
    {fil : Fil} (holds : Holds profiles (profiles.eraseIdx i) fil) (tmp : Profile) :
    (∃ dest after, shiftLoop (profiles.length * sizeofProfile) fil tmp (i * sizeofProfile)
        ((i + 1) * sizeofProfile) = (.error, dest, after) ∧
        Safe (profiles.eraseIdx i) after ∧
        ¬ Succeed (4 * (profiles.length - (i + 1))) fil.outcomes) ∨
      ∃ shifted after, shiftLoop (profiles.length * sizeofProfile) fil tmp (i * sizeofProfile)
        ((i + 1) * sizeofProfile) = (.ok, (profiles.length - 1) * sizeofProfile, after) ∧
        Holds shifted (profiles.eraseIdx i) after ∧ shifted.length = profiles.length ∧
        shifted.take (profiles.length - 1) = profiles.eraseIdx i ∧
        Succeed (4 * (profiles.length - (i + 1))) fil.outcomes ∧
        after.outcomes = fil.outcomes.drop (4 * (profiles.length - (i + 1))) := by
  induction left : profiles.length - (i + 1) generalizing profiles i tmp fil with
  | zero =>
      have last : i = profiles.length - 1 := by omega
      have done : ¬ (i + 1) * sizeofProfile < profiles.length * sizeofProfile :=
        Nat.not_lt_of_le (Nat.mul_le_mul_right _ (by omega))
      refine .inr ⟨profiles, fil, ?_, holds, rfl, ?_, by simp [Succeed], rfl⟩
      · rw [shiftLoop, if_neg done, last]
      · rw [List.eraseIdx_eq_take_drop_succ, List.drop_of_length_le (by omega), List.append_nil,
          last]
  | succ rounds ih =>
      have next : i + 1 < profiles.length := by omega
      have goesOn : (i + 1) * sizeofProfile < profiles.length * sizeofProfile :=
        Nat.mul_lt_mul_of_pos_right next sizeofProfile_pos
      have calls : 4 * (rounds + 1) = 4 + 4 * rounds := by omega
      rw [shiftLoop, if_pos goesOn, calls, succeed_add]
      rcases shiftOne_cases next holds tmp with
        ⟨rest, after, failed, safe, fails⟩ | ⟨after, moved, holds', works, used⟩
      · rw [failed]
        exact .inl ⟨_, after, rfl, safe, fun all => fails all.1⟩
      · have length : (profiles.set i profiles[i + 1]).length = profiles.length :=
          List.length_set
        have erased := eraseIdx_set_next profiles next
        have looped := @ih (profiles.set i profiles[i + 1]) (i + 1) (length ▸ next) after
          (by rw [erased]; exact holds') profiles[i + 1] (by rw [length]; omega)
        rw [length, erased, used, List.drop_drop] at looped
        rw [moved, and_iff_right works]
        simpa only [Nat.succ_mul] using looped

/-! ## A whole call -/

/-- `f_close` fails before it has written the directory entry. -/
def Outcome.losesEntry : Outcome → Bool
  | .unsynced .. => true
  | _ => false

theorem Safe.fClose {others : List Profile} {fil : Fil} (safe : Safe others fil) :
    Contains ((fClose fil).networks.getD []) others := by
  unfold SlWfx.fClose
  cases outcome : fil.outcome with
  | unsynced lost kept => exact safe.disk lost kept
  | done => exact safe.bytes
  | error => exact safe.bytes
  | torn left => exact safe.bytes
  | short count => exact safe.bytes

/-- A close that writes the directory entry leaves the file as it was open; another one leaves
its old length. -/
theorem networks_fClose_eq_iff {fil : Fil} (longer : fil.disk.entry.length ≠ fil.bytes.length) :
    (fClose fil).networks = some fil.bytes ↔ fil.outcome.losesEntry = false := by
  unfold SlWfx.fClose
  cases outcome : fil.outcome with
  | unsynced lost kept =>
      refine iff_of_false ?_ nofun
      intro same
      have length := fil.disk.length_left lost kept
      rw [Option.some.inj same] at length
      exact longer length.symm
  | done => exact iff_of_true rfl rfl
  | error => exact iff_of_true rfl rfl
  | torn left => exact iff_of_true rfl rfl
  | short count => exact iff_of_true rfl rfl

/-- The calls of FatFs before the close of a deletion, when none of them fails. -/
def callsBeforeClose (profiles : List Profile) (usIndex : Nat) : Nat :=
  1 + (4 * (profiles.length - (usIndex + 1)) + 2)

/-- A deletion fails and keeps the other profiles; or it comes to the close with every call done
and the file shortened, and the directory entry not. -/
theorem networkDelete_cases {volume : Volume} {profiles : List Profile}
    (stored : volume.networks.getD [] = pack profiles) (tmp : Profile) (usIndex : UInt16) :
    (∃ after, networkDelete volume tmp usIndex = (.failure, after) ∧
        Contains (after.networks.getD []) (profiles.eraseIdx usIndex.toNat) ∧
        ¬ (usIndex.toNat < profiles.length ∧
          Succeed (callsBeforeClose profiles usIndex.toNat) volume.outcomes)) ∨
      ∃ fil, networkDelete volume tmp usIndex = (.success, fClose fil) ∧
        Safe (profiles.eraseIdx usIndex.toNat) fil ∧ usIndex.toNat < profiles.length ∧
        Succeed (callsBeforeClose profiles usIndex.toNat) volume.outcomes ∧
        fil.outcomes = volume.outcomes.drop (callsBeforeClose profiles usIndex.toNat) ∧
        fil.bytes = pack (profiles.eraseIdx usIndex.toNat) ∧
        fil.disk.entry.length = profiles.length * sizeofProfile := by
  have kept := contains_pack_eraseIdx profiles usIndex.toNat
  unfold networkDelete
  rcases fOpen_cases volume .read with
    ⟨after, closed, same, fails⟩ | ⟨fil, opened, same, _, fresh, works, used⟩
  · rw [closed]
    refine .inl ⟨after, rfl, by rw [same, stored]; exact kept, ?_⟩
    rintro ⟨inside, all⟩
    rcases fails with fails | ⟨-, absent⟩
    · exact fails (succeed_add.mp all).1
    · have empty : (pack profiles).length = 0 := by
        rw [← stored, absent]
        rfl
      rw [length_pack] at empty
      have some_ := Nat.mul_pos (Nat.zero_lt_of_lt inside) sizeofProfile_pos
      omega
  rw [stored] at same fresh
  have holds : Holds profiles (profiles.eraseIdx usIndex.toNat) fil :=
    ⟨same, fun _ => fresh ▸ rfl, fun _ _ => fresh ▸ kept⟩
  rw [opened]
  dsimp only
  by_cases inside : usIndex.toNat < profiles.length
  swap
  · have beyond : ¬ usIndex.toNat * sizeofProfile < fil.bytes.length := by
      rw [holds.length]
      exact Nat.not_lt_of_le (Nat.mul_le_mul_right _ (Nat.le_of_not_lt inside))
    rw [if_neg fun both => beyond both.2]
    exact .inl ⟨_, rfl, holds.safe.fClose, fun both => inside both.1⟩
  have within : usIndex.toNat * sizeofProfile < profiles.length * sizeofProfile :=
    Nat.mul_lt_mul_of_pos_right inside sizeofProfile_pos
  rw [holds.length, if_pos ⟨Nat.mul_mod_left _ _, within⟩, ← Nat.succ_mul, callsBeforeClose,
    succeed_add, and_iff_right works, ← List.drop_drop, ← used, succeed_add]
  rcases shiftLoop_cases inside holds tmp with
    ⟨dest, after, stopped, safe, fails⟩ | ⟨shifted, moved, done, holds', length, first, all, left⟩
  · rw [stopped]
    exact .inl ⟨_, rfl, safe.fClose, fun both => fails both.2.1⟩
  rw [done, and_iff_right all, ← List.drop_drop, ← left]
  dsimp only
  have end_ : (profiles.length - 1) * sizeofProfile ≤ moved.bytes.length := by
    rw [holds'.length, length]
    exact Nat.mul_le_mul_right _ (Nat.sub_le _ _)
  rcases fLseek_cases moved end_ with
    ⟨after, failed, same', fails⟩ | ⟨last, found, same', position, works'⟩
  · rw [failed]
    exact .inl ⟨_, rfl, (holds'.moved same').safe.fClose,
      fun both => not_succeed_of_fails fails 1 both.2⟩
  have holds'' := holds'.moved same'
  rw [found, succeed_iff_of_not_fails works' same'.outcomes 1]
  dsimp only
  rcases fTruncate_cases last with
    ⟨after, failed, long, fails⟩ | ⟨after, cut, short, disk, rest, works''⟩
  · rw [failed]
    exact .inl ⟨_, rfl, (holds''.moved long).safe.fClose,
      fun both => not_succeed_of_fails fails 0 both.2⟩
  rw [cut]
  rw [holds''.bytes, position, take_pack, first] at short
  have entry : last.disk.entry.length = profiles.length * sizeofProfile := by
    rw [← last.disk.length_left 0 0, holds''.written, length_pack, length]
  refine .inr ⟨after, rfl, ⟨short ▸ contains_pack _, ?_⟩, inside, ?_, ?_, short, ?_⟩
  · rcases disk with disk | disk
    · exact disk ▸ holds''.others
    · intro lost kept'
      rw [disk]
      exact holds''.others 0 0
  · rw [succeed_iff_of_not_fails works'' rest 0]
    simp [Succeed]
  · rw [rest, same'.outcomes, ← List.drop_one, ← List.drop_one, List.drop_drop]
  · rcases disk with disk | disk
    · rw [disk, entry]
    · rw [disk, DiskFile.flushed, DiskFile.length_left, entry]

/-- The write of an addition finds the disk with room for so many bytes. -/
def Outcome.roomFor (count : Nat) : Outcome → Bool
  | .short most => count ≤ most
  | _ => true

/-- The file of an addition opens, and the write transfers the whole profile. -/
def WritesWhole (outcomes : List Outcome) : Prop :=
  Succeed 2 outcomes ∧ (outcomes.getD 1 .done).roomFor sizeofProfile = true

instance (outcomes : List Outcome) : Decidable (WritesWhole outcomes) :=
  inferInstanceAs (Decidable (_ ∧ _))

/-- Something stands behind the profiles, and the directory entry does not know of it. -/
structure Extends (profiles : List Profile) (part : List UInt8) (fil : Fil) : Prop where
  bytes : fil.bytes = pack profiles ++ part
  disk : ∀ lost kept, fil.disk.left lost kept = pack profiles

namespace Extends

variable {profiles : List Profile} {part : List UInt8} {fil after : Fil}

theorem safe (longer : Extends profiles part fil) : Safe profiles fil where
  bytes := longer.bytes ▸ contains_append profiles part
  disk lost kept := longer.disk lost kept ▸ contains_pack profiles

theorem moved (longer : Extends profiles part fil) (moved : Moved fil after) :
    Extends profiles part after where
  bytes := moved.bytes.trans longer.bytes
  disk := moved.disk ▸ longer.disk

/-- A write at the end. -/
theorem write (longer : Extends profiles [] fil) (atEnd : fil.fptr = (pack profiles).length)
    (write : Written fil part after) : Extends profiles part after where
  bytes := by
    rw [write.bytes, longer.bytes, List.append_nil, atEnd, splice, List.take_length,
      List.drop_of_length_le (Nat.le_add_right _ _), List.append_nil]
  disk lost kept := by
    rw [write.disk, atEnd]
    rcases fil.disk.left_write (pack profiles).length part lost kept with
      ⟨first, isLeft⟩ | ⟨_, isLeft⟩
    · rw [isLeft, longer.disk, overwrite_end]
    · rw [isLeft, longer.disk]

/-- A write of which only a part fits is cut off again, or the part stays behind the profiles. -/
theorem safe_undoWrite (longer : Extends profiles part fil) :
    Safe profiles (undoWrite fil (pack profiles).length) := by
  have within : (pack profiles).length ≤ fil.bytes.length := by
    rw [longer.bytes, List.length_append]
    exact Nat.le_add_right _ _
  unfold undoWrite
  rcases fLseek_cases fil within with ⟨after, failed, same, _⟩ | ⟨sought, found, same, position, _⟩
  · rw [failed]
    exact (longer.moved same).safe
  have longer' := longer.moved same
  rw [found]
  dsimp only
  rcases fTruncate_cases sought with ⟨after, failed, long, _⟩ | ⟨after, cut, short, disk, _⟩
  · rw [failed]
    exact (longer'.moved long).safe
  rw [longer'.bytes, position, List.take_left] at short
  rw [cut]
  refine ⟨short ▸ contains_pack profiles, ?_⟩
  intro lost kept
  rcases disk with disk | disk
  · exact disk ▸ longer'.safe.disk lost kept
  · rw [disk]
    exact longer'.safe.disk 0 0

end Extends

/-- An addition fails and keeps the profiles; or it comes to the close with the whole profile
written, and the directory entry not. -/
theorem networkAdd_cases {volume : Volume} {profiles : List Profile}
    (stored : volume.networks.getD [] = pack profiles) (profile : Profile) (pusIndex : Bool) :
    (∃ after, networkAdd volume profile pusIndex = (.failure, none, after) ∧
        Contains (after.networks.getD []) profiles ∧ ¬ WritesWhole volume.outcomes) ∨
      ∃ index fil, networkAdd volume profile pusIndex = (.success, index, fClose fil) ∧
        Safe profiles fil ∧ WritesWhole volume.outcomes ∧
        fil.outcomes = volume.outcomes.drop 2 ∧ fil.bytes = pack (profiles ++ [profile]) ∧
        fil.disk.entry.length = profiles.length * sizeofProfile := by
  unfold networkAdd
  rcases fOpen_cases volume .append with
    ⟨after, closed, same, fails⟩ | ⟨fil, opened, same, atEnd, fresh, works, used⟩
  · rw [closed]
    refine .inl ⟨after, rfl, by rw [same, stored]; exact contains_pack profiles, ?_⟩
    intro whole
    rcases fails with fails | ⟨isRead, -⟩
    · exact fails (@succeed_add 1 1 volume.outcomes |>.mp whole.1).1
    · cases isRead
  have position := atEnd rfl
  rw [stored] at same fresh
  have extended : Extends profiles [] fil :=
    ⟨by rw [same, List.append_nil], fun _ _ => fresh ▸ rfl⟩
  rw [same] at position
  have aligned : ¬ (pack profiles).length % sizeofProfile ≠ 0 := by simp
  have second := Fil.outcome_eq_getD used
  have calls : Succeed 2 volume.outcomes ↔ fil.outcome.fails = false := by
    rw [← one_add_one_eq_two, succeed_add, and_iff_right works, ← used, succeed_one]
    exact Iff.rfl
  -- Behind the end of the file, only the room on the disk decides what is transferred.
  have room : fil.outcome.fails = false →
      (fil.transferred profile.val.length = sizeofProfile ↔
        fil.outcome.roomFor sizeofProfile = true) := by
    intro _
    rw [Fil.transferred, same, position, Nat.sub_self, profile.property]
    cases fil.outcome with
    | short most => simp [Outcome.roomFor]
    | done => simp [Outcome.roomFor]
    | error => simp [Outcome.roomFor]
    | torn left => simp [Outcome.roomFor]
    | unsynced lost kept => simp [Outcome.roomFor]
  rw [opened]
  dsimp only
  rw [position, if_neg aligned, WritesWhole, calls, ← second]
  dsimp only
  rcases fWrite_cases fil profile.val with
    ⟨after, failed, fails, left⟩ | ⟨after, wrote, works', written⟩
  · rw [failed]
    refine .inl ⟨_, rfl, ?_, fun whole => Bool.false_ne_true (whole.1.symm.trans fails)⟩
    rcases left with moved | ⟨part, _, written⟩
    · exact (extended.moved moved).safe.fClose
    · exact (extended.write position written).safe.fClose
  have longer := extended.write position written
  rw [wrote]
  dsimp only
  by_cases all : fil.transferred profile.val.length = sizeofProfile
  · rw [if_pos all]
    have whole : profile.val.take (fil.transferred profile.val.length) = profile.val :=
      List.take_of_length_le (profile.property.trans all.symm).le
    refine .inr ⟨_, after, rfl, longer.safe, ⟨works', (room works').mp all⟩, ?_, ?_, ?_⟩
    · rw [written.outcomes, used, ← List.drop_one, List.drop_drop]
    · rw [longer.bytes, whole, pack_append, pack, pack, List.append_nil]
    · rw [← after.disk.length_left 0 0, longer.disk, length_pack]
  · rw [if_neg all]
    exact .inl ⟨_, rfl, longer.safe_undoWrite.fClose, fun both => all ((room works').mpr both.2)⟩

/-- Wherever FatFs fails in an operation on a stored list, the profiles that the operation does
not delete are in the file, whole, at places that are multiples of their size and in their
order. -/
theorem failure_loses_no_profile {volume : Volume} {profiles : List Profile}
    (stored : volume.networks.getD [] = pack profiles) :
    (∀ (tmp : Profile) (usIndex : UInt16),
      Contains ((networkDelete volume tmp usIndex).2.networks.getD [])
        (profiles.eraseIdx usIndex.toNat)) ∧
      ∀ (profile : Profile) (pusIndex : Bool),
        Contains ((networkAdd volume profile pusIndex).2.2.networks.getD []) profiles := by
  constructor
  · intro tmp usIndex
    rcases networkDelete_cases stored tmp usIndex with
      ⟨after, failed, kept, _⟩ | ⟨fil, deleted, safe, _⟩
    · rw [failed]
      exact kept
    · rw [deleted]
      exact safe.fClose
  · intro profile pusIndex
    rcases networkAdd_cases stored profile pusIndex with
      ⟨after, failed, kept, _⟩ | ⟨index, fil, added, safe, _⟩
    · rw [failed]
      exact kept
    · rw [added]
      exact safe.fClose

/-- Wherever FatFs fails in an operation on a stored list, the profiles that the operation does
not delete are in the file; and the operation reports success only when its whole effect is in
the file if and only if it is not just the close that fails, before it has written the directory
entry. -/
theorem profiles_kept_iff_entryWritten {volume : Volume} {profiles : List Profile}
    (stored : volume.networks.getD [] = pack profiles) :
    (∀ (tmp : Profile) (usIndex : UInt16),
      (Contains ((networkDelete volume tmp usIndex).2.networks.getD [])
          (profiles.eraseIdx usIndex.toNat) ∧
        ((networkDelete volume tmp usIndex).1 = .success → usIndex.toNat < profiles.length ∧
          (networkDelete volume tmp usIndex).2.networks =
            some (pack (profiles.eraseIdx usIndex.toNat)))) ↔
      ¬ (usIndex.toNat < profiles.length ∧
        Succeed (callsBeforeClose profiles usIndex.toNat) volume.outcomes ∧
        (volume.outcomes.getD (callsBeforeClose profiles usIndex.toNat) .done).losesEntry)) ∧
      ∀ (profile : Profile) (pusIndex : Bool),
        (Contains ((networkAdd volume profile pusIndex).2.2.networks.getD []) profiles ∧
          ((networkAdd volume profile pusIndex).1 = .success →
            (networkAdd volume profile pusIndex).2.2.networks =
              some (pack (profiles ++ [profile])))) ↔
        ¬ (WritesWhole volume.outcomes ∧ (volume.outcomes.getD 2 .done).losesEntry) := by
  constructor
  · intro tmp usIndex
    rw [and_iff_right ((failure_loses_no_profile stored).1 tmp usIndex)]
    rcases networkDelete_cases stored tmp usIndex with
      ⟨after, failed, _, stops⟩ | ⟨fil, deleted, _, inside, works, used, bytes, entry⟩
    · rw [failed]
      exact iff_of_true nofun fun closes => stops ⟨closes.1, closes.2.1⟩
    · have differs : fil.disk.entry.length ≠ fil.bytes.length := by
        rw [entry, bytes, length_pack, List.length_eraseIdx_of_lt inside]
        have shorter : (profiles.length - 1) * sizeofProfile < profiles.length * sizeofProfile :=
          Nat.mul_lt_mul_of_pos_right (by omega) sizeofProfile_pos
        omega
      have written := networks_fClose_eq_iff differs
      rw [bytes, Fil.outcome_eq_getD used] at written
      rw [deleted]
      simp only [forall_const, inside, works, true_and, written, Bool.not_eq_true]
  · intro profile pusIndex
    rw [and_iff_right ((failure_loses_no_profile stored).2 profile pusIndex)]
    rcases networkAdd_cases stored profile pusIndex with
      ⟨after, failed, _, stops⟩ | ⟨index, fil, added, _, works, used, bytes, entry⟩
    · rw [failed]
      exact iff_of_true nofun fun closes => stops closes.1
    · have differs : fil.disk.entry.length ≠ fil.bytes.length := by
        rw [entry, bytes, length_pack, List.length_append, List.length_singleton, Nat.succ_mul]
        have pos := sizeofProfile_pos
        omega
      have written := networks_fClose_eq_iff differs
      rw [bytes, Fil.outcome_eq_getD used] at written
      rw [added]
      simp only [forall_const, works, true_and, written, Bool.not_eq_true]

/-- Three profiles, and a disk that fails in the second write of a deletion and leaves one byte
of it. -/
def tornVolume : Volume :=
  ⟨some (pack [profileOf 1, profileOf 2, profileOf 3]),
    List.replicate 8 .done ++ [.torn [9]]⟩

theorem tornVolume_kept :
    Contains ((networkDelete tornVolume (profileOf 0) 0).2.networks.getD [])
      [profileOf 2, profileOf 3] :=
  (((@profiles_kept_iff_entryWritten tornVolume [profileOf 1, profileOf 2, profileOf 3] rfl).1
    (profileOf 0) 0).mpr (by decide)).1

/-- An empty file whose directory entry is not written when it is closed. -/
def lostEntry : Volume :=
  ⟨some [], [.done, .done, .unsynced 0 0]⟩

/-- The addition reports success, and the file is still empty. -/
theorem lostEntry_reports_success :
    lostEntry.networks.getD [] = pack ([] : List Profile) ∧
      (networkAdd lostEntry (profileOf 1) false).1 = .success ∧
      (networkAdd lostEntry (profileOf 1) false).2.2.networks = some [] ∧
      pack [profileOf 1] ≠ [] := by
  decide

end FwkRtos.SlWfx

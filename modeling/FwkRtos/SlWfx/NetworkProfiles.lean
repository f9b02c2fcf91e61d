import FwkRtos.Bytes.Records

/-!
# The profile store

`WIFI_NetworkAdd`, `WIFI_NetworkGet` and `WIFI_NetworkDelete` keep the profiles
one behind the other in a file.  A file of FatFs is a byte string with a
position; every call of FatFs may fail, a write that fails may leave anything in
its target, and one past the end of the file may transfer fewer bytes than it was
asked to.  What is written waits in the sector buffer, and its length in the file
object, until `f_close` hands both to the disk.
-/

namespace FwkRtos.SlWfx

open FwkRtos.Bytes

/-! ## Files of FatFs -/

/-- What becomes of a call of FatFs. -/
inductive Outcome
  | done
  /-- The call returns an error. -/
  | error
  /-- The call returns an error, and if it is a write it leaves these bytes where it would have
  written. -/
  | torn (left : List UInt8)
  /-- The call returns `FR_OK`, but the disk has room for so many bytes only. -/
  | short (count : Nat)
  /-- The call returns an error, and if it is a close the directory entry is not written: of
  the last writes, so many are lost, but for the first bytes of the first of them. -/
  | unsynced (lost kept : Nat)
  deriving DecidableEq

def Outcome.fails : Outcome → Bool
  | .error | .torn _ | .unsynced .. => true
  | .done | .short _ => false

@[simp]
theorem Outcome.fails_done : Outcome.done.fails = false :=
  rfl

/-- `FRESULT`, of which only `FR_OK` is told apart. -/
inductive FResult
  | ok
  | error
  deriving DecidableEq

/-- The file `/flash/wifi/networks.dat` and what becomes of the next calls; every further
call is done. -/
structure Volume where
  networks : Option (List UInt8)
  outcomes : List Outcome
  deriving DecidableEq

/-- A write into a file whose length stays as it is. -/
def overwrite (bytes : List UInt8) (pos : Nat) (part : List UInt8) : List UInt8 :=
  (splice bytes pos part).take bytes.length

/-- What the disk has of a file that is being written: as many bytes as its directory entry
says, and the writes that followed, the last one first. -/
structure DiskFile where
  entry : List UInt8
  writes : List (Nat × List UInt8)
  deriving DecidableEq

namespace DiskFile

/-- The bytes when the last `lost` writes are missing, but for the first `kept` bytes of the
first of them. -/
def leftOf (entry : List UInt8) (kept : Nat) : List (Nat × List UInt8) → Nat → List UInt8
  | [], _ => entry
  | (pos, part) :: writes, 0 => overwrite (leftOf entry kept writes 0) pos part
  | (pos, part) :: writes, 1 => overwrite (leftOf entry kept writes 0) pos (part.take kept)
  | _ :: writes, lost + 2 => leftOf entry kept writes (lost + 1)

def left (disk : DiskFile) (lost kept : Nat) : List UInt8 :=
  leftOf disk.entry kept disk.writes lost

def write (disk : DiskFile) (pos : Nat) (part : List UInt8) : DiskFile :=
  { disk with writes := (pos, part) :: disk.writes }

/-- The sector buffer is written back. -/
def flushed (disk : DiskFile) : DiskFile :=
  ⟨disk.left 0 0, []⟩

end DiskFile

/-- `FIL`: an open file. -/
structure Fil where
  bytes : List UInt8
  fptr : Nat
  outcomes : List Outcome
  disk : DiskFile
  deriving DecidableEq

/-- The access mode of `f_open`. -/
inductive Access
  /-- `FA_OPEN_APPEND | FA_WRITE` -/
  | append
  /-- `FA_READ`, with or without `FA_WRITE` -/
  | read
  deriving DecidableEq

namespace Fil

def outcome (fil : Fil) : Outcome :=
  fil.outcomes.headD .done

/-- The file when a call has returned. -/
def called (fil : Fil) : Fil :=
  { fil with outcomes := fil.outcomes.tail }

end Fil

/-- `f_open`: the file, or the volume when it fails. -/
def fOpen (volume : Volume) (access : Access) : Except Volume Fil :=
  if (volume.outcomes.headD .done).fails then
    .error { volume with outcomes := volume.outcomes.tail }
  else
    match volume.networks, access with
    | some bytes, .append => .ok ⟨bytes, bytes.length, volume.outcomes.tail, ⟨bytes, []⟩⟩
    | none, .append => .ok ⟨[], 0, volume.outcomes.tail, ⟨[], []⟩⟩
    | some bytes, .read => .ok ⟨bytes, 0, volume.outcomes.tail, ⟨bytes, []⟩⟩
    | none, .read => .error { volume with outcomes := volume.outcomes.tail }

/-- `f_close`, whose `f_sync` writes the sector buffer and the directory entry.  The store
discards its result. -/
def fClose (fil : Fil) : Volume where
  networks :=
    match fil.outcome with
    | .unsynced lost kept => some (fil.disk.left lost kept)
    | _ => some fil.bytes
  outcomes := fil.outcomes.tail

/-- `f_lseek` to a position that is not behind the end. -/
def fLseek (fil : Fil) (ofs : Nat) : FResult × Fil :=
  if fil.outcome.fails then
    (.error, fil.called)
  else
    (.ok, { fil.called with fptr := min ofs fil.bytes.length })

/-- `f_truncate`, which writes the sector buffer back when it cuts something off. -/
def fTruncate (fil : Fil) : FResult × Fil :=
  if fil.outcome.fails then
    (.error, fil.called)
  else
    (.ok,
      { fil.called with
        bytes := fil.bytes.take fil.fptr
        disk := if fil.fptr < fil.bytes.length then fil.disk.flushed else fil.disk })

/-- How many bytes a write transfers.  Those inside the file have their clusters; the ones past
its end may find the disk full. -/
def Fil.transferred (fil : Fil) (count : Nat) : Nat :=
  match fil.outcome with
  | .short most => max (min most count) (min (fil.bytes.length - fil.fptr) count)
  | _ => count

/-- `f_read`, which ends at the end of the file. -/
def fRead (fil : Fil) (count : Nat) : FResult × List UInt8 × Fil :=
  if fil.outcome.fails then
    (.error, [], fil.called)
  else
    let read := slice fil.bytes fil.fptr count
    (.ok, read, { fil.called with fptr := fil.fptr + read.length })

/-- `f_write`. -/
def fWrite (fil : Fil) (bytes : List UInt8) : FResult × Nat × Fil :=
  match fil.outcome with
  | .error | .unsynced .. => (.error, 0, fil.called)
  | .torn left =>
      (.error, 0,
        { fil.called with
          bytes := splice fil.bytes fil.fptr (left.take bytes.length)
          disk := fil.disk.write fil.fptr (left.take bytes.length) })
  | .done | .short _ =>
    let written := fil.transferred bytes.length
    (.ok, written,
      { fil.called with
        bytes := splice fil.bytes fil.fptr (bytes.take written)
        fptr := fil.fptr + written
        disk := fil.disk.write fil.fptr (bytes.take written) })

/-! ## Profiles -/

/-- `sizeof(WIFINetworkProfile_t)`: SSID and its length, BSSID, password and its length,
padding and the security. -/
def sizeofProfile : Nat :=
  (32 + 1) + 1 + 6 + (32 + 1) + 1 + 2 + 4

/-- `WIFINetworkProfile_t`, whose fields the store does not look at. -/
abbrev Profile := Record sizeofProfile

/-- `WIFIReturnCode_t` as far as the store returns it. -/
inductive WifiReturnCode
  | success
  | failure
  deriving DecidableEq

/-- `f_lseek` to the start and `f_truncate`, and the position behind them. -/
def resetFile (fil : Fil) (pos : Nat) : FResult × Nat × Fil :=
  match fLseek fil 0 with
  | (.ok, fil) =>
      let (result, fil) := fTruncate fil
      (result, 0, fil)
  | (.error, fil) => (.error, pos, fil)

/-- The write succeeded, but not for the entire profile. -/
def undoWrite (fil : Fil) (pos : Nat) : Fil :=
  match fLseek fil pos with
  | (.ok, fil) => (fTruncate fil).2
  | (.error, fil) => fil

/-- `WIFI_NetworkAdd`, with the index that it stores when it is asked to. -/
def networkAdd (volume : Volume) (profile : Profile) (pusIndex : Bool) :
    WifiReturnCode × Option UInt16 × Volume :=
  match fOpen volume .append with
  | .error volume => (.failure, none, volume)
  | .ok fil =>
      let (result, pos, fil) :=
        if fil.fptr % sizeofProfile ≠ 0 then resetFile fil fil.fptr else (.ok, fil.fptr, fil)
      match result with
      | .error => (.failure, none, fClose fil)
      | .ok =>
          match fWrite fil profile.val with
          | (.error, _, fil) => (.failure, none, fClose fil)
          | (.ok, bytesWritten, fil) =>
              if bytesWritten = sizeofProfile then
                (.success, if pusIndex then some (UInt16.ofNat (pos / sizeofProfile)) else none,
                  fClose fil)
              else
                (.failure, none, fClose (undoWrite fil pos))

/-- `WIFI_NetworkGet`, with what it reads into the profile. -/
def networkGet (volume : Volume) (usIndex : UInt16) :
    WifiReturnCode × Option (List UInt8) × Volume :=
  match fOpen volume .read with
  | .error volume => (.failure, none, volume)
  | .ok fil =>
      let pos := usIndex.toNat * sizeofProfile
      if fil.bytes.length % sizeofProfile = 0 ∧ pos < fil.bytes.length then
        match fLseek fil pos with
        | (.error, fil) => (.failure, none, fClose fil)
        | (.ok, fil) =>
            match fRead fil sizeofProfile with
            | (.error, _, fil) => (.failure, none, fClose fil)
            | (.ok, read, fil) =>
                (if read.length = sizeofProfile then .success else .failure, some read, fClose fil)
      else
        (.failure, none, fClose fil)

/-- One round of the loop that shifts the profiles: `f_lseek`, `f_read`, `f_lseek`,
`f_write`.  A short read leaves the rest of `tmp` as it was. -/
def shiftOne (fil : Fil) (tmp : Profile) (dest src : Nat) : FResult × Profile × Fil :=
  match fLseek fil src with
  | (.error, fil) => (.error, tmp, fil)
  | (.ok, fil) =>
      match fRead fil sizeofProfile with
      | (.error, _, fil) => (.error, tmp, fil)
      | (.ok, read, fil) =>
          let tmp : Profile :=
            ⟨(read ++ tmp.val.drop read.length).take sizeofProfile, by
              have whole := tmp.property
              simp only [List.length_take, List.length_append, List.length_drop]
              omega⟩
          match fLseek fil dest with
          | (.error, fil) => (.error, tmp, fil)
          | (.ok, fil) =>
              match fWrite fil tmp.val with
              | (.error, _, fil) => (.error, tmp, fil)
              | (.ok, _, fil) => (.ok, tmp, fil)

/-- The loop that shifts the profiles. -/
def shiftLoop (size : Nat) (fil : Fil) (tmp : Profile) (dest src : Nat) : FResult × Nat × Fil :=
  if src < size then
    match shiftOne fil tmp dest src with
    | (.error, _, fil) => (.error, dest, fil)
    | (.ok, tmp, fil) => shiftLoop size fil tmp (dest + sizeofProfile) (src + sizeofProfile)
  else
    (.ok, dest, fil)
termination_by size - src
decreasing_by
  unfold sizeofProfile
  omega

/-- `WIFI_NetworkDelete`.  What `tmp` holds before the first read is not known. -/
def networkDelete (volume : Volume) (tmp : Profile) (usIndex : UInt16) :
    WifiReturnCode × Volume :=
  match fOpen volume .read with
  | .error volume => (.failure, volume)
  | .ok fil =>
      let dest := usIndex.toNat * sizeofProfile
      if fil.bytes.length % sizeofProfile = 0 ∧ dest < fil.bytes.length then
        match shiftLoop fil.bytes.length fil tmp dest (dest + sizeofProfile) with
        | (.error, _, fil) => (.failure, fClose fil)
        | (.ok, dest, fil) =>
            match fLseek fil dest with
            | (.error, fil) => (.failure, fClose fil)
            | (.ok, fil) =>
                match fTruncate fil with
                | (.error, fil) => (.failure, fClose fil)
                | (.ok, fil) => (.success, fClose fil)
      else
        (.failure, fClose fil)

/-! ## Runs of operations -/

/-- A call of the store.  A deletion comes with what `tmp` holds at first. -/
inductive ProfileOp
  | add (profile : Profile) (pusIndex : Bool)
  | get (usIndex : UInt16)
  | delete (usIndex : UInt16) (tmp : Profile)

/-- What a caller sees. -/
structure Reply where
  code : WifiReturnCode
  index : Option Nat
  profile : Option (List UInt8)
  deriving DecidableEq

namespace ProfileOp

/-- A call on the file. -/
def run (volume : Volume) : ProfileOp → Reply × Volume
  | .add profile pusIndex =>
      let (code, index, volume) := networkAdd volume profile pusIndex
      (⟨code, index.map UInt16.toNat, none⟩, volume)
  | .get usIndex =>
      let (code, profile, volume) := networkGet volume usIndex
      (⟨code, none, profile⟩, volume)
  | .delete usIndex tmp =>
      let (code, volume) := networkDelete volume tmp usIndex
      (⟨code, none, none⟩, volume)

/-- A call on a list of profiles. -/
def runList (profiles : List Profile) : ProfileOp → Reply × List Profile
  | .add profile pusIndex =>
      (⟨.success, if pusIndex then some profiles.length else none, none⟩, profiles ++ [profile])
  | .get usIndex =>
      match profiles[usIndex.toNat]? with
      | some profile => (⟨.success, none, some profile.val⟩, profiles)
      | none => (⟨.failure, none, none⟩, profiles)
  | .delete usIndex _ =>
      if usIndex.toNat < profiles.length then
        (⟨.success, none, none⟩, profiles.eraseIdx usIndex.toNat)
      else
        (⟨.failure, none, none⟩, profiles)

/-- The index of a profile that is added fits its 16 bits when it is asked for. -/
def Fits (profiles : List Profile) : ProfileOp → Prop
  | .add _ true => profiles.length < 2 ^ 16
  | _ => True

end ProfileOp

/-- The replies to a sequence of calls. -/
def replies {σ : Type} (run : σ → ProfileOp → Reply × σ) (state : σ) : List ProfileOp → List Reply
  | [] => []
  | op :: ops => (run state op).1 :: replies run (run state op).2 ops

/-- Every index of a sequence of calls fits. -/
def IndicesFit (profiles : List Profile) : List ProfileOp → Prop
  | [] => True
  | op :: ops => op.Fits profiles ∧ IndicesFit (op.runList profiles).2 ops

/-- The file holds the profiles of the list, and no call of FatFs fails. -/
structure Represents (volume : Volume) (profiles : List Profile) : Prop where
  noFailure : volume.outcomes = []
  networks : volume.networks.getD [] = pack profiles

/-- A file that is absent or a whole number of profiles represents a list. -/
theorem exists_represents {volume : Volume} (noFailure : volume.outcomes = [])
    (whole : (volume.networks.getD []).length % sizeofProfile = 0) :
    ∃ profiles, Represents volume profiles := by
  obtain ⟨profiles, _, packed⟩ :=
    exists_pack (Nat.div_mul_cancel (Nat.dvd_of_mod_eq_zero whole)).symm
  exact ⟨profiles, noFailure, packed.symm⟩

/-! ## One call -/

theorem sizeofProfile_pos : 0 < sizeofProfile := by
  decide

/-- An open file that holds the profiles and on which no call fails. -/
def filAt (profiles : List Profile) (fptr : Nat) (disk : DiskFile) : Fil :=
  ⟨pack profiles, fptr, [], disk⟩

theorem fOpen_append {volume : Volume} {profiles : List Profile}
    (represents : Represents volume profiles) :
    fOpen volume .append =
      .ok (filAt profiles (pack profiles).length ⟨pack profiles, []⟩) := by
  rcases volume with ⟨networks, outcomes⟩
  obtain ⟨rfl, packed⟩ := represents
  cases networks with
  | none =>
      have none_ : pack profiles = [] := packed.symm
      simp [fOpen, filAt, none_]
  | some bytes =>
      have same : bytes = pack profiles := packed
      simp [fOpen, filAt, same]

/-- The file opens for reading when it is there, and there are no profiles when it is not. -/
theorem fOpen_read {volume : Volume} {profiles : List Profile}
    (represents : Represents volume profiles) :
    fOpen volume .read = .ok (filAt profiles 0 ⟨pack profiles, []⟩) ∨
      fOpen volume .read = .error volume ∧ profiles = [] := by
  rcases volume with ⟨networks, outcomes⟩
  obtain ⟨rfl, packed⟩ := represents
  cases networks with
  | none =>
      have none_ : (pack profiles).length = 0 := congrArg List.length packed.symm
      rw [length_pack] at none_
      refine .inr ⟨by simp [fOpen], ?_⟩
      rcases Nat.mul_eq_zero.mp none_ with empty | zero
      · exact List.eq_nil_of_length_eq_zero empty
      · exact absurd zero (Nat.ne_of_gt sizeofProfile_pos)
  | some bytes =>
      have same : bytes = pack profiles := packed
      exact .inl (by simp [fOpen, filAt, same])

theorem represents_fClose (profiles : List Profile) (fptr : Nat) (disk : DiskFile) :
    Represents (fClose (filAt profiles fptr disk)) profiles :=
  ⟨rfl, rfl⟩

theorem fLseek_filAt (profiles : List Profile) (fptr : Nat) (disk : DiskFile) {i : Nat}
    (inside : i ≤ profiles.length) :
    fLseek (filAt profiles fptr disk) (i * sizeofProfile) =
      (.ok, filAt profiles (i * sizeofProfile) disk) := by
  have within : i * sizeofProfile ≤ profiles.length * sizeofProfile :=
    Nat.mul_le_mul_right _ inside
  simp [fLseek, filAt, Fil.outcome, Fil.called, within]

theorem fRead_filAt {profiles : List Profile} {i : Nat} (inside : i < profiles.length)
    (disk : DiskFile) :
    fRead (filAt profiles (i * sizeofProfile) disk) sizeofProfile =
      (.ok, profiles[i].val, filAt profiles ((i + 1) * sizeofProfile) disk) := by
  simp [fRead, filAt, Fil.outcome, Fil.called, slice_pack inside, profiles[i].property,
    Nat.succ_mul]

theorem fWrite_filAt {profiles : List Profile} {i : Nat} (inside : i < profiles.length)
    (disk : DiskFile) (profile : Profile) :
    fWrite (filAt profiles (i * sizeofProfile) disk) profile.val =
      (.ok, sizeofProfile, filAt (profiles.set i profile) ((i + 1) * sizeofProfile)
        (disk.write (i * sizeofProfile) profile.val)) := by
  have whole : profile.val.take sizeofProfile = profile.val :=
    List.take_of_length_le profile.property.le
  simp [fWrite, filAt, Fil.outcome, Fil.called, Fil.transferred, profile.property, whole,
    splice_pack inside, Nat.succ_mul]

theorem fTruncate_filAt (profiles : List Profile) (i : Nat) (disk : DiskFile) :
    ∃ disk', fTruncate (filAt profiles (i * sizeofProfile) disk) =
      (.ok, filAt (profiles.take i) (i * sizeofProfile) disk') := by
  simp [fTruncate, filAt, Fil.outcome, Fil.called, take_pack]

/-- `WIFI_NetworkAdd` appends the profile. -/
theorem networkAdd_represents {volume : Volume} {profiles : List Profile}
    (represents : Represents volume profiles) (profile : Profile) (pusIndex : Bool) :
    ∃ after, Represents after (profiles ++ [profile]) ∧
      networkAdd volume profile pusIndex =
        (.success, if pusIndex then some (UInt16.ofNat profiles.length) else none, after) := by
  have whole : profile.val.take sizeofProfile = profile.val :=
    List.take_of_length_le profile.property.le
  have appended : splice (pack profiles) (pack profiles).length profile.val =
      pack (profiles ++ [profile]) := by
    rw [splice, List.take_length, List.drop_of_length_le (Nat.le_add_right _ _), pack_append, pack,
      pack, List.append_assoc]
  have wrote (disk : DiskFile) :
      fWrite (filAt profiles (pack profiles).length disk) profile.val =
        (.ok, sizeofProfile, filAt (profiles ++ [profile])
          ((pack profiles).length + sizeofProfile)
          (disk.write (pack profiles).length profile.val)) := by
    simp only [fWrite, filAt, Fil.outcome, Fil.called, Fil.transferred, profile.property, whole,
      appended, List.headD_nil, List.tail_nil]
  refine ⟨_, represents_fClose _ ((pack profiles).length + sizeofProfile)
    (DiskFile.write ⟨pack profiles, []⟩ (pack profiles).length profile.val), ?_⟩
  have aligned : (pack profiles).length % sizeofProfile = 0 := by simp
  have index : (pack profiles).length / sizeofProfile = profiles.length := by
    rw [length_pack, Nat.mul_div_cancel _ sizeofProfile_pos]
  have atEnd (disk : DiskFile) :
      (filAt profiles (pack profiles).length disk).fptr = (pack profiles).length := rfl
  simp only [networkAdd, fOpen_append represents, atEnd, aligned, ne_eq, not_true_eq_false,
    if_false, wrote, if_true, index]

/-- `WIFI_NetworkGet` reads the profile at the index. -/
theorem networkGet_represents {volume : Volume} {profiles : List Profile}
    (represents : Represents volume profiles) (usIndex : UInt16) :
    ∃ after, Represents after profiles ∧
      networkGet volume usIndex =
        match profiles[usIndex.toNat]? with
        | some profile => (.success, some profile.val, after)
        | none => (.failure, none, after) := by
  rcases fOpen_read represents with opened | ⟨absent, rfl⟩
  · have aligned : profiles.length * sizeofProfile % sizeofProfile = 0 := Nat.mul_mod_left _ _
    have size (disk : DiskFile) :
        (filAt profiles 0 disk).bytes.length = profiles.length * sizeofProfile := by
      simp [filAt]
    by_cases inside : usIndex.toNat < profiles.length
    · refine ⟨_, represents_fClose _ ((usIndex.toNat + 1) * sizeofProfile)
        ⟨pack profiles, []⟩, ?_⟩
      have within : usIndex.toNat * sizeofProfile < profiles.length * sizeofProfile :=
        Nat.mul_lt_mul_of_pos_right inside sizeofProfile_pos
      simp only [networkGet, opened, aligned, size, within, and_self, if_true,
        fLseek_filAt profiles 0 _ inside.le, fRead_filAt inside,
        profiles[usIndex.toNat].property, List.getElem?_eq_getElem inside]
    · refine ⟨_, represents_fClose _ 0 ⟨pack profiles, []⟩, ?_⟩
      have beyond : ¬ usIndex.toNat * sizeofProfile < profiles.length * sizeofProfile :=
        Nat.not_lt_of_le (Nat.mul_le_mul_right _ (Nat.le_of_not_lt inside))
      simp only [networkGet, opened, size, beyond, and_false, if_false,
        List.getElem?_eq_none (Nat.le_of_not_lt inside)]
  · refine ⟨volume, represents, ?_⟩
    simp only [networkGet, absent, List.getElem?_nil]

/-- One round moves a profile to the place before. -/
theorem shiftOne_filAt {profiles : List Profile} {i : Nat} (inside : i + 1 < profiles.length)
    (tmp : Profile) (fptr : Nat) (disk : DiskFile) :
    shiftOne (filAt profiles fptr disk) tmp (i * sizeofProfile) ((i + 1) * sizeofProfile) =
      (.ok, profiles[i + 1],
        filAt (profiles.set i profiles[i + 1]) ((i + 1) * sizeofProfile)
          (disk.write (i * sizeofProfile) profiles[i + 1].val)) := by
  have whole : (profiles[i + 1].val ++ tmp.val.drop profiles[i + 1].val.length).take
      sizeofProfile = profiles[i + 1].val := by
    rw [profiles[i + 1].property]
    exact List.take_left' profiles[i + 1].property
  have before : i < profiles.length := Nat.lt_of_succ_lt inside
  simp only [shiftOne, fLseek_filAt profiles fptr disk inside.le, fRead_filAt inside, whole,
    fLseek_filAt profiles _ disk before.le, Subtype.coe_eta, fWrite_filAt before]

/-- Behind the loop the profile is gone, and the last place is left over. -/
theorem shiftLoop_filAt {profiles : List Profile} {i : Nat} (inside : i < profiles.length)
    (tmp : Profile) (fptr : Nat) (disk : DiskFile) :
    ∃ (shifted : List Profile) (behind : Nat) (disk' : DiskFile),
      shiftLoop (profiles.length * sizeofProfile) (filAt profiles fptr disk) tmp
          (i * sizeofProfile) ((i + 1) * sizeofProfile) =
        (.ok, (profiles.length - 1) * sizeofProfile, filAt shifted behind disk') ∧
      shifted.length = profiles.length ∧
      shifted.take (profiles.length - 1) = profiles.eraseIdx i := by
  induction left : profiles.length - (i + 1) generalizing profiles i tmp fptr disk with
  | zero =>
      obtain rfl : i = profiles.length - 1 := by omega
      have done : ¬ (profiles.length - 1 + 1) * sizeofProfile < profiles.length * sizeofProfile :=
        Nat.not_lt_of_le (Nat.mul_le_mul_right _ (by omega))
      refine ⟨profiles, fptr, disk, ?_, rfl, ?_⟩
      · rw [shiftLoop, if_neg done]
      · rw [List.eraseIdx_eq_take_drop_succ, Nat.sub_add_cancel (by omega), List.drop_length,
          List.append_nil]
  | succ rounds ih =>
      have next : i + 1 < profiles.length := by omega
      have goesOn : (i + 1) * sizeofProfile < profiles.length * sizeofProfile :=
        Nat.mul_lt_mul_of_pos_right next sizeofProfile_pos
      have length : (profiles.set i profiles[i + 1]).length = profiles.length := List.length_set
      have inside' : i + 1 < (profiles.set i profiles[i + 1]).length := by
        rw [length]
        exact next
      have left' : (profiles.set i profiles[i + 1]).length - (i + 1 + 1) = rounds := by
        rw [length]
        omega
      obtain ⟨shifted, behind, disk', looped, same, erased⟩ :=
        ih inside' profiles[i + 1] ((i + 1) * sizeofProfile)
          (disk.write (i * sizeofProfile) profiles[i + 1].val) left'
      rw [length] at looped same erased
      refine ⟨shifted, behind, disk', ?_, same, ?_⟩
      · rw [shiftLoop, if_pos goesOn, shiftOne_filAt next tmp fptr disk]
        simpa only [Nat.succ_mul] using looped
      · rw [erased, eraseIdx_set_next profiles next]

/-- `WIFI_NetworkDelete` removes the profile at the index. -/
theorem networkDelete_represents {volume : Volume} {profiles : List Profile}
    (represents : Represents volume profiles) (tmp : Profile) (usIndex : UInt16) :
    ∃ after, Represents after
        (if usIndex.toNat < profiles.length then profiles.eraseIdx usIndex.toNat else profiles) ∧
      networkDelete volume tmp usIndex =
        (if usIndex.toNat < profiles.length then .success else .failure, after) := by
  rcases fOpen_read represents with opened | ⟨absent, rfl⟩
  · have aligned : profiles.length * sizeofProfile % sizeofProfile = 0 := Nat.mul_mod_left _ _
    have size (disk : DiskFile) :
        (filAt profiles 0 disk).bytes.length = profiles.length * sizeofProfile := by
      simp [filAt]
    by_cases inside : usIndex.toNat < profiles.length
    · have within : usIndex.toNat * sizeofProfile < profiles.length * sizeofProfile :=
        Nat.mul_lt_mul_of_pos_right inside sizeofProfile_pos
      obtain ⟨shifted, behind, disk, looped, same, erased⟩ :=
        shiftLoop_filAt inside tmp 0 ⟨pack profiles, []⟩
      rw [Nat.succ_mul] at looped
      have last : profiles.length - 1 ≤ shifted.length := by
        rw [same]
        exact Nat.sub_le _ _
      obtain ⟨cut, truncated⟩ := fTruncate_filAt shifted (profiles.length - 1) disk
      rw [if_pos inside, if_pos inside, ← erased]
      refine ⟨_, represents_fClose _ ((profiles.length - 1) * sizeofProfile) cut, ?_⟩
      simp only [networkDelete, opened, aligned, size, within, and_self, if_true, looped,
        fLseek_filAt shifted behind disk last, truncated]
    · have beyond : ¬ usIndex.toNat * sizeofProfile < profiles.length * sizeofProfile :=
        Nat.not_lt_of_le (Nat.mul_le_mul_right _ (Nat.le_of_not_lt inside))
      rw [if_neg inside, if_neg inside]
      refine ⟨_, represents_fClose profiles 0 ⟨pack profiles, []⟩, ?_⟩
      simp only [networkDelete, opened, size, beyond, and_false, if_false]
  · refine ⟨volume, represents, ?_⟩
    simp only [networkDelete, absent, List.length_nil, Nat.not_lt_zero, if_false]

/-! ## The store refines a list -/

/-- The call on the file does to the list what the call on the list does, and the replies
agree when the index fits. -/
theorem run_represents {volume : Volume} {profiles : List Profile}
    (represents : Represents volume profiles) (op : ProfileOp) :
    Represents (op.run volume).2 (op.runList profiles).2 ∧
      ((op.run volume).1 = (op.runList profiles).1 ↔ op.Fits profiles) := by
  cases op with
  | add profile pusIndex =>
      obtain ⟨after, appended, added⟩ := networkAdd_represents represents profile pusIndex
      simp only [ProfileOp.run, ProfileOp.runList, added]
      refine ⟨appended, ?_⟩
      cases pusIndex with
      | false => simp [ProfileOp.Fits]
      | true => simp [ProfileOp.Fits]
  | get usIndex =>
      obtain ⟨after, same, got⟩ := networkGet_represents represents usIndex
      simp only [ProfileOp.run, ProfileOp.runList, got]
      cases profiles[usIndex.toNat]? with
      | none => exact ⟨same, iff_of_true rfl trivial⟩
      | some profile => exact ⟨same, iff_of_true rfl trivial⟩
  | delete usIndex tmp =>
      obtain ⟨after, erased, deleted⟩ := networkDelete_represents represents tmp usIndex
      simp only [ProfileOp.run, ProfileOp.runList, deleted]
      by_cases inside : usIndex.toNat < profiles.length
      · rw [if_pos inside] at erased
        rw [if_pos inside, if_pos inside]
        exact ⟨erased, iff_of_true rfl trivial⟩
      · rw [if_neg inside] at erased
        rw [if_neg inside, if_neg inside]
        exact ⟨erased, iff_of_true rfl trivial⟩

/-- In every sequence of calls, from a file that is absent or a whole number of profiles and
with no failure of FatFs, the store replies as the list does if and only if every index that
is asked for fits 16 bits. -/
theorem replies_eq_iff (volume : Volume) (noFailure : volume.outcomes = [])
    (whole : (volume.networks.getD []).length % sizeofProfile = 0) :
    ∃ profiles, Represents volume profiles ∧ ∀ ops,
      replies ProfileOp.run volume ops = replies ProfileOp.runList profiles ops ↔
        IndicesFit profiles ops := by
  obtain ⟨profiles, represents⟩ := exists_represents noFailure whole
  refine ⟨profiles, represents, ?_⟩
  intro ops
  clear noFailure whole
  induction ops generalizing volume profiles with
  | nil => exact iff_of_true rfl trivial
  | cons op ops ih =>
      obtain ⟨after, same⟩ := run_represents represents op
      rw [replies, replies, List.cons.injEq, same, ih _ _ after, IndicesFit]

/-- A profile of one repeated byte. -/
def profileOf (byte : UInt8) : Profile :=
  ⟨List.replicate sizeofProfile byte, List.length_replicate⟩

/-- Two profiles are added to an absent file, the first one is deleted and the other one is
then the first. -/
def addDeleteGet : List ProfileOp :=
  [.add (profileOf 1) true, .add (profileOf 2) true, .delete 0 (profileOf 0), .get 0]

theorem replies_addDeleteGet :
    ∃ profiles, Represents ⟨none, []⟩ profiles ∧
      replies ProfileOp.run ⟨none, []⟩ addDeleteGet =
        replies ProfileOp.runList profiles addDeleteGet := by
  obtain ⟨profiles, represents, agree⟩ := replies_eq_iff ⟨none, []⟩ rfl rfl
  have none_ : profiles = [] := by
    have length : (pack profiles).length = 0 := congrArg List.length represents.networks.symm
    rw [length_pack] at length
    rcases Nat.mul_eq_zero.mp length with empty | zero
    · exact List.eq_nil_of_length_eq_zero empty
    · exact absurd zero (Nat.ne_of_gt sizeofProfile_pos)
  subst none_
  refine ⟨[], represents, (agree _).mpr ⟨?_, ?_, trivial, trivial, trivial⟩⟩
  · exact Nat.two_pow_pos 16
  · show 1 < 2 ^ 16
    decide

/-- With 2^16 profiles in the file, the index of a new one is that of the first profile. -/
theorem networkAdd_index_wraps :
    ∃ volume after, volume.outcomes = [] ∧
      volume.networks = some (pack (List.replicate (2 ^ 16) (profileOf 1))) ∧
      networkAdd volume (profileOf 2) true = (.success, some 0, after) ∧
      (networkGet after 0).2.1 = some (profileOf 1).val ∧ profileOf 1 ≠ profileOf 2 := by
  have represents : Represents ⟨some (pack (List.replicate (2 ^ 16) (profileOf 1))), []⟩
      (List.replicate (2 ^ 16) (profileOf 1)) := ⟨rfl, rfl⟩
  obtain ⟨after, appended, added⟩ := networkAdd_represents represents (profileOf 2) true
  obtain ⟨_, _, got⟩ := networkGet_represents appended 0
  refine ⟨⟨some (pack (List.replicate (2 ^ 16) (profileOf 1))), []⟩, after, rfl, rfl, ?_, ?_,
    by decide⟩
  · rw [added, List.length_replicate]
    rfl
  · have first : (List.replicate (2 ^ 16) (profileOf 1) ++ [profileOf 2])[(0 : UInt16).toNat]? =
        some (profileOf 1) := by
      rw [List.getElem?_append_left (by rw [List.length_replicate]; exact Nat.two_pow_pos 16)]
      exact List.getElem?_replicate_of_lt (Nat.two_pow_pos 16)
    rw [got, first]

end FwkRtos.SlWfx

import FwkRtos.FatfsMkimage.DirectoryAdd
import Mathlib.Data.List.Induction

/-!
# The image and the tree

`dir_recurse` touches the file system below its current directory only, and returns to
that directory.  It returns 0 exactly when the checked calls succeed; if the others succeed
as well, each directory of the image holds what the directory of the host holds.
-/

namespace FwkRtos.FatfsMkimage

/-! ## File systems -/

namespace Volume

/-- Everything is in a directory, and the current directory is one. -/
structure WellFormed (volume : Volume) : Prop where
  parent : ∀ path name, volume.node (path ++ [name]) ≠ none → volume.node path = some .dir
  current : volume.node volume.cwd = some .dir

variable {volume : Volume}

/-- Below nothing there is nothing. -/
theorem WellFormed.below (wellFormed : volume.WellFormed) {path : Path}
    (nothing : volume.node path = none) (rest : Path) : volume.node (path ++ rest) = none := by
  induction rest using List.reverseRecOn with
  | nil => rwa [List.append_nil]
  | append_singleton rest name ih =>
      by_contra something
      rw [← List.append_assoc] at something
      have isDir := wellFormed.parent _ _ something
      rw [ih] at isDir
      cases isDir

theorem cwd_ne_path (volume : Volume) (name : Name) : volume.cwd ≠ volume.path name := by
  intro same
  have length := congrArg List.length same
  simp [path] at length

theorem node_set_path (volume : Volume) (name : Name) (node : Node) :
    (volume.set name node).node (volume.path name) = some node :=
  Function.update_self _ _ _

theorem node_set_of_ne {name : Name} {path : Path} (different : path ≠ volume.path name)
    (node : Node) : (volume.set name node).node path = volume.node path :=
  Function.update_of_ne different _ _

theorem WellFormed.set (wellFormed : volume.WellFormed) {name : Name}
    (notDir : volume.node (volume.path name) ≠ some .dir) (node : Node) :
    (volume.set name node).WellFormed := by
  have current : (volume.set name node).node volume.cwd = some .dir := by
    rw [node_set_of_ne (volume.cwd_ne_path name)]
    exact wellFormed.current
  constructor
  case current => exact current
  case parent =>
    intro path other something
    by_cases isNew : path ++ [other] = volume.path name
    · rw [Volume.path] at isNew
      rw [(List.append_inj' isNew rfl).1]
      exact current
    · rw [node_set_of_ne isNew] at something
      have isDir := wellFormed.parent path other something
      have notNew : path ≠ volume.path name := by
        rintro rfl
        exact notDir isDir
      rw [node_set_of_ne notNew]
      exact isDir

/-- The second volume differs from the first below its current directory only. -/
structure SameOutside (volume after : Volume) : Prop where
  cwd : after.cwd = volume.cwd
  node : ∀ path, (∀ name rest, path ≠ volume.cwd ++ name :: rest) →
    after.node path = volume.node path

theorem SameOutside.refl (volume : Volume) : SameOutside volume volume :=
  ⟨rfl, fun _ _ => rfl⟩

theorem SameOutside.trans {first second third : Volume} (before : SameOutside first second)
    (after : SameOutside second third) : SameOutside first third where
  cwd := after.cwd.trans before.cwd
  node := by
    intro path outside
    rw [after.node path (by rwa [before.cwd]), before.node path outside]

theorem sameOutside_set (volume : Volume) (name : Name) (node : Node) :
    SameOutside volume (volume.set name node) where
  cwd := rfl
  node := by
    intro path outside
    exact node_set_of_ne (outside (fatName name) []) node

/-- What the names of the current directory stand for. -/
def Seen (volume : Volume) (seen : Name → Option Kind) : Prop :=
  ∀ name, (volume.node (volume.cwd ++ [name])).map
    (fun | .dir => Kind.dir | .file _ => Kind.file) = seen name

theorem Seen.eq_none_iff {seen : Name → Option Kind} (isSeen : volume.Seen seen) (name : Name) :
    volume.node (volume.path name) = none ↔ seen (fatName name) = none := by
  rw [← isSeen (fatName name), Option.map_eq_none_iff]
  rfl

theorem Seen.eq_dir_iff {seen : Name → Option Kind} (isSeen : volume.Seen seen) (name : Name) :
    volume.node (volume.path name) = some .dir ↔ seen (fatName name) = some .dir := by
  rw [← isSeen (fatName name)]
  show _ ↔ (volume.node (volume.path name)).map _ = _
  rcases volume.node (volume.path name) with _ | node
  · simp
  · cases node <;> simp

/-- A name stands for something new; what is below it does not matter. -/
theorem Seen.update {seen : Name → Option Kind} (isSeen : volume.Seen seen) {name : Name}
    {after : Volume} {node : Node} {kind : Kind} (cwd : after.cwd = volume.cwd)
    (isNew : after.node (volume.path name) = some node)
    (isKind : (some node).map (fun | .dir => Kind.dir | .file _ => Kind.file) = some kind)
    (others : ∀ other, other ≠ fatName name →
      after.node (volume.cwd ++ [other]) = volume.node (volume.cwd ++ [other])) :
    after.Seen (Function.update seen (fatName name) (some kind)) := by
  intro other
  rw [cwd]
  by_cases same : other = fatName name
  · subst same
    rw [Function.update_self, ← isKind, ← isNew]
    rfl
  · rw [Function.update_of_ne same, others other same]
    exact isSeen other

theorem Seen.set {seen : Name → Option Kind} (isSeen : volume.Seen seen) (name : Name)
    (bytes : List UInt8) :
    (volume.set name (.file bytes)).Seen (Function.update seen (fatName name) (some .file)) :=
  isSeen.update rfl (node_set_path volume name _) rfl fun _ different =>
    node_set_of_ne
      (fun same => different (List.singleton_inj.mp (List.append_cancel_left same))) _

end Volume

open Volume

/-! ## One file, one directory -/

theorem copyLoop_eq_zero_iff {fWrite : Nat → WriteResult} {i : Nat} {freads : List (List UInt8)}
    {written : List UInt8} :
    (copyLoop fWrite i freads written).1 = 0 ↔ WritesAll fWrite i freads := by
  induction freads generalizing i written with
  | nil => simp [copyLoop, WritesAll]
  | cons data freads ih =>
      rw [copyLoop, WritesAll]
      cases result : fWrite i with
      | error => simp
      | ok bw =>
          by_cases all : data.length = bw
          · simp [all, ih]
          · have short : ¬ WriteResult.ok bw = .ok data.length := by
              rintro ⟨⟩
              exact all rfl
            simp [all, short]

/-- What was read is in the file. -/
theorem copyLoop_written {fWrite : Nat → WriteResult} {i : Nat} {freads : List (List UInt8)}
    {written : List UInt8} (writesAll : WritesAll fWrite i freads) :
    (copyLoop fWrite i freads written).2 = written ++ freads.flatten := by
  induction freads generalizing i written with
  | nil => simp [copyLoop]
  | cons data freads ih =>
      rcases writesAll with ⟨result, writesAll⟩
      rw [copyLoop, result]
      simp only [ne_eq, not_true_eq_false, if_false]
      rw [ih writesAll, List.flatten_cons, List.append_assoc]

theorem fatfsFileCopy_eq_zero_iff {volume : Volume} {name : Name} {content : List UInt8}
    {calls : FileCalls content} :
    (fatfsFileCopy volume name calls).1 = 0 ↔
      calls.fOpen = true ∧ volume.node (volume.path name) ≠ some .dir ∧
        WritesAll calls.fWrite 0 calls.freads ∧ calls.fClose = true := by
  rw [← @copyLoop_eq_zero_iff _ _ _ []]
  unfold fatfsFileCopy fOpen
  by_cases opens : calls.fOpen = false ∨ volume.node (volume.path name) = some .dir
  · rw [if_pos opens]
    simp only [Bool.false_eq_true, if_false]
    constructor
    · intro failed
      cases failed
    · rintro ⟨isOpen, notDir, -⟩
      rcases opens with closed | isDir
      · rw [closed] at isOpen
        cases isOpen
      · exact absurd isDir notDir
  · rw [if_neg opens]
    rw [not_or, Bool.not_eq_false] at opens
    simp only [if_true]
    by_cases closes : calls.fClose = true
    · simp [closes, opens.1, opens.2]
    · simp [closes]

theorem fatfsFileCopy_volume {volume : Volume} {name : Name} {content : List UInt8}
    {calls : FileCalls content} (succeeds : (fatfsFileCopy volume name calls).1 = 0) :
    (fatfsFileCopy volume name calls).2 = volume.set name (.file calls.freads.flatten) := by
  rcases fatfsFileCopy_eq_zero_iff.mp succeeds with ⟨isOpen, notDir, writesAll, -⟩
  have opens : ¬ (calls.fOpen = false ∨ volume.node (volume.path name) = some .dir) := by
    rintro (closed | isDir)
    · rw [closed] at isOpen
      cases isOpen
    · exact notDir isDir
  rw [fatfsFileCopy, fOpen, if_neg opens]
  simp only [if_true, copyLoop_written writesAll, List.nil_append]
  simp only [Volume.set, Volume.path, Function.update_idem]

theorem fatfsDirEnter_eq_zero_iff {volume : Volume} {name : Name} {calls : DirCalls} :
    (fatfsDirEnter volume name calls).1 = 0 ↔
      calls.fMkdir = true ∧ volume.node (volume.path name) = none ∧ calls.fChdir = true := by
  unfold fatfsDirEnter fMkdir fChdir
  by_cases makes : calls.fMkdir = false ∨ volume.node (volume.path name) ≠ none
  · rw [if_pos makes]
    simp only [Bool.false_eq_true, if_false]
    constructor
    · intro failed
      cases failed
    · rintro ⟨made, isNew, -⟩
      rcases makes with notMade | exists_
      · rw [notMade] at made
        cases made
      · exact absurd isNew exists_
  · rw [if_neg makes]
    rw [not_or, Bool.not_eq_false, not_not] at makes
    have isDir : (volume.set name .dir).node ((volume.set name .dir).path name) = some .dir :=
      node_set_path volume name .dir
    cases enters : calls.fChdir <;> simp [isDir, makes.1, makes.2]

theorem fatfsDirEnter_volume {volume : Volume} {name : Name} {calls : DirCalls}
    (succeeds : (fatfsDirEnter volume name calls).1 = 0) :
    (fatfsDirEnter volume name calls).2 =
      { volume.set name .dir with cwd := volume.path name } := by
  rcases fatfsDirEnter_eq_zero_iff.mp succeeds with ⟨made, isNew, enters⟩
  have makes : ¬ (calls.fMkdir = false ∨ volume.node (volume.path name) ≠ none) := by
    rintro (notMade | exists_)
    · rw [notMade] at made
      cases made
    · exact exists_ isNew
  have isDir : (volume.set name .dir).node ((volume.set name .dir).path name) = some .dir :=
    node_set_path volume name .dir
  rw [fatfsDirEnter, fMkdir, if_neg makes]
  simp only [if_true, fChdir, enters, isDir]
  rfl

theorem fatfsDirUp_eq_zero_iff {volume : Volume} {calls : DirCalls} :
    (fatfsDirUp volume calls).1 = 0 ↔ calls.fChdirUp = true := by
  unfold fatfsDirUp fChdirUp
  cases calls.fChdirUp <;> simp

theorem fatfsDirUp_volume {volume : Volume} {calls : DirCalls}
    (succeeds : (fatfsDirUp volume calls).1 = 0) :
    (fatfsDirUp volume calls).2 = { volume with cwd := volume.cwd.dropLast } := by
  rw [fatfsDirUp_eq_zero_iff] at succeeds
  simp [fatfsDirUp, fChdirUp, succeeds]

/-! ## One round of `dir_recurse` -/

theorem dirRecurse_skip_eq_zero_iff {readfile : Bool} {rest : Listing} {volume : Volume} :
    (dirRecurse (.skip true readfile rest) volume).1 = 0 ↔
      readfile = true ∧ (dirRecurse rest volume).1 = 0 := by
  cases readfile <;> simp [dirRecurse]

theorem dirRecurse_file_eq_zero_iff {name : Name} {content : List UInt8}
    {calls : FileCalls content} {rest : Listing} {volume : Volume} :
    (dirRecurse (.file true name content calls rest) volume).1 = 0 ↔
      (calls.readfile = true ∧ calls.fopen = true ∧ (fatfsFileCopy volume name calls).1 = 0) ∧
        (dirRecurse rest (fatfsFileCopy volume name calls).2).1 = 0 := by
  rw [dirRecurse]
  by_cases copied : (fatfsFileCopy volume name calls).1 = 0
  · cases calls.readfile <;> cases calls.fopen <;> simp [copied]
  · cases calls.readfile <;> cases calls.fopen <;> simp [copied]

/-- Where the directory is entered, and where it is left. -/
def entered (volume : Volume) (name : Name) (calls : DirCalls) : Volume :=
  (fatfsDirEnter volume name calls).2

def left (volume : Volume) (name : Name) (calls : DirCalls) (sub : Listing) : Volume :=
  (fatfsDirUp (dirRecurse sub (entered volume name calls)).2 calls).2

theorem dirRecurse_dir_eq_zero_iff {name : Name} {calls : DirCalls} {sub rest : Listing}
    {volume : Volume} :
    (dirRecurse (.dir true name calls sub rest) volume).1 = 0 ↔
      (calls.readfile = true ∧ calls.tinydirOpen = true ∧
          (fatfsDirEnter volume name calls).1 = 0) ∧
        (dirRecurse sub (entered volume name calls)).1 = 0 ∧
        (fatfsDirUp (dirRecurse sub (entered volume name calls)).2 calls).1 = 0 ∧
        (dirRecurse rest (left volume name calls sub)).1 = 0 := by
  rw [dirRecurse, left, entered]
  by_cases enters : (fatfsDirEnter volume name calls).1 = 0
  · by_cases adds : (dirRecurse sub (fatfsDirEnter volume name calls).2).1 = 0
    · by_cases leaves :
        (fatfsDirUp (dirRecurse sub (fatfsDirEnter volume name calls).2).2 calls).1 = 0
      · cases calls.readfile <;> cases calls.tinydirOpen <;> simp [enters, adds, leaves]
      · cases calls.readfile <;> cases calls.tinydirOpen <;> simp [enters, adds, leaves]
    · cases calls.readfile <;> cases calls.tinydirOpen <;> simp [enters, adds]
  · cases calls.readfile <;> cases calls.tinydirOpen <;> simp [enters]

/-- A round that succeeds goes on with what it leaves. -/
theorem dirRecurse_skip {readfile : Bool} {rest : Listing} {volume : Volume}
    (succeeds : (dirRecurse (.skip true readfile rest) volume).1 = 0) :
    dirRecurse (.skip true readfile rest) volume = dirRecurse rest volume := by
  rw [dirRecurse_skip_eq_zero_iff] at succeeds
  simp [dirRecurse, succeeds.1]

theorem dirRecurse_file {name : Name} {content : List UInt8} {calls : FileCalls content}
    {rest : Listing} {volume : Volume}
    (succeeds : (dirRecurse (.file true name content calls rest) volume).1 = 0) :
    dirRecurse (.file true name content calls rest) volume =
      dirRecurse rest (volume.set name (.file calls.freads.flatten)) := by
  rcases dirRecurse_file_eq_zero_iff.mp succeeds with ⟨⟨readfile, fopen, copied⟩, -⟩
  rw [← fatfsFileCopy_volume copied]
  simp [dirRecurse, readfile, fopen, copied]

theorem dirRecurse_dir {name : Name} {calls : DirCalls} {sub rest : Listing} {volume : Volume}
    (succeeds : (dirRecurse (.dir true name calls sub rest) volume).1 = 0) :
    dirRecurse (.dir true name calls sub rest) volume =
      dirRecurse rest (left volume name calls sub) := by
  rcases dirRecurse_dir_eq_zero_iff.mp succeeds with
    ⟨⟨readfile, tinydirOpen, enters⟩, adds, leaves, -⟩
  rw [entered] at adds leaves
  rw [left, entered]
  simp [dirRecurse, readfile, tinydirOpen, enters, adds, leaves]

/-! ## When `dir_recurse` returns 0 -/

/-- A new directory is empty. -/
theorem seen_entered {volume : Volume} (wellFormed : volume.WellFormed) {name : Name}
    (isNew : volume.node (volume.path name) = none) :
    Seen { volume.set name .dir with cwd := volume.path name } fun _ => none := by
  intro other
  have different : volume.path name ++ [other] ≠ volume.path name := by
    intro same
    have length := congrArg List.length same
    simp at length
  have nothing : (volume.set name .dir).node (volume.path name ++ [other]) = none := by
    rw [node_set_of_ne different]
    exact wellFormed.below isNew [other]
  show ((volume.set name .dir).node (volume.path name ++ [other])).map _ = none
  rw [nothing]
  rfl

theorem wellFormed_entered {volume : Volume} (wellFormed : volume.WellFormed) {name : Name}
    (isNew : volume.node (volume.path name) = none) :
    WellFormed { volume.set name .dir with cwd := volume.path name } where
  parent := (wellFormed.set (by rw [isNew]; exact nofun) .dir).parent
  current := node_set_path volume name .dir

/-- The volume behind a directory that was added. -/
structure Left (volume : Volume) (name : Name) (after last : Volume) : Prop where
  wellFormed : last.WellFormed
  cwd : last.cwd = volume.cwd
  node : last.node = after.node
  same : SameOutside { volume.set name .dir with cwd := volume.path name } after

theorem left_spec {volume : Volume} {name : Name} {calls : DirCalls} {sub : Listing}
    (entersTo : entered volume name calls = { volume.set name .dir with cwd := volume.path name })
    (wellFormed : (dirRecurse sub (entered volume name calls)).2.WellFormed)
    (same : SameOutside (entered volume name calls)
      (dirRecurse sub (entered volume name calls)).2)
    (leaves : (fatfsDirUp (dirRecurse sub (entered volume name calls)).2 calls).1 = 0) :
    Left volume name (dirRecurse sub (entered volume name calls)).2
      (left volume name calls sub) := by
  have cwd : (dirRecurse sub (entered volume name calls)).2.cwd = volume.path name := by
    rw [same.cwd, entersTo]
  have isLeft : left volume name calls sub =
      { (dirRecurse sub (entered volume name calls)).2 with cwd := volume.cwd } := by
    rw [left, fatfsDirUp_volume leaves, cwd, Volume.path, List.dropLast_concat]
  have isDir := wellFormed.current
  rw [cwd] at isDir
  rw [isLeft]
  constructor
  case wellFormed =>
    refine ⟨wellFormed.parent, wellFormed.parent volume.cwd (fatName name) ?_⟩
    rw [← Volume.path, isDir]
    exact nofun
  case cwd => rfl
  case node => rfl
  case same =>
    rw [← entersTo]
    exact same

/-- Nothing outside of the directory has changed. -/
theorem Left.sameOutside {volume after last : Volume} {name : Name}
    (isLeft : Left volume name after last) : SameOutside volume last where
  cwd := isLeft.cwd
  node := by
    intro path outside
    have outsideSub : ∀ other rest, path ≠ volume.path name ++ other :: rest := by
      intro other rest same
      refine outside (fatName name) (other :: rest) ?_
      rw [same, Volume.path, List.append_assoc]
      rfl
    rw [isLeft.node, isLeft.same.node path outsideSub]
    exact node_set_of_ne (outside (fatName name) []) .dir

theorem Left.seen {volume after last : Volume} {name : Name}
    (isLeft : Left volume name after last) {seen : Name → Option Kind}
    (isSeen : volume.Seen seen) :
    last.Seen (Function.update seen (fatName name) (some .dir)) := by
  have outsideSub : ∀ (any other : Name) (rest : Path),
      volume.cwd ++ [any] ≠ volume.path name ++ other :: rest := by
    intro any other rest same
    have length := congrArg List.length same
    simp [Volume.path] at length
  have isNew : last.node (volume.path name) = some .dir := by
    rw [isLeft.node, isLeft.same.node (volume.path name) (outsideSub (fatName name))]
    exact node_set_path volume name .dir
  refine isSeen.update isLeft.cwd isNew rfl ?_
  intro other different
  rw [isLeft.node, isLeft.same.node _ (outsideSub other)]
  exact node_set_of_ne
    (fun same => different (List.singleton_inj.mp (List.append_cancel_left same))) .dir

theorem dirRecurse_spec (listing : Listing) {volume : Volume} (wellFormed : volume.WellFormed)
    {seen : Name → Option Kind} (isSeen : volume.Seen seen) :
    ((dirRecurse listing volume).1 = 0 ↔ listing.Checked seen) ∧
      ((dirRecurse listing volume).1 = 0 →
        (dirRecurse listing volume).2.WellFormed ∧
          SameOutside volume (dirRecurse listing volume).2) := by
  induction listing generalizing volume seen with
  | done readdir => exact ⟨iff_of_true rfl trivial, fun _ => ⟨wellFormed, .refl volume⟩⟩
  | skip readdir readfile rest ih =>
      cases readdir with
      | false => exact ⟨iff_of_true rfl nofun, fun _ => ⟨wellFormed, .refl volume⟩⟩
      | true =>
          rcases ih wellFormed isSeen with ⟨returns, keeps⟩
          constructor
          · rw [dirRecurse_skip_eq_zero_iff, Listing.Checked, returns]
            simp
          · intro succeeds
            have goesOn := dirRecurse_skip succeeds
            rw [goesOn] at succeeds ⊢
            exact keeps succeeds
  | file readdir name content calls rest ih =>
      cases readdir with
      | false => exact ⟨iff_of_true rfl nofun, fun _ => ⟨wellFormed, .refl volume⟩⟩
      | true =>
          have goesOn : volume.node (volume.path name) ≠ some .dir → _ := fun notDir =>
            ih (wellFormed.set notDir (.file calls.freads.flatten))
              (isSeen.set name calls.freads.flatten)
          constructor
          · rw [dirRecurse_file_eq_zero_iff, Listing.Checked]
            simp only [forall_const]
            constructor
            · rintro ⟨⟨readfile, fopen, copied⟩, rest⟩
              rw [fatfsFileCopy_volume copied] at rest
              rcases fatfsFileCopy_eq_zero_iff.mp copied with ⟨fOpen, notDir, fWrite, fClose⟩
              exact ⟨⟨readfile, fopen, fOpen, fWrite, fClose⟩,
                fun isDir => notDir ((isSeen.eq_dir_iff name).mpr isDir),
                (goesOn notDir).1.mp rest⟩
            · rintro ⟨checked, notDir, rest⟩
              have notDir' := fun isDir => notDir ((isSeen.eq_dir_iff name).mp isDir)
              have copied : (fatfsFileCopy volume name calls).1 = 0 :=
                fatfsFileCopy_eq_zero_iff.mpr
                  ⟨checked.fOpen, notDir', checked.fWrite, checked.fClose⟩
              rw [fatfsFileCopy_volume copied]
              exact ⟨⟨checked.readfile, checked.fopen, copied⟩, (goesOn notDir').1.mpr rest⟩
          · intro succeeds
            rcases dirRecurse_file_eq_zero_iff.mp succeeds with ⟨⟨-, -, copied⟩, -⟩
            rcases fatfsFileCopy_eq_zero_iff.mp copied with ⟨-, notDir, -⟩
            have next := dirRecurse_file succeeds
            rw [next] at succeeds ⊢
            rcases (goesOn notDir).2 succeeds with ⟨wellFormedLast, same⟩
            exact ⟨wellFormedLast, (sameOutside_set volume name _).trans same⟩
  | dir readdir name calls sub rest ihSub ihRest =>
      cases readdir with
      | false => exact ⟨iff_of_true rfl nofun, fun _ => ⟨wellFormed, .refl volume⟩⟩
      | true =>
          -- What the two induction hypotheses say once the directory is entered.
          have goesOn : (fatfsDirEnter volume name calls).1 = 0 →
              ((dirRecurse sub (entered volume name calls)).1 = 0 ↔ sub.Checked fun _ => none) ∧
                ((dirRecurse sub (entered volume name calls)).1 = 0 →
                  (fatfsDirUp (dirRecurse sub (entered volume name calls)).2 calls).1 = 0 →
                  Left volume name (dirRecurse sub (entered volume name calls)).2
                    (left volume name calls sub)) := by
            intro enters
            have isNew := (fatfsDirEnter_eq_zero_iff.mp enters).2.1
            have entersTo : entered volume name calls =
                { volume.set name .dir with cwd := volume.path name } :=
              fatfsDirEnter_volume enters
            have hypothesis := ihSub (wellFormed_entered wellFormed isNew)
              (seen_entered wellFormed isNew)
            rw [← entersTo] at hypothesis
            refine ⟨hypothesis.1, fun adds leaves => ?_⟩
            exact left_spec entersTo (hypothesis.2 adds).1 (hypothesis.2 adds).2 leaves
          constructor
          · rw [dirRecurse_dir_eq_zero_iff, Listing.Checked]
            simp only [forall_const]
            constructor
            · rintro ⟨⟨readfile, tinydirOpen, enters⟩, adds, leaves, rest⟩
              rcases fatfsDirEnter_eq_zero_iff.mp enters with ⟨fMkdir, isNew, fChdir⟩
              have isLeft := (goesOn enters).2 adds leaves
              exact ⟨⟨readfile, tinydirOpen, fMkdir, fChdir, fatfsDirUp_eq_zero_iff.mp leaves⟩,
                (isSeen.eq_none_iff name).mp isNew, (goesOn enters).1.mp adds,
                (ihRest isLeft.wellFormed (isLeft.seen isSeen)).1.mp rest⟩
            · rintro ⟨checked, isNew, adds, rest⟩
              have enters : (fatfsDirEnter volume name calls).1 = 0 :=
                fatfsDirEnter_eq_zero_iff.mpr
                  ⟨checked.fMkdir, (isSeen.eq_none_iff name).mpr isNew, checked.fChdir⟩
              have adds := (goesOn enters).1.mpr adds
              have leaves :
                  (fatfsDirUp (dirRecurse sub (entered volume name calls)).2 calls).1 = 0 :=
                fatfsDirUp_eq_zero_iff.mpr checked.fChdirUp
              have isLeft := (goesOn enters).2 adds leaves
              exact ⟨⟨checked.readfile, checked.tinydirOpen, enters⟩, adds, leaves,
                (ihRest isLeft.wellFormed (isLeft.seen isSeen)).1.mpr rest⟩
          · intro succeeds
            rcases dirRecurse_dir_eq_zero_iff.mp succeeds with ⟨⟨-, -, enters⟩, adds, leaves, -⟩
            have isLeft := (goesOn enters).2 adds leaves
            have next := dirRecurse_dir succeeds
            rw [next] at succeeds ⊢
            rcases (ihRest isLeft.wellFormed (isLeft.seen isSeen)).2 succeeds with
              ⟨wellFormedLast, same⟩
            exact ⟨wellFormedLast, isLeft.sameOutside.trans same⟩

/-! ## What is in the image -/

theorem find_dir_of_ne {readdir : Bool} {other name : Name} {calls : DirCalls}
    {sub rest : Listing} (different : fatName other ≠ name) (path : Path) :
    (Listing.dir readdir other calls sub rest).find name path = rest.find name path := by
  cases path <;> exact if_neg different

theorem find_dir_self {readdir : Bool} {name : Name} {calls : DirCalls} {sub rest : Listing}
    (path : Path) :
    (Listing.dir readdir name calls sub rest).find (fatName name) path = sub.node path := by
  cases path <;> exact if_pos rfl

/-- Under other names there is nothing. -/
theorem find_eq_none {listing : Listing} {name : Name} (notThere : name ∉ listing.names)
    (path : Path) : listing.find name path = none := by
  induction listing with
  | done => rfl
  | skip _ _ rest ih => exact ih notThere
  | file _ other _ _ rest ih =>
      simp only [Listing.names, List.mem_cons, not_or] at notThere
      rw [Listing.find, if_neg (Ne.symm notThere.1)]
      exact ih notThere.2
  | dir _ other _ sub rest _ ih =>
      simp only [Listing.names, List.mem_cons, not_or] at notThere
      rw [find_dir_of_ne (Ne.symm notThere.1)]
      exact ih notThere.2

/-- In the directory the listing is found under its names, and what was there before under
the others. -/
def Holds (listing : Listing) (volume after : Volume) : Prop :=
  ∀ name path, after.node (volume.cwd ++ name :: path) =
    if name ∈ listing.names then listing.find name path
    else volume.node (volume.cwd ++ name :: path)

/-- What is behind an entry in the listing is still new when the entry has been seen. -/
theorem isNew_update {name : Name} {names : List Name} {seen : Name → Option Kind}
    (isNew : ∀ other ∈ name :: names, seen other = none) (notInRest : name ∉ names)
    (kind : Option Kind) : ∀ other ∈ names, Function.update seen name kind other = none := by
  intro other isThere
  have different : other ≠ name := by
    rintro rfl
    exact notInRest isThere
  rw [Function.update_of_ne different]
  exact isNew other (List.mem_cons_of_mem _ isThere)

theorem dirRecurse_holds (listing : Listing) {volume : Volume} (wellFormed : volume.WellFormed)
    {seen : Name → Option Kind} (isSeen : volume.Seen seen) (succeeds : listing.Succeeds)
    (distinct : listing.Distinct) (isNew : ∀ name ∈ listing.names, seen name = none)
    (returns : (dirRecurse listing volume).1 = 0) :
    Holds listing volume (dirRecurse listing volume).2 := by
  induction listing generalizing volume seen with
  | done readdir =>
      intro name path
      rfl
  | skip readdir readfile rest ih =>
      rcases succeeds with ⟨rfl, -, succeeds⟩
      have next := dirRecurse_skip returns
      rw [next] at returns ⊢
      exact ih wellFormed isSeen succeeds distinct isNew returns
  | file readdir name content calls rest ih =>
      rcases succeeds with ⟨rfl, -, ⟨readsAll, -⟩, succeeds⟩
      rcases distinct with ⟨notInRest, distinct⟩
      have nothing : volume.node (volume.path name) = none :=
        (isSeen.eq_none_iff name).mpr (isNew _ List.mem_cons_self)
      have next := dirRecurse_file returns
      have isSeenNext := isSeen.set name calls.freads.flatten
      rw [next] at returns ⊢
      have holds := ih (wellFormed.set (by rw [nothing]; exact nofun) _) isSeenNext succeeds
        distinct (isNew_update isNew notInRest _) returns
      intro other path
      have there := holds other path
      rw [show (volume.set name (.file calls.freads.flatten)).cwd = volume.cwd from rfl] at there
      rw [there]
      by_cases same : other = fatName name
      · subst same
        have isName : fatName name ∈ (Listing.file true name content calls rest).names :=
          List.mem_cons_self
        rw [if_neg notInRest, if_pos isName, Listing.find, if_pos rfl]
        cases path with
        | nil =>
            rw [if_pos rfl, ← Volume.path, node_set_path, readsAll]
        | cons further path =>
            have different : volume.cwd ++ fatName name :: further :: path ≠ volume.path name := by
              intro equal
              have length := congrArg List.length equal
              simp [Volume.path] at length
            rw [if_neg (List.cons_ne_nil _ _), node_set_of_ne different]
            have below := wellFormed.below nothing (further :: path)
            rwa [Volume.path, List.append_assoc] at below
      · have different : volume.cwd ++ other :: path ≠ volume.path name := by
          intro equal
          have heads := List.append_cancel_left equal
          exact same (List.cons.inj heads).1
        rw [node_set_of_ne different, Listing.find, if_neg (Ne.symm same)]
        simp only [Listing.names, List.mem_cons, same, false_or]
  | dir readdir name calls sub rest ihSub ihRest =>
      rcases succeeds with ⟨rfl, -, succeedsSub, succeeds⟩
      rcases distinct with ⟨notInRest, distinctSub, distinct⟩
      rcases dirRecurse_dir_eq_zero_iff.mp returns with ⟨⟨-, -, enters⟩, adds, leaves, -⟩
      have nothing := (fatfsDirEnter_eq_zero_iff.mp enters).2.1
      have entersTo : entered volume name calls =
          { volume.set name .dir with cwd := volume.path name } :=
        fatfsDirEnter_volume enters
      have wellFormedSub := wellFormed_entered wellFormed nothing
      have seenSub := seen_entered wellFormed nothing
      rw [← entersTo] at wellFormedSub seenSub
      have spec := (dirRecurse_spec sub wellFormedSub seenSub).2 adds
      have isLeft := left_spec entersTo spec.1 spec.2 leaves
      have holdsSub := ihSub wellFormedSub seenSub succeedsSub distinctSub (fun _ _ => rfl) adds
      have next := dirRecurse_dir returns
      rw [next] at returns ⊢
      have holds := ihRest isLeft.wellFormed (isLeft.seen isSeen) succeeds distinct
        (isNew_update isNew notInRest _) returns
      intro other path
      have there := holds other path
      rw [isLeft.cwd] at there
      rw [there, isLeft.node]
      by_cases same : other = fatName name
      · subst same
        have isName : fatName name ∈ (Listing.dir true name calls sub rest).names :=
          List.mem_cons_self
        rw [if_neg notInRest, if_pos isName, find_dir_self]
        cases path with
        | nil =>
            have outside : ∀ (further : Name) (rest : Path),
                volume.cwd ++ [fatName name] ≠ volume.path name ++ further :: rest := by
              intro further rest equal
              have length := congrArg List.length equal
              simp [Volume.path] at length
            rw [isLeft.same.node _ outside]
            exact node_set_path volume name .dir
        | cons further path =>
            have inside := holdsSub further path
            have cwd : (entered volume name calls).cwd = volume.path name := by rw [entersTo]
            rw [cwd, Volume.path, List.append_assoc, List.singleton_append] at inside
            rw [inside, Listing.node]
            split
            · rfl
            · rename_i notThere
              have different : volume.cwd ++ fatName name :: further :: path ≠
                  volume.path name := by
                intro equal
                have length := congrArg List.length equal
                simp [Volume.path] at length
              have below := wellFormed.below nothing (further :: path)
              rw [Volume.path, List.append_assoc, List.singleton_append] at below
              rw [find_eq_none notThere, entersTo]
              exact (node_set_of_ne different .dir).trans below
      · have outside : ∀ (further : Name) (rest : Path),
            volume.cwd ++ other :: path ≠ volume.path name ++ further :: rest := by
          intro further rest equal
          rw [Volume.path, List.append_assoc] at equal
          exact same (List.cons.inj (List.append_cancel_left equal)).1
        have different : volume.cwd ++ other :: path ≠ volume.path name := by
          intro equal
          exact same (List.cons.inj (List.append_cancel_left equal)).1
        rw [isLeft.same.node _ outside, find_dir_of_ne (Ne.symm same)]
        simp only [Listing.names, List.mem_cons, same, false_or]
        split
        · rfl
        · exact node_set_of_ne different .dir

/-! ## The tool -/

theorem wellFormed_fatfsInit : fatfsInit.WellFormed where
  parent := by
    intro path name something
    simp [fatfsInit] at something
  current := rfl

theorem seen_fatfsInit : fatfsInit.Seen fun _ => none := by
  intro name
  rfl

variable {calls : MainCalls} {tree : Listing}

theorem fatfsMkimage_eq_zero_iff : (fatfsMkimage calls tree).1 = 0 ↔ Checked calls tree := by
  have recurses := (dirRecurse_spec tree wellFormed_fatfsInit seen_fatfsInit).1
  constructor
  · intro returns
    unfold fatfsMkimage directoryAdd at returns
    by_cases opens : calls.tinydirOpen = true
    · rw [if_pos opens] at returns
      by_cases added : calls.fatfsInit = true ∧ (dirRecurse tree fatfsInit).1 = 0
      · rw [if_pos added] at returns
        cases isOpen : calls.fopen <;> cases writes : calls.fwrite <;>
          simp [isOpen, writes] at returns
        exact ⟨added.1, opens, recurses.mp added.2, isOpen, writes⟩
      · rw [if_neg added] at returns
        cases returns
    · rw [if_neg opens] at returns
      simp at returns
  · rintro ⟨init, opens, checked, isOpen, writes⟩
    simp [fatfsMkimage, directoryAdd, init, opens, isOpen, writes, recurses.mpr checked]

/-- With all calls checked or successful, nothing has failed. -/
theorem succeeds_of_checked (listing : Listing) {seen : Name → Option Kind}
    (checked : listing.Checked seen) (unchecked : listing.UncheckedSucceed) :
    listing.Succeeds := by
  induction listing generalizing seen with
  | done => exact unchecked
  | skip readdir readfile rest ih =>
      rcases unchecked with ⟨rfl, unchecked⟩
      rcases checked rfl with ⟨readfile, checked⟩
      exact ⟨rfl, readfile, ih checked unchecked⟩
  | file readdir name content calls rest ih =>
      rcases unchecked with ⟨rfl, ofFile, unchecked⟩
      rcases checked rfl with ⟨calls, -, checked⟩
      exact ⟨rfl, calls, ofFile, ih checked unchecked⟩
  | dir readdir name calls sub rest ihSub ihRest =>
      rcases unchecked with ⟨rfl, uncheckedSub, unchecked⟩
      rcases checked rfl with ⟨calls, -, checkedSub, checked⟩
      exact ⟨rfl, calls, ihSub checkedSub uncheckedSub, ihRest checked unchecked⟩

/-- The checks tell a directory from every other name of its directory. -/
theorem distinct_of_checked (listing : Listing) {seen : Name → Option Kind}
    (checked : listing.Checked seen) (unchecked : listing.UncheckedSucceed)
    (files : listing.FilesDistinct) :
    listing.Distinct ∧ ∀ name ∈ listing.names,
      seen name = none ∨ seen name = some .file ∧ name ∈ listing.fileNames := by
  induction listing generalizing seen with
  | done => exact ⟨trivial, fun _ isThere => absurd isThere List.not_mem_nil⟩
  | skip readdir readfile rest ih =>
      rcases unchecked with ⟨rfl, unchecked⟩
      exact ih (checked rfl).2 unchecked files
  | file readdir name content calls rest ih =>
      rcases unchecked with ⟨rfl, -, unchecked⟩
      rcases checked rfl with ⟨-, notDir, checked⟩
      rcases files with ⟨notInRest, files⟩
      rcases ih checked unchecked files with ⟨distinct, names⟩
      have fresh : fatName name ∉ rest.names := by
        intro isThere
        rcases names _ isThere with none_ | ⟨-, isFile⟩
        · rw [Function.update_self] at none_
          cases none_
        · exact notInRest isFile
      refine ⟨⟨fresh, distinct⟩, ?_⟩
      intro other isThere
      rcases List.mem_cons.mp isThere with rfl | inRest
      · rcases kind : seen (fatName name) with _ | _ | _
        · exact .inl rfl
        · exact absurd kind notDir
        · exact .inr ⟨rfl, List.mem_cons_self⟩
      · have different : other ≠ fatName name := by
          rintro rfl
          exact fresh inRest
        have before := names other inRest
        rw [Function.update_of_ne different] at before
        rcases before with none_ | ⟨isFile, isThere⟩
        · exact .inl none_
        · exact .inr ⟨isFile, List.mem_cons_of_mem _ isThere⟩
  | dir readdir name calls sub rest ihSub ihRest =>
      rcases unchecked with ⟨rfl, uncheckedSub, unchecked⟩
      rcases checked rfl with ⟨-, isNew, checkedSub, checked⟩
      rcases files with ⟨filesSub, files⟩
      rcases ihRest checked unchecked files with ⟨distinct, names⟩
      have fresh : fatName name ∉ rest.names := by
        intro isThere
        rcases names _ isThere with none_ | ⟨isFile, -⟩
        · rw [Function.update_self] at none_
          cases none_
        · rw [Function.update_self] at isFile
          cases isFile
      refine ⟨⟨fresh, (ihSub checkedSub uncheckedSub filesSub).1, distinct⟩, ?_⟩
      intro other isThere
      rcases List.mem_cons.mp isThere with rfl | inRest
      · exact .inl isNew
      · have different : other ≠ fatName name := by
          rintro rfl
          exact fresh inRest
        have before := names other inRest
        rwa [Function.update_of_ne different] at before

theorem uncheckedSucceed_of_succeeds (listing : Listing) (succeeds : listing.Succeeds) :
    listing.UncheckedSucceed := by
  induction listing with
  | done => exact succeeds
  | skip _ _ _ ih => exact ⟨succeeds.1, ih succeeds.2.2⟩
  | file _ _ _ _ _ ih => exact ⟨succeeds.1, succeeds.2.2.1, ih succeeds.2.2.2⟩
  | dir _ _ _ _ _ ihSub ihRest =>
      exact ⟨succeeds.1, ihSub succeeds.2.2.1, ihRest succeeds.2.2.2⟩

theorem fileNames_subset (listing : Listing) : listing.fileNames ⊆ listing.names := by
  induction listing with
  | done => exact List.Subset.refl _
  | skip _ _ _ ih => exact ih
  | file _ _ _ _ _ ih => exact List.cons_subset_cons _ ih
  | dir _ _ _ _ _ _ ih => exact List.subset_cons_of_subset _ ih

theorem filesDistinct_of_distinct (listing : Listing) (distinct : listing.Distinct) :
    listing.FilesDistinct := by
  induction listing with
  | done => trivial
  | skip _ _ _ ih => exact ih distinct
  | file _ _ _ _ rest ih =>
      exact ⟨fun isThere => distinct.1 (fileNames_subset rest isThere), ih distinct.2⟩
  | dir _ _ _ _ _ ihSub ihRest => exact ⟨ihSub distinct.2.1, ihRest distinct.2.2⟩

/-- The image holds the tree. -/
theorem image_eq (checked : Checked calls tree) (succeeds : tree.Succeeds)
    (distinct : tree.Distinct) (closes : calls.fclose = true) :
    (fatfsMkimage calls tree).2 = some tree.node := by
  have returns := (dirRecurse_spec tree wellFormed_fatfsInit seen_fatfsInit).1.mpr checked.tree
  have holds := dirRecurse_holds tree wellFormed_fatfsInit seen_fatfsInit succeeds distinct
    (fun _ _ => rfl) returns
  have same := ((dirRecurse_spec tree wellFormed_fatfsInit seen_fatfsInit).2 returns).2
  have image : (dirRecurse tree fatfsInit).2.node = tree.node := by
    funext path
    cases path with
    | nil => exact same.node [] fun _ _ equal => by cases equal
    | cons name path =>
        have there := holds name path
        rw [show fatfsInit.cwd = [] from rfl, List.nil_append] at there
        rw [there, Listing.node]
        split
        · rfl
        · rename_i notThere
          rw [find_eq_none notThere]
          rfl
  simp [fatfsMkimage, directoryAdd, checked.fatfsInit, checked.tinydirOpen, returns,
    checked.fopen, checked.fwrite, closes, image]

/-- For every tree and every outcome of the calls, the tool returns 0 only for an image that
holds the tree exactly when, unless a checked call fails, no unchecked one fails and no file
is put over another. -/
theorem faithful_iff (calls : MainCalls) (tree : Listing) :
    Faithful calls tree ↔ (Checked calls tree → NothingUnnoticed calls tree) := by
  constructor
  · intro faithful checked
    rcases faithful (fatfsMkimage_eq_zero_iff.mpr checked) with ⟨-, main, succeeds, distinct⟩
    exact ⟨uncheckedSucceed_of_succeeds tree succeeds, filesDistinct_of_distinct tree distinct,
      main.fclose⟩
  · intro unnoticed returns
    have checked := fatfsMkimage_eq_zero_iff.mp returns
    rcases unnoticed checked with ⟨unchecked, files, closes⟩
    have succeeds := succeeds_of_checked tree checked.tree unchecked
    have distinct := (distinct_of_checked tree checked.tree unchecked files).1
    exact ⟨image_eq checked succeeds distinct closes,
      ⟨checked.fatfsInit, checked.tinydirOpen, checked.fopen, checked.fwrite, closes⟩,
      succeeds, distinct⟩

/-- One file of two bytes, at which `fread` fails before the second. -/
def readFails : Listing :=
  .file true ['A'] [1, 2]
    { readfile := true, fopen := true, fOpen := true, freads := [[1]],
      freads_prefix := ⟨[2], rfl⟩, fWrite := fun _ => .ok 1, fClose := true,
      fclose := true }
    (.done true)

/-- The tool returns 0 with half of the file. -/
theorem readFails_not_faithful : ¬ Faithful ⟨true, true, true, true, true⟩ readFails := by
  intro faithful
  rcases faithful (by decide) with ⟨-, -, ⟨-, -, unchecked, -⟩, -⟩
  cases unchecked.readsAll

end FwkRtos.FatfsMkimage

import Mathlib.Data.List.Nodup
import Mathlib.Logic.Function.Basic

/-!
# The resource table

Every resource ID has one entry, which holds the number of the servicer that
registered it or `NO_SERVICER`.  A list of resource IDs is entered one by one,
each ID being checked just before it is entered.
-/

namespace FwkRtos.DeviceControl

/-- `control_resid_t`. -/
abbrev ControlResid := UInt8

/-- `CONTROL_SPECIAL_RESID`. -/
def controlSpecialResid : ControlResid := 0

/-- `NO_SERVICER`. -/
def noServicer : UInt8 := 255

/-- `resource_table`, one entry for each of the 256 resource IDs. -/
abbrev ResourceTable := ControlResid → UInt8

/-- `resource_table_init`. -/
def resourceTableInit : ResourceTable :=
  fun _ => noServicer

/-- The loop of `resource_table_add`: the returned code and the table. -/
def resourceTableFill (servicer : UInt8) : List ControlResid → ResourceTable → Nat × ResourceTable
  | [], table => (0, table)
  | resid :: rest, table =>
      if resid = controlSpecialResid then (2, table)
      else if table resid ≠ noServicer then (3, table)
      else resourceTableFill servicer rest (Function.update table resid servicer)

/-- `resource_table_add`: the returned code and the table. -/
def resourceTableAdd (table : ResourceTable) (resources : List ControlResid) (servicer : UInt8) :
    Nat × ResourceTable :=
  if servicer = noServicer then (1, table) else resourceTableFill servicer resources table

/-- `resource_table_search`: the returned code, 0 when the ID is found, and the
servicer stored. -/
def resourceTableSearch (table : ResourceTable) (resid : ControlResid) : Nat × UInt8 :=
  if resid = controlSpecialResid ∨ table resid ≠ noServicer then (0, table resid)
  else (1, table resid)

/-- The ID can be entered: it is not reserved and no servicer has it. -/
def Free (table : ResourceTable) (resid : ControlResid) : Prop :=
  resid ≠ controlSpecialResid ∧ table resid = noServicer

instance (table : ResourceTable) (resid : ControlResid) : Decidable (Free table resid) :=
  inferInstanceAs (Decidable (_ ∧ _))

/-- The whole list can be entered. -/
def AllFree (table : ResourceTable) (resources : List ControlResid) : Prop :=
  resources.Nodup ∧ ∀ resid ∈ resources, Free table resid

instance (table : ResourceTable) (resources : List ControlResid) :
    Decidable (AllFree table resources) :=
  inferInstanceAs (Decidable (_ ∧ _))

/-- The first ID of the list can be entered and a later one cannot. -/
def FillsPartly (table : ResourceTable) (resources : List ControlResid) (servicer : UInt8) :
    Prop :=
  servicer ≠ noServicer ∧ (∃ first ∈ resources.head?, Free table first) ∧
    ¬ AllFree table resources

instance (table : ResourceTable) (resources : List ControlResid) (servicer : UInt8) :
    Decidable (FillsPartly table resources servicer) :=
  inferInstanceAs (Decidable (_ ∧ _ ∧ _))

/-! ## What one call enters -/

section
variable {servicer : UInt8} {table : ResourceTable} {resources : List ControlResid}
  {resid : ControlResid}

theorem resourceTableFill_cons_of_free {rest : List ControlResid} (free : Free table resid) :
    resourceTableFill servicer (resid :: rest) table =
      resourceTableFill servicer rest (Function.update table resid servicer) := by
  rw [resourceTableFill, if_neg free.1, if_neg (not_not_intro free.2)]

theorem resourceTableFill_cons_of_not_free {rest : List ControlResid}
    (taken : ¬ Free table resid) :
    (resourceTableFill servicer (resid :: rest) table).1 ≠ 0 ∧
      (resourceTableFill servicer (resid :: rest) table).2 = table := by
  rw [resourceTableFill]
  by_cases special : resid = controlSpecialResid
  · rw [if_pos special]
    exact ⟨Nat.succ_ne_zero 1, rfl⟩
  · have entered : table resid ≠ noServicer := fun free => taken ⟨special, free⟩
    rw [if_neg special, if_pos entered]
    exact ⟨Nat.succ_ne_zero 2, rfl⟩

/-- An entry stays as it was unless it was free and is on the list. -/
theorem resourceTableFill_entry (registers : servicer ≠ noServicer) :
    (resourceTableFill servicer resources table).2 resid = table resid ∨
      (resourceTableFill servicer resources table).2 resid = servicer ∧
        resid ∈ resources ∧ table resid = noServicer := by
  induction resources generalizing table with
  | nil => exact .inl rfl
  | cons first rest ih =>
      by_cases free : Free table first
      · rw [resourceTableFill_cons_of_free free]
        rcases @ih (Function.update table first servicer) with kept | ⟨entered, inRest, was⟩
        · by_cases same : resid = first
          · subst same
            right
            rw [Function.update_self] at kept
            exact ⟨kept, List.mem_cons_self, free.2⟩
          · left
            rwa [Function.update_of_ne same] at kept
        · by_cases same : resid = first
          · subst same
            rw [Function.update_self] at was
            exact absurd was registers
          · rw [Function.update_of_ne same] at was
            exact .inr ⟨entered, List.mem_cons_of_mem _ inRest, was⟩
      · exact .inl (congrFun (resourceTableFill_cons_of_not_free free).2 resid)

/-- What is registered already keeps its servicer. -/
theorem resourceTableFill_of_registered (registers : servicer ≠ noServicer)
    (registered : table resid ≠ noServicer) :
    (resourceTableFill servicer resources table).2 resid = table resid := by
  rcases resourceTableFill_entry registers with kept | ⟨_, _, free⟩
  · exact kept
  · exact absurd free registered

theorem allFree_cons_iff {first : ControlResid} {rest : List ControlResid}
    (registers : servicer ≠ noServicer) (free : Free table first) :
    AllFree table (first :: rest) ↔ AllFree (Function.update table first servicer) rest := by
  constructor
  · rintro ⟨distinct, allFree⟩
    obtain ⟨fresh, restDistinct⟩ := List.nodup_cons.mp distinct
    refine ⟨restDistinct, fun resid inRest => ?_⟩
    have different : resid ≠ first := fun same => fresh (same ▸ inRest)
    obtain ⟨ordinary, notTaken⟩ := allFree resid (List.mem_cons_of_mem _ inRest)
    exact ⟨ordinary, by rwa [Function.update_of_ne different]⟩
  · rintro ⟨distinct, allFree⟩
    have different : ∀ resid ∈ rest, resid ≠ first := by
      rintro resid inRest rfl
      exact registers (by simpa using (allFree resid inRest).2)
    refine ⟨List.nodup_cons.mpr ⟨fun inRest => different first inRest rfl, distinct⟩, ?_⟩
    intro resid inList
    rcases List.mem_cons.mp inList with rfl | inRest
    · exact free
    · obtain ⟨ordinary, notTaken⟩ := allFree resid inRest
      exact ⟨ordinary, by rwa [Function.update_of_ne (different resid inRest)] at notTaken⟩

theorem resourceTableFill_eq_zero_iff (registers : servicer ≠ noServicer) :
    (resourceTableFill servicer resources table).1 = 0 ↔ AllFree table resources := by
  induction resources generalizing table with
  | nil => simp [resourceTableFill, AllFree]
  | cons first rest ih =>
      by_cases free : Free table first
      · rw [resourceTableFill_cons_of_free free, ih, allFree_cons_iff registers free]
      · constructor
        · intro success
          exact absurd success (resourceTableFill_cons_of_not_free free).1
        · intro allFree
          exact absurd (allFree.2 first List.mem_cons_self) free

/-- The first ID is entered when it is free, whatever follows it. -/
theorem resourceTableFill_head {rest : List ControlResid} (registers : servicer ≠ noServicer)
    (free : Free table resid) :
    (resourceTableFill servicer (resid :: rest) table).2 resid = servicer := by
  rw [resourceTableFill_cons_of_free free,
    resourceTableFill_of_registered registers (by rwa [Function.update_self]),
    Function.update_self]

/-- A successful call enters the whole list. -/
theorem resourceTableFill_of_allFree (registers : servicer ≠ noServicer)
    (allFree : AllFree table resources) (listed : resid ∈ resources) :
    (resourceTableFill servicer resources table).2 resid = servicer := by
  induction resources generalizing table with
  | nil => cases listed
  | cons first rest ih =>
      have free := allFree.2 first List.mem_cons_self
      rcases List.mem_cons.mp listed with rfl | inRest
      · exact resourceTableFill_head registers free
      · rw [resourceTableFill_cons_of_free free]
        exact ih ((allFree_cons_iff registers free).mp allFree) inRest

theorem resourceTableAdd_of_ne (registers : servicer ≠ noServicer) :
    resourceTableAdd table resources servicer = resourceTableFill servicer resources table :=
  if_neg registers

theorem resourceTableAdd_noServicer :
    resourceTableAdd table resources noServicer = (1, table) :=
  if_pos rfl

/-- Success means that the servicer number is not reserved and that the whole list
can be entered. -/
theorem resourceTableAdd_eq_zero_iff :
    (resourceTableAdd table resources servicer).1 = 0 ↔
      servicer ≠ noServicer ∧ AllFree table resources := by
  by_cases registers : servicer = noServicer
  · subst registers
    simp [resourceTableAdd_noServicer]
  · rw [resourceTableAdd_of_ne registers, resourceTableFill_eq_zero_iff registers]
    simp [registers]

/-- A failed call that does not fill the table partly changes nothing. -/
theorem resourceTableAdd_failed (failed : (resourceTableAdd table resources servicer).1 ≠ 0)
    (whole : ¬ FillsPartly table resources servicer) :
    (resourceTableAdd table resources servicer).2 = table := by
  by_cases registers : servicer = noServicer
  · subst registers
    rw [resourceTableAdd_noServicer]
  · rw [resourceTableAdd_of_ne registers] at failed ⊢
    have offends := mt (resourceTableFill_eq_zero_iff registers).mpr failed
    cases resources with
    | nil => exact rfl
    | cons first rest =>
        by_cases free : Free table first
        · exact absurd ⟨registers, ⟨first, rfl, free⟩, offends⟩ whole
        · exact (resourceTableFill_cons_of_not_free free).2

/-- A call that fills the table partly fails, and leaves the first ID entered. -/
theorem FillsPartly.entered (partly : FillsPartly table resources servicer) :
    (resourceTableAdd table resources servicer).1 ≠ 0 ∧
      ∃ first ∈ resources, table first = noServicer ∧
        (resourceTableAdd table resources servicer).2 first = servicer := by
  obtain ⟨registers, ⟨first, isFirst, free⟩, offends⟩ := partly
  rw [resourceTableAdd_of_ne registers]
  refine ⟨mt (resourceTableFill_eq_zero_iff registers).mp offends, first, ?_, free.2, ?_⟩
  · exact List.mem_of_mem_head? isFirst
  · obtain ⟨rest, rfl⟩ := List.head?_eq_some_iff.mp isFirst
    exact resourceTableFill_head registers free

/-- A failed call leaves the table as it was exactly when it does not fill it
partly. -/
theorem resourceTableAdd_unchanged_iff :
    ((resourceTableAdd table resources servicer).1 ≠ 0 →
        (resourceTableAdd table resources servicer).2 = table) ↔
      ¬ FillsPartly table resources servicer := by
  constructor
  · intro unchanged partly
    obtain ⟨failed, first, _, free, entered⟩ := partly.entered
    rw [unchanged failed, free] at entered
    exact partly.1 entered.symm
  · intro whole failed
    exact resourceTableAdd_failed failed whole

end

end FwkRtos.DeviceControl

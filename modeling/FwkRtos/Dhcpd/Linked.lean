import FwkRtos.Dhcpd.Consistency

/-!
# The order of the list

The pool's list is kept in the order of the expiry values.  The kernel inserts an
item behind all items whose value is not greater and moves no others, so an
update takes one entry out of the order and leaves the others where they are.
-/

namespace FwkRtos.Dhcpd

/-- The items are in the order of their values. -/
abbrev InOrder (value : Nat → UInt32) (items : List Nat) : Prop :=
  items.Pairwise fun first second => value first ≤ value second

/-- An item is inserted into an ordered list behind the items whose value is not
greater than its own, and the others keep their order. -/
def KernelList.InsertsBehind (lists : KernelList) : Prop :=
  ∀ value item items, InOrder value items →
    lists.insert value item items = insertStable value item items

theorem stable_insertsBehind : KernelList.stable.InsertsBehind :=
  fun _ _ _ _ => rfl

/-! ## Where an item is inserted -/

section
variable {value : Nat → UInt32} {item : Nat} {items first second : List Nat}

/-- Behind items that are not greater, the insertion goes on. -/
theorem insertStable_append (notGreater : ∀ other ∈ first, value other ≤ value item) :
    insertStable value item (first ++ second) = first ++ insertStable value item second := by
  induction first with
  | nil => rfl
  | cons head rest ih =>
      rw [List.cons_append, insertStable, if_pos (notGreater head List.mem_cons_self),
        ih fun other member => notGreater other (List.mem_cons_of_mem _ member), List.cons_append]

/-- An item is inserted before the first greater one. -/
theorem insertStable_before (greater : ∀ other ∈ items.head?, value item < value other) :
    insertStable value item items = item :: items := by
  cases items with
  | nil => rfl
  | cons head rest =>
      have notBefore : ¬ value head ≤ value item := UInt32.not_le.mpr (greater head rfl)
      rw [insertStable, if_neg notBefore]

/-- The list is cut where the item is inserted. -/
theorem insertStable_split (value : Nat → UInt32) (item : Nat) (items : List Nat) :
    ∃ before behind, items = before ++ behind ∧
      (∀ other ∈ before, value other ≤ value item) ∧
      (∀ other ∈ behind.head?, value item < value other) ∧
      insertStable value item items = before ++ item :: behind := by
  induction items with
  | nil => exact ⟨[], [], rfl, List.forall_mem_nil _, nofun, rfl⟩
  | cons head rest ih =>
      by_cases notGreater : value head ≤ value item
      · rcases ih with ⟨before, behind, rfl, below, above, inserted⟩
        refine ⟨head :: before, behind, rfl, ?_, above, ?_⟩
        · exact List.forall_mem_cons.mpr ⟨notGreater, below⟩
        · rw [insertStable, if_pos notGreater, inserted, List.cons_append]
      · refine ⟨[], head :: rest, rfl, List.forall_mem_nil _, ?_, ?_⟩
        · rintro other ⟨⟩
          exact UInt32.not_le.mp notGreater
        · rw [insertStable, if_neg notGreater, List.nil_append]

/-- What does not select the item selects from the list as it was. -/
theorem insertStable_filter (value : Nat → UInt32) (items : List Nat) {select : Nat → Bool}
    (notItem : select item = false) :
    (insertStable value item items).filter select = items.filter select := by
  rcases insertStable_split value item items with ⟨before, behind, rfl, _, _, inserted⟩
  rw [inserted, List.filter_append, List.filter_cons_of_neg (by rw [notItem]; decide),
    ← List.filter_append]

end

/-! ## The server's list -/

/-- No entry is linked twice, and the list is in the order of the expiry values. -/
structure Server.Linked (server : Server) : Prop where
  nodup : server.pool.Nodup
  sorted : InOrder (fun client => (server.infos client).value) server.pool

section
variable {lists : KernelList} {around : Surroundings} {server : Server} {client : Nat}

/-- A change of states, addresses and clients is no matter for the list. -/
theorem Server.Linked.of_values {after : Server} (linked : server.Linked)
    (pool : after.pool = server.pool)
    (values : ∀ id, (after.infos id).value = (server.infos id).value) : after.Linked := by
  constructor
  · rw [pool]
    exact linked.nodup
  · rw [pool]
    refine linked.sorted.imp fun {first second} order => ?_
    simp only [values]
    exact order

/-- An entry keeps its address and its client in an update. -/
theorem clientUpdate_infos (lists : KernelList) (around : Surroundings) (server : Server)
    (client : Nat) (state : IpState) (expiration : UInt32) :
    (server.clientUpdate lists around client state expiration).infos client =
      { server.infos client with
        state := state
        value := (around.seconds server.clockReads).toUInt32 + expiration } := by
  simp [Server.clientUpdate, Server.setState, Server.reinsert, Server.modify, Server.readClock]

/-- The entries other than the one taken out are in order under their new values. -/
theorem Server.Linked.erase (linked : server.Linked) {value : Nat → UInt32}
    (others : ∀ other, other ≠ client → value other = (server.infos other).value) :
    InOrder value (server.pool.erase client) := by
  have rest := linked.sorted.sublist (List.erase_sublist (a := client))
  refine rest.imp_of_mem fun {first second} firstIn secondIn order => ?_
  have firstOther : first ≠ client :=
    fun same => linked.nodup.not_mem_erase (same ▸ firstIn)
  have secondOther : second ≠ client :=
    fun same => linked.nodup.not_mem_erase (same ▸ secondIn)
  rw [others first firstOther, others second secondOther]
  exact order

/-- An update moves the entry to where its new value belongs. -/
theorem Server.Linked.clientUpdate_pool (linked : server.Linked)
    (behind : lists.InsertsBehind) (state : IpState) (expiration : UInt32) :
    let updated := server.clientUpdate lists around client state expiration
    updated.pool =
      insertStable (fun id => (updated.infos id).value) client (server.pool.erase client) := by
  intro updated
  let reinserted := (server.readClock around).2.reinsert lists client
    ((server.readClock around).1.toUInt32 + expiration)
  have sameValues : (fun id => (reinserted.infos id).value) =
      fun id => (updated.infos id).value := by
    funext id
    by_cases same : id = client
    · subst same
      simp [updated, reinserted, Server.clientUpdate, Server.setState, Server.modify]
    · simp [updated, reinserted, Server.clientUpdate, Server.setState, Server.modify,
        Function.update_of_ne same]
  have others : ∀ other, other ≠ client →
      (reinserted.infos other).value = (server.infos other).value := by
    intro other different
    simp [reinserted, Server.reinsert, Server.readClock, Server.modify,
      Function.update_of_ne different]
  rw [← sameValues, ← behind _ _ _ (linked.erase others)]
  rfl

theorem Server.Linked.clientUpdate (linked : server.Linked) (behind : lists.InsertsBehind)
    (member : client ∈ server.pool) (state : IpState) (expiration : UInt32) :
    (server.clientUpdate lists around client state expiration).Linked := by
  have others : ∀ other, other ≠ client →
      ((server.clientUpdate lists around client state expiration).infos other).value =
        (server.infos other).value :=
    fun other different => congrArg IpInfo.value (Server.clientUpdate_other _ _ different)
  have perm := insertStable_perm
    (fun id => ((server.clientUpdate lists around client state expiration).infos id).value)
    client (server.pool.erase client)
  constructor
  · rw [linked.clientUpdate_pool behind]
    exact (perm.trans (List.perm_cons_erase member).symm).nodup_iff.mpr linked.nodup
  · rw [linked.clientUpdate_pool behind]
    exact insertStable_sorted _ _ _ (linked.erase others)

end

end FwkRtos.Dhcpd

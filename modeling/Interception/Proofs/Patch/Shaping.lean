import Interception.Proofs.Patch.Idling
import Interception.Proofs.Patch.Replaying

/-!
The shape of the patch table. Entries have numbers and types of their own, each
has an inode table and none has retired, and the number of entries that was
published last is their number. The slots have no part in this: no change of
the table breaks its shape, whatever it finds in them and whether or not it
fails.
-/

namespace Interception.Patch

open Change

variable {world : World} {table : Table} {listing : List Listed} {nextId : Nat}

structure Formed (nextId : Nat) (listing : List Listed) : Prop where
  numbered : Numbered nextId listing
  live : ∀ listed ∈ listing, listed.retired = false
  inode : ∀ listed ∈ listing, listed.saved.iOps.isSome = true

structure Shaped (table : Table) : Prop where
  formed : Formed table.nextId table.listing
  published : table.published = table.entries.length

theorem shaped_empty : Shaped Table.empty :=
  ⟨⟨numbered_start 0, by simp [Table.empty, Table.listing], by simp [Table.empty, Table.listing]⟩,
    rfl⟩

/-! ### Listings -/

theorem formed_append (formed : Formed nextId listing) {fsType : String} {saved : Saved}
    (fresh : ∀ listed ∈ listing, listed.fsType ≠ fsType) (inode : saved.iOps.isSome = true) :
    Formed (nextId + 1) (listing ++ [⟨nextId, fsType, saved, false⟩]) := by
  exact ⟨numbered_append formed.numbered saved fresh,
    List.forall_mem_append.mpr ⟨formed.live, by simp⟩,
    List.forall_mem_append.mpr ⟨formed.inode, by simpa using inode⟩⟩

theorem formed_amend (formed : Formed nextId listing) (id : Nat) {saved : Saved}
    (inode : saved.iOps.isSome = true) : Formed nextId (amend id saved listing) := by
  refine ⟨numbered_amend formed.numbered id saved, ?_, ?_⟩
  · intro listed member
    obtain ⟨old, inside, rfl⟩ := mem_amend.mp member
    have live := formed.live old inside
    split
    · exact live
    · exact live
  · intro listed member
    obtain ⟨old, inside, rfl⟩ := mem_amend.mp member
    split
    · exact inode
    · exact formed.inode old inside

theorem formed_filter (formed : Formed nextId listing) (id : Nat) :
    Formed nextId (listing.filter (·.id != id)) :=
  ⟨numbered_filter formed.numbered id,
    fun listed member => formed.live listed (List.mem_filter.mp member).1,
    fun listed member => formed.inode listed (List.mem_filter.mp member).1⟩

/-! ### Tables -/

theorem shaped_publish {entries : List Entry}
    (formed : Formed table.nextId (entries.map Entry.listed)) : Shaped (table.publish entries) := by
  refine ⟨?_, ?_⟩
  · rw [listing_publish]
    exact formed
  · simp [Table.publish]

theorem shaped_publish_own (shaped : Shaped table) : Shaped (table.publish table.entries) :=
  shaped_publish shaped.formed

theorem shaped_update {id : Nat} {change : Entry → Entry} (shaped : Shaped table)
    (formed : Formed table.nextId (table.update id change).listing) :
    Shaped (table.update id change) := by
  refine ⟨formed, ?_⟩
  rw [Table.update, Table.mapEntry, List.length_map]
  exact shaped.published

theorem shaped_counts (shaped : Shaped table) {id : Nat} {change : Entry → Entry}
    (kept : ∀ entry ∈ table.entries, entry.id = id → (change entry).listed = entry.listed) :
    Shaped (table.update id change) :=
  shaped_update shaped (listing_update_counts kept ▸ shaped.formed)

theorem shaped_save (shaped : Shaped table) (id : Nat) {saved : Saved}
    (inode : saved.iOps.isSome = true) :
    Shaped (table.update id fun entry => { entry with saved }) := by
  apply shaped_update shaped
  rw [listing_update_saved]
  exact formed_amend shaped.formed id inode

theorem shaped_retire (shaped : Shaped table) (id : Nat) : Shaped (table.retire id) := by
  refine ⟨?_, ?_⟩
  · rw [listing_retire, retire_nextId]
    exact formed_filter shaped.formed id
  · unfold Table.retire
    cases table.byId? id with
    | none => exact shaped.published
    | some entry =>
        by_cases drained : entry.retire.drained = true <;>
          simp [drained, Table.remove, Table.publish]

theorem shaped_acquire (shaped : Shaped table) (id : Nat) : Shaped (table.acquire id) := by
  apply shaped_counts shaped
  intro entry _ _
  unfold Entry.acquire
  split <;> rfl

theorem shaped_release (shaped : Shaped table) (id : Nat) : Shaped (table.release id) :=
  ⟨(shaped_counts shaped fun _ _ _ => rfl : Shaped (table.update id Entry.release)).formed,
    (shaped_counts shaped fun _ _ _ => rfl : Shaped (table.update id Entry.release)).published⟩

/-- An entry of a shaped table is the only one of its number. -/
theorem entry_inode (shaped : Shaped table) {entry : Entry} (inside : entry ∈ table.entries) :
    entry.saved.iOps.isSome = true :=
  shaped.formed.inode entry.listed (List.mem_map_of_mem inside)

theorem shaped_live (shaped : Shaped table) : Live table :=
  fun entry member => shaped.formed.live entry.listed (List.mem_map_of_mem member)

/-! ### Changes -/

theorem upholding_publishAll : Upholding Shaped publishAll :=
  upholding_modify fun _ shaped => shaped_publish_own shaped

variable {entry : Entry}

section Inode

variable (inode : entry.saved.iOps.isSome = true)

include inode

theorem upholding_saves (saved : Saved) (same : saved.iOps = entry.saved.iOps) :
    Upholding Shaped (saveEntry entry.id saved) :=
  upholding_modify fun _ shaped => shaped_save shaped entry.id (same ▸ inode)

/-- Taking an entry out answers what its restoration answered. -/
theorem takeOut_anyway (world : World) :
    ∃ pokes later, on (takeOut entry) world = (.ok (.ok pokes), later) ∧
      Written world
        (freeAll (sharers entry.id world.table.listing) entry.saved world.memory.content)
        ((world.table.update entry.id fun other => { other with installed := false }).retire entry.id)
        later := by
  obtain ⟨pokes, restored, ran, written⟩ := restoreEntry_on world inode
  refine ⟨pokes, { restored with table := restored.table.retire entry.id }, ?_, ?_⟩
  · simp only [takeOut, on_bind, on_lift, ran, on_modify, on_pure]
  · exact ⟨written.content, by rw [written.table], written.isSealed⟩

theorem upholding_takeOut : Upholding Shaped (takeOut entry) := by
  intro world shaped
  obtain ⟨pokes, later, ran, written⟩ := takeOut_anyway inode world
  rw [ran, written.table]
  have restored : Shaped (world.table.update entry.id fun other => { other with installed := false }) :=
    shaped_counts shaped fun _ _ _ => rfl
  exact shaped_retire restored entry.id

end Inode

/-- Of a type that is not listed there may be a new entry. -/
theorem shaped_announced (shaped : Shaped world.table) {request : Request} {saved : Saved}
    (missing : world.table.entry? request.fsType = none) (inode : saved.iOps.isSome = true) :
    Shaped (world.announced request saved).table := by
  apply shaped_publish
  have formed := formed_append shaped.formed (entry_unlisted.mp missing) inode
  rw [List.map_append]
  exact formed

/-- A new entry whose hooks do not go in is taken out again. -/
theorem installFresh_anyway (request : Request) {saved : Saved} (inode : saved.iOps.isSome = true)
    (world : World) :
    on (installFresh request saved) world =
      match on (install (request.entry world.table.nextId saved)) (world.announced request saved) with
      | (.ok pokes, hooked) => (.ok (.installed pokes), { hooked with
          table := hooked.table.update world.table.nextId fun entry =>
            { entry.addUses request.uses with installed := true } })
      | (.error error, stopped) =>
          (.error error, (on (takeOut (request.entry world.table.nextId saved)) stopped).2) := by
  unfold installFresh
  simp only [on_get_bind, on_modify_bind]
  rw [← Request.entry, ← World.announced]
  rcases ran : on (install (request.entry world.table.nextId saved)) (world.announced request saved)
    with ⟨answer, hooked⟩
  rw [on_bind, on_lift, ran]
  cases answer with
  | ok pokes => simp only [on_modify_bind, on_pure]
  | error error =>
      obtain ⟨pokes, later, out, _⟩ :=
        takeOut_anyway
        (show (request.entry world.table.nextId saved).saved.iOps.isSome = true from inode) hooked
      simp only [on_discard_bind out, on_throw, out]

theorem shaped_installFresh (shaped : Shaped world.table) {request : Request} {saved : Saved}
    (missing : world.table.entry? request.fsType = none) (inode : saved.iOps.isSome = true) :
    Shaped (on (installFresh request saved) world).2.table := by
  have installs : Shaped (on (install (request.entry world.table.nextId saved))
      (world.announced request saved)).2.table :=
    upholding_install (upholding_saves inode) inode _ (shaped_announced shaped missing inode)
  rw [installFresh_anyway request inode]
  rcases ran : on (install (request.entry world.table.nextId saved)) (world.announced request saved)
    with ⟨answer, hooked⟩
  rw [ran] at installs
  cases answer with
  | ok pokes => exact shaped_counts installs fun _ _ _ => rfl
  | error error => exact upholding_takeOut inode hooked installs

/-! ### Operations -/

theorem found_inode (shaped : Shaped world.table) {fsType : String}
    (found : world.table.entry? fsType = some entry) : entry.saved.iOps.isSome = true :=
  entry_inode shaped (List.mem_of_find?_eq_some found)

theorem upholding_processMount (request : Request) : Upholding Shaped (processMount request) := by
  refine upholding_unprotected fun world shaped => ?_
  rw [on_get_bind]
  cases found : world.table.entry? request.fsType with
  | some entry =>
      refine upholding_bind (upholding_repatch (upholding_saves (found_inode shaped found)) _)
        (fun _ => ?_) world shaped
      refine upholding_bind (upholding_modify fun _ counted => ?_) fun _ => ?_
      · exact shaped_counts counted fun _ _ _ => rfl
      · exact upholding_bind upholding_publishAll fun _ => upholding_pure _
  | none =>
      simp only
      cases taken : prepare (world.table.entries.map (·.saved)) request world.memory with
      | error error => exact shaped
      | ok saved =>
          have inode : saved.iOps.isSome = true := by
            rw [(prepare_prepared taken).1.iOps]
            rfl
          exact shaped_installFresh shaped found inode

theorem upholding_repatchWithRegular (fsType : String) (regular : Inode) :
    Upholding Shaped (repatchWithRegular fsType regular) := by
  refine upholding_unprotected fun world shaped => ?_
  rw [on_get_bind]
  cases found : world.table.entry? fsType with
  | none => exact shaped
  | some entry =>
      refine upholding_bind (upholding_repatch (upholding_saves (found_inode shaped found)) _)
        (fun _ => ?_) world shaped
      exact upholding_bind upholding_publishAll fun _ => upholding_pure _

theorem upholding_reinstall (fsType : String) : Upholding Shaped (reinstall fsType) := by
  refine upholding_unprotected fun world shaped => ?_
  rw [on_get_bind]
  cases found : world.table.entry? fsType with
  | none => exact shaped
  | some entry =>
      have inode := found_inode shaped found
      exact upholding_install (upholding_saves inode) inode world shaped

theorem upholding_releaseMount (fsType : String) (count : Nat) :
    Upholding Shaped (releaseMount fsType count) := by
  refine upholding_unprotected fun world shaped => ?_
  rw [on_get_bind]
  cases found : world.table.entry? fsType with
  | none => exact shaped
  | some entry =>
      have inside := List.mem_of_find?_eq_some found
      have inode := found_inode shaped found
      change (entry.dropUses count).saved.iOps.isSome = true at inode
      have dropped : Shaped (world.dropping entry count).table :=
        shaped_counts shaped fun other beside same => by rw [entry_unique shaped.formed.numbered inside beside same]; rfl
      simp only [on_modify_bind]
      by_cases stays : 0 < (entry.dropUses count).uses.toNat ∨ count = 0
      · rw [if_pos stays]
        exact dropped
      · rw [if_neg stays]
        obtain ⟨pokes, later, ran, _⟩ := takeOut_anyway inode (world.dropping entry count)
        have left := upholding_takeOut inode (world.dropping entry count) dropped
        rw [ran] at left
        rw [← World.dropping, on_discard_bind ran, on_pure]
        exact left

theorem upholding_restore (fsType : String) : Upholding Shaped (restore fsType) := by
  refine upholding_unprotected fun world shaped => ?_
  rw [on_get_bind]
  cases found : world.table.entry? fsType with
  | none => exact shaped
  | some entry =>
      refine upholding_bind (upholding_takeOut (found_inode shaped found)) (fun _ => ?_) world shaped
      exact upholding_pure _

theorem upholding_purgeFirst : Upholding Shaped purgeFirst := by
  refine upholding_unprotected fun world shaped => ?_
  rw [on_get_bind]
  cases entries : world.table.entries with
  | nil => exact shaped
  | cons entry rest =>
      have inode := entry_inode shaped (show entry ∈ world.table.entries by simp [entries])
      obtain ⟨pokes, later, ran, _⟩ := takeOut_anyway inode world
      have left := upholding_takeOut inode world shaped
      rw [ran] at left
      simp only [on_discard_bind ran, on_pure]
      exact left

theorem shaped_apply (shaped : Shaped world.table) (step : Step) :
    Shaped (step.apply world).table := by
  cases step with
  | processMount request => exact upholding_processMount request world shaped
  | repatchWithRegular fsType inode => exact upholding_repatchWithRegular fsType inode world shaped
  | reinstall fsType => exact upholding_reinstall fsType world shaped
  | releaseMount fsType count => exact upholding_releaseMount fsType count world shaped
  | restore fsType => exact upholding_restore fsType world shaped
  | purgeRound => exact upholding_purgeFirst world shaped

end Interception.Patch

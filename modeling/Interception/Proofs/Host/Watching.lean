import Interception.Proofs.Host.Examining
import Interception.Proofs.Kernel.Assembling
import Interception.Proofs.Patch.FileHooks

/-!
Hosts whose kernel has been hooked. Nobody but the patch table writes slots,
mounts and files are as their drivers make them, and every entry goes by the
driver of its type. Only a walk over mounts that share a directory can give
an entry the file table of another type; such entries have strayed.
-/

namespace Interception.Host

open Syscall Patch

def world (host : Host) : World := ⟨host.kernel.memory, host.table⟩

/-- The host with another world of slots and entries. -/
def inWorld (host : Host) (world : World) : Host :=
  { host with kernel.memory := world.memory, table := world.table }

theorem change_on {Value : Type} (step : Change Value) (host : Host) :
    change step host =
      .done (host.inWorld (Change.on step host.world).2) (Change.on step host.world).1 := rfl

/-- The tables of an entry are those of a driver, apart from a strayed file
table. -/
def Owns (strays : Prop) (driver : Driver) (listed : Listed) : Prop :=
  listed.saved.iOps = some driver.inodeOps ∧
    ∀ table, listed.saved.fOps = some table → table = driver.fileOps ∨ strays

def Typed (origin : Kernel) (strays : Prop) (listed : Listed) : Prop :=
  ∃ driver, origin.driver? listed.fsType = some driver ∧ Owns strays driver listed

/-- What stays true of a host from the kernel it started with. -/
structure Watched (origin : Kernel) (strays : Prop) (host : Host) : Prop where
  furnished : host.kernel.Furnished
  drivers : host.kernel.drivers = origin.drivers
  natives : host.kernel.natives = origin.natives
  attached : host.kernel.attached = origin.attached
  writable : host.kernel.memory.isSealed = false
  sound : Sound origin.memory.content host.world
  typed : ∀ listed ∈ host.table.listing, Typed origin strays listed

variable {origin : Kernel} {strays : Prop} {host later : Host}

theorem watched_blind : Blind (Watched origin strays) := by
  intro host later kernel table watched
  constructor
  case furnished => exact kernel ▸ watched.furnished
  case drivers => exact kernel ▸ watched.drivers
  case natives => exact kernel ▸ watched.natives
  case attached => exact kernel ▸ watched.attached
  case writable => exact kernel ▸ watched.writable
  case sound =>
    rw [world, kernel, table]
    exact watched.sound
  case typed => exact table ▸ watched.typed

theorem watched_driver? (watched : Watched origin strays host) (fsType : String) :
    host.kernel.driver? fsType = origin.driver? fsType := by
  rw [Kernel.driver?, watched.drivers, ← Kernel.driver?]

/-- Native functions and counts of uses leave a host watched. -/
theorem watched_same (watched : Watched origin strays host)
    (furnished : later.kernel.Furnished) (stays : Kernel.Stays host.kernel later.kernel)
    (listing : later.table.listing = host.table.listing)
    (nextId : later.table.nextId = host.table.nextId) : Watched origin strays later := by
  constructor
  case furnished => exact furnished
  case drivers => exact stays.drivers.trans watched.drivers
  case natives => exact stays.natives.trans watched.natives
  case attached => exact stays.attached.trans watched.attached
  case writable =>
    rw [stays.memory]
    exact watched.writable
  case sound =>
    have sound := watched.sound
    constructor
    case kept =>
      simp only [world, listing, stays.memory]
      exact sound.kept
    case numbered =>
      simp only [world, listing, nextId]
      exact sound.numbered
  case typed =>
    rw [listing]
    exact watched.typed

theorem watched_counted (watched : Watched origin strays host) (kernel : later.kernel = host.kernel)
    (listing : later.table.listing = host.table.listing)
    (nextId : later.table.nextId = host.table.nextId) : Watched origin strays later := by
  refine watched_same watched ?_ ?_ listing nextId
  · exact kernel ▸ watched.furnished
  · exact kernel ▸ Kernel.Stays.refl host.kernel

theorem watched_inWorld (watched : Watched origin strays host) {after : World}
    (sound : Sound origin.memory.content after) (writable : after.memory.isSealed = false)
    (typed : ∀ listed ∈ after.table.listing, Typed origin strays listed) :
    Watched origin strays (host.inWorld after) :=
  ⟨Kernel.furnished_unmoved watched.furnished rfl rfl rfl, watched.drivers, watched.natives,
    watched.attached, writable, sound, typed⟩

/-! ### Uses -/

@[simp]
theorem listing_acquire (table : Table) (id : Nat) : (table.acquire id).listing = table.listing := by
  apply listing_update_counts
  intro entry _ _
  unfold Entry.acquire
  split <;> rfl

@[simp]
theorem listing_release (table : Table) (id : Nat) : (table.release id).listing = table.listing :=
  listing_update_counts fun _ _ _ => rfl

theorem listed_taking {entry : Entry} (inside : entry ∈ host.table.entries) (id : Nat) :
    entry.listed ∈ (host.takingUse id).table.listing :=
  (listing_acquire host.table id).symm ▸ List.mem_map_of_mem inside

/-- A listed entry is found by its number, used or not. -/
theorem byId?_listed {table : Table} (numbered : Numbered table.nextId table.listing)
    {listed : Listed} (member : listed ∈ table.listing) :
    ∃ entry, table.byId? listed.id = some entry ∧ entry.listed = listed := by
  obtain ⟨own, inside, rfl⟩ := List.mem_map.mp member
  cases found : table.entries.find? (·.id == own.listed.id) with
  | none => exact absurd (List.find?_eq_none.mp found own inside) (by simp [Entry.listed])
  | some entry =>
      refine ⟨entry, ?_, ?_⟩
      · rw [Table.byId?, List.find?_append, found]
        rfl
      · have same : entry.id = own.listed.id := by simpa using List.find?_some found
        exact numbered_unique numbered (List.mem_map_of_mem (List.mem_of_find?_eq_some found))
          member same

/-! ### Repatching -/

/-- A file as a driver makes it for a type. -/
def Made (driver : Driver) (fsType : String) (inode : Inode) : Prop :=
  inode.regular = true ∧ inode.fsType = fsType ∧ inode.fOp = driver.fileOps

theorem made_of_bears (watched : Watched origin strays host) {driver : Driver} {fsType : String}
    (known : origin.driver? fsType = some driver) {inode : Inode}
    (bears : host.kernel.Bears fsType inode) : Made driver fsType inode := by
  obtain ⟨regular, type, other, found, files⟩ := bears
  rw [watched_driver? watched, known, Option.some.injEq] at found
  exact ⟨regular, type, found ▸ files⟩

theorem typed_repatched {initial : Slot → Addr} {before after : World} {listed : Listed}
    {regular : Option Inode} (numbered : Numbered before.table.nextId before.table.listing)
    (member : listed ∈ before.table.listing)
    (typed : ∀ other ∈ before.table.listing, Typed origin strays other)
    (repatched : Repatched initial before listed regular after)
    (own : ∀ inode driver, regular = some inode → origin.driver? listed.fsType = some driver →
      inode.fOp = driver.fileOps ∨ strays) :
    ∀ other ∈ after.table.listing, Typed origin strays other := by
  obtain ⟨driver, known, inodes, files⟩ := typed listed member
  cases repatched with
  | settled filed turned =>
      rw [turned.listing]
      exact typed
  | @promoted inode _ unfiled turned =>
      rw [turned.listing]
      apply amend_forall numbered member _ (fun other inside _ => typed other inside)
      refine ⟨driver, known, inodes, ?_⟩
      intro table same
      obtain rfl := Option.some.inj same
      exact own inode driver rfl known
  | @reread table _ unfiled used turned =>
      rw [turned.listing]
      apply amend_forall numbered member _ (fun other inside _ => typed other inside)
      -- Reading lookups again leaves the tables of the entry as they were.
      unfold Patch.reread
      split <;> exact ⟨driver, known, inodes, files⟩

theorem repatched_sealed {initial : Slot → Addr} {before after : World} {listed : Listed}
    {regular : Option Inode} (repatched : Repatched initial before listed regular after) :
    after.memory.isSealed = before.memory.isSealed := by
  cases repatched with
  | settled filed turned => exact turned.isSealed
  | promoted unfiled turned => exact turned.isSealed
  | reread unfiled used turned => exact turned.isSealed

theorem watched_repatched (watched : Watched origin strays host) {after : World} {listed : Listed}
    {regular : Option Inode} (member : listed ∈ host.table.listing)
    (repatched : Repatched origin.memory.content host.world listed regular after)
    (own : ∀ inode driver, regular = some inode → origin.driver? listed.fsType = some driver →
      inode.fOp = driver.fileOps ∨ strays) : Watched origin strays (host.inWorld after) := by
  refine watched_inWorld watched (sound_repatched watched.sound member repatched) ?_ ?_
  · rw [repatched_sealed repatched]
    exact watched.writable
  · exact typed_repatched watched.sound.numbered member watched.typed repatched own

theorem watched_turned (watched : Watched origin strays host) {after : World}
    (turned : Turned host.world host.kernel.memory.content host.table.listing after) :
    Watched origin strays (host.inWorld after) := by
  refine watched_inWorld watched (sound_turned turned watched.sound.kept watched.sound.numbered)
    ?_ ?_
  · rw [turned.isSealed]
    exact watched.writable
  · rw [turned.listing]
    exact watched.typed

/-! ### Mounts of a type -/

theorem typed_installed {request : Request} {saved : Saved} {driver : Driver} {before after : World}
    (known : origin.driver? request.fsType = some driver)
    (inodes : request.root.iOp = driver.inodeOps)
    (own : ∀ inode, request.regular = some inode → inode.fOp = driver.fileOps ∨ strays)
    (typed : ∀ other ∈ before.table.listing, Typed origin strays other)
    (installed : Installed request saved before after) :
    ∀ other ∈ after.table.listing, Typed origin strays other := by
  rw [installed.listing]
  intro other member
  rcases List.mem_append.mp member with old | new
  · exact typed other old
  · obtain rfl := List.mem_singleton.mp new
    refine ⟨driver, known, ?_, ?_⟩
    · rw [armed_iOps, installed.prepared.iOps, inodes]
    · intro table same
      rw [armed_fOps, installed.prepared.fOps] at same
      obtain ⟨inode, offered, rfl⟩ := Option.map_eq_some_iff.mp same
      exact own inode (Option.filter_eq_some_iff.mp offered).1

/-- Hooking a type or counting a mount of it, whatever the request offers
that is of the type's own driver or may have strayed. -/
theorem watched_processMount (clean : Clean origin.memory.content)
    (watched : Watched origin strays host) {request : Request} {driver : Driver}
    (known : origin.driver? request.fsType = some driver)
    (inodes : request.root.iOp = driver.inodeOps)
    (own : ∀ inode, request.regular = some inode → inode.fOp = driver.fileOps ∨ strays) :
    Watched origin strays (host.inWorld (Change.on (Patch.processMount request) host.world).2) := by
  cases found : host.table.entry? request.fsType with
  | some entry =>
      obtain ⟨member, type⟩ := entry_listed found
      refine watched_repatched watched member
        (processMount_known clean watched.sound watched.writable found) ?_
      intro inode other offered named
      have same : entry.listed.fsType = request.fsType := type
      rw [same, known, Option.some.injEq] at named
      rw [← named]
      exact own inode (Option.filter_eq_some_iff.mp offered).1
  | none =>
      cases taken : prepare (host.world.table.listing.map (·.saved)) request host.world.memory with
      | error error => exact watched_turned watched (.of_eq (processMount_refuses watched.writable found taken))
      | ok saved =>
          have installed := processMount_installs watched.sound watched.writable found taken
          refine watched_inWorld watched
            (sound_installed watched.sound (entry_unlisted.mp found) installed) ?_ ?_
          · rw [installed.isSealed]
            exact watched.writable
          · exact typed_installed known inodes own watched.typed installed

theorem watched_releaseMount (watched : Watched origin strays host) (fsType : String) (count : Nat) :
    Watched origin strays
      (host.inWorld (Change.on (Patch.releaseMount fsType count) host.world).2) := by
  cases found : host.table.entry? fsType with
  | none =>
      exact watched_turned watched
        (.of_eq (congrArg Prod.snd (releaseMount_unknown watched.writable count found)))
  | some entry =>
      by_cases stays : count < entry.uses.toNat ∨ count = 0
      · exact watched_turned watched (releaseMount_counts watched.sound watched.writable found stays)
      · have left := releaseMount_leaves watched.sound watched.writable found stays
        have member := (entry_listed found).1
        refine watched_inWorld watched (sound_left watched.sound member left) ?_ ?_
        · rw [left.isSealed]
          exact watched.writable
        · rw [left.listing]
          exact fun other inside => watched.typed other (List.mem_filter.mp inside).1

end Interception.Host

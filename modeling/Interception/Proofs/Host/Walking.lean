import Interception.Proofs.Host.Discovering

/-!
Walks to files. Each slot on the way holds its hook as long as an entry of
the type waits for its first file. So when a walk comes to a file, hooked or
not on the way, no entry of the file's type still waits.
-/

namespace Interception.Host

open Syscall Patch

variable {Value : Type} {origin : Kernel} {strays : Prop} {driver : Driver} {fsType : String}
  {host later : Host}

/-! ### Hooks on the way -/

/-- The common form of the hooks in an inode table. -/
def throughInode (label : String) (dir : Inode) (genuine : Table.InodeMatch → Addr)
    (step : Addr → Kernel → Except Errno Value × Kernel) (found : Value → Option Inode) :
    Syscall Host Value :=
  gated label do
    match Table.byInodeTable? dir.iOp dir.fsType (← get).table.entries with
    | none => throw Errno.ESRCH
    | some user =>
        holding user.entry <|
          passOn user.entry (genuine user) (throw Errno.ESRCH) (step (genuine user)) found

theorem hookLookup_through (dir : Inode) (name : String) :
    hookLookup dir name = throughInode Hook.lookup.slotName dir (·.lookup)
      (fun target kernel => kernel.nativeLookup target dir name) id := rfl

theorem hookCreate_through (dir : Inode) (name : String) :
    hookCreate dir name = throughInode Hook.create.slotName dir (·.create)
      (fun target kernel => kernel.nativeCreate target dir name) some := rfl

theorem hookAtomicOpen_through (dir : Inode) (name : String) :
    hookAtomicOpen dir name = throughInode Hook.atomicOpen.slotName dir (·.atomicOpen)
      (fun target kernel => kernel.nativeAtomicOpen target dir name) some := rfl

/-- A directory as a driver makes it, rooting mounts of its own type only. -/
structure Directory (origin : Kernel) (driver : Driver) (host : Host) (dir : Inode) : Prop where
  known : origin.driver? dir.fsType = some driver
  inodes : dir.iOp = driver.inodeOps
  places : host.kernel.Places dir

/-- An entry of the directory's type uses the directory's table. -/
theorem uses_directory (watched : Watched origin strays host) {dir : Inode}
    (directory : Directory origin driver host dir) {listed : Listed}
    (member : listed ∈ host.table.listing) (type : listed.fsType = dir.fsType) :
    listed.saved.iOps = some dir.iOp := by
  obtain ⟨other, found, inodes, _⟩ := watched.typed listed member
  rw [type, directory.known, Option.some.injEq] at found
  rw [directory.inodes, found]
  exact inodes

/-- So it is found by that table. -/
theorem user_found (watched : Watched origin strays host) {dir : Inode}
    (directory : Directory origin driver host dir) {listed : Listed}
    (member : listed ∈ host.table.listing) (type : listed.fsType = dir.fsType) :
    ∃ user, Table.byInodeTable? dir.iOp dir.fsType host.table.entries = some user ∧
      user.entry = some listed.id := by
  have uses := uses_directory watched directory member type
  obtain ⟨entry, inside, rfl⟩ := List.mem_map.mp member
  have own := byInodeTable?_own (entry_types watched.sound.numbered) inside uses
  rw [show entry.fsType = dir.fsType from type] at own
  exact ⟨_, own, rfl⟩

theorem throughInode_discovers (clean : Clean origin.memory.content)
    (watched : Watched origin strays host) {dir : Inode}
    (directory : Directory origin driver host dir) {label : String}
    {genuine : Table.InodeMatch → Addr} {step : Addr → Kernel → Except Errno Value × Kernel}
    {found : Value → Option Inode} (finds : ∀ target, Finds driver dir.fsType found host (step target)) :
    Discovers origin strays driver dir.fsType found (throughInode label dir genuine step found)
      host := by
  refine discovers_gated (discovers_get ?_)
  cases user : Table.byInodeTable? dir.iOp dir.fsType (host.entered label).table.entries with
  | none => exact discovers_throw _ _
  | some own =>
      have entered : Trod origin strays driver dir.fsType host (host.entered label) :=
        trod_counted rfl rfl rfl rfl
      have watched' := entered.watched watched
      -- A table that answers without a number has no user of the type.
      have unnamed (nobody : own.entry = none) : Seen dir.fsType host := by
        intro listed member type
        obtain ⟨found, there, named⟩ := user_found watched directory member type
        rw [Option.some.inj (user.symm.trans there), named] at nobody
        cases nobody
      cases whose : own.entry with
      | none =>
          simp only [whose]
          refine discovers_passOn clean watched' directory.known (discovers_throw _ _)
            (finds _) ?_ (fun _ _ same => same) ?_
          · intro id impossible
            cases impossible
          · exact fun _ _ => seen_trod entered (unnamed whose)
      | some id =>
          simp only [whose]
          have took : Trod origin strays driver dir.fsType (host.entered label)
              ((host.entered label).takingUse id) := trod_taking id (host.entered label)
          have taken := took.watched watched'
          apply discovers_holding
          refine discovers_passOn clean taken directory.known (discovers_throw _ _)
            (finds _) ?_ (fun _ _ same => same) ?_
          · intro other same
            obtain rfl := Option.some.inj same
            obtain ⟨entry, inside, rfl, type⟩ := byInodeTable?_entry user whose
            exact ⟨entry.listed, listed_taking inside _, rfl, type⟩
          · intro _ impossible
            cases impossible

theorem hookRevalidate_discovers (clean : Clean origin.memory.content)
    (watched : Watched origin strays host) (known : origin.driver? fsType = some driver)
    {path : String} {inode : Inode} {dOp : DentryTable} (made : Made driver fsType inode) :
    Discovers origin strays driver fsType (fun _ => none) (hookRevalidate ⟨path, some inode, dOp⟩)
      host := by
  have finds (target : Addr) : Finds driver fsType (fun _ : Bool => some inode) host
      fun kernel => kernel.nativeRevalidate target := by
    refine ⟨Kernel.nativeRevalidate_tame target, ?_⟩
    intro _ other _ same
    obtain rfl := Option.some.inj same
    exact made
  refine discovers_gated (discovers_get ?_)
  simp only [dentryType, made.2.1]
  cases user : Table.byDentryTable? dOp fsType
      (host.entered Hook.revalidate.slotName).table.entries with
  | none => exact discovers_throw _ _
  | some own =>
      have entered : Trod origin strays driver fsType host
          (host.entered Hook.revalidate.slotName) := trod_counted rfl rfl rfl rfl
      have watched' := entered.watched watched
      cases whose : own.entry with
      | none =>
          simp only [whose]
          show Discovers origin strays driver fsType _ (passOn none own.revalidate (pure true)
            (fun kernel => kernel.nativeRevalidate own.revalidate) fun _ => some inode) _
          refine discovers_passOn clean watched' known (discovers_done (by simp)) (finds _) ?_
            (by simp) (by simp)
          intro id impossible
          cases impossible
      | some id =>
          simp only [whose]
          have took : Trod origin strays driver fsType (host.entered Hook.revalidate.slotName)
              ((host.entered Hook.revalidate.slotName).takingUse id) := trod_taking id _
          apply discovers_holding
          show Discovers origin strays driver fsType _ (passOn (some id) own.revalidate (pure true)
            (fun kernel => kernel.nativeRevalidate own.revalidate) fun _ => some inode) _
          refine discovers_passOn clean (took.watched watched') known (discovers_done (by simp))
            (finds _) ?_ (by simp) (by simp)
          intro other same
          obtain rfl := Option.some.inj same
          obtain ⟨entry, inside, rfl, type⟩ := byDentryTable?_entry user whose
          exact ⟨entry.listed, listed_taking inside _, rfl, type⟩

/-! ### Slots on the way -/

theorem discovers_dispatch {slot : Slot} {hooked : Syscall Host Value}
    {plain : Addr → Kernel → Except Errno Value × Kernel} {found : Value → Option Inode}
    (inside : Discovers origin strays driver fsType found hooked host)
    (finds : ∀ target, Finds driver fsType found host (plain target))
    (covered : host.kernel.load slot ≠ slot.hook.addr →
      (∃ value inode, found value = some inode) → Seen fsType host) :
    Discovers origin strays driver fsType found (dispatch slot hooked plain) host := by
  apply discovers_get
  by_cases here : host.kernel.load slot = slot.hook.addr
  · simp only [here, if_true]
    by_cases attached : host.kernel.attached = true
    · rw [if_pos attached]
      exact inside
    · rw [if_neg attached]
      exact discovers_throw _ _
  · simp only [here, if_false]
    exact discovers_native (finds _) (covered here)

/-- Where lookups or creations are not hooked, no entry of the type waits. -/
theorem unhooked_seen (watched : Watched origin strays host) {dir : Inode}
    (directory : Directory origin driver host dir) {hook : Hook} (lookup : lookupHook hook)
    (unhooked : host.kernel.load (dir.iOp.slot hook) ≠ hook.addr) : Seen dir.fsType host := by
  intro listed member type unfiled
  have uses : listed.saved.Uses (dir.iOp.slot hook) :=
    (uses_inode (lookupHook_inode lookup)).mpr (uses_directory watched directory member type)
  have asked := watched.sound.kept.asked listed member
  rw [unfiled] at asked
  have wanted : listed.saved.wants hook = true := by
    rcases lookup with rfl | rfl <;> exact asked
  exact unhooked (watched.sound.kept.hooked listed member _ uses wanted)

/-- Where opening atomically is possible but not hooked, no entry has the type. -/
theorem unhooked_atomic (watched : Watched origin strays host) {dir : Inode}
    (directory : Directory origin driver host dir)
    (present : host.kernel.load (dir.iOp.slot .atomicOpen) ≠ Addr.null)
    (unhooked : host.kernel.load (dir.iOp.slot .atomicOpen) ≠ Hook.atomicOpen.addr) :
    Seen dir.fsType host := by
  intro listed member type _
  have kept := watched.sound.kept
  have uses : listed.saved.Uses (dir.iOp.slot .atomicOpen) :=
    (uses_inode (.inr (.inr rfl))).mpr (uses_directory watched directory member type)
  -- The slot holds what it held at first, which the entry saved and would want hooked.
  have initial : host.kernel.load (dir.iOp.slot .atomicOpen) =
      origin.memory.content (dir.iOp.slot .atomicOpen) :=
    (kept.either (dir.iOp.slot .atomicOpen)).resolve_right unhooked
  have saved := kept.settled listed member _ (by simp [lookupHook]) uses
  have wanted : listed.saved.wants .atomicOpen = true := by
    rw [initial, ← saved] at present
    simpa [Saved.wants, Saved.original] using present
  exact unhooked (kept.hooked listed member _ uses wanted)

theorem dispatchLookup_discovers (clean : Clean origin.memory.content)
    (watched : Watched origin strays host) {dir : Inode}
    (directory : Directory origin driver host dir) (name : String) :
    Discovers origin strays driver dir.fsType id (dispatchLookup dir name) host := by
  have finds (target : Addr) : Finds driver dir.fsType id host
      fun kernel => kernel.nativeLookup target dir name := by
    refine ⟨Kernel.nativeLookup_tame target dir name, ?_⟩
    rintro value inode answered rfl
    exact made_of_bears watched directory.known
      (Kernel.nativeLookup_bears watched.furnished directory.places answered)
  refine discovers_dispatch ?_ finds ?_
  · rw [hookLookup_through]
    exact throughInode_discovers clean watched directory finds
  · exact fun unhooked _ => unhooked_seen watched directory (.inl rfl) unhooked

theorem dispatchCreate_discovers (clean : Clean origin.memory.content)
    (watched : Watched origin strays host) {dir : Inode}
    (directory : Directory origin driver host dir) (name : String) :
    Discovers origin strays driver dir.fsType some (dispatchCreate dir name) host := by
  have creates (target : Addr) : Finds driver dir.fsType some host
      fun kernel => kernel.nativeCreate target dir name := by
    obtain ⟨tame, bears⟩ :=
      Kernel.nativeCreate_spec watched.furnished directory.places target name
    refine ⟨tame, ?_⟩
    rintro value inode answered ⟨⟩
    exact made_of_bears watched directory.known (bears value answered)
  have opens (target : Addr) : Finds driver dir.fsType some host
      fun kernel => kernel.nativeAtomicOpen target dir name := by
    obtain ⟨tame, bears⟩ :=
      Kernel.nativeAtomicOpen_spec watched.furnished directory.places target name
    refine ⟨tame, ?_⟩
    rintro value inode answered ⟨⟩
    exact made_of_bears watched directory.known (bears value answered)
  apply discovers_get
  by_cases absent : host.kernel.load (dir.iOp.slot .atomicOpen) = Addr.null
  · rw [if_pos absent]
    refine discovers_dispatch ?_ creates ?_
    · rw [hookCreate_through]
      exact throughInode_discovers clean watched directory creates
    · exact fun unhooked _ => unhooked_seen watched directory (.inr rfl) unhooked
  · rw [if_neg absent]
    refine discovers_dispatch ?_ opens ?_
    · rw [hookAtomicOpen_through]
      exact throughInode_discovers clean watched directory opens
    · exact fun unhooked _ => unhooked_atomic watched directory absent unhooked

/-! ### The walk -/

/-- A mount point on which a path is looked up. -/
structure Base (origin : Kernel) (driver : Driver) (host : Host) (point : MountPoint) : Prop where
  known : origin.driver? point.fsType = some driver
  present : ∃ mount ∈ host.kernel.mounts, mount.point = point ∧
    Mounts.at? point.path host.kernel.mounts = some mount

theorem base_resolved (watched : Watched origin strays host) {path rest : String}
    {point : MountPoint} (resolved : Mounts.resolve path host.kernel.mounts = .ok (point, rest)) :
    ∃ driver, Base origin driver host point := by
  obtain ⟨mount, inside, rfl, latest⟩ := Mounts.resolve_ok resolved
  obtain ⟨_, driver, known, _⟩ := watched.furnished.rooted mount inside
  rw [watched_driver? watched] at known
  exact ⟨driver, known, mount, inside, rfl, latest⟩

theorem directory_root (watched : Watched origin strays host) {point : MountPoint}
    (known : origin.driver? point.fsType = some driver)
    (present : ∃ mount ∈ host.kernel.mounts, mount.point = point) :
    Directory origin driver host point.root ∧ point.root.fsType = point.fsType := by
  obtain ⟨mount, inside, rfl⟩ := present
  obtain ⟨type, other, found, inodes⟩ := watched.furnished.rooted mount inside
  rw [watched_driver? watched, known, Option.some.injEq] at found
  refine ⟨⟨?_, found ▸ inodes, Kernel.places_root watched.furnished inside⟩, type⟩
  rw [type]
  exact known

theorem revalidateCached_discovers (clean : Clean origin.memory.content)
    (watched : Watched origin strays host) {point : MountPoint}
    (base : Base origin driver host point) (path rest : String) :
    Discovers origin strays driver point.fsType (fun _ => none) (revalidateCached point path rest)
      host := by
  obtain ⟨mount, inside, same, latest⟩ := base.present
  apply discovers_get
  cases point.dOp with
  | none => exact discovers_done (by simp)
  | some dOp =>
      cases found : host.kernel.cached point.path rest with
      | none => exact discovers_done (by simp)
      | some inode =>
          have bears := Kernel.cached_bears watched.furnished latest found
          rw [same] at bears
          have made := made_of_bears watched base.known bears
          have finds (target : Addr) : Finds driver point.fsType (fun _ : Bool => none) host
              fun kernel => kernel.nativeRevalidate target :=
            ⟨Kernel.nativeRevalidate_tame target, by simp⟩
          have revalidated : Discovers origin strays driver point.fsType (fun _ : Bool => none)
              (dispatchRevalidate ⟨path, some inode, dOp⟩) host :=
            discovers_dispatch (hookRevalidate_discovers clean watched base.known made) finds
              (by simp)
          exact discovers_bind revalidated fun _ _ _ _ => discovers_done (by simp)

/-- A walk never sleeps. The file it comes to is one of the driver's, and no
entry of its type still waits for a file then. -/
theorem walkTo_discovers (clean : Clean origin.memory.content)
    (watched : Watched origin strays host) {point : MountPoint}
    (base : Base origin driver host point) (path : String) {rest : String} (below : rest ≠ "")
    (flags : UInt32) :
    Discovers origin strays driver point.fsType some (walkTo point path rest flags) host := by
  -- Calls on the way may add files to the mount, but it stays where it is.
  have here (later : Host) (trod : Trod origin strays driver point.fsType host later) :
      Directory origin driver later point.root ∧ point.root.fsType = point.fsType := by
    obtain ⟨mount, inside, same, _⟩ := base.present
    obtain ⟨other, there, kept⟩ := trod.points mount inside
    exact directory_root (trod.watched watched) base.known ⟨other, there, kept.trans same⟩
  unfold walkTo
  rw [if_neg below]
  apply discovers_bind (revalidateCached_discovers clean watched base path rest)
  intro second _ revalidated _
  obtain ⟨directory, type⟩ := here second revalidated
  have watched' := revalidated.watched watched
  apply discovers_bind (type ▸ dispatchLookup_discovers clean watched' directory rest)
  intro third answer looked discovered
  cases answer with
  | some inode =>
      apply discovers_done
      intro other same
      exact discovered other same
  | none =>
      obtain ⟨directory', _⟩ := here third (revalidated.trans looked)
      -- No file of the name: the walk ends there, or goes on to make one.
      by_cases creating : createFlag flags = true
      · simp only [creating, if_true]
        exact type ▸ dispatchCreate_discovers clean (looked.watched watched') directory' rest
      · simp only [creating]
        exact discovers_throw _ _

end Interception.Host

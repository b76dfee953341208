import Interception.Proofs.Host.Scenes
import Interception.Proofs.Kernel.Building
import Interception.Proofs.Patch.Idling
import Interception.Proofs.Patch.LookupRuns

/-!
Hooked hosts over drivers that have their inode tables to themselves. There
the hooks of lookups and creations are kept as well as all others: an entry is
the only user of its inode table, so it falls out with nobody over what was
there at first, and every file table that is hooked is that of some driver.
Mounts, unmounts and the files that turn up leave such a host as it is.
-/

namespace Interception.Host

open Syscall Patch

variable {origin : Kernel} {host later : Host} {point : MountPoint}

def Filed (origin : Kernel) (table : FileTable) : Prop :=
  ∃ driver ∈ origin.drivers, table = driver.fileOps

structure Tended (origin : Kernel) (host : Host) : Prop where
  watched : Watched origin True host
  orderly : OrderlyWorld origin.memory.content host.world
  filed : ∀ listed ∈ host.table.listing, ∀ table, listed.saved.fOps = some table →
    Filed origin table

/-! ### No faults -/

theorem listed_driver (watched : Watched origin True host) {listed : Listed}
    (member : listed ∈ host.table.listing) :
    ∃ driver ∈ origin.drivers, driver.name = listed.fsType ∧
      listed.saved.iOps = some driver.inodeOps := by
  obtain ⟨driver, known, inodes, _⟩ := watched.typed listed member
  obtain ⟨inside, named⟩ := Kernel.driver?_some known
  exact ⟨driver, inside, named, inodes⟩

/-- What an entry's table held at first is never missing. -/
theorem listed_filled (separate : origin.Separate) (watched : Watched origin True host)
    {listed : Listed} (member : listed ∈ host.table.listing) {table : InodeTable}
    (uses : listed.saved.iOps = some table) {hook : Hook} (lookup : lookupHook hook) :
    origin.memory.content (table.slot hook) ≠ Addr.null := by
  obtain ⟨driver, inside, _, theirs⟩ := listed_driver watched member
  obtain rfl : driver.inodeOps = table := Option.some.inj (theirs.symm.trans uses)
  exact separate.lookups driver inside hook lookup

theorem never_unread (separate : origin.Separate) (watched : Watched origin True host)
    {listed : Listed} (member : listed ∈ host.table.listing) :
    ¬ Unread origin.memory.content listed.saved := by
  rintro ⟨_, table, uses, missing⟩
  exact listed_filled separate watched member uses (.inl rfl) missing

theorem never_stranded (separate : origin.Separate) (watched : Watched origin True host)
    {listed : Listed} (member : listed ∈ host.table.listing) :
    ¬ Stranded origin.memory.content host.world.memory.content host.table.listing listed := by
  rintro ⟨table, uses, _, _, hook, lookup, missing⟩
  exact listed_filled separate watched member uses lookup missing

/-- A type without an entry has its inode table to itself. -/
theorem never_blinded (separate : origin.Separate) (tended : Tended origin host)
    {request : Request} {driver : Driver} (known : origin.driver? request.fsType = some driver)
    (inodes : request.root.iOp = driver.inodeOps)
    (missing : host.table.entry? request.fsType = none) :
    ¬ Blinded origin.memory.content host.world.memory.content host.table.listing request := by
  have nobody : ∀ listed ∈ host.table.listing, listed.saved.iOps ≠ some request.root.iOp := by
    intro listed member uses
    obtain ⟨other, inside, named, theirs⟩ := listed_driver tended.watched member
    obtain ⟨own, type⟩ := Kernel.driver?_some known
    have shared : other.inodeOps = driver.inodeOps :=
      (Option.some.inj (theirs.symm.trans uses)).trans inodes
    have same := separate.own other inside driver own shared
    exact entry_unlisted.mp missing listed member (named.symm.trans (same.trans type))
  unfold Blinded
  cases regularOf request.regular with
  | none =>
      rintro ⟨_, listed, member, uses, _⟩
      exact nobody listed member uses
  | some inode =>
      rintro ⟨hooked, _⟩
      obtain ⟨listed, member, uses⟩ := (tended.orderly.law _ .lookup (.inl rfl)).used hooked
      exact nobody listed member uses

/-! ### What keeps a host tended -/

theorem tended_same (tended : Tended origin host) (furnished : later.kernel.Furnished)
    (stays : Kernel.Stays host.kernel later.kernel)
    (listing : later.table.listing = host.table.listing)
    (nextId : later.table.nextId = host.table.nextId) : Tended origin later := by
  constructor
  case watched => exact watched_same tended.watched furnished stays listing nextId
  case orderly =>
    have orderly := tended.orderly
    simp only [OrderlyWorld, world, listing, stays.memory] at orderly ⊢
    exact orderly
  case filed =>
    rw [listing]
    exact tended.filed

theorem tended_counted (tended : Tended origin host) (kernel : later.kernel = host.kernel)
    (listing : later.table.listing = host.table.listing)
    (nextId : later.table.nextId = host.table.nextId) : Tended origin later := by
  refine tended_same tended ?_ ?_ listing nextId
  · exact kernel ▸ tended.watched.furnished
  · exact kernel ▸ Kernel.Stays.refl host.kernel

theorem tended_turned (tended : Tended origin host) {after : World}
    (turned : Turned host.world host.kernel.memory.content host.table.listing after) :
    Tended origin (host.inWorld after) := by
  refine ⟨watched_turned tended.watched turned, orderly_turned tended.orderly turned, ?_⟩
  show ∀ listed ∈ after.table.listing, _
  rw [turned.listing]
  exact tended.filed

theorem filed_repatched {initial : Slot → Addr} {before after : World} {listed : Listed}
    {regular : Option Inode} (numbered : Numbered before.table.nextId before.table.listing)
    (member : listed ∈ before.table.listing)
    (filed : ∀ other ∈ before.table.listing, ∀ table, other.saved.fOps = some table →
      Filed origin table)
    (repatched : Repatched initial before listed regular after)
    (own : ∀ inode, regular = some inode → Filed origin inode.fOp) :
    ∀ other ∈ after.table.listing, ∀ table, other.saved.fOps = some table →
      Filed origin table := by
  cases repatched with
  | settled _ turned =>
      rw [turned.listing]
      exact filed
  | @promoted inode _ _ turned =>
      rw [turned.listing]
      apply amend_forall numbered member _ (fun other inside _ => filed other inside)
      rintro table ⟨⟩
      exact own inode rfl
  | reread _ _ turned =>
      rw [turned.listing]
      apply amend_forall numbered member _ (fun other inside _ => filed other inside)
      unfold Patch.reread
      split <;> exact filed listed member

theorem tended_repatched (clean : Clean origin.memory.content) (separate : origin.Separate)
    (tended : Tended origin host) {after : World} {listed : Listed} {regular : Option Inode}
    (member : listed ∈ host.table.listing)
    (repatched : Repatched origin.memory.content host.world listed regular after)
    (own : ∀ inode, regular = some inode → Filed origin inode.fOp) :
    Tended origin (host.inWorld after) := by
  have sound := tended.watched.sound
  constructor
  case watched =>
    exact watched_repatched tended.watched member repatched fun _ _ _ _ => .inr trivial
  case orderly =>
    exact orderly_repatched clean sound tended.orderly member repatched
      fun fault => never_unread separate tended.watched member fault.2
  case filed => exact filed_repatched sound.numbered member tended.filed repatched own

theorem filed_installed {before after : World} {request : Request} {saved : Saved}
    (filed : ∀ other ∈ before.table.listing, ∀ table, other.saved.fOps = some table →
      Filed origin table)
    (installed : Installed request saved before after)
    (own : ∀ inode, request.regular = some inode → Filed origin inode.fOp) :
    ∀ other ∈ after.table.listing, ∀ table, other.saved.fOps = some table →
      Filed origin table := by
  rw [installed.listing]
  intro listed member table files
  rcases List.mem_append.mp member with old | new
  · exact filed listed old table files
  · obtain rfl := List.mem_singleton.mp new
    rw [armed_fOps, installed.prepared.fOps] at files
    obtain ⟨inode, offered, rfl⟩ := Option.map_eq_some_iff.mp files
    exact own inode (Option.filter_eq_some_iff.mp offered).1

theorem tended_processMount (clean : Clean origin.memory.content) (separate : origin.Separate)
    (tended : Tended origin host) {request : Request} {driver : Driver}
    (known : origin.driver? request.fsType = some driver)
    (inodes : request.root.iOp = driver.inodeOps)
    (own : ∀ inode, request.regular = some inode → Filed origin inode.fOp) :
    Tended origin (host.inWorld (Change.on (Patch.processMount request) host.world).2) := by
  have watched := tended.watched
  cases found : host.table.entry? request.fsType with
  | some entry =>
      refine tended_repatched clean separate tended (entry_listed found).1
        (processMount_known clean watched.sound watched.writable found) ?_
      exact fun inode offered => own inode (Option.filter_eq_some_iff.mp offered).1
  | none =>
      cases taken : prepare (host.world.table.listing.map (·.saved)) request host.world.memory with
      | error error =>
          exact tended_turned tended (.of_eq (processMount_refuses watched.writable found taken))
      | ok saved =>
          have installed := processMount_installs watched.sound watched.writable found taken
          constructor
          case watched =>
            exact watched_processMount clean watched known inodes fun _ _ => .inr trivial
          case orderly =>
            have calm := never_blinded separate tended known inodes found
            have orderly := orderly_installed watched.sound.kept tended.orderly installed.prepared
              installed.genuine host.world.table.nextId request.fsType calm
            rw [← installed.content, ← installed.listing] at orderly
            exact orderly
          case filed => exact filed_installed tended.filed installed own

theorem tended_releaseMount (clean : Clean origin.memory.content) (separate : origin.Separate)
    (tended : Tended origin host) (fsType : String) (count : Nat) :
    Tended origin (host.inWorld (Change.on (Patch.releaseMount fsType count) host.world).2) := by
  have watched := tended.watched
  cases found : host.table.entry? fsType with
  | none =>
      exact tended_turned tended
        (.of_eq (congrArg Prod.snd (releaseMount_unknown watched.writable count found)))
  | some entry =>
      by_cases stays : count < entry.uses.toNat ∨ count = 0
      · exact tended_turned tended (releaseMount_counts watched.sound watched.writable found stays)
      · have left := releaseMount_leaves watched.sound watched.writable found stays
        have member := (entry_listed found).1
        refine ⟨watched_releaseMount watched fsType count, ?_, ?_⟩
        · exact orderly_departed clean watched.sound tended.orderly member left
            (never_stranded separate watched member)
        · show ∀ listed ∈ (Change.on (Patch.releaseMount fsType count) host.world).2.table.listing, _
          rw [left.listing]
          exact fun other inside => tended.filed other (List.mem_filter.mp inside).1

/-! ### Calls of the table -/

theorem bears_filed (watched : Watched origin True host) {fsType : String} {inode : Inode}
    (bears : host.kernel.Bears fsType inode) : Filed origin inode.fOp := by
  obtain ⟨_, _, driver, found, files⟩ := bears
  rw [watched_driver? watched] at found
  exact ⟨driver, (Kernel.driver?_some found).1, files⟩

theorem scanned_filed (watched : Watched origin True host) {fromMount : Bool} {inode : Inode}
    (found : host.scanned point fromMount = some inode) : Filed origin inode.fOp := by
  obtain ⟨mount, _, bears⟩ := Kernel.findRegular_bears watched.furnished (scanned_found found)
  exact bears_filed watched bears

theorem repatchSeen_tends (clean : Clean origin.memory.content) (separate : origin.Separate)
    (tended : Tended origin host) (entry : Option Nat) {inode : Inode}
    (filed : Filed origin inode.fOp) :
    ∃ after, repatchSeen entry inode host = .done (host.inWorld after) () ∧
      Tended origin (host.inWorld after) ∧ after.table.counts = host.table.counts := by
  have watched := tended.watched
  cases found : entry.bind host.table.byId? with
  | none =>
      refine ⟨host.world, ?_, tended, rfl⟩
      rw [repatchSeen, Call.get_bind]
      simp only [found]
      rfl
  | some own =>
      rw [repatchSeen_known inode found]
      by_cases waits : inode.regular = true ∧ own.saved.kind = Kind.inodeOps
      · refine ⟨_, if_pos waits, ?_, repatchWithRegular_counts own.fsType inode host.world⟩
        cases listed : host.table.entry? own.fsType with
        | none =>
            exact tended_turned tended (.of_eq (repatchWithRegular_unknown watched.writable inode listed))
        | some other =>
            refine tended_repatched clean separate tended (entry_listed listed).1
              (repatchWithRegular_known clean watched.sound watched.writable inode listed) ?_
            intro seen offered
            obtain rfl := Option.some.inj (Option.filter_eq_some_iff.mp offered).1
            exact filed
      · exact ⟨host.world, if_neg waits, tended, rfl⟩

theorem processMount_tends (clean : Clean origin.memory.content) (separate : origin.Separate)
    (tended : Tended origin host) (idle : InUse none host.table) {driver : Driver}
    (hookable : Hookable origin True host point driver) (fromMount : Bool) :
    ∃ after answer, processMount point fromMount host = .done (host.inWorld after) answer ∧
      Tended origin (host.inWorld after) ∧ InUse none after.table := by
  have watched := tended.watched
  rw [processMount, Call.get_bind]
  by_cases skipped : host.hook.skip.contains point.fsType = true
  · rw [if_pos skipped]
    exact ⟨host.world, .ok none, rfl, tended, idle⟩
  · rw [if_neg skipped, Call.bind_done (change_on _ host)]
    have kept : Tended origin (host.inWorld
        (Change.on (Patch.processMount (host.patchRequest point fromMount)) host.world).2) :=
      tended_processMount clean separate tended hookable.known hookable.inodes
        fun inode found => scanned_filed watched found
    have idle' := processMount_idle clean watched.sound watched.writable idle
      (host.patchRequest point fromMount)
    cases (Change.on (Patch.processMount (host.patchRequest point fromMount)) host.world).1 with
    | ok outcome => exact ⟨_, _, rfl, kept, idle'⟩
    | error error => exact ⟨_, _, rfl, kept, idle'⟩

/-- A type that leaves the table has no calls to wait for. -/
theorem releaseMount_tends (clean : Clean origin.memory.content) (separate : origin.Separate)
    (tended : Tended origin host) (idle : InUse none host.table) (fsType : String) (count : Nat) :
    ∃ after answer, releaseMount fsType count host = .done (host.inWorld after) answer ∧
      Tended origin (host.inWorld after) ∧ InUse none after.table := by
  have watched := tended.watched
  have kept := tended_releaseMount clean separate tended fsType count
  have idle' := releaseMount_idle watched.sound watched.writable idle fsType count
  rw [releaseMount, Call.bind_done (change_on _ host)]
  rcases (Change.on (Patch.releaseMount fsType count) host.world).1 with error | ⟨outcome, left⟩
  · exact ⟨_, _, rfl, kept, idle'⟩
  · cases left with
    | none => exact ⟨_, _, rfl, kept, idle'⟩
    | some entry =>
        refine ⟨_, .ok outcome, ?_, kept, idle'⟩
        -- Nobody holds the entry between calls, so it is drained at once.
        have waited : awaitDrained entry
            (host.inWorld (Change.on (Patch.releaseMount fsType count) host.world).2) =
              .done (host.inWorld (Change.on (Patch.releaseMount fsType count) host.world).2) () := by
          rw [awaitDrained, Call.get_bind]
          simp only [show (host.inWorld _).table.isDrained entry = true from
            inUse_drained idle' entry, if_true]
          rfl
        exact Call.bind_done waited _

/-! ### Attaching -/

theorem walkMounts_tends (clean : Clean origin.memory.content) (separate : origin.Separate)
    {points : List MountPoint} :
    ∀ host, Tended origin host → InUse none host.table →
      (∀ point ∈ points, ∃ mount ∈ host.kernel.mounts, mount.point = point) →
      ∃ after, walkMounts points host = .done (host.inWorld after) () ∧
        Tended origin (host.inWorld after) ∧ InUse none after.table := by
  induction points with
  | nil => exact fun host tended idle _ => ⟨host.world, rfl, tended, idle⟩
  | cons point rest rest_tends =>
      intro host tended idle present
      obtain ⟨mount, inside, rfl⟩ := present point (by simp)
      obtain ⟨driver, hookable⟩ := hookable_mount tended.watched (fun _ => trivial) inside
      obtain ⟨middle, answer, ran, kept, idle'⟩ :=
        processMount_tends clean separate tended idle hookable false
      obtain ⟨after, ranRest, keptRest, idleRest⟩ := rest_tends (host.inWorld middle) kept idle'
        fun other member => present other (List.mem_cons_of_mem mount.point member)
      refine ⟨after, ?_, keptRest, idleRest⟩
      show ((processMount mount.point false host).bind _).bind _ = _
      rw [ran]
      exact ranRest

theorem tended_first {first : Host} (clean : Clean first.kernel.memory.content)
    (furnished : first.kernel.Furnished) (writable : first.kernel.memory.isSealed = false)
    (empty : first.table = Table.empty) : Tended first.kernel first := by
  refine ⟨watched_first furnished writable empty, ?_, ?_⟩
  · rw [world, empty]
    exact orderly_start clean
  · rw [empty]
    simp [Table.listing, Table.empty]

theorem attach_tends {first : Host} (clean : Clean first.kernel.memory.content)
    (separate : first.kernel.Separate) (furnished : first.kernel.Furnished)
    (writable : first.kernel.memory.isSealed = false) (empty : first.table = Table.empty) :
    ∃ after, attach first = { first.inWorld after with kernel.attached := true } ∧
      Tended { first.kernel with attached := true } (attach first) ∧
      InUse none (attach first).table := by
  obtain ⟨after, ran, tended, idle⟩ := walkMounts_tends clean separate first
    (tended_first clean furnished writable empty) (empty ▸ inUse_empty)
    fun point member => List.mem_map.mp member
  have attached : attach first = { first.inWorld after with kernel.attached := true } := by
    rw [attach, Call.start, ran]
    rfl
  have watched := tended.watched
  refine ⟨after, attached, ?_, ?_⟩
  · rw [attached]
    refine ⟨?_, tended.orderly, tended.filed⟩
    exact ⟨Kernel.furnished_unmoved watched.furnished rfl rfl rfl, watched.drivers, watched.natives,
      rfl, watched.writable, watched.sound, watched.typed⟩
  · rw [attached]
    exact idle

end Interception.Host

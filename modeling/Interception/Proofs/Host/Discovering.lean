import Interception.Proofs.Host.Watching
import Interception.Proofs.Patch.LookupHooks

/-!
The way to a file. Revalidations, lookups and creations never sleep; each of
them passes on what the native function found, and when that is the first
regular file of an entry's type, the entry moves up to file operations before
the answer is handed on.
-/

namespace Interception.Host

open Syscall Patch

variable {Value : Type} {origin : Kernel} {strays : Prop} {driver : Driver} {fsType : String}
  {host middle later : Host}

/-- The host without kernel, patch table and counts of hook calls. -/
def aside (host : Host) : Host :=
  { host with kernel := Kernel.empty, table := Table.empty, hookCalls := [], active := 0 }

/-- What steps on the way to a file of a type may do. Entries that hook files
stay as they are, and an entry of the type may begin to. -/
structure Trod (origin : Kernel) (strays : Prop) (driver : Driver) (fsType : String)
    (host later : Host) : Prop where
  watched : Watched origin strays host → Watched origin strays later
  aside : later.aside = host.aside
  opens : later.kernel.calls.openFile = host.kernel.calls.openFile
  points : ∀ mount ∈ host.kernel.mounts, ∃ other ∈ later.kernel.mounts, other.point = mount.point
  filed : ∀ listed ∈ host.table.listing, listed.saved.fOps ≠ none → listed ∈ later.table.listing
  tracked : ∀ listed ∈ host.table.listing, ∃ other ∈ later.table.listing,
    other.fsType = listed.fsType
  stems : ∀ listed ∈ later.table.listing, listed ∈ host.table.listing ∨
    listed.fsType = fsType ∧ listed.saved.fOps = some driver.fileOps ∧
      ∃ old ∈ host.table.listing, old.fsType = fsType ∧ old.saved.fOps = none

theorem Trod.trans (first : Trod origin strays driver fsType host middle)
    (second : Trod origin strays driver fsType middle later) :
    Trod origin strays driver fsType host later := by
  constructor
  case watched => exact fun watched => second.watched (first.watched watched)
  case aside => exact second.aside.trans first.aside
  case opens => exact second.opens.trans first.opens
  case points =>
    intro mount member
    obtain ⟨other, inside, same⟩ := first.points mount member
    obtain ⟨last, there, point⟩ := second.points other inside
    exact ⟨last, there, point.trans same⟩
  case filed =>
    exact fun listed member files => second.filed listed (first.filed listed member files) files
  case tracked =>
    intro listed member
    obtain ⟨other, inside, same⟩ := first.tracked listed member
    obtain ⟨last, found, type⟩ := second.tracked other inside
    exact ⟨last, found, type.trans same⟩
  case stems =>
    intro listed member
    rcases second.stems listed member with kept | ⟨type, files, old, inside, named, unfiled⟩
    · exact first.stems listed kept
    · rcases first.stems old inside with older | ⟨_, filed, _⟩
      · exact .inr ⟨type, files, old, older, named, unfiled⟩
      · rw [unfiled] at filed
        cases filed

/-- A step that leaves the listing as it is. -/
theorem trod_same (watched : Watched origin strays host → Watched origin strays later)
    (aside : later.aside = host.aside)
    (opens : later.kernel.calls.openFile = host.kernel.calls.openFile)
    (points : ∀ mount ∈ host.kernel.mounts, ∃ other ∈ later.kernel.mounts, other.point = mount.point)
    (listing : later.table.listing = host.table.listing) :
    Trod origin strays driver fsType host later := by
  refine ⟨watched, aside, opens, points, ?_, ?_, ?_⟩
  · exact fun listed member _ => listing ▸ member
  · exact fun listed member => ⟨listed, listing ▸ member, rfl⟩
  · exact fun listed member => .inl (listing ▸ member)

theorem Trod.refl (host : Host) : Trod origin strays driver fsType host host :=
  trod_same id rfl rfl (fun mount member => ⟨mount, member, rfl⟩) rfl

theorem trod_counted (aside : later.aside = host.aside) (kernel : later.kernel = host.kernel)
    (listing : later.table.listing = host.table.listing)
    (nextId : later.table.nextId = host.table.nextId) :
    Trod origin strays driver fsType host later := by
  refine trod_same (fun watched => watched_counted watched kernel listing nextId) aside
    (by rw [kernel]) ?_ listing
  exact kernel ▸ (Kernel.Tame.refl host.kernel).points

theorem trod_native {kernel : Kernel} (tame : Kernel.Tame host.kernel kernel) :
    Trod origin strays driver fsType host { host with kernel } :=
  trod_same (fun watched => watched_same watched (tame.furnished watched.furnished) tame.stays rfl rfl)
    rfl tame.opens tame.points rfl

/-! ### Seeing a file -/

/-- Every entry of the type hooks files. -/
def Seen (fsType : String) (host : Host) : Prop :=
  ∀ listed ∈ host.table.listing, listed.fsType = fsType → listed.saved.fOps ≠ none

theorem seen_trod (trod : Trod origin strays driver fsType host later) (seen : Seen fsType host) :
    Seen fsType later := by
  intro listed member type
  rcases trod.stems listed member with kept | ⟨_, files, _⟩
  · exact seen listed kept type
  · rw [files]
    simp

theorem trod_promoted (watched : Watched origin strays host) {listed : Listed}
    (member : listed ∈ host.table.listing) (type : listed.fsType = fsType)
    (known : origin.driver? fsType = some driver) {inode : Inode} (made : Made driver fsType inode)
    (unfiled : listed.saved.fOps = none) {after : World}
    (repatched : Repatched origin.memory.content host.world listed (some inode) after) :
    Trod origin strays driver fsType host (host.inWorld after) ∧ Seen fsType (host.inWorld after) := by
  have numbered := watched.sound.numbered
  have kept := watched_repatched watched member repatched (by
    intro other driver' same found
    obtain rfl := Option.some.inj same
    rw [type, known, Option.some.injEq] at found
    exact .inl (found ▸ made.2.2))
  cases repatched with
  | settled filed turned => exact absurd unfiled filed
  | promoted _ turned =>
      have listing := turned.listing
      constructor
      · constructor
        case watched => exact fun _ => kept
        case aside => rfl
        case opens => rfl
        case points => exact fun mount inside => ⟨mount, inside, rfl⟩
        case filed =>
          -- An entry that hooks files is not the one that moves up.
          intro other inside filed
          have different : other.id ≠ listed.id := by
            intro same
            exact filed (numbered_unique numbered inside member same ▸ unfiled)
          exact listing ▸ amend_other _ inside different
        case tracked =>
          intro other inside
          show ∃ last ∈ after.table.listing, last.fsType = other.fsType
          rw [listing]
          exact ⟨_, mem_amend.mpr ⟨other, inside, rfl⟩, by split <;> rfl⟩
        case stems =>
          show ∀ other ∈ after.table.listing, _
          rw [listing]
          refine amend_forall numbered member _ (fun other inside _ => .inl inside) ?_
          exact .inr ⟨type, congrArg some made.2.2, listed, member, type, unfiled⟩
      · show ∀ other ∈ after.table.listing, _
        rw [listing]
        refine amend_forall numbered member _ ?_ ?_
        · -- No other entry is of this type.
          intro other inside different named
          have same := numbered_type numbered inside member (named.trans type.symm)
          exact absurd (congrArg Listed.id same) different
        · simp [promoted]

theorem repatchSeen_known {entry : Option Nat} {own : Entry} (inode : Inode)
    (found : entry.bind host.table.byId? = some own) :
    repatchSeen entry inode host =
      if inode.regular ∧ own.saved.kind = Kind.inodeOps then
        .done (host.inWorld (Change.on (Patch.repatchWithRegular own.fsType inode) host.world).2) ()
      else .done host () := by
  rw [repatchSeen, Call.get_bind]
  simp only [found]
  split
  · rfl
  · rfl

/-- An entry of the type hooks files once it has seen one. -/
theorem repatchSeen_on (clean : Clean origin.memory.content) (watched : Watched origin strays host)
    (known : origin.driver? fsType = some driver) {inode : Inode} (made : Made driver fsType inode)
    {listed : Listed} (member : listed ∈ host.table.listing) (type : listed.fsType = fsType) :
    ∃ later, repatchSeen (some listed.id) inode host = .done later () ∧
      Trod origin strays driver fsType host later ∧ Seen fsType later := by
  have numbered := watched.sound.numbered
  obtain ⟨entry, found, same⟩ := byId?_listed numbered member
  have saved : entry.saved = listed.saved := congrArg Listed.saved same
  have named : entry.fsType = fsType := (congrArg Listed.fsType same).trans type
  rw [repatchSeen_known inode (show (some listed.id).bind host.table.byId? = some entry from found)]
  cases files : listed.saved.fOps with
  | some table =>
      have settled : ¬ (inode.regular = true ∧ entry.saved.kind = .inodeOps) := by
        simp [saved, Saved.kind, files]
      refine ⟨host, if_neg settled, Trod.refl host, ?_⟩
      intro other inside type'
      rw [numbered_type numbered inside member (type'.trans type.symm), files]
      simp
  | none =>
      have unsettled : inode.regular = true ∧ entry.saved.kind = .inodeOps := by
        simp [made.1, saved, Saved.kind, files]
      -- The repatch goes by type, and the type has no other entry.
      have entered : ∃ own, host.table.entry? fsType = some own ∧ own.listed = listed := by
        cases own : host.table.entry? fsType with
        | none => exact absurd type (entry_unlisted.mp own listed member)
        | some own' =>
            obtain ⟨inside, type'⟩ := entry_listed own
            exact ⟨own', rfl, numbered_type numbered inside member (Eq.trans type' type.symm)⟩
      obtain ⟨own, there, same'⟩ := entered
      have repatched := repatchWithRegular_known clean watched.sound watched.writable inode there
      rw [same', show regularOf (some inode) = some inode by simp [regularOf, made.1]] at repatched
      obtain ⟨trod, seen⟩ := trod_promoted watched member type known made files repatched
      rw [named]
      exact ⟨_, if_pos unsettled, trod, seen⟩

/-! ### Calls on the way -/

/-- The call does not sleep; if it finds a file, it is one of the driver's and
every entry of the type hooks files by then. -/
def Discovers (origin : Kernel) (strays : Prop) (driver : Driver) (fsType : String)
    (found : Value → Option Inode) (call : Syscall Host Value) (host : Host) : Prop :=
  ∃ later answer, on call host = .done later answer ∧
    Trod origin strays driver fsType host later ∧
    ∀ value inode, answer = .ok value → found value = some inode →
      Made driver fsType inode ∧ Seen fsType later

theorem discovers_throw {found : Value → Option Inode} (errno : Errno) (host : Host) :
    Discovers origin strays driver fsType found (throw errno) host :=
  ⟨host, .error errno, rfl, Trod.refl host, by simp⟩

theorem discovers_get {found : Value → Option Inode} {next : Host → Syscall Host Value}
    (inside : Discovers origin strays driver fsType found (next host) host) :
    Discovers origin strays driver fsType found (get >>= next) host := by
  unfold Discovers
  rw [on_get_bind]
  exact inside

/-- A call after another goes on from where that one has come to. -/
theorem discovers_bind {Other : Type} {first : Other → Option Inode} {found : Value → Option Inode}
    {call : Syscall Host Other} {next : Other → Syscall Host Value}
    (before : Discovers origin strays driver fsType first call host)
    (after : ∀ middle value, Trod origin strays driver fsType host middle →
      (∀ inode, first value = some inode → Made driver fsType inode ∧ Seen fsType middle) →
      Discovers origin strays driver fsType found (next value) middle) :
    Discovers origin strays driver fsType found (call >>= next) host := by
  obtain ⟨middle, answer, ran, trod, discovered⟩ := before
  unfold Discovers
  rw [on_bind, ran, Run.bind_done]
  cases answer with
  | error errno => exact ⟨middle, .error errno, rfl, trod, by simp⟩
  | ok value =>
      obtain ⟨later, last, ranLast, trodLast, all⟩ :=
        after middle value trod fun inode same => discovered value inode rfl same
      exact ⟨later, last, ranLast, trod.trans trodLast, all⟩

theorem discovers_done {found : Value → Option Inode} {value : Value}
    (fine : ∀ inode, found value = some inode → Made driver fsType inode ∧ Seen fsType host) :
    Discovers origin strays driver fsType found (pure value) host := by
  refine ⟨host, .ok value, rfl, Trod.refl host, ?_⟩
  intro other inode same here
  obtain rfl := Except.ok.inj same
  exact fine inode here

/-- What comes before and after leaves the discovery as it is. -/
theorem discovers_within {found : Value → Option Inode} {call inner : Syscall Host Value}
    {entering leaving : Host → Host}
    (run : on call host =
      (on inner (entering host)).bind fun answer later => .done (leaving later) answer)
    (before : Trod origin strays driver fsType host (entering host))
    (after : ∀ later, Trod origin strays driver fsType later (leaving later))
    (inside : Discovers origin strays driver fsType found inner (entering host)) :
    Discovers origin strays driver fsType found call host := by
  obtain ⟨later, answer, ran, trod, discovered⟩ := inside
  refine ⟨leaving later, answer, ?_, (before.trans trod).trans (after later), ?_⟩
  · rw [run, ran, Run.bind_done]
  · intro value inode same here
    obtain ⟨made, seen⟩ := discovered value inode same here
    exact ⟨made, seen_trod (after later) seen⟩

theorem discovers_gated {found : Value → Option Inode} {label : String} {body : Syscall Host Value}
    (inside : Discovers origin strays driver fsType found body (host.entered label)) :
    Discovers origin strays driver fsType found (gated label body) host :=
  discovers_within (gated_on label body host) (trod_counted rfl rfl rfl rfl)
    (fun _ => trod_counted rfl rfl rfl rfl) inside

theorem trod_taking (id : Nat) (host : Host) :
    Trod origin strays driver fsType host (host.takingUse id) :=
  trod_counted rfl rfl (listing_acquire host.table id) rfl

theorem trod_giving (id : Nat) (host : Host) :
    Trod origin strays driver fsType host (host.givingUse id) :=
  trod_counted rfl rfl (listing_release host.table id) rfl

theorem discovers_holding {found : Value → Option Inode} {id : Nat} {body : Syscall Host Value}
    (inside : Discovers origin strays driver fsType found body (host.takingUse id)) :
    Discovers origin strays driver fsType found (holding (some id) body) host :=
  discovers_within (holding_on id body host) (trod_taking id host) (trod_giving id) inside

/-- A native function that only finds files of a driver. -/
def Finds (driver : Driver) (fsType : String) (found : Value → Option Inode) (host : Host)
    (step : Kernel → Except Errno Value × Kernel) : Prop :=
  Kernel.Tame host.kernel (step host.kernel).2 ∧
    ∀ value inode, (step host.kernel).1 = .ok value → found value = some inode →
      Made driver fsType inode

theorem discovers_native {found : Value → Option Inode}
    {step : Kernel → Except Errno Value × Kernel} (finds : Finds driver fsType found host step)
    (covered : (∃ value inode, found value = some inode) → Seen fsType host) :
    Discovers origin strays driver fsType found (native step) host := by
  have stepped : Trod origin strays driver fsType host { host with kernel := (step host.kernel).2 } :=
    trod_native finds.1
  refine ⟨_, _, native_on step host, stepped, ?_⟩
  intro value inode same here
  exact ⟨finds.2 value inode same here, seen_trod stepped (covered ⟨value, inode, here⟩)⟩

/-- What every hook on the way does with a saved address: without one it
answers `missing`, else it passes on what the native function says, and a
file that turns up is seen. -/
def passOn (entry : Option Nat) (genuine : Addr) (missing : Syscall Host Value)
    (step : Kernel → Except Errno Value × Kernel) (found : Value → Option Inode) :
    Syscall Host Value := do
  if genuine = Addr.null then missing
  else
    let result ← native step
    match found result with
    | some inode => repatchSeen entry inode
    | none => pure ()
    return result

theorem passOn_on {entry : Option Nat} {genuine : Addr} {missing : Syscall Host Value}
    {step : Kernel → Except Errno Value × Kernel} {found : Value → Option Inode}
    (present : genuine ≠ Addr.null) (host : Host) :
    on (passOn entry genuine missing step found) host =
      match (step host.kernel).1 with
      | .error errno => .done { host with kernel := (step host.kernel).2 } (.error errno)
      | .ok value =>
          match found value with
          | none => .done { host with kernel := (step host.kernel).2 } (.ok value)
          | some inode =>
              (repatchSeen entry inode { host with kernel := (step host.kernel).2 }).bind
                fun _ later => .done later (.ok value) := by
  rw [passOn, if_neg present, on_bind, native_on, Run.bind_done]
  cases (step host.kernel).1 with
  | error errno => rfl
  | ok value =>
      simp only [andThen]
      cases found value with
      | none => rfl
      | some inode =>
          simp only [on_bind]
          show ((repatchSeen entry inode _).bind _).bind _ = _
          rw [Run.bind_assoc]
          rfl

/-- A hook that passes on what the native function says discovers files for
its entry. An entry that hooks files already needs no other. -/
theorem discovers_passOn (clean : Clean origin.memory.content)
    (watched : Watched origin strays host) (known : origin.driver? fsType = some driver)
    {entry : Option Nat} {genuine : Addr} {missing : Syscall Host Value}
    {step : Kernel → Except Errno Value × Kernel} {found seen : Value → Option Inode}
    (absent : Discovers origin strays driver fsType seen missing host)
    (finds : Finds driver fsType found host step)
    (owner : ∀ id, entry = some id → ∃ listed ∈ host.table.listing,
      listed.id = id ∧ listed.fsType = fsType)
    (same : ∀ value inode, seen value = some inode → found value = some inode)
    (covered : (∃ value inode, seen value = some inode) → entry = none → Seen fsType host) :
    Discovers origin strays driver fsType seen (passOn entry genuine missing step found) host := by
  by_cases present : genuine = Addr.null
  · rw [present]
    exact absent
  have stepped : Trod origin strays driver fsType host { host with kernel := (step host.kernel).2 } :=
    trod_native finds.1
  have watched' := stepped.watched watched
  unfold Discovers
  rw [passOn_on present]
  cases answered : (step host.kernel).1 with
  | error errno => exact ⟨_, _, rfl, stepped, by simp⟩
  | ok value =>
      cases here : found value with
      | none =>
          simp only [here]
          refine ⟨_, _, rfl, stepped, ?_⟩
          intro other inode answer there
          obtain rfl := Except.ok.inj answer
          rw [same value inode there] at here
          cases here
      | some inode =>
          simp only [here]
          have new := finds.2 value inode answered here
          -- A match that names no entry repatches nobody; its type has no entry to repatch.
          cases whose : entry with
          | none =>
              refine ⟨_, _, rfl, stepped, ?_⟩
              intro other file answer there
              obtain rfl := Except.ok.inj answer
              rw [same value file there, Option.some.injEq] at here
              exact ⟨here ▸ new, seen_trod stepped (covered ⟨value, file, there⟩ whose)⟩
          | some id =>
              obtain ⟨listed, member, rfl, type⟩ := owner id whose
              obtain ⟨later, ran, trod, all⟩ := repatchSeen_on clean watched' known new member type
              refine ⟨later, .ok value, ?_, stepped.trans trod, ?_⟩
              · rw [ran]
                rfl
              · intro other file answer there
                obtain rfl := Except.ok.inj answer
                rw [same value file there, Option.some.injEq] at here
                exact ⟨here ▸ new, all⟩

end Interception.Host

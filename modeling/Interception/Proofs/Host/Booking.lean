import Interception.Host.Service
import Interception.Proofs.Host.Watching
import Interception.Proofs.Patch.Rostering

/-!
The table as a plain roster. A run makes calls on the patch table one after the
other, from an empty one on, with nobody inside a hook meanwhile; between the
calls anybody may write to the slots. As long as no mount is refused, the table
lists exactly the types and uses that the calls have booked, and every call
answers what the roster says and returns at once.
-/

namespace Interception.Host

open Patch

variable {host later : Host} {roster : Roster}

/-! ### The roster -/

inductive Command
  | processMount (request : Request)
  | repatchWithRegular (fsType : String) (inode : Inode)
  | reinstall (fsType : String)
  | releaseMount (fsType : String) (count : Nat)
  | restore (fsType : String)
  | purge

inductive Answer
  | mounted (outcome : Except PatchError MountOutcome)
  | hooked (pokes : Except PatchError Nat)
  | released (outcome : Except PatchError ReleaseOutcome)
  | restored (result : Except PatchError Unit)
  | purged (number : Except PatchError Nat)

namespace Command

def call : Command → Call Host Answer
  | processMount request => Answer.mounted <$> change (Patch.processMount request)
  | repatchWithRegular fsType inode =>
      Answer.hooked <$> change (Patch.repatchWithRegular fsType inode)
  | reinstall fsType => Answer.hooked <$> change (Patch.reinstall fsType)
  | releaseMount fsType count => Answer.released <$> Host.releaseMount fsType count
  | restore fsType => Answer.restored <$> Host.restore fsType
  | purge => Answer.purged <$> Host.purge

/-- What a call does to the roster. A type leaves with its last use, and a type
without uses with the first one that is taken from it. -/
def book (roster : Roster) : Command → Roster
  | processMount request =>
      match roster.lookup request.fsType with
      | none => roster ++ [(request.fsType, request.uses)]
      | some _ => roster.change request.fsType (· + request.uses)
  | releaseMount fsType count =>
      match roster.lookup fsType with
      | none => roster
      | some uses =>
          if count = 0 then roster
          else if count < uses then roster.change fsType (· - count)
          else roster.strike fsType
  | restore fsType => roster.strike fsType
  | purge => []
  | repatchWithRegular _ _ | reinstall _ => roster

/-- What a call answers, apart from what it finds in the slots. -/
def Fits (roster : Roster) : Command → Answer → Prop
  | processMount request, .mounted (.ok (.installed _)) => roster.lookup request.fsType = none
  | processMount request, .mounted (.ok (.existing uses _)) =>
      (roster.lookup request.fsType).map (· + request.uses) = some uses
  | releaseMount fsType count, .released (.ok outcome) =>
      outcome =
        match roster.lookup fsType with
        | none => .notTracked
        | some uses =>
            if count = 0 then .released uses
            else if count < uses then .released (uses - count)
            else .restored
  | restore fsType, .restored (.ok ()) => (roster.lookup fsType).isSome = true
  | restore fsType, .restored (.error error) =>
      roster.lookup fsType = none ∧ error = .notPatched fsType
  | purge, .purged (.ok number) => number = roster.length
  | repatchWithRegular _ _, .hooked _ | reinstall _, .hooked _ => True
  | _, _ => False

end Command

def booked (commands : List Command) : Roster := commands.foldl Command.book []

/-! ### Single calls -/

/-- Nobody is inside a hook. -/
structure Calm (host : Host) : Prop where
  shaped : Shaped host.table
  idle : InUse none host.table

theorem calm_distinct (calm : Calm host) : Distinct host.table.counts.1 :=
  distinct_counts calm.shaped.formed.numbered

theorem changed_on {Value : Type} {step : Change Value} {answer : Except PatchError Value}
    {world : World} (ran : Change.on step host.world = (answer, world)) :
    change step host = .done (host.inWorld world) answer := by
  rw [change_on, ran]

/-- Nobody waits for whoever leaves an idle table. -/
theorem awaitDrained_calm (idle : InUse none host.table) (id : Nat) :
    awaitDrained id host = .done host () := by
  show (if host.table.isDrained id then pure () else _ : Call Host Unit) host = _
  rw [inUse_drained idle id]
  rfl

/-- Who has left a calm host is struck off the roster. -/
theorem departed_calm {world : World} {entry : Entry} (calm : Calm host)
    (inside : entry ∈ host.table.entries) (shaped : Shaped world.table)
    (departed : Departed entry.id host.world world) :
    Calm (host.inWorld world) ∧
      (host.inWorld world).table.roster = host.table.roster.strike entry.fsType := by
  refine ⟨⟨shaped, departed.idle calm.idle⟩, ?_⟩
  have member : entry.count ∈ host.table.counts.1 := List.mem_map_of_mem inside
  rw [roster_counts, roster_counts]
  exact (congrArg rosterOf departed.counts).trans (roster_struck (calm_distinct calm) member)

/-- What a call leaves, unless it is a mount that is refused or a count that
does not fit. -/
structure Books (host : Host) (command : Command) (answer : Answer) (later : Host) : Prop where
  calm : Calm later
  roster : later.table.roster = command.book host.table.roster
  fits : command.Fits host.table.roster answer

def Refused : Answer → Prop
  | .mounted (.error _) => True
  | _ => False

theorem lookup_found {entry : Entry} {fsType : String} (found : host.table.entry? fsType = some entry) :
    host.table.roster.lookup fsType = some entry.uses.toNat := by
  rw [roster_lookup, entry_present found]

theorem lookup_missing {fsType : String} (missing : host.table.entry? fsType = none) :
    host.table.roster.lookup fsType = none := by
  rw [roster_lookup, entry_missing missing]

/-- A mount counts for the type it finds, and plainly so while the count fits. -/
theorem existing_books {world : World} {entry : Entry} {request : Request} {pokes : Nat}
    (calm : Calm host) (shaped : Shaped world.table)
    (found : host.table.entry? request.fsType = some entry)
    (counted : host.table.Counted (adjust entry.id (grown request.uses) host.table.counts.1)
      world.table)
    (small : ((Command.processMount request).book host.table.roster).Small) :
    Books host (.processMount request)
      (.mounted (.ok (.existing (grown request.uses entry.uses.toNat) pokes)))
      (host.inWorld world) := by
  obtain ⟨settled, refs⟩ := inUse_iff.mp calm.idle
  obtain ⟨member, type⟩ := count_listed found
  have listed : (request.fsType, entry.uses.toNat) ∈ host.table.roster :=
    List.mem_map.mpr ⟨entry, List.mem_of_find?_eq_some found, by rw [(entry_listed found).2]⟩
  rw [Command.book, lookup_found found] at small
  refine ⟨⟨shaped, inUse_counted settled refs counted⟩, ?_, ?_⟩
  · rw [Command.book, lookup_found found, ← change_grown small, roster_counts,
      roster_counts host.table, ← type]
    exact (congrArg rosterOf counted.listed).trans
      (roster_adjusted (calm_distinct calm) member _)
  · rw [Command.Fits, lookup_found found, grown_small (small _ (changed_line _ listed))]
    rfl

/-- A mount enters a type that is not there yet. -/
theorem installed_books {world : World} {request : Request} {pokes : Nat}
    (calm : Calm host) (shaped : Shaped world.table)
    (missing : host.table.entry? request.fsType = none)
    (counted : host.table.Counted (adjust host.table.nextId (grown request.uses)
      (host.table.counts.1 ++ [request.count host.table.nextId])) world.table)
    (small : ((Command.processMount request).book host.table.roster).Small) :
    Books host (.processMount request) (.mounted (.ok (.installed pokes)))
      (host.inWorld world) := by
  obtain ⟨settled, refs⟩ := inUse_iff.mp calm.idle
  rw [Command.book, lookup_missing missing] at small
  have fits : request.uses < UInt32.size := small (request.fsType, request.uses) (by simp)
  have entered := roster_entered calm.shaped request
  rw [grown_small (by rwa [Nat.zero_add]), Nat.zero_add] at entered
  refine ⟨⟨shaped, inUse_counted settled ?_ counted⟩, ?_, lookup_missing missing⟩
  · -- The new entry is listed with the table's own reference.
    intro count member
    rcases List.mem_append.mp member with old | new
    · exact refs count old
    · rw [List.mem_singleton.mp new]
      rfl
  · rw [Command.book, lookup_missing missing, roster_counts, roster_counts host.table]
    exact (congrArg rosterOf counted.listed).trans entered

theorem processMount_books (calm : Calm host) (writable : host.kernel.memory.isSealed = false)
    (request : Request) :
    ∃ later answer, (Command.processMount request).call host = .done later answer ∧
      (((Command.processMount request).book host.table.roster).Small →
        Refused answer ∨ Books host (.processMount request) answer later) := by
  rcases ran : Change.on (Patch.processMount request) host.world with ⟨answer, world⟩
  have shaped : Shaped world.table := by
    have kept := upholding_processMount request host.world calm.shaped
    rwa [ran] at kept
  refine ⟨host.inWorld world, .mounted answer, ?_, fun small => ?_⟩
  · rw [Command.call, Call.map_on, change_on, ran]
    rfl
  · cases answer with
    | error error => exact .inl trivial
    | ok outcome =>
        right
        cases found : host.table.entry? request.fsType with
        | some entry =>
            obtain ⟨⟨pokes, rfl⟩, counted⟩ := processMount_counted writable found ran
            exact existing_books calm shaped found counted small
        | none =>
            obtain ⟨⟨pokes, rfl⟩, counted⟩ := processMount_entered writable found ran
            exact installed_books calm shaped found counted small

/-- A call that leaves counts and shape alone books nothing. -/
theorem books_nothing {Value : Type} (calm : Calm host) {step : Change Value}
    (shaped : Shaped (Change.on step host.world).2.table)
    (counts : (Change.on step host.world).2.table.counts = host.table.counts) :
    Calm (host.inWorld (Change.on step host.world).2) ∧
      (host.inWorld (Change.on step host.world).2).table.roster = host.table.roster := by
  refine ⟨⟨shaped, inUse_counts calm.idle counts⟩, ?_⟩
  rw [roster_counts, roster_counts]
  exact congrArg (fun counts => rosterOf counts.1) counts

theorem repatchWithRegular_books (calm : Calm host) (fsType : String) (inode : Inode) :
    ∃ later answer, (Command.repatchWithRegular fsType inode).call host = .done later answer ∧
      Books host (.repatchWithRegular fsType inode) answer later := by
  obtain ⟨still, roster⟩ := books_nothing calm
    (upholding_repatchWithRegular fsType inode host.world calm.shaped)
    (repatchWithRegular_counts fsType inode host.world)
  exact ⟨_, .hooked _, rfl, still, roster, trivial⟩

theorem reinstall_books (calm : Calm host) (fsType : String) :
    ∃ later answer, (Command.reinstall fsType).call host = .done later answer ∧
      Books host (.reinstall fsType) answer later := by
  obtain ⟨still, roster⟩ := books_nothing calm (upholding_reinstall fsType host.world calm.shaped)
    (reinstall_counts calm.shaped fsType)
  exact ⟨_, .hooked _, rfl, still, roster, trivial⟩

theorem dropping_calm (calm : Calm host) {entry : Entry} (inside : entry ∈ host.table.entries)
    (count : Nat) : Calm (host.inWorld (host.world.dropping entry count)) ∧
      (host.inWorld (host.world.dropping entry count)).table.roster =
        host.table.roster.change entry.fsType (· - count) := by
  have shaped : Shaped host.world.table := calm.shaped
  have counted := dropping_counts shaped.formed.numbered inside count
  obtain ⟨settled, refs⟩ := inUse_iff.mp calm.idle
  have member : entry.count ∈ host.table.counts.1 := List.mem_map_of_mem inside
  refine ⟨⟨?_, inUse_counted settled refs counted⟩, ?_⟩
  · exact shaped_counts calm.shaped fun other beside same => by
      rw [entry_unique calm.shaped.formed.numbered inside beside same]
      rfl
  · rw [roster_counts, roster_counts]
    exact (congrArg rosterOf counted.listed).trans (roster_adjusted (calm_distinct calm) member _)

theorem change_nothing (fsType : String) (roster : Roster) : roster.change fsType (· - 0) = roster := by
  refine (List.map_congr_left fun line _ => ?_).trans (List.map_id roster)
  obtain ⟨type, uses⟩ := line
  by_cases own : type = fsType <;> simp [own]

theorem strike_missing {fsType : String} (missing : roster.lookup fsType = none) :
    roster.strike fsType = roster := by
  rw [Roster.strike, List.filter_eq_self]
  intro line member
  have other := List.lookup_eq_none_iff.mp missing line member
  simpa [bne_iff_ne, ne_comm] using other

theorem releaseMount_books (calm : Calm host) (writable : host.kernel.memory.isSealed = false)
    (fsType : String) (count : Nat) :
    ∃ later answer, (Command.releaseMount fsType count).call host = .done later answer ∧
      Books host (.releaseMount fsType count) answer later := by
  have writable : host.world.memory.isSealed = false := writable
  have shaped : Shaped host.world.table := calm.shaped
  rw [Command.call, Call.map_on, Host.releaseMount]
  cases found : host.world.table.entry? fsType with
  | none =>
      rw [Call.bind_done (changed_on (releaseMount_unknown writable count found))]
      refine ⟨_, _, rfl, calm, ?_, ?_⟩
      · simp only [Command.book, lookup_missing found]
        rfl
      · simp only [Command.Fits, lookup_missing found]
  | some entry =>
      have inside := List.mem_of_find?_eq_some found
      have type : entry.fsType = fsType := (entry_listed found).2
      by_cases stays : count < entry.uses.toNat ∨ count = 0
      · rw [Call.bind_done (changed_on (releaseMount_drops writable found stays))]
        obtain ⟨still, roster⟩ := dropping_calm calm inside count
        refine ⟨_, _, rfl, still, ?_, ?_⟩
        · rw [roster, Command.book, lookup_found found, type]
          by_cases none : count = 0
          · simp only [none, if_true, change_nothing]
          · simp only [none, if_false, stays.resolve_right none, if_true]
        · rw [Command.Fits, lookup_found found]
          by_cases none : count = 0
          · simp [none]
          · simp [none, stays.resolve_right none]
      · obtain ⟨world, ran, departed⟩ := releaseMount_departs shaped writable found stays
        have kept := upholding_releaseMount fsType count host.world shaped
        rw [ran] at kept
        obtain ⟨still, roster⟩ := departed_calm calm inside kept departed
        rw [Call.bind_done (changed_on ran)]
        simp only [Call.bind_done (awaitDrained_calm still.idle entry.id)]
        obtain ⟨fewer, more⟩ := not_or.mp stays
        refine ⟨_, _, rfl, still, ?_, ?_⟩
        · rw [roster, Command.book, lookup_found found, type]
          simp only [fewer, more, if_false]
        · rw [Command.Fits, lookup_found found]
          simp [fewer, more]

theorem restore_books (calm : Calm host) (writable : host.kernel.memory.isSealed = false)
    (fsType : String) :
    ∃ later answer, (Command.restore fsType).call host = .done later answer ∧
      Books host (.restore fsType) answer later := by
  have writable : host.world.memory.isSealed = false := writable
  have shaped : Shaped host.world.table := calm.shaped
  rw [Command.call, Call.map_on, Host.restore]
  cases found : host.world.table.entry? fsType with
  | none =>
      rw [Call.bind_done (changed_on (restore_unknown writable found))]
      refine ⟨_, _, rfl, calm, ?_, lookup_missing found, rfl⟩
      exact (strike_missing (lookup_missing found)).symm
  | some entry =>
      have inside := List.mem_of_find?_eq_some found
      obtain ⟨pokes, world, ran, departed⟩ := restore_departs shaped writable found
      have kept := upholding_restore fsType host.world shaped
      rw [ran] at kept
      obtain ⟨still, roster⟩ := departed_calm calm inside kept departed
      rw [Call.bind_done (changed_on ran)]
      simp only [Call.bind_done (awaitDrained_calm still.idle entry.id)]
      refine ⟨_, _, rfl, still, ?_, ?_⟩
      · rw [roster, Command.book, (entry_listed found).2]
      · simp [Except.map, Command.Fits, lookup_found found]

/-- When the first entry has left, there are the others. -/
theorem departed_rest {world : World} {entry : Entry} {rest : List Entry} (calm : Calm host)
    (entries : host.table.entries = entry :: rest) (departed : Departed entry.id host.world world) :
    (host.inWorld world).table.entries.length = rest.length := by
  have ids := (calm_distinct calm).ids
  have left := departed.counts
  have whole : host.world.table.entries = entry :: rest := entries
  simp only [Table.counts, whole, entries, List.map_cons, List.nodup_cons] at ids left
  have others : (rest.map Entry.count).filter (·.id != entry.id) = rest.map Entry.count := by
    rw [List.filter_eq_self]
    intro count member
    rw [bne_iff_ne]
    rintro same
    exact ids.1 (List.mem_map.mpr ⟨count, member, same⟩)
  rw [List.filter_cons_of_neg (by simp [Entry.count]), others] at left
  show world.table.entries.length = rest.length
  simpa using congrArg List.length left

/-- As many rounds as there are entries take them all out, and one more finds
nobody. -/
theorem purgeRounds_calm : ∀ rounds host purged, Calm host → host.kernel.memory.isSealed = false →
    host.table.entries.length < rounds →
    ∃ later, purgeRounds rounds purged host =
        .done later (.ok (purged + host.table.entries.length)) ∧
      Calm later ∧ later.table.entries = [] := by
  intro rounds
  induction rounds with
  | zero => exact fun _ _ _ _ few => absurd few (Nat.not_lt_zero _)
  | succ rounds further =>
      intro host purged calm writable few
      have writable : host.world.memory.isSealed = false := writable
      have shaped : Shaped host.world.table := calm.shaped
      rw [purgeRounds]
      cases entries : host.world.table.entries with
      | nil =>
          have none : host.table.entries = [] := entries
          rw [Call.bind_done (changed_on (purgeFirst_empty writable entries)), none]
          exact ⟨_, rfl, calm, entries⟩
      | cons entry rest =>
          obtain ⟨world, ran, departed⟩ := purgeFirst_departs shaped writable entries
          have inside : entry ∈ host.table.entries := by
            rw [show host.table.entries = entry :: rest from entries]
            exact List.mem_cons_self
          have kept := upholding_purgeFirst host.world shaped
          rw [ran] at kept
          obtain ⟨still, roster⟩ := departed_calm calm inside kept departed
          have left := departed_rest calm entries departed
          have whole : host.table.entries.length = rest.length + 1 := congrArg List.length entries
          rw [Call.bind_done (changed_on ran)]
          simp only [Call.bind_done (awaitDrained_calm still.idle entry.id)]
          have writable' : (host.inWorld world).kernel.memory.isSealed = false :=
            departed.isSealed.trans writable
          obtain ⟨later, purged', calm', empty⟩ :=
            further (host.inWorld world) (purged + 1) still writable' (by omega)
          refine ⟨later, ?_, calm', empty⟩
          rw [left] at purged'
          rw [whole, Nat.add_comm rest.length, ← Nat.add_assoc]
          exact purged'

theorem purge_books (calm : Calm host) (writable : host.kernel.memory.isSealed = false) :
    ∃ later answer, Command.purge.call host = .done later answer ∧
      Books host .purge answer later := by
  obtain ⟨later, ran, still, empty⟩ := purgeRounds_calm
    (host.table.entries.length + 1 + purgeReserve) host 0 calm writable (by omega)
  have purged : Host.purge host = .done later (.ok (0 + host.table.entries.length)) := by
    rw [Host.purge, Call.get_bind]
    exact ran
  refine ⟨later, .purged (.ok (0 + host.table.entries.length)), ?_, still, ?_, ?_⟩
  · rw [Command.call, Call.map_on, purged]
    rfl
  · simp [Table.roster, empty, Command.book]
  · simp [Command.Fits, Table.roster]

/-- A call returns at once, and unless it is a mount that is refused, it does
and answers what the roster says as long as the uses fit. -/
theorem call_books (calm : Calm host) (writable : host.kernel.memory.isSealed = false)
    (command : Command) :
    ∃ later answer, command.call host = .done later answer ∧
      ((command.book host.table.roster).Small →
        Refused answer ∨ Books host command answer later) := by
  have settled {command : Command} (books : ∃ later answer,
      command.call host = .done later answer ∧ Books host command answer later) :
      ∃ later answer, command.call host = .done later answer ∧
        ((command.book host.table.roster).Small →
          Refused answer ∨ Books host command answer later) := by
    obtain ⟨later, answer, ran, booked⟩ := books
    exact ⟨later, answer, ran, fun _ => .inr booked⟩
  cases command with
  | processMount request => exact processMount_books calm writable request
  | repatchWithRegular fsType inode => exact settled (repatchWithRegular_books calm fsType inode)
  | reinstall fsType => exact settled (reinstall_books calm fsType)
  | releaseMount fsType count => exact settled (releaseMount_books calm writable fsType count)
  | restore fsType => exact settled (restore_books calm writable fsType)
  | purge => exact settled (purge_books calm writable)

/-! ### Runs of calls -/

/-- A run of calls none of which is a mount that is refused or does not fit,
each with its answer. Between the calls others may do what they like, but the
table is left to the calls. -/
inductive Served (first : Host) : Host → List (Command × Answer) → Prop
  | start : Served first first []
  | meanwhile {host later : Host} {history : List (Command × Answer)}
      (table : later.table = host.table) (served : Served first host history) :
      Served first later history
  | call {host later : Host} {history : List (Command × Answer)} (command : Command)
      {answer : Answer} (writable : host.kernel.memory.isSealed = false)
      (small : (command.book host.table.roster).Small)
      (ran : command.call host = .done later answer) (taken : ¬ Refused answer)
      (served : Served first host history) : Served first later (history ++ [(command, answer)])

theorem booked_append (commands : List Command) (command : Command) :
    booked (commands ++ [command]) = command.book (booked commands) := by
  simp [booked]

theorem served_books {first : Host} {history : List (Command × Answer)}
    (empty : first.table = Table.empty) (served : Served first host history) :
    Calm host ∧ host.table.roster = booked (history.map (·.1)) ∧
      ∀ before command answer behind, history = before ++ (command, answer) :: behind →
        command.Fits (booked (before.map (·.1))) answer := by
  induction served with
  | start =>
      refine ⟨⟨empty ▸ shaped_empty, empty ▸ inUse_empty⟩, by rw [empty]; rfl, ?_⟩
      intro before command answer behind same
      simp at same
  | meanwhile table served all =>
      obtain ⟨calm, same, fits⟩ := all
      exact ⟨⟨table ▸ calm.shaped, table ▸ calm.idle⟩, by rw [table, same], fits⟩
  | call command writable small ran taken served all =>
      obtain ⟨calm, same, fits⟩ := all
      obtain ⟨later', answer', ran', outcome⟩ := call_books calm writable command
      obtain ⟨rfl, rfl⟩ : later' = _ ∧ answer' = _ := by simpa using ran'.symm.trans ran
      have books := (outcome small).resolve_left taken
      refine ⟨books.calm, ?_, ?_⟩
      · rw [books.roster, same, List.map_append, List.map_singleton, booked_append]
      · intro before other answer behind split
        rcases List.eq_nil_or_concat behind with rfl | ⟨rest, last, rfl⟩
        · obtain ⟨rfl, latest⟩ := List.append_inj' split rfl
          obtain ⟨rfl, rfl⟩ : command = other ∧ _ = answer := by simpa using latest
          exact same ▸ books.fits
        · rw [List.concat_eq_append, ← List.cons_append, ← List.append_assoc] at split
          obtain ⟨rfl, _⟩ := List.append_inj' split rfl
          exact fits before other answer rest rfl

/-- Whenever a run has come, the table is the roster of the calls so far, each
of them has answered what the roster before it says, and the next one will
return at once. -/
theorem served_follows_roster {first : Host} {history : List (Command × Answer)}
    (empty : first.table = Table.empty) (served : Served first host history) :
    host.table.roster = booked (history.map (·.1)) ∧
      (∀ before command answer behind, history = before ++ (command, answer) :: behind →
        command.Fits (booked (before.map (·.1))) answer) ∧
      ∀ command : Command, host.kernel.memory.isSealed = false →
        ∃ later answer, command.call host = .done later answer := by
  obtain ⟨calm, same, fits⟩ := served_books empty served
  refine ⟨same, fits, ?_⟩
  intro command writable
  obtain ⟨later, answer, ran, _⟩ := call_books calm writable command
  exact ⟨later, answer, ran⟩

/-! A type that is mounted twice, released beyond its uses and mounted again. -/

def plainHost : Host := bare { Kernel.empty with memory := uniform }

def plainRequest (uses : Nat) : Request := ⟨"ext4", plainRoot, none, some plainFile, false, uses⟩

def plainCommands : List Command :=
  [.processMount (plainRequest 1), .processMount (plainRequest 2), .releaseMount "ext4" 9,
    .processMount (plainRequest 0)]

theorem plain_run_booked : ∃ host history, Served plainHost host history ∧
    history.map (·.1) = plainCommands ∧ host.table.roster = [("ext4", 0)] := by
  have served : Served plainHost _ _ :=
    .call (.processMount (plainRequest 0)) rfl (by decide +kernel) rfl id
      (.call (.releaseMount "ext4" 9) rfl (by decide +kernel) rfl id
        (.call (.processMount (plainRequest 2)) rfl (by decide +kernel) rfl id
          (.call (.processMount (plainRequest 1)) rfl (by decide +kernel) rfl id .start)))
  exact ⟨_, _, served, rfl, (served_follows_roster rfl served).1⟩

end Interception.Host

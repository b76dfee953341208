import Interception.Proofs.Host.Metering

/-!
Instruments over the runs of a service. Whatever calls are made on it, however
they overlap and whoever else has a hand in it, every gauge shows what it
measures and every counter what has happened.
-/

namespace Interception.Host

open Vetting Patch

variable {host later : Host} {account : Account}

/-! ### Duties -/

/-- What a service may be called for. -/
inductive Duty
  | errand (work : Errand)
  | walk (mounts : List MountPoint)
  | scan (mount : MountPoint) (fromMount : Bool)
  | examine (caller : Caller) (task : Personality) (event : Event)
  | vet (caller : Caller) (report : Report) (task : Personality) (event : Event) (group wait : Nat)
  | fetch (client : ClientId) (wait : Nat)
  | respond (client : ClientId) (response : Response)
  | register (caller : Caller) (name : String) (groups : UInt8) (pid : Int32)
  | unregister (caller : Caller) (client : ClientId)
  | processMount (request : Patch.Request)
  | repatch (fsType : String) (inode : Inode)
  | reinstall (fsType : String)
  | releaseMount (fsType : String) (count : Nat)
  | restore (fsType : String)
  | purge
  | take (entry : Nat)
  | give (entry : Nat)
  | setSetting (caller : Caller) (name key value : String)
  | setDirect (caller : Caller) (component : Component) (key value : String)
  | switchFilter (caller : Caller) (on : Bool) (filter : FilterRef)
  | waitIdle (wait : Nat)
  | hookShutdown (wait : Nat)
  | shutdown

def Duty.call : Duty → Call Host Unit
  | errand work => work.call
  | walk mounts => walkMounts mounts
  | scan mount fromMount => discard (Host.processMount mount fromMount)
  | examine caller task event => discard (Host.examine caller task event).run
  | vet caller report task event group wait =>
      discard (Host.vet caller report task event group wait)
  | fetch client wait => discard (Host.fetch client wait)
  | respond client response => discard (Host.respond client response)
  | register caller name groups pid => discard (registerClient caller name groups pid)
  | unregister caller client => discard (unregisterClient caller client)
  | processMount request => discard (change (Patch.processMount request))
  | repatch fsType inode => discard (change (Patch.repatchWithRegular fsType inode))
  | reinstall fsType => discard (change (Patch.reinstall fsType))
  | releaseMount fsType count => discard (Host.releaseMount fsType count)
  | restore fsType => discard (Host.restore fsType)
  | purge => discard Host.purge
  | take entry => modify (takingUse entry)
  | give entry => modify (givingUse entry)
  | setSetting caller name key value =>
      modify fun host => host.orElse (Host.setSetting caller host name key value)
  | setDirect caller component key value =>
      modify fun host => host.orElse (Host.setDirect caller host component key value)
  | switchFilter caller on filter => modify fun host => Host.switchFilter caller host on filter
  | waitIdle wait => discard (Host.waitIdle wait)
  | hookShutdown wait => discard (Host.hookShutdown wait)
  | shutdown => discard Host.shutdown

/-- All duties are woven, but for those that take a use or give one back. -/
theorem duty_woven (duty : Duty) (whole : ∀ entry, duty ≠ .take entry ∧ duty ≠ .give entry) :
    Woven duty.call := by
  cases duty with
  | errand work =>
      cases work with
      | mount caller task device dir fsType flags =>
          exact woven_discard (knit_mount caller task device dir fsType flags)
      | umount caller task dir => exact woven_discard (knit_umount caller task dir)
      | openFile caller task path flags =>
          exact woven_discard (knit_openFile caller task path flags)
      | closeFile caller task file => exact woven_discard (knit_closeFile caller task file)
  | walk mounts => exact woven_walkMounts mounts
  | scan mount fromMount => exact woven_discard (woven_processMount mount fromMount)
  | examine caller task event => exact woven_discard (knit_examine caller task event)
  | vet caller report task event group wait =>
      exact woven_discard (.plain (.vet caller report task event group wait))
  | fetch client wait => exact woven_discard (woven_fetch client wait)
  | respond client response => exact woven_discard (.plain (.respond client response))
  | register caller name groups pid => exact woven_discard (woven_register caller name groups pid)
  | unregister caller client => exact woven_discard (woven_unregister caller client)
  | processMount request => exact woven_discard (woven_processMount_change request)
  | repatch fsType inode => exact woven_discard (woven_repatch_change fsType inode)
  | reinstall fsType => exact woven_discard (.change _ (.reinstall fsType) fun _ => rfl)
  | releaseMount fsType count => exact woven_discard (woven_releaseMount fsType count)
  | restore fsType => exact woven_discard (woven_restore fsType)
  | purge => exact woven_discard woven_purge
  | take entry => exact absurd rfl (whole entry).1
  | give entry => exact absurd rfl (whole entry).2
  | setSetting caller name key value =>
      exact woven_modify fun host => orElse_modest fun _ set => setSetting_modest set
  | setDirect caller component key value =>
      exact woven_modify (adjusting_modest caller component key value)
  | switchFilter caller on filter =>
      exact woven_modify fun host => switchFilter_modest caller host on filter
  | waitIdle wait => exact woven_discard (woven_waitIdle wait)
  | hookShutdown wait => exact woven_discard (woven_hookShutdown wait)
  | shutdown => exact woven_discard woven_shutdown

theorem duty_followed (duty : Duty) : Followed duty.call := by
  by_cases whole : ∀ entry, duty ≠ .take entry ∧ duty ≠ .give entry
  · exact woven_followed (duty_woven duty whole)
  · cases duty with
    | take entry => exact followed_modify (honest_taking entry)
    | give entry => exact followed_modify (honest_giving entry)
    | _ => exact absurd (fun _ => ⟨nofun, nofun⟩) whole

/-! ### Runs -/

/-- A host on which nothing has happened, so that every instrument reads zero. -/
structure Fresh (host : Host) : Prop where
  table : host.table = Table.empty
  vetting : ∃ enabled rules, host.vetting = Controller.ofRules enabled rules
  degraded : ∃ enabled threshold fallback interval,
    host.degraded = Degraded.ofSettings enabled threshold fallback interval

/-- A host with its account between two steps, and the calls that sleep. -/
structure Sighting where
  state : Host × Account
  sleepers : List (Bool → Host × Account → Run (Host × Account) Unit)

/-- What a step of a call leads to, next to the calls that sleep already. -/
def Sighting.after (sleepers : List (Bool → Host × Account → Run (Host × Account) Unit)) :
    Run (Host × Account) Unit → Sighting
  | .done state _ => ⟨state, sleepers⟩
  | .asleep state _ resume => ⟨state, sleepers ++ [resume]⟩

/-- What is seen at the moments of all runs from a host. Calls are made at any
time and followed in any way that accounts for them, sleepers wake in any order,
and in between the rest of the host becomes whatever it likes. -/
inductive Attains (first : Host) : Sighting → Prop
  | start : Attains first ⟨(first, Account.opened), []⟩
  | begin {sighting : Sighting} {noted : Call (Host × Account) Unit} (duty : Duty)
      (accounted : Accounted duty.call noted) (attained : Attains first sighting) :
      Attains first (Sighting.after sighting.sleepers (noted sighting.state))
  | wake {state : Host × Account} {resume : Bool → Host × Account → Run (Host × Account) Unit}
      {before after : List (Bool → Host × Account → Run (Host × Account) Unit)} (expired : Bool)
      (attained : Attains first ⟨state, before ++ resume :: after⟩) :
      Attains first (Sighting.after (before ++ after) (resume expired state))
  | aside {host later : Host} {account : Account}
      {sleepers : List (Bool → Host × Account → Run (Host × Account) Unit)}
      (table : later.table = host.table) (clients : later.vetting.clients = host.vetting.clients)
      (gauge : later.vetting.gauge = host.vetting.gauge)
      (outcomes : later.vetting.outcomes = host.vetting.outcomes)
      (stale : later.vetting.stale = host.vetting.stale)
      (degraded : later.degraded = host.degraded)
      (attained : Attains first ⟨(host, account), sleepers⟩) :
      Attains first ⟨(later, account), sleepers⟩

theorem after_state (sleepers : List (Bool → Host × Account → Run (Host × Account) Unit))
    (run : Run (Host × Account) Unit) : (Sighting.after sleepers run).state = run.state := by
  cases run <;> rfl

theorem attach_attained (first : Host) :
    ∃ account sleepers, Attains first ⟨(attach first, account), sleepers⟩ := by
  obtain ⟨noted, accounted⟩ := duty_followed (.walk (first.kernel.mounts.map (·.point)))
  have seen := Run.annotates_state _ (accounted_annotates accounted first Account.opened)
  have walked : Attains first _ := .begin _ accounted .start
  have left := after_state [] (noted (first, Account.opened))
  generalize Sighting.after _ _ = sighting at walked left
  obtain ⟨⟨host, account⟩, sleepers⟩ := sighting
  have same : attach first = { host with kernel.attached := true } := by
    rw [attach, Call.start]
    exact congrArg (fun later : Host => { later with kernel.attached := true })
      (seen.symm.trans (congrArg Prod.fst left.symm))
  rw [same]
  refine ⟨account, sleepers, .aside ?_ ?_ ?_ ?_ ?_ ?_ walked⟩
  all_goals rfl

/-- A service with its configuration is at a moment of a run from a fresh host:
it has walked the mounts and attached. -/
theorem ofConfig_attained {config : Config} {kernel : Kernel}
    (made : ofConfig config kernel = .ok host) :
    ∃ first account sleepers, Fresh first ∧ Attains first ⟨(host, account), sleepers⟩ := by
  obtain ⟨hook, vetting, _, vetted, rfl⟩ := ofConfig_made made
  obtain ⟨rules, rfl, _⟩ := controller_made vetted
  obtain ⟨account, sleepers, attained⟩ := attach_attained _
  exact ⟨_, account, sleepers,
    ⟨rfl, ⟨_, _, rfl⟩, config.degraded.enabled, config.degraded.threshold, config.degraded.fallback,
      config.degraded.probeInterval, rfl⟩, attained⟩

/-! ### What every run keeps -/

theorem fresh_truthful (fresh : Fresh host) : Truthful (host, Account.opened) := by
  obtain ⟨_, _, vetting⟩ := fresh.vetting
  obtain ⟨_, _, _, _, degraded⟩ := fresh.degraded
  constructor
  case shaped => exact fresh.table ▸ shaped_empty
  case clients => rw [vetting]; rfl
  case active => rw [degraded]; rfl
  case trips => rw [degraded]; rfl
  case stale => rw [vetting]; rfl
  case outcomes => rw [vetting]; rfl

/-- Whatever sleeps leaves truthful instruments truthful when it goes on. -/
structure Reliable (sighting : Sighting) : Prop where
  truthful : Truthful sighting.state
  sleepers : ∀ resume ∈ sighting.sleepers, ∀ expired state, Truthful state →
    Run.Meets Truthful (fun _ _ => True) (resume expired state)

theorem reliable_after {sleepers : List (Bool → Host × Account → Run (Host × Account) Unit)}
    {run : Run (Host × Account) Unit}
    (others : ∀ resume ∈ sleepers, ∀ expired state, Truthful state →
      Run.Meets Truthful (fun _ _ => True) (resume expired state))
    (met : Run.Meets Truthful (fun _ _ => True) run) : Reliable (Sighting.after sleepers run) := by
  cases run with
  | done state value => exact ⟨met.1, others⟩
  | asleep state sleep resume =>
      exact ⟨met.1, List.forall_mem_append.mpr ⟨others, List.forall_mem_singleton.mpr met.2⟩⟩

theorem attains_reliable {first : Host} (fresh : Fresh first) {sighting : Sighting}
    (attains : Attains first sighting) : Reliable sighting := by
  induction attains with
  | start => exact ⟨fresh_truthful fresh, by simp⟩
  | begin duty accounted attained reliable =>
      exact reliable_after reliable.sleepers (accounted_keeps accounted _ reliable.truthful)
  | wake expired attained reliable =>
      obtain ⟨earlier, rest⟩ := List.forall_mem_append.mp reliable.sleepers
      obtain ⟨own, later⟩ := List.forall_mem_cons.mp rest
      exact reliable_after (List.forall_mem_append.mpr ⟨earlier, later⟩)
        (own expired _ reliable.truthful)
  | aside table clients gauge outcomes stale degraded attained reliable =>
      exact ⟨truthful_aside reliable.truthful table clients gauge outcomes stale degraded,
        reliable.sleepers⟩

/-- Every call of a service can be accounted for, and accounting for it changes
nothing. At every moment of a run that starts afresh, the gauges show how many
types are patched, how many clients are registered and whether degraded mode is
on, and the counters how often it has come on, how many answers were refused and
how many vettings have returned. A service that its configuration has brought up
is at such a moment. -/
theorem instruments_agree {first : Host} (fresh : Fresh first) :
    (∀ duty : Duty, ∃ noted, Accounted duty.call noted) ∧
      (∀ (duty : Duty) noted, Accounted duty.call noted →
        ∀ host account, Run.Annotates (noted (host, account)) (duty.call host)) ∧
      (∀ host account sleepers, Attains first ⟨(host, account), sleepers⟩ →
        host.table.published = host.table.entries.length ∧
        host.vetting.gauge = host.vetting.clients.count ∧
        host.degraded.gauge = host.degraded.active.toNat ∧
        host.degraded.trips = account.trips ∧
        host.vetting.stale = account.refused ∧
        host.vetting.outcomes.total = account.returned) ∧
      ∀ config kernel host, ofConfig config kernel = .ok host →
        ∃ start account sleepers, Fresh start ∧ Attains start ⟨(host, account), sleepers⟩ := by
  refine ⟨duty_followed, fun _ _ => accounted_annotates, ?_, fun _ _ _ => ofConfig_attained⟩
  intro host account sleepers attained
  have truthful := (attains_reliable fresh attained).truthful
  exact ⟨truthful.shaped.published, truthful.clients, truthful.active, truthful.trips,
    truthful.stale, truthful.outcomes⟩

/-! A mount is processed, a vetting finds nobody, a client registers, an answer
comes too late and degraded mode is forced on. -/

def idleHost : Host := bare { Kernel.empty with memory := uniform }

def idleCaller : Caller := ⟨"main", none, false⟩

def idleTask : Personality := ⟨1, 1, 0, 0, 0, 0, "sh"⟩

theorem idleHost_fresh : Fresh idleHost :=
  ⟨rfl, ⟨_, _, rfl⟩, _, _, _, _, rfl⟩

theorem busy_run_agrees : ∃ host account sleepers,
    Attains idleHost ⟨(host, account), sleepers⟩ ∧ account = ⟨1, 1, 1⟩ ∧
      (host.table.entries.length = 1 ∧ host.table.published = 1) ∧
      (host.vetting.clients.count = 1 ∧ host.vetting.gauge = 1) ∧
      (host.degraded.active = true ∧ host.degraded.gauge = 1) ∧
      host.degraded.trips = 1 ∧ host.vetting.stale = 1 ∧ host.vetting.outcomes.total = 1 := by
  have mounted : Attains idleHost _ := .begin
    (.processMount ⟨"ext4", plainRoot, none, some plainFile, false, 1⟩)
    (.bind (.step _ (change_honest (upholding_processMount _))) fun _ => .pure ()) .start
  have vetted : Attains idleHost _ := .begin
    (.vet idleCaller Report.fresh idleTask (.filesystem ⟨.mount, "/dev/a", "/a", "ext4", 0, 1⟩) 3 5)
    (.bind (.vet ..) fun _ => .pure ()) mounted
  have registered : Attains idleHost _ := .begin (.register idleCaller "guard" 1 7)
    (.bind (.step _ (register_honest idleCaller "guard" 1 7)) fun _ => .pure ()) vetted
  have refused : Attains idleHost _ := .begin (.respond 1 ⟨9, .allow, none⟩)
    (.bind (.respond ..) fun _ => .pure ()) registered
  have forced : Attains idleHost _ := .begin (.setDirect idleCaller .degraded "active" "on")
    (.step _ (adjusting_honest idleCaller .degraded "active" "on")) refused
  obtain ⟨published, clients, active, trips, stale, outcomes⟩ :=
    (instruments_agree idleHost_fresh).2.2.1 _ _ _ forced
  exact ⟨_, _, _, forced, rfl, ⟨rfl, published⟩, ⟨rfl, clients⟩, ⟨rfl, active⟩, trips, stale, outcomes⟩

end Interception.Host

import Interception.Host.Threads
import Interception.Proofs.Host.Tracing
import Mathlib.Algebra.BigOperators.Group.List.Basic
import Mathlib.Algebra.Order.Group.Multiset

/-!
Entries that are taken out while calls use them. Whatever calls are made on a
service, however they overlap and whoever else takes entries and gives them
back, the references of every entry are those of the uses in flight. An entry
that is taken out waits aside with all that it had saved until its last use is
given back, and the calls that take entries out wait for just that.
-/

namespace Interception.Host

open Vetting Patch

variable {Value Result : Type} {host : Host} {custody : Custody}

/-! ### Calls that take entries out -/

/-- Where the run sleeps or ends, all that has left the table meanwhile is out of
use, but for what it waits for, as long as it takes. -/
def Patient : Custody → Run (Host × Custody) Value → Prop
  | start, .done state _ => ∀ mark ∈ state.2.left, mark ∈ start.left ∨ mark.1 ∉ state.2.uses
  | start, .asleep state sleep resume =>
      (∀ mark ∈ state.2.left,
        mark ∈ start.left ∨ mark.1 ∉ state.2.uses ∨ sleep = ⟨.drained mark.1, none⟩) ∧
      ∀ expired later, Secured later.1.table later.2 → Patient later.2 (resume expired later)

/-- A call that can be traced and leaves nothing behind that is in use. -/
def Heedful (call : Call Host Value) : Prop :=
  ∃ noted, Traced call noted ∧
    ∀ state, Secured state.1.table state.2 → Patient state.2 (noted state)

/-- The same of what goes on in the middle of a step that has taken out what is
`pending`. -/
def Waits (pending : Option Nat) (call : Call Host Value) : Prop :=
  ∃ noted, Traced call noted ∧ ∀ start state, Secured state.1.table state.2 →
    (∀ mark ∈ state.2.left, mark ∈ start.left ∨ mark.1 ∉ state.2.uses ∨ pending = some mark.1) →
      Patient start (noted state)

theorem waits_heedful {call : Call Host Value} (waits : Waits none call) : Heedful call := by
  obtain ⟨noted, traced, patient⟩ := waits
  exact ⟨noted, traced, fun state secured => patient state.2 state secured fun mark => .inl⟩

theorem waits_pure (value : Value) : Waits none (pure value : Call Host Value) := by
  refine ⟨_, .uninvolved fun _ => rfl, fun start state secured met mark member => ?_⟩
  simpa using met mark member

theorem waits_get {pending : Option Nat} {next : Host → Call Host Value}
    (rest : ∀ host, Waits pending (next host)) : Waits pending (get >>= next) := by
  choose noted traced patient using rest
  exact ⟨_, .bind (.uninvolved fun _ => rfl) traced, fun start state => patient state.1 start state⟩

theorem awaitDrained_uninvolved (id : Nat) : Uninvolved (awaitDrained id) := by
  intro host
  rw [awaitDrained, Call.get_bind]
  split
  · rfl
  · exact ⟨rfl, fun _ _ => rfl⟩

/-- Whoever waits for what it has taken out finds it out of use or sleeps. -/
theorem waits_drained {id : Nat} {next : Call Host Value} (rest : Waits none next) :
    Waits (some id) (awaitDrained id >>= fun _ => next) := by
  obtain ⟨noted, traced, patient⟩ := rest
  refine ⟨_, .bind (.uninvolved (awaitDrained_uninvolved id)) fun _ => traced,
    fun start state secured met => ?_⟩
  show Patient start ((Run.noting state.2 (awaitDrained id state.1)).bind fun _ later => noted later)
  rw [awaitDrained, Call.get_bind]
  cases drained : state.1.table.isDrained id with
  | true =>
      refine patient start state secured fun mark member => ?_
      rcases met mark member with old | unused | ⟨⟨⟩⟩
      · exact .inl old
      · exact .inr (.inl unused)
      · exact .inr (.inl ((departed_drained secured member).mp drained))
  | false =>
      refine ⟨fun mark member => ?_, fun expired later kept => ?_⟩
      · rcases met mark member with old | unused | ⟨⟨⟩⟩
        · exact .inl old
        · exact .inr (.inl unused)
        · exact .inr (.inr rfl)
      · exact patient later.2 later kept fun mark member => .inl member

/-- What a step of the table has taken out is pending. -/
theorem waits_change {change : Change Result} (step : Patch.Step)
    (leaves : ∀ world, (Change.on change world).2 = step.apply world)
    {named : Result → Option Nat} (naming : Naming named change)
    {next : Except PatchError Result → Call Host Value}
    (rest : ∀ answer, Waits (answer.toOption.bind named) (next answer)) :
    Waits none (Host.change change >>= next) := by
  choose noted traced patient using rest
  refine ⟨_, .bind (.change change step leaves) traced, fun start state secured met => ?_⟩
  have kept : Secured (step.apply state.1.world).table
      (state.2.enter state.1.table (step.apply state.1.world).table) :=
    secured_apply secured step
  rw [← leaves] at kept
  refine patient _ start (_, _) kept fun mark member => ?_
  rcases (enter_left state.2 mark).mp member with ⟨entry, gone, rfl⟩ | old
  · obtain ⟨value, answered, name⟩ := naming state.1.world secured.tidy entry gone
    refine .inr (.inr ?_)
    show (Change.on change state.1.world).1.toOption.bind named = some entry.id
    rw [answered]
    exact name
  · rcases met mark old with before | unused | impossible
    · exact .inl before
    · exact .inr (.inl unused)
    · cases impossible

theorem releaseMount_waits (fsType : String) (count : Nat) : Waits none (releaseMount fsType count) := by
  refine waits_change (.releaseMount fsType count) (fun _ => rfl)
    (naming_releaseMount fsType count) fun answer => ?_
  rcases answer with error | ⟨outcome, left⟩
  · exact waits_pure _
  · cases left with
    | none => exact waits_pure _
    | some entry => exact waits_drained (waits_pure _)

theorem restore_waits (fsType : String) : Waits none (restore fsType) := by
  refine waits_change (.restore fsType) (fun _ => rfl) (naming_restore fsType) fun answer => ?_
  rcases answer with error | ⟨result, entry⟩
  · exact waits_pure _
  · exact waits_drained (waits_pure _)

theorem purgeRounds_waits (rounds : Nat) : ∀ purged, Waits none (purgeRounds rounds purged) := by
  induction rounds with
  | zero => exact fun purged => waits_pure _
  | succ rounds further =>
      intro purged
      refine waits_change .purgeRound (fun _ => rfl) naming_purgeFirst fun answer => ?_
      rcases answer with error | left
      · exact waits_pure _
      · cases left with
        | none => exact waits_pure _
        | some entry => exact waits_drained (further _)

theorem purge_waits : Waits none purge := waits_get fun _ => purgeRounds_waits _ 0

/-! ### Runs -/

/-- A host with its custody between two steps, what others than its calls have in
use, and the calls that sleep. -/
structure Juncture where
  state : Host × Custody
  outside : Multiset Nat
  sleepers : List (Bool → Host × Custody → Run (Host × Custody) Unit)

/-- What a step of a call leads to, next to the calls that sleep already. -/
def Juncture.after (outside : Multiset Nat)
    (sleepers : List (Bool → Host × Custody → Run (Host × Custody) Unit)) :
    Run (Host × Custody) Unit → Juncture
  | .done state _ => ⟨state, outside, sleepers⟩
  | .asleep state _ resume => ⟨state, outside, sleepers ++ [resume]⟩

/-- The moments of all runs from a host. Calls are made at any time and traced in
any way, sleepers wake in any order, others take entries that are listed and
give back what they have, and in between the rest of the host becomes whatever
it likes. -/
inductive Proceeds (first : Host) : Juncture → Prop
  | start : Proceeds first ⟨(first, Custody.opened), 0, []⟩
  | begin {juncture : Juncture} {noted : Call (Host × Custody) Unit} (duty : Duty)
      (traced : Traced duty.call noted) (proceeds : Proceeds first juncture) :
      Proceeds first (Juncture.after juncture.outside juncture.sleepers (noted juncture.state))
  | wake {state : Host × Custody} {outside : Multiset Nat}
      {resume : Bool → Host × Custody → Run (Host × Custody) Unit}
      {before after : List (Bool → Host × Custody → Run (Host × Custody) Unit)} (expired : Bool)
      (proceeds : Proceeds first ⟨state, outside, before ++ resume :: after⟩) :
      Proceeds first (Juncture.after outside (before ++ after) (resume expired state))
  | take {host : Host} {custody : Custody} {outside : Multiset Nat}
      {sleepers : List (Bool → Host × Custody → Run (Host × Custody) Unit)} {id : Nat}
      (listed : id ∈ host.table.entries.map (·.id))
      (proceeds : Proceeds first ⟨(host, custody), outside, sleepers⟩) :
      Proceeds first ⟨(host.takingUse id, custody.take id), id ::ₘ outside, sleepers⟩
  | give {host : Host} {custody : Custody} {outside : Multiset Nat}
      {sleepers : List (Bool → Host × Custody → Run (Host × Custody) Unit)} {id : Nat}
      (proceeds : Proceeds first ⟨(host, custody), id ::ₘ outside, sleepers⟩) :
      Proceeds first ⟨(host.givingUse id, custody.give id), outside, sleepers⟩
  | aside {host later : Host} {custody : Custody} {outside : Multiset Nat}
      {sleepers : List (Bool → Host × Custody → Run (Host × Custody) Unit)}
      (table : later.table = host.table)
      (proceeds : Proceeds first ⟨(host, custody), outside, sleepers⟩) :
      Proceeds first ⟨(later, custody), outside, sleepers⟩

/-- A sleeper with what it has in use: when it goes on it gives that back. -/
def Holding (resume : Bool → Host × Custody → Run (Host × Custody) Unit) (held : Multiset Nat) :
    Prop :=
  ∀ expired later meanwhile, Secured later.1.table later.2 → later.2.uses = held + meanwhile →
    Carries 0 meanwhile (resume expired later)

/-- All that is in use is in use by a sleeper or by others. -/
def Reserved (juncture : Juncture) : Prop :=
  Secured juncture.state.1.table juncture.state.2 ∧
    ∃ helds, List.Forall₂ Holding juncture.sleepers helds ∧
      juncture.state.2.uses = helds.sum + juncture.outside

theorem reserved_after {outside : Multiset Nat}
    {sleepers : List (Bool → Host × Custody → Run (Host × Custody) Unit)} {helds : List (Multiset Nat)}
    (others : List.Forall₂ Holding sleepers helds) {run : Run (Host × Custody) Unit}
    (carries : Carries 0 (helds.sum + outside) run) : Reserved (Juncture.after outside sleepers run) := by
  cases run with
  | done state value =>
      exact ⟨carries.1, helds, others, carries.2.trans (Multiset.zero_add _)⟩
  | asleep state sleep resume =>
      obtain ⟨secured, held, uses, further⟩ := carries
      refine ⟨secured, helds ++ [held], List.rel_append others (.cons further .nil), ?_⟩
      show state.2.uses = (helds ++ [held]).sum + outside
      rw [uses, List.sum_append, List.sum_singleton, ← add_assoc, add_comm held]

/-- Any sleeper may be told from the others. -/
theorem holding_taken {resume : Bool → Host × Custody → Run (Host × Custody) Unit}
    {after : List (Bool → Host × Custody → Run (Host × Custody) Unit)} : ∀ before helds,
      List.Forall₂ Holding (before ++ resume :: after) helds → ∃ held rest, Holding resume held ∧
        List.Forall₂ Holding (before ++ after) rest ∧ helds.sum = held + rest.sum
  | [], _, .cons own others => ⟨_, _, own, others, List.sum_cons⟩
  | _ :: before, _, .cons first further => by
      obtain ⟨held, rest, own, others, sum⟩ := holding_taken before _ further
      refine ⟨held, _ :: rest, own, .cons first others, ?_⟩
      rw [List.sum_cons, sum, List.sum_cons, add_left_comm]

theorem proceeds_reserved {first : Host} (empty : first.table = Table.empty) {juncture : Juncture}
    (proceeds : Proceeds first juncture) : Reserved juncture := by
  induction proceeds with
  | start => exact ⟨empty ▸ secured_empty, [], .nil, rfl⟩
  | begin duty traced proceeds reserved =>
      obtain ⟨secured, helds, others, uses⟩ := reserved
      exact reserved_after others (traced_carries traced _ 0 _ secured (by rw [uses, zero_add]))
  | wake expired proceeds reserved =>
      obtain ⟨secured, helds, holding, uses⟩ := reserved
      obtain ⟨held, rest, own, others, sum⟩ := holding_taken _ helds holding
      exact reserved_after others (own expired _ _ secured (by rw [uses, sum, add_assoc]))
  | take listed proceeds reserved =>
      obtain ⟨secured, helds, others, uses⟩ := reserved
      obtain ⟨entry, inside, rfl⟩ := List.mem_map.mp listed
      refine ⟨secured_take secured inside, helds, others, ?_⟩
      show _ ::ₘ _ = _
      rw [uses, Multiset.add_cons]
  | @give host custody outside sleepers id proceeds reserved =>
      obtain ⟨secured, helds, others, uses⟩ := reserved
      have held : id ∈ custody.uses := by
        rw [uses]
        exact Multiset.mem_add.mpr (.inr (Multiset.mem_cons_self id outside))
      refine ⟨secured_give secured held, helds, others, ?_⟩
      show custody.uses.erase id = _
      rw [uses, Multiset.add_cons, Multiset.erase_cons_head]
  | aside table proceeds reserved =>
      obtain ⟨secured, helds, others, uses⟩ := reserved
      exact ⟨table ▸ secured, helds, others, uses⟩

/-- The references of an entry, whatever is done with it in whatever order, are
those of the uses in flight and the table's own, and the last one goes when the
entry is retired and out of use. Every call of a service can be traced, and
tracing it changes nothing. At every moment of a run the uses in flight of all
entries are those that calls and others have taken and not given back. An entry
that was taken out keeps what it had saved for as long as it is in use, and is
cleared with its last use; the calls that take entries out wait until then. -/
theorem uses_outlast_removal {first : Host} (empty : first.table = Table.empty) :
    (∀ id fsType hookDentries handlings,
      (Lent.handled ⟨Entry.fresh id fsType hookDentries, 0⟩ handlings).Reckons handlings) ∧
      (∀ duty : Duty, (∀ entry, duty ≠ .take entry ∧ duty ≠ .give entry) →
        ∃ noted, Traced duty.call noted) ∧
      (∀ (duty : Duty) noted, Traced duty.call noted →
        ∀ host custody, Run.Annotates (noted (host, custody)) (duty.call host)) ∧
      (∀ fsType count, Heedful (Host.releaseMount fsType count)) ∧
      (∀ fsType, Heedful (Host.restore fsType)) ∧ Heedful Host.purge ∧
      ∀ host custody outside sleepers, Proceeds first ⟨(host, custody), outside, sleepers⟩ →
        Vouched host.table custody ∧ ∀ mark ∈ custody.left, ∀ deadline,
          Threads.ready host ⟨.drained mark.1, deadline⟩ = true ↔ mark.1 ∉ custody.uses := by
  refine ⟨fun id fsType hookDentries handlings => ?_,
    fun duty whole => woven_traced (duty_woven duty whole), fun _ _ => traced_annotates,
    fun fsType count => waits_heedful (releaseMount_waits fsType count),
    fun fsType => waits_heedful (restore_waits fsType), waits_heedful purge_waits, ?_⟩
  · exact handled_reckons handlings (owed_fresh id fsType hookDentries) rfl
  intro host custody outside sleepers proceeds
  have secured := (proceeds_reserved empty proceeds).1
  exact ⟨secured_vouched secured, fun mark member deadline => departed_drained secured member⟩

/-! A type is hooked and taken out while somebody uses its entry: it waits aside
until that use is given back. -/

theorem restore_sleeps {fsType : String} {result : Except PatchError Nat} {id : Nat} {later : World}
    (left : Change.on (Patch.restore fsType) host.world = (.ok (result, id), later))
    (busy : later.table.isDrained id = false) (custody : Custody) :
    ∃ noted, Traced (Duty.restore fsType).call noted ∧ ∃ resume, noted (host, custody) =
      .asleep (host.inWorld later, custody.enter host.table later.table) ⟨.drained id, none⟩ resume := by
  refine ⟨_, .bind (.bind (.change _ (.restore fsType) fun _ => rfl) fun answer => .uninvolved ?_)
    fun _ => .uninvolved fun _ => rfl, ?_⟩
  · rcases answer with error | ⟨result, entry⟩
    · exact fun _ => rfl
    · exact fun host => Run.strides_bind (fun _ _ _ same => same) host (awaitDrained_uninvolved entry host)
  · have stepped : notingGone (fun host => ((Change.on (Patch.restore fsType) host.world).1,
        host.inWorld (Change.on (Patch.restore fsType) host.world).2)) (host, custody) =
          .done (host.inWorld later, custody.enter host.table later.table) (.ok (result, id)) := by
      show Run.done (host.inWorld (Change.on _ _).2, custody.enter host.table (Change.on _ _).2.table)
        (Change.on _ _).1 = _
      rw [left]
    have sleeping : awaitDrained id (host.inWorld later) = .asleep (host.inWorld later)
        ⟨.drained id, none⟩ fun _ later => .done later () := by
      rw [awaitDrained, Call.get_bind, if_neg]
      · rfl
      · exact Bool.eq_false_iff.mp busy
    rw [bind_assoc, Call.bind_done stepped]
    show ∃ resume, Run.bind _ (Run.noting _ (Run.bind _ (awaitDrained id (host.inWorld later)))) = _
    rw [sleeping]
    exact ⟨_, rfl⟩

def hooking : Patch.Request := ⟨"ext4", plainRoot, none, some plainFile, false, 1⟩

def busyHost : Host :=
  (idleHost.inWorld (Change.on (Patch.processMount hooking) idleHost.world).2).takingUse 0

theorem busyHost_reached : ∃ left, Proceeds idleHost ⟨(busyHost, ⟨{0}, left⟩), {0}, []⟩ := by
  have mounted : Proceeds idleHost _ := .begin (.processMount hooking)
    (.bind (.change _ (.processMount hooking) fun _ => rfl) fun _ => .uninvolved fun _ => rfl) .start
  exact ⟨_, .take (show 0 ∈ [0] by decide) mounted⟩

theorem used_entry_outlasts : ∃ host custody sleepers saved,
    Proceeds idleHost ⟨(host, custody), {0}, sleepers⟩ ∧
      Proceeds idleHost ⟨(host.givingUse 0, custody.give 0), 0, sleepers⟩ ∧
      (0, saved) ∈ custody.left ∧ sleepers.length = 1 ∧
      (∃ entry, host.table.byId? 0 = some entry ∧ entry.saved = saved) ∧
      host.table.isDrained 0 = false ∧ (host.givingUse 0).table.byId? 0 = none := by
  obtain ⟨old, busy⟩ := busyHost_reached
  obtain ⟨entry, before⟩ : ∃ entry, busyHost.table.entries = [entry] :=
    List.length_eq_one_iff.mp (by decide +kernel)
  have own : (busyHost.table.entries.map (·.id)) = [0] := by decide +kernel
  have answered : (Change.on (Patch.restore "ext4") busyHost.world).1.toOption.map Prod.snd = some 0 := by
    decide +kernel
  have after : (Change.on (Patch.restore "ext4") busyHost.world).2.table.entries = [] :=
    List.length_eq_zero_iff.mp (by decide +kernel)
  have waits : (Change.on (Patch.restore "ext4") busyHost.world).2.table.isDrained 0 = false := by
    decide +kernel
  cases ran : Change.on (Patch.restore "ext4") busyHost.world with
  | mk answer later =>
  rw [ran] at answered after waits
  dsimp only at after
  rcases answer with error | ⟨result, id⟩
  · cases answered
  obtain rfl : id = 0 := Option.some.inj answered
  obtain ⟨noted, traced, resume, sleeps⟩ := restore_sleeps ran waits ⟨{0}, old⟩
  have removed := Proceeds.begin (.restore "ext4") traced busy
  rw [sleeps] at removed
  change Proceeds idleHost ⟨(_, _), 0 ::ₘ 0, [resume]⟩ at removed
  have given : Proceeds idleHost _ := .give removed
  have departed : (0, entry.saved) ∈ (Custody.enter busyHost.table later.table ⟨{0}, old⟩).left := by
    rw [before] at own
    have number : entry.id = 0 := List.head_eq_of_cons_eq own
    exact (enter_left _ _).mpr (.inl ⟨entry, ⟨by simp [before], by simp [after]⟩, by rw [number]⟩)
  have vouched := ((uses_outlast_removal rfl).2.2.2.2.2.2 _ _ _ _ removed).1
  have cleared := ((uses_outlast_removal rfl).2.2.2.2.2.2 _ _ _ _ given).1
  have used : 0 ∈ (0 ::ₘ 0 : Multiset Nat) := Multiset.mem_cons_self 0 0
  have unused : 0 ∉ (0 ::ₘ 0 : Multiset Nat).erase 0 := by simp
  obtain ⟨found, there, _⟩ := vouched.used 0 used
  exact ⟨_, _, _, _, removed, given, departed, rfl,
    ⟨found, there, (vouched.unchanged _ departed found there).2⟩, waits,
    (cleared.cleared _ departed).mpr unused⟩

end Interception.Host

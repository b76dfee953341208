import Interception.Proofs.Host.Gauging
import Interception.Proofs.Patch.Custody

/-!
Calls with the custody of the entries beside the host. Whoever traces a call
notes each entry that it takes or gives back and each one that a step of the
table takes out, and has no part in what it does. As long as the others keep
their own uses, a call leaves custody and table in agreement whenever it sleeps,
and when it returns it has given back all that it took.
-/

namespace Interception.Host

open Vetting Patch

variable {Value Result : Type} {host : Host} {custody : Custody}

/-! ### Traces -/

/-- Keeps an entry in use and in custody, if there is one, while a call runs. -/
def custodial (entry : Option Nat) (call : Call (Host × Custody) Value) : Call (Host × Custody) Value :=
  match entry with
  | none => call
  | some id => do
      modify fun state => (state.1.takingUse id, state.2.take id)
      let value ← call
      modify fun state => (state.1.givingUse id, state.2.give id)
      return value

/-- Runs a call of which nothing is noted; what others note meanwhile stays. -/
def unnoted (call : Call Host Value) : Call (Host × Custody) Value :=
  fun state => Run.noting state.2 (call state.1)

/-- Takes a step and notes who has been taken out. -/
def notingGone (step : Host → Value × Host) : Call (Host × Custody) Value :=
  modifyGet fun state =>
    ((step state.1).1, (step state.1).2, state.2.enter state.1.table (step state.1).2.table)

/-- The patch table is as it was. -/
def Untouched (start state : Host) : Prop := state.table = start.table

/-- A call that has no part in the table. -/
def Uninvolved (call : Call Host Value) : Prop :=
  ∀ host, Run.Strides Untouched (fun start state _ => Untouched start state) host (call host)

/-- The call as one who has custody of the entries follows it. -/
inductive Traced : {Value : Type} → Call Host Value → Call (Host × Custody) Value → Prop
  | uninvolved {Value : Type} {call : Call Host Value} (uninvolved : Uninvolved call) :
      Traced call (unnoted call)
  | bind {Value Result : Type} {call : Call Host Value} {noted : Call (Host × Custody) Value}
      {next : Value → Call Host Result} {later : Value → Call (Host × Custody) Result}
      (first : Traced call noted) (rest : ∀ value, Traced (next value) (later value)) :
      Traced (call >>= next) (noted >>= later)
  | change {Value : Type} (change : Change Value) (step : Patch.Step)
      (leaves : ∀ world, (Change.on change world).2 = step.apply world) :
      Traced (Host.change change) (notingGone fun host =>
        ((Change.on change host.world).1, host.inWorld (Change.on change host.world).2))
  | hold {Value : Type} (entry : Host → Option Nat) {body : Host → Call Host Value}
      {noted : Host → Call (Host × Custody) Value}
      (listed : ∀ host id, entry host = some id → ∃ own ∈ host.table.entries, own.id = id)
      (inside : ∀ host, Traced (body host) (noted host)) :
      Traced (get >>= fun host => lending (entry host) (body host))
        (get >>= fun state => custodial (entry state.1) (noted state.1))

theorem plain_uninvolved {call : Call Host Value} (plain : Plain call) : Uninvolved call :=
  fun host => Run.strides_imp (fun _ _ apart => apart.table) (fun _ _ _ apart => apart.table) host
    (plain_strides plain host host (apart_refl host))

theorem woven_traced {call : Call Host Value} (woven : Woven call) : ∃ noted, Traced call noted := by
  induction woven with
  | plain plain => exact ⟨_, .uninvolved (plain_uninvolved plain)⟩
  | bind first rest firstTraced restTraced =>
      obtain ⟨noted, traced⟩ := firstTraced
      choose later tracedLater using restTraced
      exact ⟨_, .bind traced tracedLater⟩
  | kernel step stays => exact ⟨_, .uninvolved fun _ => rfl⟩
  | change change step leaves => exact ⟨_, .change change step leaves⟩
  | hold entry listed inside insideTraced =>
      choose noted traced using insideTraced
      exact ⟨_, .hold entry listed traced⟩

theorem custodial_annotates (entry : Option Nat) {call : Call Host Value}
    {noted : Call (Host × Custody) Value}
    (annotates : ∀ host custody, Run.Annotates (noted (host, custody)) (call host)) :
    ∀ host custody, Run.Annotates (custodial entry noted (host, custody)) (lending entry call host) := by
  cases entry with
  | none => exact annotates
  | some id =>
      intro host custody
      show Run.Annotates
        (Run.bind (fun value state => .done (state.1.givingUse id, state.2.give id) value)
          (noted (host.takingUse id, custody.take id)))
        (Run.bind (fun value later => .done (later.givingUse id) value) (call (host.takingUse id)))
      refine Run.annotates_bind ?_ _ (annotates _ _)
      exact fun _ _ _ => ⟨rfl, rfl⟩

/-- Who has custody sees what the call does and has no part in it. -/
theorem traced_annotates {call : Call Host Value} {noted : Call (Host × Custody) Value}
    (traced : Traced call noted) :
    ∀ host custody, Run.Annotates (noted (host, custody)) (call host) := by
  induction traced with
  | uninvolved uninvolved => exact fun host custody => Run.noting_annotates _ custody
  | bind first rest firstSeen restSeen =>
      exact fun host custody =>
        Run.annotates_bind (fun value state note => restSeen value state note) _ (firstSeen host custody)
  | change change step leaves => exact fun _ _ => ⟨rfl, rfl⟩
  | hold entry listed inside seen =>
      exact fun host custody => custodial_annotates (entry host) (seen host) host custody

/-! ### Uses -/

/-- The run leaves custody and table in agreement. While it sleeps it holds what
it has taken, whatever the others take or give back meanwhile, and at its end it
holds `mine`. -/
def Carries (mine : Multiset Nat) : Multiset Nat → Run (Host × Custody) Value → Prop
  | others, .done state _ => Secured state.1.table state.2 ∧ state.2.uses = mine + others
  | others, .asleep state _ resume =>
      Secured state.1.table state.2 ∧ ∃ held, state.2.uses = held + others ∧
        ∀ expired later meanwhile, Secured later.1.table later.2 → later.2.uses = held + meanwhile →
          Carries mine meanwhile (resume expired later)

theorem carries_bind {mine held : Multiset Nat} {run : Run (Host × Custody) Value}
    {next : Value → Host × Custody → Run (Host × Custody) Result}
    (second : ∀ value state others, Secured state.1.table state.2 → state.2.uses = held + others →
      Carries mine others (next value state)) :
    ∀ others, Carries held others run → Carries mine others (run.bind next) := by
  induction run with
  | done state value => exact fun others first => second value state others first.1 first.2
  | asleep state sleep resume resumed =>
      rintro others ⟨secured, own, uses, further⟩
      exact ⟨secured, own, uses, fun expired later meanwhile kept counts =>
        resumed expired later meanwhile (further expired later meanwhile kept counts)⟩

/-- Who leaves the table alone leaves it in agreement. -/
theorem uninvolved_carries {mine : Multiset Nat} {run : Run Host Value} :
    ∀ start custody others, Run.Strides Untouched (fun start state _ => Untouched start state) start run →
      Secured start.table custody → custody.uses = mine + others →
      Carries mine others (Run.noting custody run) := by
  induction run with
  | done state value =>
      intro start custody others same secured uses
      exact ⟨same.symm ▸ secured, uses⟩
  | asleep state sleep resume resumed =>
      intro start custody others strides secured uses
      refine ⟨strides.1.symm ▸ secured, mine, uses, ?_⟩
      exact fun expired later meanwhile kept counts =>
        resumed expired later.1 later.1 later.2 meanwhile (strides.2 expired later.1) kept counts

theorem custodial_carries {entry : Option Nat} {noted : Call (Host × Custody) Value}
    (listed : ∀ id, entry = some id → ∃ own ∈ host.table.entries, own.id = id)
    (inside : ∀ state mine others, Secured state.1.table state.2 → state.2.uses = mine + others →
      Carries mine others (noted state))
    {mine others : Multiset Nat} (secured : Secured host.table custody)
    (uses : custody.uses = mine + others) :
    Carries mine others (custodial entry noted (host, custody)) := by
  cases entry with
  | none => exact inside (host, custody) mine others secured uses
  | some id =>
      obtain ⟨own, member, rfl⟩ := listed id rfl
      have taken : (custody.take own.id).uses = (own.id ::ₘ mine) + others := by
        rw [Multiset.cons_add, ← uses]
        rfl
      show Carries mine others
        (Run.bind (fun value state => .done (state.1.givingUse own.id, state.2.give own.id) value)
          (noted (host.takingUse own.id, custody.take own.id)))
      refine carries_bind ?_ others (inside _ _ others (secured_take secured member) taken)
      intro value state others kept counts
      have held : own.id ∈ state.2.uses := by simp [counts]
      refine ⟨secured_give kept held, ?_⟩
      show state.2.uses.erase own.id = mine + others
      rw [counts, Multiset.cons_add, Multiset.erase_cons_head]

/-- Whatever a call has taken it gives back. -/
theorem traced_carries {call : Call Host Value} {noted : Call (Host × Custody) Value}
    (traced : Traced call noted) : ∀ (state : Host × Custody) (mine others : Multiset Nat),
      Secured state.1.table state.2 → state.2.uses = mine + others →
        Carries mine others (noted state) := by
  induction traced with
  | uninvolved uninvolved =>
      exact fun state mine others secured uses =>
        uninvolved_carries state.1 state.2 others (uninvolved state.1) secured uses
  | bind first rest firstCarries restCarries =>
      exact fun state mine others secured uses =>
        carries_bind (fun value later others => restCarries value later mine others) others
          (firstCarries state mine others secured uses)
  | change change step leaves =>
      intro state mine others secured uses
      have kept : Secured (step.apply state.1.world).table
          (state.2.enter state.1.table (step.apply state.1.world).table) :=
        secured_apply secured step
      rw [← leaves] at kept
      exact ⟨kept, uses⟩
  | hold entry listed inside carries =>
      exact fun state mine others secured uses =>
        custodial_carries (listed state.1) (carries state.1) secured uses

end Interception.Host

import Interception.Proofs.Settings.Reconfiguring
import Interception.Transport.Server

/-!
What a valid configuration promises. The service and the vetting server can be
made from it, whatever the service is set up on; and the limits that were checked
then hold for good, since every key that could break one checks it again.
-/

namespace Interception

/-- What validation asks of a configuration. -/
structure Config.Valid (config : Config) : Prop where
  hookOps : ∃ ops, opsOf config.hook.ops = .ok ops
  vettingOps : ∃ ops, opsOf config.vetting.ops = .ok ops
  timeout : 0 < config.vetting.timeout
  fsTimeout : 0 < config.vetting.fsTimeout
  defaultGroup : config.vetting.defaultGroup < Vetting.groupCount
  routing : ∃ rules, rulesOf config.vetting.routing = .ok rules
  threshold : 0 < config.degraded.threshold
  packets : Wire.smallestLimit ≤ config.transport.maxPacketSize ∧
    config.transport.maxPacketSize ≤ Wire.largestLimit
  attempts : 0 < config.transport.reconnect.maxAttempts

/-- Rules of vetting that wait for some time and name only groups there are. -/
structure Vetting.Rules.Legal (rules : Rules) : Prop where
  timeout : 0 < rules.timeout
  fsTimeout : 0 < rules.fsTimeout
  routing : ∀ rule ∈ rules.routing.rules, rule.group < groupCount
  defaultGroup : rules.routing.defaultGroup < groupCount

structure Host.Legal (host : Host) : Prop where
  rules : host.vetting.rules.Legal
  threshold : 1 ≤ host.degraded.threshold

/-- What a service is set up on: a kernel, and what walking its mounts makes of it
and of the patch table. -/
structure Collaborators where
  kernel : Kernel
  walk : Host → Kernel × Patch.Table

/-- The kernel in every part. -/
def Collaborators.ofKernel (kernel : Kernel) : Collaborators :=
  ⟨kernel, fun host => ((Host.attach host).kernel, (Host.attach host).table)⟩

namespace Host

/-- A service whose mounts have not been walked yet. -/
def unwalked (config : Config) (kernel : Kernel) (vetting : Vetting.Controller)
    (hook : HookSettings) : Host :=
  { bare kernel with
    hook, vetting, chain := serviceChain, policy := config.policy.onError
    log := ActionLog.ofEnabled config.policy.actionLog
    degraded := degradedOf config.degraded
    components := Component.all }

/-- The host after collaborators walked their mounts. -/
def walkedBy (host : Host) (collaborators : Collaborators) : Host :=
  { host with kernel := (collaborators.walk host).1, table := (collaborators.walk host).2 }

/-- The service of a configuration over collaborators of any kind. -/
def ofConfigOver (config : Config) (collaborators : Collaborators) : Except ConfigError Host := do
  config.validate
  let vetting ← Config.controller config.vetting
  let hook ← hookOf config.hook
  return (unwalked config collaborators.kernel vetting hook).walkedBy collaborators

end Host

/-- The vetting server of a configuration. -/
def Transport.Server.ofConfig (config : TransportConfig) : Except Wire.WireError Server :=
  (Wire.Codec.ofLimit config.maxPacketSize).map ofCodec

/-! ### Validation -/

section Results

variable {Error Value Result : Type} {answer : Except Error Value}

theorem bind_ok_iff {next : Value → Except Error Result} {result : Result} :
    (answer >>= next) = .ok result ↔ ∃ value, answer = .ok value ∧ next value = .ok result := by
  cases answer <;> simp [bind, Except.bind]

theorem discard_ok_iff {done : PUnit} :
    (discard answer : Except Error PUnit) = .ok done ↔ ∃ value, answer = .ok value := by
  cases answer <;> simp [discard, Functor.mapConst, Except.map]

end Results

namespace Config

variable {config : Config}

theorem require_ok_iff {condition : Bool} {error : ConfigError} {done : Unit} :
    require condition error = .ok done ↔ condition = true := by
  cases condition <;> simp [require]

theorem validate_ok_iff : config.validate = .ok () ↔ config.Valid := by
  simp only [validate, bind_ok_iff, discard_ok_iff, require_ok_iff, exists_const, Bool.and_eq_true,
    bne_iff_ne, decide_eq_true_eq, ← Nat.pos_iff_ne_zero]
  constructor
  · rintro ⟨hookOps, vettingOps, ⟨timeout, fsTimeout⟩, defaultGroup, routing, threshold, packets,
      attempts⟩
    exact ⟨hookOps, vettingOps, timeout, fsTimeout, defaultGroup, routing, threshold, packets,
      attempts⟩
  · intro valid
    exact ⟨valid.hookOps, valid.vettingOps, ⟨valid.timeout, valid.fsTimeout⟩, valid.defaultGroup,
      valid.routing, valid.threshold, valid.packets, valid.attempts⟩

theorem Valid.controller (valid : config.Valid) :
    ∃ vetting, Config.controller config.vetting = .ok vetting ∧ vetting.rules.Legal := by
  obtain ⟨rules, read⟩ := valid.routing
  obtain ⟨ops, named⟩ := valid.vettingOps
  have group : require (config.vetting.defaultGroup < Vetting.groupCount)
      (.groupRange config.vetting.defaultGroup) = .ok () :=
    require_ok_iff.mpr (decide_eq_true valid.defaultGroup)
  have made : Config.controller config.vetting = .ok (.ofRules config.vetting.enabled
      ⟨config.vetting.timeout, config.vetting.fsTimeout, config.vetting.timeoutDeny,
        config.vetting.interruptible, ops,
        ⟨rules, config.vetting.defaultGroup, config.vetting.unroutedAllow⟩,
        config.vetting.noClient⟩) := by
    rw [Config.controller, group, read, named]
    rfl
  refine ⟨_, made, valid.timeout, valid.fsTimeout, fun rule member => ?_, valid.defaultGroup⟩
  exact (Vetting.Controller.configured_allFit made rule member).group

theorem Valid.hookOf (valid : config.Valid) : ∃ hook, Host.hookOf config.hook = .ok hook := by
  obtain ⟨ops, named⟩ := valid.hookOps
  exact ⟨_, by rw [Host.hookOf, named]; rfl⟩

theorem Valid.server (valid : config.Valid) :
    ∃ server, Transport.Server.ofConfig config.transport = .ok server :=
  ⟨_, by rw [Transport.Server.ofConfig, Wire.Codec.ofLimit, if_pos valid.packets]; rfl⟩

theorem Valid.service (valid : config.Valid) (collaborators : Collaborators) :
    ∃ host, Host.ofConfigOver config collaborators = .ok host ∧
      host.components = Component.all ∧ host.Legal := by
  obtain ⟨vetting, controlled, legal⟩ := valid.controller
  obtain ⟨hook, hooked⟩ := valid.hookOf
  refine ⟨(Host.unwalked config collaborators.kernel vetting hook).walkedBy collaborators, ?_, rfl, ?_⟩
  · rw [Host.ofConfigOver, validate_ok_iff.mpr valid, controlled, hooked]
    rfl
  · exact ⟨legal, Nat.le_max_right ..⟩

end Config

/-! ### Walking the mounts -/

namespace Host

/-- Walking the mounts touches the kernel and the patch table only. -/
theorem walkMounts_done (mounts : List MountPoint) (host : Host) :
    ∃ kernel table, walkMounts mounts host = .done { host with kernel, table } () := by
  induction mounts generalizing host with
  | nil => exact ⟨host.kernel, host.table, rfl⟩
  | cons mount rest ih =>
      obtain ⟨kernel, table, answer, ran⟩ : ∃ kernel table answer,
          processMount mount false host = .done { host with kernel, table } answer := by
        rw [processMount, Call.get_bind]
        split
        · exact ⟨host.kernel, host.table, _, rfl⟩
        · rw [Call.bind_done (change_on _ host)]
          cases (Patch.Change.on (Patch.processMount (host.patchRequest mount false)) host.world).1 with
          | ok outcome => exact ⟨_, _, _, rfl⟩
          | error error => exact ⟨_, _, _, rfl⟩
      -- A mount that cannot be hooked is passed over, so the walk goes on either way.
      obtain ⟨finalKernel, finalTable, ranRest⟩ := ih { host with kernel, table }
      refine ⟨finalKernel, finalTable, ?_⟩
      show ((processMount mount false host).bind _).bind _ = _
      rw [ran]
      exact ranRest

theorem attach_apart (host : Host) :
    attach host = { host with kernel := (attach host).kernel, table := (attach host).table } := by
  obtain ⟨kernel, table, ran⟩ := walkMounts_done (host.kernel.mounts.map (·.point)) host
  rw [attach, Call.start, ran]
  rfl

theorem ofConfig_eq_over (config : Config) (kernel : Kernel) :
    ofConfig config kernel = ofConfigOver config (.ofKernel kernel) := by
  simp only [ofConfig, ofConfigOver, bind, Except.bind]
  cases config.validate with
  | error error => rfl
  | ok done =>
      cases Config.controller config.vetting with
      | error error => rfl
      | ok vetting =>
          cases hookOf config.hook with
          | error error => rfl
          | ok hook => exact congrArg Except.ok (attach_apart _)

end Host

/-! ### Writing keys -/

namespace Vetting

variable {rules later : Rules} {key value : String}

theorem Rules.Adjusts.legal (adjusts : rules.Adjusts value key later) (legal : rules.Legal) :
    later.Legal := by
  cases adjusts with
  | timeout read positive => exact { legal with timeout := positive }
  | fsTimeout read positive => exact { legal with fsTimeout := positive }
  | routing read =>
      exact { legal with
        routing := fun rule member => (RoutingTable.parseRules_fit read rule member).1.group }
  | defaultGroup read known => exact { legal with defaultGroup := known }
  | timeoutDeny | interruptible | ops | unroutedAllow | noClient => exact { legal with }

theorem Controller.Adjusts.legal {control after : Controller}
    (adjusts : control.Adjusts value key after) (legal : control.rules.Legal) :
    after.rules.Legal := by
  cases adjusts with
  | status => exact legal
  | rules adjusts => exact adjusts.legal legal

theorem Rules.Legal.route (legal : rules.Legal) {event : Event} {group : Nat}
    (routed : rules.routing.route event = .group group) : group < groupCount := by
  unfold RoutingTable.route at routed
  split at routed
  · rename_i rule found
    obtain rfl := Route.group.inj routed
    exact legal.routing rule (List.mem_of_find?_eq_some found)
  · split at routed
    · cases routed
    · obtain rfl := Route.group.inj routed
      exact legal.defaultGroup

end Vetting

theorem Degraded.leave_threshold (mode : Degraded) (reason : String) :
    (mode.leave reason).1.threshold = mode.threshold := by
  unfold leave
  split <;> rfl

theorem Degraded.setActive_threshold (mode : Degraded) (now : Nat) (active : Bool) :
    (mode.setActive now active).1.threshold = mode.threshold := by
  cases active with
  | true =>
      rw [setActive, if_pos rfl, enter]
      split <;> rfl
  | false => exact leave_threshold ..

theorem Degraded.Adjusts.threshold_pos {mode : Degraded} {now : Nat} {key value : String}
    {later : Degraded × List AuditRecord} (adjusts : mode.Adjusts now value key later)
    (positive : 1 ≤ mode.threshold) : 1 ≤ later.1.threshold := by
  cases adjusts with
  | enabled | fallback | probeInterval => exact positive
  | disabled => exact (leave_threshold ..).symm ▸ positive
  | threshold read above => exact above
  | active => exact (setActive_threshold ..).symm ▸ positive

namespace Host

variable {host later : Host} {caller : Caller} {component : Component} {key value : String}

theorem Adjusts.legal (adjusts : host.Adjusts caller key value component later)
    (legal : host.Legal) : later.Legal := by
  cases adjusts with
  | hook | actionLog => exact ⟨legal.rules, legal.threshold⟩
  | vetting adjusts => exact ⟨adjusts.legal legal.rules, legal.threshold⟩
  | degraded adjusts => exact ⟨legal.rules, adjusts.threshold_pos legal.threshold⟩

theorem Legal.written (legal : host.Legal) (write : Write) : (host.written write).Legal := by
  obtain same | ⟨component, -, adjusts⟩ := written_cases host write
  · exact same.symm ▸ legal
  · exact adjusts.legal legal

theorem Legal.rewritten (legal : host.Legal) (writes : List Write) :
    (host.rewritten writes).Legal := by
  induction writes generalizing host with
  | nil => exact legal
  | cons write rest ih => exact ih (legal.written write)

/-- The components of a service attach one after the other. -/
theorem attach_components (complete : host.components = Component.all) :
    Component.all.foldlM attachComponent { host with components := [] } = .ok host := by
  have attached : Component.all.foldlM attachComponent { host with components := [] } =
      .ok { host with components := Component.all } := rfl
  rw [attached, ← complete]

end Host

/-! ### What a valid configuration promises -/

/-- A valid configuration makes a vetting server, and a service over collaborators of
any kind. Whatever is written to the keys of that service, its vetting waits for some
time, degraded mode begins after some timeout, and no event is for a group that does
not exist. -/
theorem Config.validate_lasting {config : Config} (valid : config.validate = .ok ()) :
    (∃ server, Transport.Server.ofConfig config.transport = .ok server) ∧
    (∀ kernel, Host.ofConfig config kernel = Host.ofConfigOver config (.ofKernel kernel)) ∧
    ∀ collaborators, ∃ host, Host.ofConfigOver config collaborators = .ok host ∧
      Component.all.foldlM Host.attachComponent { host with components := [] } = .ok host ∧
      ∀ writes, (host.rewritten writes).Legal ∧
        ∀ event group, (host.rewritten writes).vetting.rules.routing.route event = .group group →
          group < Vetting.groupCount := by
  have checked := validate_ok_iff.mp valid
  refine ⟨checked.server, Host.ofConfig_eq_over config, fun collaborators => ?_⟩
  obtain ⟨host, made, components, legal⟩ := checked.service collaborators
  refine ⟨host, made, Host.attach_components components, fun writes => ?_⟩
  have kept := legal.rewritten writes
  exact ⟨kept, fun event group routed => kept.rules.route routed⟩

/-- One write that is taken and one that is refused, on the standard service. -/
theorem standard_lasting :
    Config.standard.validate = .ok () ∧
      ∃ host, Host.ofConfig Config.standard Kernel.standard = .ok host ∧
        (host.rewritten [⟨⟨"main", none, false⟩, "VettingController", "default-group", "7"⟩,
          ⟨⟨"main", none, false⟩, "VettingController", "default-group", "8"⟩]).Legal := by
  have valid : Config.standard.validate = .ok () := rfl
  obtain ⟨-, same, lasting⟩ := Config.validate_lasting valid
  obtain ⟨host, made, -, kept⟩ := lasting (.ofKernel Kernel.standard)
  exact ⟨valid, host, (same _).trans made, (kept _).1⟩

end Interception

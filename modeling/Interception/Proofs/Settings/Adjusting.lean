import Interception.Host.Settings
import Interception.Proofs.Vetting.RuleTexts

/-!
What the keys of the components are for. Each key has its own way to read a
value, and stands for one part of its component; degraded mode besides ends, and
forgets the timeouts it has counted, when it is turned off. A component takes a
value for a key exactly if the key reads it, and sets that part to it.
-/

namespace Interception

open Vetting (mapped_eq_ok)

/-- The hook interceptor after a value was taken for a key. -/
inductive HookSettings.Adjusts (settings : HookSettings) (value : String) :
    String → HookSettings → Prop
  | status {enabled : Bool} (word : Switch.parse? value = some enabled) :
      Adjusts settings value "status" { settings with enabled }
  | ops {ops : OperationSet} (read : settings.ops.apply value = .ok ops) :
      Adjusts settings value "ops" { settings with ops }
  | good {good : NameSet} (read : settings.good.apply value = .ok good) :
      Adjusts settings value "fs-good" { settings with good }
  | skip {skip : NameSet} (read : settings.skip.apply value = .ok skip) :
      Adjusts settings value "fs-ignore" { settings with skip }
  | noScan {noScan : NameSet} (read : settings.noScan.apply value = .ok noScan) :
      Adjusts settings value "no-scan" { settings with noScan }

/-- The rules of vetting after a value was taken for a key. -/
inductive Vetting.Rules.Adjusts (rules : Rules) (value : String) : String → Rules → Prop
  | timeout {timeout : Nat} (read : Duration.parse value = .ok timeout) (positive : 0 < timeout) :
      Adjusts rules value "timeout" { rules with timeout }
  | fsTimeout {fsTimeout : Nat} (read : Duration.parse value = .ok fsTimeout)
      (positive : 0 < fsTimeout) : Adjusts rules value "fs-timeout" { rules with fsTimeout }
  | timeoutDeny {timeoutDeny : Bool} (word : Switch.parse? value = some timeoutDeny) :
      Adjusts rules value "timeout-deny" { rules with timeoutDeny }
  | interruptible {interruptible : Bool} (word : Switch.parse? value = some interruptible) :
      Adjusts rules value "interruptible" { rules with interruptible }
  | ops {ops : OperationSet} (read : rules.ops.apply value = .ok ops) :
      Adjusts rules value "ops" { rules with ops }
  | routing {list : List RoutingRule} (read : RoutingTable.parseRules value = .ok list) :
      Adjusts rules value "routing" { rules with routing := { rules.routing with rules := list } }
  | defaultGroup {group : Nat}
      (read : Text.readNat Text.limit8 (Text.trim value) = .ok group) (known : group < groupCount) :
      Adjusts rules value "default-group"
        { rules with routing := { rules.routing with defaultGroup := group } }
  | unroutedAllow {allow : Bool} (word : Switch.parse? value = some allow) :
      Adjusts rules value "unrouted-allow"
        { rules with routing := { rules.routing with unroutedAllow := allow } }
  | noClient {noClient : NoClient} (word : NoClient.ofWord? value = some noClient) :
      Adjusts rules value "no-client" { rules with noClient }

/-- The vetting controller after a value was taken for a key. -/
inductive Vetting.Controller.Adjusts (control : Controller) (value : String) :
    String → Controller → Prop
  | status {enabled : Bool} (word : Switch.parse? value = some enabled) :
      Adjusts control value "status" { control with enabled }
  | rules {key : String} {rules : Rules} (adjusts : control.rules.Adjusts value key rules) :
      Adjusts control value key { control with rules }

/-- Degraded mode after a value was taken for a key, with the records of that. -/
inductive Degraded.Adjusts (mode : Degraded) (now : Nat) (value : String) :
    String → Degraded × List AuditRecord → Prop
  | enabled (word : Switch.parse? value = some true) : Adjusts mode now value "status" mode.enable
  | disabled (word : Switch.parse? value = some false) :
      Adjusts mode now value "status" mode.disable
  | threshold {threshold : Nat}
      (read : Text.readNat Text.limit32 (Text.trim value) = .ok threshold)
      (positive : 0 < threshold) : Adjusts mode now value "threshold" ({ mode with threshold }, [])
  | active {active : Bool} (word : Switch.parse? value = some active) :
      Adjusts mode now value "active" (mode.setActive now active)
  | fallback {fallback : Fallback} (word : Fallback.ofWord? value = some fallback) :
      Adjusts mode now value "fallback" ({ mode with fallback }, [])
  | probeInterval {probeInterval : Nat} (read : Duration.parse value = .ok probeInterval) :
      Adjusts mode now value "probe-interval" ({ mode with probeInterval }, [])

/-- The action log after a value was taken for a key. -/
inductive ActionLog.Adjusts (log : ActionLog) (value : String) : String → ActionLog → Prop
  | status {enabled : Bool} (word : Switch.parse? value = some enabled) :
      Adjusts log value "status" { log with enabled }

/-! ### Values -/

/-- A reader of numbers that turns zero down. -/
theorem positive_ok_iff {answer : Except Text.NumberError Nat} {zero : Refusal}
    {unread : Text.NumberError → Refusal} {number : Nat} :
    (match answer with
      | .ok 0 => .error zero
      | .ok number => .ok number
      | .error cause => .error (unread cause) : Except Refusal Nat) = .ok number ↔
        answer = .ok number ∧ 0 < number := by
  cases answer with
  | error cause => simp
  | ok read =>
      cases read with
      | zero =>
          simp only [Except.ok.injEq, reduceCtorEq, false_iff, not_and, Nat.not_lt]
          exact fun same => Nat.le_of_eq same.symm
      | succ less =>
          simp only [Except.ok.injEq]
          exact ⟨fun same => ⟨same, same ▸ Nat.succ_pos less⟩, And.left⟩

namespace Vetting.Controller

variable {value : String}

theorem parseTimeout_ok_iff {timeout : Nat} :
    parseTimeout value = .ok timeout ↔ Duration.parse value = .ok timeout ∧ 0 < timeout := by
  unfold parseTimeout
  generalize Duration.parse value = answer
  exact positive_ok_iff

theorem parseFlag_ok_iff {flag : Bool} :
    parseFlag value = .ok flag ↔ Switch.parse? value = some flag := by
  unfold parseFlag
  cases Switch.parse? value <;> simp

theorem parseGroup_ok_iff {group : Nat} :
    parseGroup value = .ok group ↔
      Text.readNat Text.limit8 (Text.trim value) = .ok group ∧ group < groupCount := by
  unfold parseGroup
  cases Text.readNat Text.limit8 (Text.trim value) with
  | error cause => simp
  | ok number =>
      simp only [Except.ok.injEq]
      split
      · rename_i known
        simp only [Except.ok.injEq]
        exact ⟨fun same => ⟨same, same ▸ known⟩, And.left⟩
      · rename_i unknown
        simp only [reduceCtorEq, false_iff, not_and]
        rintro rfl
        exact unknown

theorem parseRouting_ok_iff {table later : RoutingTable} :
    parseRouting table value = .ok later ↔
      ∃ list, RoutingTable.parseRules value = .ok list ∧ { table with rules := list } = later := by
  unfold parseRouting RoutingTable.setRules
  cases RoutingTable.parseRules value <;> simp [Except.map]

theorem parseNoClient_ok_iff {choice : NoClient} :
    parseNoClient value = .ok choice ↔ NoClient.ofWord? value = some choice := by
  unfold parseNoClient
  cases NoClient.ofWord? value <;> simp

end Vetting.Controller

theorem Degraded.parseThreshold_ok_iff {value : String} {threshold : Nat} :
    parseThreshold value = .ok threshold ↔
      Text.readNat Text.limit32 (Text.trim value) = .ok threshold ∧ 0 < threshold := by
  unfold parseThreshold
  generalize Text.readNat Text.limit32 (Text.trim value) = answer
  exact positive_ok_iff

/-! ### Keys -/

section Keys

variable {key value : String}

namespace HookSettings

variable {settings later : HookSettings}

theorem update_ok_iff :
    settings.update value key = some (.ok later) ↔ settings.Adjusts value key later := by
  constructor
  · intro updated
    unfold HookSettings.update at updated
    split at updated
    case h_1 =>
      cases word : Switch.parse? value with
      | none => simp [word] at updated
      | some enabled =>
          obtain rfl : { settings with enabled } = later := by
            cases enabled <;> simpa [word, enable, disable] using updated
          exact .status word
    case h_2 =>
      obtain ⟨ops, read, rfl⟩ := mapped_eq_ok (Option.some.inj updated)
      exact .ops read
    case h_3 =>
      obtain ⟨good, read, rfl⟩ := mapped_eq_ok (Option.some.inj updated)
      exact .good read
    case h_4 =>
      obtain ⟨skip, read, rfl⟩ := mapped_eq_ok (Option.some.inj updated)
      exact .skip read
    case h_5 =>
      obtain ⟨noScan, read, rfl⟩ := mapped_eq_ok (Option.some.inj updated)
      exact .noScan read
    case h_6 => cases updated
  · intro adjusts
    cases adjusts with
    | @status enabled word => cases enabled <;> simp [update, word, enable, disable]
    | ops read | good read | skip read | noScan read => simp [update, read, Except.map]

theorem set_ok_iff : settings.set key value = .ok later ↔ settings.Adjusts value key later := by
  rw [← update_ok_iff, HookSettings.set]
  by_cases locked : key = "fs-list"
  · subst locked
    simp [update]
  · rw [if_neg locked]
    split <;> simp_all

end HookSettings

namespace Vetting.Controller

variable {control later : Controller}

theorem updateRules_ok_iff {rules after : Rules} :
    updateRules rules value key = some (.ok after) ↔ rules.Adjusts value key after := by
  constructor
  · intro updated
    unfold updateRules at updated
    split at updated
    -- The last case is that of all other keys; the others map what was read into the rules.
    case h_10 => cases updated
    all_goals obtain ⟨found, read, rfl⟩ := mapped_eq_ok (Option.some.inj updated)
    case h_1 =>
      obtain ⟨span, positive⟩ := parseTimeout_ok_iff.mp read
      exact .timeout span positive
    case h_2 =>
      obtain ⟨span, positive⟩ := parseTimeout_ok_iff.mp read
      exact .fsTimeout span positive
    case h_3 => exact .timeoutDeny (parseFlag_ok_iff.mp read)
    case h_4 => exact .interruptible (parseFlag_ok_iff.mp read)
    case h_5 => exact .ops read
    case h_6 =>
      obtain ⟨list, listed, rfl⟩ := parseRouting_ok_iff.mp read
      exact .routing listed
    case h_7 =>
      obtain ⟨number, known⟩ := parseGroup_ok_iff.mp read
      exact .defaultGroup number known
    case h_8 => exact .unroutedAllow (parseFlag_ok_iff.mp read)
    case h_9 => exact .noClient (parseNoClient_ok_iff.mp read)
  · intro adjusts
    cases adjusts with
    | timeout read positive | fsTimeout read positive =>
        simp [updateRules, parseTimeout_ok_iff.mpr ⟨read, positive⟩, Except.map]
    | timeoutDeny word | interruptible word | unroutedAllow word =>
        simp [updateRules, parseFlag_ok_iff.mpr word, Except.map]
    | ops read => simp [updateRules, read, Except.map]
    | routing read => simp [updateRules, parseRouting_ok_iff.mpr ⟨_, read, rfl⟩, Except.map]
    | defaultGroup read known => simp [updateRules, parseGroup_ok_iff.mpr ⟨read, known⟩, Except.map]
    | noClient word => simp [updateRules, parseNoClient_ok_iff.mpr word, Except.map]

theorem set_ok_iff : control.set key value = .ok later ↔ control.Adjusts value key later := by
  constructor
  · intro set
    unfold Controller.set at set
    split at set
    · cases set
    · split at set
      · rename_i status
        subst status
        split at set
        · rename_i word
          obtain rfl := Except.ok.inj set
          exact .status word
        · cases set
      · split at set
        · rename_i updated
          obtain rfl := Except.ok.inj set
          exact .rules (updateRules_ok_iff.mp updated)
        · cases set
        · cases set
  · intro adjusts
    cases adjusts with
    | status word => simp [Controller.set, word]
    | rules adjusts =>
        have updated := updateRules_ok_iff.mpr adjusts
        -- Only with the key at hand is it seen to be neither locked nor the status.
        cases adjusts <;> simp [Controller.set, updated]

end Vetting.Controller

namespace Degraded

variable {mode : Degraded} {now : Nat} {later : Degraded × List AuditRecord}

theorem update_ok_iff :
    mode.update now value key = some (.ok later) ↔ mode.Adjusts now value key later := by
  constructor
  · intro updated
    unfold Degraded.update at updated
    split at updated
    case h_1 =>
      split at updated
      · rename_i word
        obtain rfl := Except.ok.inj (Option.some.inj updated)
        exact .enabled word
      · rename_i word
        obtain rfl := Except.ok.inj (Option.some.inj updated)
        exact .disabled word
      · cases Option.some.inj updated
    case h_2 =>
      obtain ⟨threshold, read, rfl⟩ := mapped_eq_ok (Option.some.inj updated)
      obtain ⟨number, positive⟩ := parseThreshold_ok_iff.mp read
      exact .threshold number positive
    case h_3 =>
      split at updated
      · rename_i word
        obtain rfl := Except.ok.inj (Option.some.inj updated)
        exact .active word
      · cases Option.some.inj updated
    case h_4 =>
      split at updated
      · rename_i word
        obtain rfl := Except.ok.inj (Option.some.inj updated)
        exact .fallback word
      · cases Option.some.inj updated
    case h_5 =>
      split at updated
      · rename_i read
        obtain rfl := Except.ok.inj (Option.some.inj updated)
        exact .probeInterval read
      · cases Option.some.inj updated
    case h_6 => cases updated
  · intro adjusts
    cases adjusts with
    | enabled word | disabled word | active word | fallback word => simp [update, word]
    | threshold read positive =>
        simp [update, parseThreshold_ok_iff.mpr ⟨read, positive⟩, Except.map]
    | probeInterval read => simp [update, read]

theorem set_ok_iff :
    mode.set now key value = .ok later ↔ mode.Adjusts now value key later := by
  rw [← update_ok_iff, Degraded.set]
  by_cases locked : key = "timeouts"
  · subst locked
    simp [update]
  · rw [if_neg locked]
    split <;> simp_all

end Degraded

theorem ActionLog.set_ok_iff {log later : ActionLog} :
    log.set key value = .ok later ↔ log.Adjusts value key later := by
  unfold ActionLog.set
  constructor
  · intro set
    split at set
    · rename_i status
      subst status
      split at set
      · rename_i word
        obtain rfl := Except.ok.inj set
        exact .status word
      · cases set
    · cases set
  · rintro ⟨word⟩
    simp [word]

end Keys

end Interception

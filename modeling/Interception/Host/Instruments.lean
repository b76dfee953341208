import Interception.Host.State

/-!
The instruments of the host as one exposition, families in the order of
their names. An instrument nobody has touched yet can be left out.
-/

namespace Interception.Host

structure Instrument where
  family : Family
  touched : Bool

def instruments (host : Host) : List Instrument := [
  ⟨.gauge "vfsguard_degraded_active" "1 while degraded mode is active" host.degraded.gauge,
    0 < host.degraded.trips⟩,
  ⟨.counter "vfsguard_degraded_trips_total" "Transitions into degraded mode"
    host.degraded.trips, 0 < host.degraded.trips⟩,
  ⟨.counters "vfsguard_hook_calls_total" "Hook invocations by hooked operation" ["hook"]
    host.hookCalls, true⟩,
  ⟨.counters "vfsguard_packets_rejected_total" "Packets rejected at the transport boundary"
    ["reason"] host.rejected, true⟩,
  ⟨.gauge "vfsguard_patched_filesystems"
    "Filesystem types currently present in the patch table" host.table.published,
    0 < host.table.nextId⟩,
  ⟨.counter "vfsguard_stale_responses_total"
    "Responses for unknown or already completed tickets" host.vetting.stale,
    0 < host.vetting.stale⟩,
  ⟨.counters "vfsguard_verdicts_total" "Final verdicts of the filter chain"
    ["action", "operation"] host.verdicts, true⟩,
  ⟨.gauge "vfsguard_vetting_clients" "Currently registered vetting clients"
    host.vetting.gauge, host.vetting.clients.nextId != 1⟩,
  ⟨.counters "vfsguard_vetting_total" "Vetting round trips by outcome" ["outcome"]
    host.vetting.outcomes, true⟩]

def exposition (host : Host) : List String :=
  host.instruments.flatMap (·.family.lines)

/-- The exposition of a process that shows an instrument once it is used. -/
def touchedExposition (host : Host) : List String :=
  (host.instruments.filter (·.touched)).flatMap (·.family.lines)

end Interception.Host

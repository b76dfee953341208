import Interception.Proofs.Filter.History
import Interception.Proofs.Host.Refusing

/-!
What the service does with an event while it is degraded. Either the processor
answers it at once and nothing but the action log takes notice, or the event is
a probe and goes to vetting like any other.
-/

namespace Interception

namespace Fallback

def report : Fallback → Report
  | allow => ⟨.allow, none, false, 0⟩
  | deny => ⟨.deny, some Errno.EACCES, false, 0⟩

def answer : Fallback → Except Errno Unit
  | allow => .ok ()
  | deny => .error Errno.EACCES

end Fallback

namespace Degraded

variable {mode : Degraded} {now : Nat}

/-- The processor is in the mode and leaves an event's report open. -/
def probes (mode : Degraded) (now : Nat) : Bool :=
  mode.active && !(mode.examine now Report.fresh).2.final

end Degraded

namespace Host

variable {host later : Host} {caller : Caller} {task : Personality} {event : Event}

/-- Neither the processor nor the clock has moved, and the chain is the same. -/
structure Still (host later : Host) : Prop where
  chain : later.chain = host.chain
  clock : later.clock = host.clock
  degraded : later.degraded = host.degraded

theorem Still.refl (host : Host) : Still host host := ⟨rfl, rfl, rfl⟩

theorem still_works (works : Works host later) : Still host later := by
  obtain ⟨vetting, tokens, scripted, rfl⟩ := works
  exact ⟨rfl, rfl, rfl⟩

/-- Nothing but the action log has taken notice. -/
def Noticed (host later : Host) : Prop := ∃ log trail, later = { host with log, trail }

/-- A filter that concludes at once and writes the action log at most. -/
def Discreet (filter : Filter (Call Host)) : Prop :=
  ∀ task event report decidedBy host, ∃ later,
    filter.conclude task event report decidedBy host = .done later () ∧ Noticed host later

theorem vetting_discreet (caller : Caller) : Discreet (vettingFilter caller) :=
  fun _ _ _ _ _ => ⟨_, rfl, _, _, rfl⟩

/-- What comes of a walk past the processor. -/
structure Passed (caller : Caller) (back : List (Filter (Call Host))) (start state : Host)
    (walked : Chain.Walked (Call Host)) : Prop where
  still : Still start state
  foreign : walked.decidedBy ≠ some Degraded.name
  seen : ∃ front, walked.seen = front ++ degradedFilter caller :: back ∧
    ∀ filter ∈ front, Discreet filter

theorem walk_passes (caller : Caller) (task : Personality) (event : Event)
    (back : List (Filter (Call Host))) (host : Host) :
    Run.Strides Still (Passed caller back) host
      (Chain.walk task event [vettingFilter caller] Report.fresh (degradedFilter caller :: back)
        host) := by
  have asked : (vettingFilter caller).enabled host = .done host host.vetting.enabled := rfl
  cases enabled : host.vetting.enabled with
  | false =>
      rw [walk_off _ _ _ (asked.trans (by rw [enabled]))]
      exact ⟨Still.refl host, by simp, [], rfl, by simp⟩
  | true =>
      rw [walk_vetting enabled]
      have vetted : Run.Strides Still (fun start state _ => Still start state) host
          (vetEvent caller task event Report.fresh host) :=
        Run.strides_imp (fun _ _ => still_works) (fun _ _ _ => still_works) host
          (vetEvent_works caller task event Report.fresh host host (Works.refl host))
      refine Run.strides_bind ?_ host vetted
      intro start state report still
      refine ⟨still, ?_, [vettingFilter caller], rfl, by simpa using vetting_discreet caller⟩
      simp only [lastWord]
      split_ifs <;> decide

end Host

end Interception

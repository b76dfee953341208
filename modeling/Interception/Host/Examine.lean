import Interception.Host.Rounds

/-!
The filters of the host and the examination of one event. The verdict is
counted, a filter's failure leaves an audit record, and the policy turns the
report into what the caller gets.
-/

namespace Interception.Host

def learn (caller : Caller) (change : Host → Host × List AuditRecord) : Call Host Unit :=
  modify fun host =>
    let (later, records) := change host
    later.note caller records

def actionLogFilter (caller : Caller) : Filter (Call Host) where
  name := ActionLog.name
  enabled := return (← get).log.enabled
  examine _ _ report := pure report
  conclude task event report _ := learn caller fun host =>
    let (log, records) := host.log.conclude report task event
    ({ host with log }, records)

def degradedFilter (caller : Caller) : Filter (Call Host) where
  name := Degraded.name
  enabled := return (← get).degraded.enabled
  examine _ _ report := modifyGet fun host =>
    let (degraded, after) := host.degraded.examine host.clock report
    (after, { host with degraded })
  conclude _ _ report decidedBy := learn caller fun host =>
    let (degraded, records) := host.degraded.conclude host.clock report decidedBy
    ({ host with degraded }, records)

def vettingFilter (caller : Caller) : Filter (Call Host) where
  name := Vetting.Controller.name
  enabled := return (← get).vetting.enabled
  examine task event report := vetEvent caller task event report
  conclude _ _ _ _ := pure ()

namespace Scripted

def examine (filter : Scripted) (report : Report) : Report :=
  let timed := report.recordTimeouts filter.timeouts
  let concluded := timed.conclude filter.action filter.code
  if filter.vetted then concluded.setVetted true else concluded

end Scripted

def modifyScripted (host : Host) (index : Nat) (change : Scripted → Scripted) : Host :=
  { host with scripted := host.scripted.modify index change }

def scriptedFilter (index : Nat) (filter : Scripted) : Filter (Call Host) where
  name := filter.name
  enabled := return ((← get).scripted[index]?.map Scripted.enabled).getD false
  examine _ _ report := do
    modify fun host =>
      host.modifyScripted index fun filter => { filter with seen := filter.seen + 1 }
    return Scripted.examine filter report
  conclude _ _ _ decidedBy :=
    modify fun host => host.modifyScripted index fun filter =>
      { filter with concluded := filter.concluded ++ [decidedBy] }

def filter? (host : Host) (caller : Caller) : FilterRef → Option (Filter (Call Host))
  | .actionLog => some (actionLogFilter caller)
  | .degraded => some (degradedFilter caller)
  | .vetting => some (vettingFilter caller)
  | .scripted index => host.scripted[index]?.map (scriptedFilter index)

def filters (host : Host) (caller : Caller) : List (Filter (Call Host)) :=
  host.chain.filterMap (host.filter? caller)

def filterNames (host : Host) : List String :=
  (host.filters ⟨"", none, false⟩).map (·.name)

/-- Appends a filter to the chain. -/
def addFilter (host : Host) (filter : FilterRef) : Host :=
  { host with chain := host.chain ++ [filter] }

def addScripted (host : Host) (filter : Scripted) : Host :=
  { host with scripted := host.scripted ++ [filter] }.addFilter (.scripted host.scripted.length)

def nameOf (host : Host) (filter : FilterRef) : String :=
  match host.filter? ⟨"", none, false⟩ filter with
  | some found => found.name
  | none => ""

/-- Removes every filter of a name; the answer says whether there was one. -/
def removeFilter (host : Host) (name : String) : Bool × Host :=
  let kept := host.chain.filter fun filter => host.nameOf filter != name
  (kept.length != host.chain.length, { host with chain := kept })

/-- The latest scripted filter of a name. -/
def scripted? (host : Host) (name : String) : Option Nat :=
  (List.range host.scripted.length).reverse.find? fun index =>
    (host.scripted[index]?.map Scripted.name) == some name

def filterNamed? (host : Host) (name : String) : Option FilterRef :=
  if name = Degraded.name then some .degraded
  else if name = ActionLog.name then some .actionLog
  else if name = Vetting.Controller.name ∧ host.chain.contains .vetting then some .vetting
  else (host.scripted? name).map .scripted

/-- Turns a filter on or off. Degraded mode does not outlive its filter. -/
def switchFilter (caller : Caller) (host : Host) (on : Bool) : FilterRef → Host
  | .actionLog => { host with log.enabled := on }
  | .degraded =>
      let (degraded, records) := if on then host.degraded.enable else host.degraded.disable
      { host with degraded }.note caller records
  | .vetting => { host with vetting.enabled := on }
  | .scripted index => host.modifyScripted index fun filter => { filter with enabled := on }

def evaluate (caller : Caller) (task : Personality) (event : Event) : Call Host Report := do
  Chain.evaluate ((← get).filters caller) task event

/-- Counts a verdict, and records a filter's failure. -/
def countVerdict (caller : Caller) (task : Personality) (event : Event) (report : Report)
    (host : Host) : Host :=
  let counted := { host with
    verdicts := host.verdicts.bump [report.action.name, event.operation.name] }
  if report.action = .error then counted.note caller [.filterError task event report.action]
  else counted

/-- Evaluates an event and enforces the verdict. -/
def examine (caller : Caller) (task : Personality) (event : Event) : Syscall Host Unit := do
  let report ← (ExceptT.lift (evaluate caller task event) : Syscall Host Report)
  modify (countVerdict caller task event report)
  match Chain.decide (← get).policy report with
  | .ok () => return ()
  | .error errno => throw errno

end Interception.Host

import Interception.Text.Blank

/-!
On-off settings: five words for each side, two for the report.
-/

namespace Interception.Switch

def onWords : List String := ["enable", "enabled", "on", "true", "1"]

def offWords : List String := ["disable", "disabled", "off", "false", "0"]

def parse? (text : String) : Option Bool :=
  let word := Text.trim text
  if word ∈ onWords then some true
  else if word ∈ offWords then some false
  else none

def render (enabled : Bool) : String :=
  if enabled then "enabled" else "disabled"

end Interception.Switch

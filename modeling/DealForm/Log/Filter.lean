import DealForm.Log.Directive

/-!
# Log filters

Which events are written. A filter is a list of directives; for an event the directive that says
most about it decides. A filter can be read from a text, and there is one for every level.
-/

namespace DealForm

structure LogFilter where
  directives : List Directive
  deriving DecidableEq, Repr

namespace Directive

def isAbout (d : Directive) (e : LogEvent) : Bool :=
  d.target.all (fun target ↦ target.toList.isPrefixOf e.target.toList) &&
    d.fields.all (LogEvent.fields.contains ·)

/-- How much of the name of a part a directive gives; nothing is less than an empty name. -/
def targetLength (d : Directive) : Nat :=
  (d.target.map (·.length + 1)).getD 0

/-- The directive says no less than another about an event that both speak of. -/
def saysAsMuch (d other : Directive) : Bool :=
  other.targetLength < d.targetLength ||
    (other.targetLength == d.targetLength && other.fields.length ≤ d.fields.length)

end Directive

namespace LogFilter

/-- The later directive takes the place of an earlier one that says no more. -/
def decisive (e : LogEvent) (best : Option Directive) (d : Directive) : Option Directive :=
  if d.isAbout e && best.all d.saysAsMuch then some d else best

def directive? (f : LogFilter) (e : LogEvent) : Option Directive :=
  f.directives.foldl (decisive e) none

def admits (f : LogFilter) (e : LogEvent) : Bool :=
  match (f.directive? e).bind Directive.threshold with
  | none => false
  | some level => level.severity ≤ e.level.severity

def ofLevel (level : LogLevel) : LogFilter :=
  ⟨[{ threshold := some level }]⟩

/-- The filter that a text describes. A text without directives lets errors pass. -/
def parse (text : String) : Except FilterFault LogFilter := do
  let parts := (Text.splitAt ',' text.toList).filter (!·.isEmpty)
  if parts.isEmpty then return ofLevel .error
  else return ⟨(← parts.mapM Directive.parse).reduceOption⟩

end LogFilter

end DealForm

import DealForm.Log.Filter
import DealForm.Text.Shown

/-!
# Lines of a log

An event as it is written to the log file: when, how grave, from which part, and its text. Controls
that a terminal would act on are written out.
-/

namespace DealForm

namespace LogLine

def escapeChar (c : Char) : List Char :=
  if c.toNat = 0x1B || c.toNat = 0x7F || c.toNat = 7 || c.toNat = 8 || c.toNat = 0xC then
    ['\\', 'x', Text.hexDigit (c.toNat / 16), Text.hexDigit (c.toNat % 16)]
  else if 0x80 ≤ c.toNat && c.toNat ≤ 0x9F then
    ['\\', 'u', '{'] ++ Text.hexNat c.toNat ++ ['}']
  else [c]

def escape (message : String) : String :=
  String.ofList (message.toList.flatMap escapeChar)

/-- Levels stand in five columns. -/
def paddedLabel (level : LogLevel) : String :=
  String.ofList (List.replicate (5 - level.label.length) ' ') ++ level.label

def ofEvent (time : String) (e : LogEvent) : String :=
  time ++ " " ++ paddedLabel e.level ++ " " ++ e.target ++ ": " ++ escape e.message ++ "\n"

end LogLine

def LogFilter.lines (f : LogFilter) (time : String) (events : List LogEvent) : String :=
  String.join ((events.filter f.admits).map (LogLine.ofEvent time))

end DealForm

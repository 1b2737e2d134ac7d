import Assist370.Registry
import Assist370.Text

/-!
# Statistics of the assists

A report shows how often the assists of one class were called and how often they completed, the
busiest first. Assists that were never called are counted but not listed.
-/

namespace Assist370

/-- The part of the calls that completed, as a percentage rounded down. Without a call it is all of
them. -/
def ratio (calls hits : Nat) : Nat :=
  if calls = 0 then 100 else hits * 100 / calls

/-- The counters and switches of one assist at some moment. -/
structure AssistStatistic where
  assist : Assist
  calls : Nat
  hits : Nat
  enabled : Bool
  debug : Bool
  deriving DecidableEq, Repr

namespace AssistStatistic

/-- The part of the calls that completed. -/
def ratio (statistic : AssistStatistic) : Nat :=
  Assist370.ratio statistic.calls statistic.hits

/-- The sign that marks an assist in a report: not performed, switched off, or debugged. -/
def marker (statistic : AssistStatistic) : Option Char :=
  if !statistic.assist.isSupported then
    some '*'
  else if !statistic.enabled then
    some '-'
  else if statistic.debug then
    some '%'
  else
    none

/-- The sum of a counter over statistics. -/
def total (counter : AssistStatistic → Nat) : List AssistStatistic → Nat
  | [] => 0
  | statistic :: statistics => counter statistic + total counter statistics

end AssistStatistic

/-- The statistics of one class of assists. -/
structure StatisticsReport where
  family : AssistClass
  /-- The assists listed. -/
  entries : List AssistStatistic
  /-- The number of assists left out because nobody called them. -/
  notShown : Nat
  deriving DecidableEq, Repr

namespace Registry

/-- The counters and switches of one assist. -/
def statistic (registry : Registry) (assist : Assist) : AssistStatistic :=
  let entry := registry.entry assist
  { assist
    calls := entry.calls
    hits := entry.hits
    enabled := entry.enabled
    debug := entry.debug }

/-- The statistics of one class, the busiest assist first and equally busy ones in the order of the
registry. -/
def statistics (registry : Registry) (family : AssistClass) : StatisticsReport :=
  let members := (Assist.all.filter fun assist => assist.family == family).map registry.statistic
  { family
    entries := (members.filter fun statistic => statistic.calls != 0).mergeSort
      fun left right => decide (right.calls ≤ left.calls)
    notShown := members.countP fun statistic => statistic.calls == 0 }

end Registry

namespace StatisticsReport

/-- The calls of all listed assists. -/
def totalCalls (report : StatisticsReport) : Nat :=
  AssistStatistic.total AssistStatistic.calls report.entries

/-- The completions of all listed assists. -/
def totalHits (report : StatisticsReport) : Nat :=
  AssistStatistic.total AssistStatistic.hits report.entries

/-- The calls of listed assists that the facility does not perform. -/
def unsupportedCalls (report : StatisticsReport) : Nat :=
  AssistStatistic.total AssistStatistic.calls
    (report.entries.filter fun entry => !entry.assist.isSupported)

/-- The line between the parts of the table. -/
def separator : String :=
  "+-----------+----------+----------+-------+"

/-- A line of the table with counters, under a title of nine characters. -/
def counterLine (title : String) (calls hits : Nat) : String :=
  "| " ++ title ++ " | " ++ Text.atRight 8 (toString calls) ++ " | " ++
    Text.atRight 8 (toString hits) ++ " | " ++ Text.atRight 4 (toString (ratio calls hits)) ++
    "% |"

/-- The line of one assist. -/
def entryLine (entry : AssistStatistic) : String :=
  counterLine (Text.atLeft 8 entry.assist.name ++ String.singleton (entry.marker.getD ' '))
    entry.calls entry.hits

/-- The explanation of the marks, if there are any. -/
def legend (report : StatisticsReport) : List String :=
  if report.entries.any fun entry => entry.marker.isSome then
    ["* : Unsupported, - : Disabled, % : Debug"]
  else
    []

/-- What is said of assists that were left out. -/
def notShownNote (report : StatisticsReport) : List String :=
  if report.notShown = 0 then
    []
  else
    [toString report.notShown ++ " entries not shown (never invoked)"]

/-- What is said of calls that could not be performed. -/
def unsupportedNote (report : StatisticsReport) : List String :=
  match report.unsupportedCalls with
  | 0 => []
  | 1 => ["1 call was made to an unsupported function"]
  | calls => [toString calls ++ " calls were made to unsupported functions"]

/-- The lines of the report. -/
def lines (report : StatisticsReport) : List String :=
  [separator,
    "| " ++ Text.atLeft 9 report.family.name ++ " | " ++ Text.atLeft 8 "Calls" ++ " | " ++
      Text.atLeft 8 "Hits" ++ " | " ++ Text.atLeft 5 "Ratio" ++ " |",
    separator] ++
  report.entries.map entryLine ++
  [separator,
    counterLine (Text.atLeft 9 "Total") report.totalCalls report.totalHits,
    separator] ++
  report.legend ++ report.notShownNote ++ report.unsupportedNote

/-- The report as text, every line ended. -/
def text (report : StatisticsReport) : String :=
  String.join (report.lines.map fun line => line ++ "\n")

end StatisticsReport

end Assist370

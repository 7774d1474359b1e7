import HostSurvey.Value.Basic
import HostSurvey.Number.Decimal
import HostSurvey.Text.Quote

/-!
The written forms of values: the *representation*, which quotes texts and is what a value shows
inside a list or a mapping, and the *display*, which is a text itself and the representation of
every other value.
-/

namespace HostSurvey

namespace Value

def twoDigits (n : Nat) : String := String.ofList (paddedDigits 2 n)

/-- The representation of a value inside containers; `around` tells, innermost first, which
of them are mappings, so that a reference to one is written as an ellipsis in its brackets. -/
def reprAt (around : List Bool) : Value → String
  | .null => "None"
  | .bool b => if b then "True" else "False"
  | .int n => toString n
  | .float x => Float.shortText x
  | .str s => quote s
  | .bytes bs => quoteBytes bs
  | .list xs =>
    "[" ++ String.intercalate ", " (xs.attach.map fun ⟨x, _⟩ => reprAt (false :: around) x) ++ "]"
  | .dict es =>
    "\x7b" ++ String.intercalate ", " (es.attach.map fun ⟨e, _⟩ =>
      reprAt (true :: around) e.1 ++ ": " ++ reprAt (true :: around) e.2) ++ "\x7d"
  | .set xs =>
    if xs.isEmpty then "set()"
    else "\x7b" ++ String.intercalate ", " (xs.attach.map fun ⟨x, _⟩ => reprAt around x) ++ "\x7d"
  | .date d => s!"datetime.date({d.year}, {d.month}, {d.day})"
  | .stamp t => s!"datetime.datetime({t.date.year}, {t.date.month}, {t.date.day}, {t.hour}, {t.minute})"
  | .backRef n => if around[n]? = some true then "\x7b...\x7d" else "[...]"
termination_by v => sizeOf v
decreasing_by
  all_goals simp_wf
  · have := List.sizeOf_lt_of_mem ‹_›; omega
  · rename_i h; have := List.sizeOf_lt_of_mem h
    cases e; simp_all; omega
  · rename_i h; have := List.sizeOf_lt_of_mem h
    cases e; simp_all; omega
  · have := List.sizeOf_lt_of_mem ‹_›; omega

def reprText (v : Value) : String := reprAt [] v

/-- The display of a value: a text as it is, a date in its calendar form, and every other value
as its representation. -/
def displayText : Value → String
  | .str s => s
  | .date d => s!"{d.year}-{twoDigits d.month}-{twoDigits d.day}"
  | v => v.reprText

end Value

theorem Value.displayText_text (s : String) : (Value.str s).displayText = s := rfl

end HostSurvey

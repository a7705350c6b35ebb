import SM83.Logging.RecordFilter
import SM83.TraceTool.Basic

/-!
The trace tool as it is started: a filter decides which records are shown, one on a line, and a
failure is laid out with what lies behind it in a paragraph of its own.
-/

namespace SM83.TraceTool

open Logging (FilterFault RecordFilter)

def recordLine (record : Record) : String :=
  "[" ++ record.level.text ++ " " ++ record.component ++ "] " ++ record.message

def failureText (message : String) : Option String → String
  | none => message
  | some cause => message ++ "\n\nCaused by:\n    " ++ cause

def warning (fault : FilterFault) : String := "warning: " ++ fault.message ++ ", ignoring it"

def consoleOf (filter : String) : Console :=
  let (filter, faults) := RecordFilter.read filter
  { notices := faults.map warning
    shown := fun record =>
      if filter.shows record.component record.level record.message then [recordLine record] else []
    describe := failureText }

theorem consoleOf_leads (filter : String) : (consoleOf filter).LeadsWithMessage := by
  intro message cause
  cases cause with
  | none => exact ⟨"", String.append_empty.symm⟩
  | some cause => exact ⟨"\n\nCaused by:\n    " ++ cause, String.append_assoc⟩

/-- The whole tool: the filter is read before the command line, and warnings about it come first. -/
def answer {m : Type → Type} [Monad m] (readFile : String → m (Except String (List UInt8)))
    (filter : String) (arguments : List String) : m Report :=
  perform (consoleOf filter) readFile arguments

end SM83.TraceTool

import SM83.Event
import SM83.Logging.Pattern.Read
import SM83.Logging.Pattern.Regex.Search

/-!
Which records are shown. A filter is written as directives with commas between them. A directive is
a level, a component, or both with an equals sign between them. Behind a slash may stand a pattern
that the message of a record must match somewhere. The trace tool is handed the filter from outside
and would run with any other.
-/

namespace SM83.Logging

abbrev Threshold := Option Level

namespace Threshold

def all : Threshold := some .trace

def ofName? (name : String) : Option Threshold :=
  match name.toLower with
  | "off" => some none
  | "error" => some (some .error)
  | "warn" => some (some .warn)
  | "info" => some (some .info)
  | "debug" => some (some .debug)
  | "trace" => some (some .trace)
  | _ => none

def rank : Level → Nat
  | .error => 1
  | .warn => 2
  | .info => 3
  | .debug => 4
  | .trace => 5

/-- A level is shown if the threshold is that level or a lesser one. -/
def shows (threshold : Threshold) (level : Level) : Bool :=
  threshold.any fun last => rank level ≤ rank last

end Threshold

structure Directive where
  component : Option String
  threshold : Threshold

/-- What a filter cannot make use of: more than one slash, no directive or no level in one, no
pattern. -/
inductive FilterFault where
  | slashes (filter : String)
  | directive (text : String)
  | pattern (text : String) (fault : Pattern.Fault)

def FilterFault.message : FilterFault → String
  | slashes filter => "invalid logging spec '" ++ filter ++ "' (too many '/'s)"
  | directive text => "invalid logging spec '" ++ text ++ "'"
  | pattern text fault => "invalid regex filter - " ++ fault.message text

structure RecordFilter where
  directives : List Directive
  pattern : Option Pattern.Regex

namespace Directive

/-- Reads a directive. A component without a level shows everything. -/
def read (text : String) : Except FilterFault Directive :=
  match Text.split '=' text with
  | [name] =>
    match Threshold.ofName? name with
    | some threshold => .ok ⟨none, threshold⟩
    | none => .ok ⟨some name, .all⟩
  | [name, level] =>
    let level := Text.trim level
    if level.isEmpty then .ok ⟨some name, .all⟩
    else
      match Threshold.ofName? level with
      | some threshold => .ok ⟨some name, threshold⟩
      | none => .error (.directive level)
  | _ => .error (.directive text)

/-- A directive takes the place of one for the same component. -/
def insert (directive : Directive) : List Directive → List Directive
  | [] => [directive]
  | other :: rest =>
    if other.component = directive.component then directive :: rest
    else other :: insert directive rest

def stem (directive : Directive) : String := directive.component.getD ""

def appliesTo (directive : Directive) (component : String) : Bool :=
  directive.stem.toList.isPrefixOf component.toList

/-- The directive that decides about a component: the one with the longest stem, the later of two as
long. -/
def decisive (component : String) (directives : List Directive) : Option Directive :=
  directives.foldl (fun best directive =>
    if directive.appliesTo component &&
        best.all (·.stem.utf8ByteSize ≤ directive.stem.utf8ByteSize) then some directive
    else best) none

end Directive

namespace RecordFilter

/-- Reads directives between commas and blanks. What is no directive is a fault of its own; the
others count. -/
def readDirectives (text : String) : List Directive × List FilterFault :=
  ((Text.split ',' text).map Text.trim).foldl (fun (directives, faults) part =>
    if part.isEmpty then (directives, faults)
    else
      match Directive.read part with
      | .ok directive => (directive.insert directives, faults)
      | .error fault => (directives, faults ++ [fault])) ([], [])

/-- A filter without directives shows errors. -/
def ofDirectives (directives : List Directive) (pattern : Option Pattern.Regex) : RecordFilter :=
  ⟨if directives.isEmpty then [⟨none, some .error⟩] else directives, pattern⟩

def read (text : String) : RecordFilter × List FilterFault :=
  match Text.split '/' text with
  | [directives] =>
    let (directives, faults) := readDirectives directives
    (ofDirectives directives none, faults)
  | [directives, pattern] =>
    let (directives, faults) := readDirectives directives
    match Pattern.Regex.read pattern with
    | .ok regex => (ofDirectives directives (some regex), faults)
    | .error fault => (ofDirectives directives none, faults ++ [.pattern pattern fault])
  | _ => (ofDirectives [] none, [.slashes text])

def threshold (filter : RecordFilter) (component : String) : Threshold :=
  (Directive.decisive component filter.directives).bind (·.threshold)

def shows (filter : RecordFilter) (component : String) (level : Level) (message : String) : Bool :=
  (filter.threshold component).shows level && filter.pattern.all (·.occursIn message)

end RecordFilter

end SM83.Logging

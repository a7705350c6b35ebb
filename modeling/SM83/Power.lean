/-!
Power states. A halt or a stop is only noted; whoever owns the clock sees it and wakes the
processor up.
-/

namespace SM83

inductive PowerState where
  | running
  | halted
  | stopped
deriving DecidableEq

def PowerState.text : PowerState → String
  | running => "Running"
  | halted => "Halted"
  | stopped => "Stopped"

end SM83

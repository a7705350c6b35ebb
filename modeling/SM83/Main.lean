import SM83.TraceTool

/-!
The command line of the trace tool. The filter of the records that are shown is held by an
environment variable; without it, errors are shown.
-/

namespace SM83

-- Some errors carry their number negated.
def systemCode (code : UInt32) : Nat :=
  if code < 0x80000000 then code.toNat else (0 - code).toNat

/-- The text of a system error; `details` stands in for the numbers that are not listed. -/
def systemText (code : Nat) (details : String) : String :=
  match code with
  | 2 => "No such file or directory"
  | 13 => "Permission denied"
  | 20 => "Not a directory"
  | 21 => "Is a directory"
  | 36 => "File name too long"
  | 40 => "Too many levels of symbolic links"
  | _ => details

def systemMessage : IO.Error → String
  | .noFileOrDirectory _ code details | .inappropriateType _ code details
  | .permissionDenied _ code details | .invalidArgument _ code details
  | .resourceExhausted _ code details | .otherError code details =>
    let number := systemCode code
    systemText number details ++ " (os error " ++ Numeral.decimal number ++ ")"
  | error => error.toString

def readImage (path : String) : IO (Except String (List UInt8)) := do
  try
    return .ok (← IO.FS.readBinFile path).toList
  catch error =>
    return .error (systemMessage error)

end SM83

open SM83 in
def main (arguments : List String) : IO UInt32 := do
  let filter := (← IO.getEnv "RUST_LOG").getD ""
  let report ← TraceTool.answer readImage filter arguments
  for line in report.errors do
    IO.eprintln line
  for line in report.output do
    IO.println line
  return report.exitCode

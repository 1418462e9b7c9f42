import HubRoutes.Program

/-!
# The executable

The program on the file system, the environment and the arguments of a process.
-/

namespace HubRoutes.Main

/-- The fault that an error of the operating system is, given the error's number. -/
def faultOfNumber (number : UInt32) : FileTree.Fault :=
  if number = 2 then .notFound
  else if number = 17 then .exists
  else if number = 20 then .notDirectory
  else if number = 21 then .isDirectory
  else if number = 36 then .nameTooLong
  else .other number.toNat

def faultOf : IO.Error → FileTree.Fault
  | .alreadyExists _ number _ => faultOfNumber number
  | .otherError number _ => faultOfNumber number
  | .resourceBusy number _ => faultOfNumber number
  | .resourceVanished number _ => faultOfNumber number
  | .unsupportedOperation number _ => faultOfNumber number
  | .hardwareFault number _ => faultOfNumber number
  | .unsatisfiedConstraints number _ => faultOfNumber number
  | .illegalOperation number _ => faultOfNumber number
  | .protocolError number _ => faultOfNumber number
  | .timeExpired number _ => faultOfNumber number
  | .interrupted _ number _ => faultOfNumber number
  | .noFileOrDirectory _ number _ => faultOfNumber number
  | .invalidArgument _ number _ => faultOfNumber number
  | .permissionDenied _ number _ => faultOfNumber number
  | .resourceExhausted _ number _ => faultOfNumber number
  | .inappropriateType _ number _ => faultOfNumber number
  | .noSuchThing _ number _ => faultOfNumber number
  | .unexpectedEof => .notText
  | .userError _ => .nulInName

def attempt {α : Type} (operation : IO α) : IO (Except FileTree.Fault α) := do
  match ← operation.toBaseIO with
  | .ok value => return .ok value
  | .error error => return .error (faultOf error)

def readText (path : String) : IO (Except FileTree.Fault String) := do
  match ← attempt (IO.FS.readBinFile path) with
  | .error fault => return .error fault
  | .ok content =>
    match String.fromUTF8? content with
    | some text => return .ok text
    | none => return .error .notText

def system : FileSystem IO where
  readText := readText
  makeDirectories path := if path = "" then return .ok () else attempt (IO.FS.createDirAll path)
  writeText path content := attempt (IO.FS.writeFile path content)
  moveFile source target := attempt (IO.FS.rename source target)
  removeFile path := do
    let _ ← attempt (IO.FS.removeFile path)

def environment : IO Settings.Environment := do
  match ← readText "/proc/self/environ" with
  | .ok block => return Settings.Environment.ofBlock block
  | .error _ => return []

end HubRoutes.Main

/-- Runs the program on the arguments and the environment of the process. -/
def main (arguments : List String) : IO UInt32 := do
  let outcome ← HubRoutes.Program.run HubRoutes.Main.system (← HubRoutes.Main.environment) arguments
  IO.print outcome.output
  IO.eprint outcome.complaint
  return outcome.exitCode.toUInt32

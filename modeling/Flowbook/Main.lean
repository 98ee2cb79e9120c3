import Flowbook.Command

namespace Flowbook

/-- Why the system refused a file. -/
def fileFault : IO.Error → String
  | .noFileOrDirectory .. => "No such file or directory (os error 2)"
  | .permissionDenied .. => "Permission denied (os error 13)"
  | fault => toString fault

def systemFiles : Command.Files IO where
  read := fun path => do
    try
      match String.fromUTF8? (← IO.FS.readBinFile path) with
      | some text => return .ok text
      | none => return .error "stream did not contain valid UTF-8"
    catch fault => return .error (fileFault fault)
  write := fun path text => do
    try
      IO.FS.writeFile path text
      return .ok ()
    catch fault => return .error (fileFault fault)

end Flowbook

def main (arguments : List String) : IO UInt32 := do
  let outcome ← Flowbook.Command.run Flowbook.systemFiles arguments
  IO.print outcome.output
  IO.eprint outcome.errors
  return UInt32.ofNat outcome.status

import PluginHost.CommandLine.Answer

/-!
# The program

Reads the manifest that a command line names, and writes the answer.
-/
namespace PluginHost.CommandLine

/-- The reason for an error of the system, as far as it is known. -/
def readError : IO.Error → ReadError
  | .noFileOrDirectory .. => .noSuchFile
  | .inappropriateType _ code _ => if code = 20 then .notADirectory else .isADirectory
  | error => .other (toString error)

/-- The path of the manifest that a request reads, if it reads one. -/
def Request.manifestPath? : Request → Option String
  | .answer (.resolve selection _) | .answer (.check selection) => some selection.manifest
  | .version | .answer (.capacity ..) => none

def readFile (path : String) : IO (Except ReadError ByteArray) := do
  match ← (IO.FS.readBinFile path).toBaseIO with
  | .ok bytes => return .ok bytes
  | .error error => return .error (readError error)

end PluginHost.CommandLine

open PluginHost CommandLine in
/-- Answers the command line, and exits with the code of the answer. -/
def main (arguments : List String) : IO UInt32 := do
  match Request.ofArguments? arguments with
  | none => return Answer.misuseCode.toUInt32
  | some request =>
    let content ← match request.manifestPath? with
      | some path => readFile path
      | none => pure (.error .noSuchFile)
    let answer := request.answered fun _ => content
    (← IO.getStdout).putStr answer.output
    (← IO.getStderr).putStr answer.complaint
    return answer.exitCode.toUInt32

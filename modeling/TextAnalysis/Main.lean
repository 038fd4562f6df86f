/-
# The program

The command line program: it reaches files through the operating system, and writes what a command
yields.
-/
import TextAnalysis.CommandLine.Run

namespace TextAnalysis.CommandLine

/-- The failure that an error of the operating system means. -/
def failureOf : IO.Error → ReadFailure
  | .noFileOrDirectory .. => .missing
  | .inappropriateType .. => .isDirectory
  | .permissionDenied .. => .denied
  | _ => .missing

/-- Files of the operating system. Paths are relative to the current directory. -/
def systemFiles : FileAccess IO where
  content path := do
    let place := (← IO.currentDir) / String.ofList path
    if path.isEmpty then return .error .missing
    if ← place.isDir then return .error .isDirectory
    try
      let bytes ← IO.FS.readBinFile place
      match String.fromUTF8? bytes with
      | some text => return .ok text.toList
      | none => return .error .notUnicode
    catch e => return .error (failureOf e)
  kind path := do
    let place := (← IO.currentDir) / String.ofList path
    if path.isEmpty || !(← place.pathExists) then return none
    if ← place.isDir then return some .directory
    match (← place.metadata).type with
    | .file => return some .file
    | _ => return some .other
  names path := do
    let place := (← IO.currentDir) / String.ofList path
    return (← place.readDir).toList.map fun entry => entry.fileName.toList

end TextAnalysis.CommandLine

/-- Runs the program with its arguments. -/
def main (words : List String) : IO UInt32 := do
  let environment ← IO.getEnv "TEXTMINE_CONFIG"
  let exit ← TextAnalysis.CommandLine.runProgram TextAnalysis.CommandLine.systemFiles
    (environment.map String.toList) (words.map String.toList)
  IO.print (String.ofList exit.output)
  if let some e := exit.error then IO.eprintln ("Error: " ++ String.ofList e)
  return exit.code.toUInt32

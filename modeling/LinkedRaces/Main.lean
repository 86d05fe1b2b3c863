import LinkedRaces.Command.Run

/-! The program itself, on the system that it is started on. -/

namespace LinkedRaces

def fileFault : IO.Error → FileFault
  | .noFileOrDirectory .. => .missing
  | _ => .other

def readFile (path : String) : IO (Except FileFault String) := do
  try return .ok (← IO.FS.readFile path)
  catch e => return .error (fileFault e)

/-- All but a missing path can be opened, or refuses for another reason. -/
def hasPath (path : String) : IO Bool := do
  try
    let _ ← IO.FS.Handle.mk path .read
    return true
  catch e => return fileFault e != .missing

def writeFile (path text : String) : IO Bool := do
  try
    IO.FS.writeFile path text
    return true
  catch _ => return false

def settingsDirectory : IO (Option String) := do
  match ← IO.getEnv "XDG_CONFIG_HOME" with
  | some path => if path.startsWith "/" then return some path else usual
  | none => usual
where
  usual : IO (Option String) := do
    return (← IO.getEnv "HOME").map (· ++ "/.config")

partial def readLines (input : IO.FS.Stream) (text : String) : IO String := do
  let line ← input.getLine
  if line.isEmpty then return text else readLines input (text ++ line)

def readInput : IO (Option String) := do
  try return some (← readLines (← IO.getStdin) "")
  catch _ => return none

/-- The system of the process. It has no sockets, so that no address can be had. -/
def processSystem : System IO where
  readFile := readFile
  hasPath := hasPath
  writeFile := writeFile
  environment name := IO.getEnv name
  settingsDirectory? := settingsDirectory
  readInput := readInput
  print := IO.print
  report := IO.eprintln
  listen _ _ := return false

end LinkedRaces

def main (args : List String) : IO UInt32 := do
  let exit ← LinkedRaces.runProgram LinkedRaces.processSystem args
  if let some complaint := exit.complaint then IO.eprintln ("Error: " ++ complaint)
  return exit.status.toUInt32

-- The command line. Here the arguments, the environment, the files and
-- the standard input are read, and the answer is written; what to answer
-- is decided elsewhere.
import QueryGate.Command.Run

namespace QueryGate.Command

/-- The problem behind a failure to read a file. -/
def readProblem : IO.Error → ReadProblem
  | .noFileOrDirectory .. => .notFound
  | .inappropriateType _ code _ => if code = 21 then .isDirectory else .notDirectory
  | e => .other (toString e)

/-- The text of a file, or why it cannot be had. -/
def readFile (path : String) : IO (Except ReadProblem String) := do
  try return decodeText (← IO.FS.readBinFile path)
  catch e => return .error (readProblem e)

/-- The files that the arguments name. -/
def namedFiles (arguments : Arguments) : IO FileReader := do
  let paths := arguments.config.toList ++ arguments.query.toList
  let texts ← paths.mapM fun path => return (path, ← readFile path)
  return fun path => (texts.lookup path).getD (.error .notFound)

/-- The variables that the command looks at. -/
def environment : IO Config.Environment := do
  let names := [logVariable, Config.depthVariable, Config.costVariable]
  let values ← names.mapM fun name => return (← IO.getEnv name).map fun v => (name, v.toUTF8)
  return values.filterMap id

/-- The standard input, which is read only where no file is named. -/
def input (arguments : Arguments) : IO ByteArray := do
  if arguments.query.isSome then return ByteArray.empty
  (← IO.getStdin).readBinToEnd

def surroundings (arguments : List String) : IO Surroundings := do
  match readArguments arguments with
  | .measure a =>
    return { arguments, input := ← input a, files := ← namedFiles a, environment := ← environment }
  | _ =>
    return { arguments, input := ByteArray.empty, files := fun _ => .error .notFound,
             environment := [] }

def present (r : Report) : IO Unit := do
  for line in r.log do IO.eprintln line
  for error in r.error do IO.eprintln ("Error: " ++ error)
  IO.print r.output

end QueryGate.Command

def main (arguments : List String) : IO UInt32 := do
  let report := QueryGate.Command.run (← QueryGate.Command.surroundings arguments)
  QueryGate.Command.present report
  return UInt32.ofNat report.code

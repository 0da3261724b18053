import PointcloudAd.Backends.FileAdapters
import PointcloudAd.Pipeline.InspectionPipeline
import PointcloudAd.Serialization.ResultCodec

/-!
# The command-line program

A process reads files, prints, writes two files and ends with an exit code. Opening and writing a
file may fail; a read that ends early and what is lost when a file is closed are not noticed.
Paths name files, and two paths may name one.
-/

namespace PointcloudAd.Cli

open Library Registration

/-- What a process sees and leaves: the files, and the texts it printed. -/
structure Process (ι : Type) where
  content : ι → Option Bytes
  out : String
  err : String

/-- What the program is linked to, and how its files behave. -/
structure Machine (ι F D : Type) where
  host : Host F D
  scheduler : Scheduler
  clock : Clock
  json : JsonLibrary D
  dumpIndented : Json D → Except Exn Bytes
  load : CloudLoader
  resolve : String → ι
  refusesReading : ι → Bool
  /-- The bytes that are read when a read fails. -/
  failsReading : ι → Option ℕ
  refusesWriting : ι → Bool
  /-- The bytes that are stored by a write that fails. -/
  failsWriting : ι → Option ℕ
  /-- The bytes that are stored when the rest is lost while the file is closed. -/
  losesOnClose : ι → Option ℕ

/-- Why a process ends before its last line: with a code, or outside what the language defines. -/
inductive Ending where
  | exit (code : ℕ)
  | undefined
  deriving DecidableEq, Repr

abbrev Program (ι : Type) : Type → Type := Faulty Ending (Process ι)

def kExitOk : ℕ := 0

def kExitError : ℕ := 1

def kExitUsage : ℕ := 2

def versionText : String := "0.1.0"

section

variable {ι : Type}

def printOut (text : String) : Program ι Unit :=
  modify fun process => { process with out := process.out ++ text }

def printErr (text : String) : Program ι Unit :=
  modify fun process => { process with err := process.err ++ text }

def helpText : String :=
  "PointCloudAD command-line interface\n\nUsage:\n" ++
    "  pcad --help                         Show this help\n" ++
    "  pcad --version                      Show the program version\n" ++
    "  pcad validate-config <config.json>  Validate an inspection configuration\n" ++
    "  pcad inspect <config.json> <reference> <scan> [--output <dir>]\n" ++
    "                                      Run an inspection and write result.json and\n" ++
    "                                      manifest.json\n\n" ++
    "Point-cloud inputs are read by extension (.ply or .pcd). Inspection verdicts\n" ++
    "(pass/fail/indeterminate) never affect the process exit code.\n"

def printHelp : Program ι Unit := printOut helpText

def cliError (code : ErrorCode) (message : String) : Error := ⟨code, .none, message, []⟩

def printError (error : Error) : Program ι Unit :=
  printErr ("error: " ++ error.message ++ "\n" ++
    String.join (error.context.map fun entry => "  " ++ entry.1 ++ ": " ++ entry.2 ++ "\n"))

/-- The value of a result; an error is printed and ends the process. -/
def orExit {α : Type} : Result α → Program ι α
  | .ok value => pure value
  | .error error => do
    printError error
    throw (.exit kExitError)

/-- A wrong use of the program is printed and ends the process. -/
def usageExit {α : Type} (text : String) : Program ι α := do
  printErr text
  throw (.exit kExitUsage)

/-- The paths that end in ".ply" or ".pcd", case included. -/
def formatFromPath (path : String) : Option PointCloudFormat :=
  if (utf8 ".ply").isSuffixOf (utf8 path) then some .ply
  else if (utf8 ".pcd").isSuffixOf (utf8 path) then some .pcd
  else none

/-- A file in a directory; the directory's path may end in a separator. -/
def joinPath (directory name : String) : String :=
  if (utf8 "/").isSuffixOf (utf8 directory) then directory ++ name else directory ++ "/" ++ name

def outputDirectory (outputDir : String) : String := if outputDir = "" then "." else outputDir

def resultPath (outputDir : String) : String := joinPath (outputDirectory outputDir) "result.json"

def manifestPath (outputDir : String) : String :=
  joinPath (outputDirectory outputDir) "manifest.json"

variable {F D : Type} [FloatArith F] [FloatArith D] [Floats F D] [FloatBits F] [FloatIntegers D]

/-- The part of a text that gets through: all of it, or what came before a failure. -/
def partOf (kept : Option ℕ) (text : Bytes) : Bytes :=
  match kept with
  | some kept => text.take kept
  | none => text

/-- A read that fails is not noticed: it marks the buffer that is filled, and the test that follows
asks the file's own stream. -/
def readTextFile (machine : Machine ι F D) (content : ι → Option Bytes) (path : String) :
    Result Bytes :=
  let node := machine.resolve path
  match content node with
  | none => .error (cliError .ioError ("cannot open " ++ path))
  | some bytes =>
    if machine.refusesReading node then .error (cliError .ioError ("cannot open " ++ path))
    else .ok (partOf (machine.failsReading node) bytes)

def store [DecidableEq ι] (node : ι) (bytes : Bytes) (process : Process ι) : Process ι :=
  { process with content := Function.update process.content node (some bytes) }

/-- A file is emptied when it is opened. A success says that the text was handed over; whether it is
stored shows only when the file is closed. -/
def writeTextFile [DecidableEq ι] (machine : Machine ι F D) (path : String) (text : Bytes) :
    Program ι (Result ℕ) := do
  let node := machine.resolve path
  if machine.refusesWriting node then
    return .error (cliError .ioError ("cannot open " ++ path))
  else
    match machine.failsWriting node with
    | some kept =>
      modify (store node (text.take kept))
      return .error (cliError .ioError ("cannot write " ++ path))
    | none =>
      modify (store node (partOf (machine.losesOnClose node) text))
      return .ok text.length

/-- A decoding in a process: its error is returned, and undefined behaviour ends everything. -/
def runDecoding {α : Type} (decoding : Decoding α) : Program ι (Result α) :=
  match (Faulty.outcome decoding []).1 with
  | .ok value => pure (.ok value)
  | .error (.failed error) => pure (.error error)
  | .error .undefined => throw .undefined

def readSurface (machine : Machine ι F D) (content : ι → Option Bytes) (path : String)
    (format : PointCloudFormat) (unit : LengthUnit) (frame : FrameId) :
    Decoding (OwnedSurface F) :=
  match format with
  | .ply => readPly machine.load (content (machine.resolve path)) path unit frame
  | .pcd => readPcd machine.load (content (machine.resolve path)) path unit frame

def verdictString : Verdict → String
  | .pass => "pass"
  | .fail => "fail"
  | .indeterminate => "indeterminate"

def runValidateConfig (machine : Machine ι F D) (configPath : String) : Program ι ℕ := do
  let process ← get
  let text ← orExit (readTextFile machine process.content configPath)
  let parsed ← orExit (parseConfig machine.json text)
  let _ ← orExit (validateConfig parsed)
  printOut "config valid\n"
  return kExitOk

def generator : String := "pcad " ++ versionText

/-- The two files of an inspection, named in the order they are written. -/
def writeOutputs [DecidableEq ι] (machine : Machine ι F D) (outputDir : String)
    (verdict : Verdict) (resultJson : Bytes) : Program ι ℕ := do
  let _ ← writeTextFile machine (resultPath outputDir) resultJson >>= orExit
  match Serialization.sha256Hex resultJson with
  | none => throw .undefined
  | some digest =>
    let manifest ← orExit (buildManifest machine.dumpIndented "1.0" generator
      [⟨"result.json", digest⟩])
    let _ ← writeTextFile machine (manifestPath outputDir) manifest >>= orExit
    printOut ("verdict: " ++ verdictString verdict ++ "\n")
    printOut ("wrote: " ++ resultPath outputDir ++ "\n")
    printOut ("wrote: " ++ manifestPath outputDir ++ "\n")
    return kExitOk

/-- The inspection up to its report. The request that names the run is built and not passed on, so
the default one is used. -/
def inspectFiles (machine : Machine ι F D) (configPath referencePath scanPath : String) :
    Program ι (InspectionResult D) := do
  let process ← get
  let text ← orExit (readTextFile machine process.content configPath)
  let config ← orExit (parseConfig machine.json text)
  let validated ← orExit (validateConfig config)
  match formatFromPath referencePath, formatFromPath scanPath with
  | some referenceFormat, some scanFormat =>
    let reference ← runDecoding (readSurface machine process.content referencePath
      referenceFormat validated.input.referenceUnit validated.input.referenceFrame) >>= orExit
    let scan ← runDecoding (readSurface machine process.content scanPath scanFormat
      validated.input.scanUnit validated.input.scanFrame) >>= orExit
    let pipeline ← orExit (InspectionPipeline.create config)
    orExit (pipeline.run machine.host machine.scheduler machine.clock reference.view scan.view
      ⟨none, []⟩)
  | _, _ => usageExit "error: point-cloud inputs must use a .ply or .pcd extension\n"

def runInspect [DecidableEq ι] (machine : Machine ι F D)
    (configPath referencePath scanPath outputDir : String) : Program ι ℕ := do
  let result ← inspectFiles machine configPath referencePath scanPath
  let resultJson ← orExit (serializeResult machine.json result)
  writeOutputs machine outputDir result.verdict resultJson

/-- The program, given the arguments after its name. -/
def main [DecidableEq ι] (machine : Machine ι F D) : List String → Program ι ℕ
  | [] => do
    printHelp
    return kExitOk
  | command :: arguments =>
    if command = "--help" ∨ command = "-h" then do
      printHelp
      return kExitOk
    else if command = "--version" then do
      printOut ("pcad " ++ versionText ++ "\n")
      return kExitOk
    else if command = "validate-config" then
      match arguments with
      | [configPath] => runValidateConfig machine configPath
      | _ => usageExit "usage: pcad validate-config <config.json>\n"
    else if command = "inspect" then
      match arguments with
      | configPath :: referencePath :: scanPath :: options =>
        match options with
        | [] => runInspect machine configPath referencePath scanPath ""
        | ["--output", outputDir] =>
          runInspect machine configPath referencePath scanPath outputDir
        | unexpected :: _ => usageExit ("unexpected argument: " ++ unexpected ++ "\n")
      | _ =>
        usageExit "usage: pcad inspect <config.json> <reference> <scan> [--output <dir>]\n"
    else usageExit ("Unknown argument: " ++ command ++ "\nUse --help for usage.\n")

end

end PointcloudAd.Cli

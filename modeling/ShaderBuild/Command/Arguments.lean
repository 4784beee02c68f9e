import ShaderBuild.Command.Number
import ShaderBuild.Text.Plain

/-!
The command line. Arguments are read from the left. A value is checked when the next argument that
is known is met, or at the end; so a fault in it gives way to an unknown argument right behind it.
Whether all files are named is looked at last.
-/

set_option autoImplicit false
set_option relaxedAutoImplicit false

namespace ShaderBuild.Command

/-- What the command line can hold a value for. -/
inductive Argument where
  | vertexFile
  | fragmentFile
  | outputFile
  | device
  | glesVersion
  deriving DecidableEq, Repr

namespace Argument

/-- The arguments that are known by their position. -/
def files : List Argument := [.vertexFile, .fragmentFile, .outputFile]

/-- The arguments that are known by a long name. -/
def options : List (String × Argument) := [("device", .device), ("gles-version", .glesVersion)]

/-- The argument as messages show it. -/
def display : Argument → String
  | .vertexFile => "<VERTEX_FILE>"
  | .fragmentFile => "<FRAGMENT_FILE>"
  | .outputFile => "<OUTPUT_FILE>"
  | .device => "--device <DEVICE>"
  | .glesVersion => "--gles-version <GLES_VERSION>"

end Argument

/-- What is wrong with a value. -/
inductive ValueError where
  | number (error : NumberError)
  | outOfRange (value : Int)
  deriving DecidableEq, Repr

inductive UsageError where
  | missing (files : List Argument)
  | unexpected (argument : String)
  | invalid (value : String) (argument : Argument) (error : ValueError)
  | valueRequired (argument : Argument)
  | repeated (argument : Argument)
  | valueForFlag (value : String) (flag : String)
  deriving DecidableEq, Repr

/-- The device is a number of 64 bits. -/
def maxDevice : Nat := 0xFFFFFFFFFFFFFFFF

/-- Versions are read as numbers of 64 bits with a sign. -/
def maxVersion : Nat := 0x7FFFFFFFFFFFFFFF

def leastVersion : Nat := 2

def greatestVersion : Nat := 3

def ValueError.message : ValueError → String
  | .number error => error.message
  | .outOfRange value =>
    toString value ++ " is not in " ++ toString leastVersion ++ "..=" ++ toString greatestVersion

/-- A text in quotes as it shows: a control sequence that it leaves open ends with it. -/
def quote (text : String) : String := "'" ++ Text.plain text ++ "'"

/-- The message, without the lines on usage that follow it. -/
def UsageError.lines : UsageError → List String
  | .missing files =>
    "error: the following required arguments were not provided:" ::
      files.map fun file ↦ "  " ++ file.display
  | .unexpected argument => ["error: unexpected argument " ++ quote argument ++ " found"]
  | .invalid value argument error =>
    ["error: invalid value " ++ quote value ++ " for " ++ quote argument.display ++ ": " ++
      error.message]
  | .valueRequired argument =>
    ["error: a value is required for " ++ quote argument.display ++ " but none was supplied"]
  | .repeated argument =>
    ["error: the argument " ++ quote argument.display ++ " cannot be used multiple times"]
  | .valueForFlag value flag =>
    ["error: unexpected value " ++ quote value ++ " for " ++ quote flag ++
      " found; no more were expected"]

/-- Why reading the command line ends before a build. -/
inductive Stop where
  | help
  | version
  | usage (error : UsageError)
  deriving DecidableEq, Repr

/-- What a build is asked to do. -/
structure Options where
  vertexFile : String
  fragmentFile : String
  outputFile : String
  device : Nat
  glesVersion : Nat
  deriving DecidableEq, Repr

/-! ### Values -/

/-- The values that have been accepted. -/
structure Values where
  files : List (Argument × String) := []
  device : Option Nat := none
  glesVersion : Option Nat := none
  deriving DecidableEq, Repr

namespace Values

def acceptFile (values : Values) (argument : Argument) (text : String) :
    Except UsageError Values :=
  if text.isEmpty then .error (.valueRequired argument)
  else .ok { values with files := values.files ++ [(argument, text)] }

def acceptDevice (values : Values) (text : String) : Except UsageError Values :=
  if values.device.isSome then .error (.repeated .device)
  else
    match readNat maxDevice text with
    | .error error => .error (.invalid text .device (.number error))
    | .ok device => .ok { values with device := some device }

def acceptVersion (values : Values) (text : String) : Except UsageError Values :=
  if values.glesVersion.isSome then .error (.repeated .glesVersion)
  else
    match readInt maxVersion text with
    | .error error => .error (.invalid text .glesVersion (.number error))
    | .ok version =>
      if leastVersion ≤ version ∧ version ≤ greatestVersion then
        .ok { values with glesVersion := some version.toNat }
      else .error (.invalid text .glesVersion (.outOfRange version))

/-- Takes the value of an argument. That there is one is looked at first. -/
def accept (values : Values) (argument : Argument) : Option String → Except UsageError Values
  | none => .error (.valueRequired argument)
  | some text =>
    match argument with
    | .device => values.acceptDevice text
    | .glesVersion => values.acceptVersion text
    | file => values.acceptFile file text

def file (values : Values) (argument : Argument) : String :=
  (values.files.lookup argument).getD ""

/-- The options, if every file is named. -/
def options (values : Values) : Except UsageError Options :=
  let missing := Argument.files.filter fun file ↦ (values.files.lookup file).isNone
  if missing.isEmpty then
    .ok {
      vertexFile := values.file .vertexFile
      fragmentFile := values.file .fragmentFile
      outputFile := values.file .outputFile
      device := values.device.getD 0
      glesVersion := values.glesVersion.getD 3 }
  else .error (.missing missing)

end Values

/-! ### Reading -/

/-- How one argument looks by itself. -/
inductive Shape where
  /-- Two hyphens alone: no options follow. -/
  | endOfOptions
  /-- A long name, with the value attached to it. -/
  | long (name : String) (attached : Option String)
  /-- A hyphen and letters, the first of which is given. -/
  | short (letter : Char)
  | plain
  deriving DecidableEq, Repr

def shape (argument : String) : Shape :=
  match argument.toList with
  | ['-', '-'] => .endOfOptions
  | '-' :: '-' :: body =>
    let name := body.takeWhile (· != '=')
    match body.dropWhile (· != '=') with
    | [] => .long (String.ofList name) none
    | _ :: value => .long (String.ofList name) (some (String.ofList value))
  | '-' :: letter :: _ => .short letter
  | _ => .plain

/-- How far the reading has got. -/
structure Reading where
  values : Values := {}
  /-- An argument that has been met but not accepted yet, with its value if that has been met. -/
  pending : Option (Argument × Option String) := none
  /-- The number of files met. -/
  filesMet : Nat := 0
  optionsEnded : Bool := false
  deriving DecidableEq, Repr

namespace Reading

/-- Accepts what is pending. -/
def conclude (reading : Reading) : Except Stop Reading :=
  match reading.pending with
  | none => .ok reading
  | some (argument, value) =>
    match reading.values.accept argument value with
    | .error error => .error (.usage error)
    | .ok values => .ok { reading with values, pending := none }

/-- Meets an argument after all before it is accepted. -/
def await (reading : Reading) (argument : Argument) (value : Option String) :
    Except Stop Reading :=
  reading.conclude.map fun reading ↦ { reading with pending := some (argument, value) }

/-- Meets the value of an argument in the next position. -/
def readFile (reading : Reading) (text : String) : Except Stop Reading :=
  match Argument.files[reading.filesMet]? with
  | none => .error (.usage (.unexpected text))
  | some argument =>
    (reading.await argument (some text)).map fun reading ↦
      { reading with filesMet := reading.filesMet + 1 }

/-- Ends at a flag after all before it is accepted. -/
def stop (reading : Reading) (reason : Stop) : Except Stop Reading :=
  reading.conclude.bind fun _ ↦ .error reason

/-- Meets a flag, which takes no value. -/
def readFlag (reading : Reading) (name : String) (reason : Stop) :
    Option String → Except Stop Reading
  | none => reading.stop reason
  | some value => .error (.usage (.valueForFlag value ("--" ++ name)))

/-- Meets a long name. An attached value is accepted at once. -/
def readLong (reading : Reading) (name : String) (attached : Option String) :
    Except Stop Reading :=
  if name = "help" then reading.readFlag name .help attached
  else if name = "version" then reading.readFlag name .version attached
  else
    match Argument.options.lookup name, attached with
    | none, _ => .error (.usage (.unexpected ("--" ++ name)))
    | some argument, none => reading.await argument none
    | some argument, some value => (reading.await argument (some value)).bind conclude

/-- Meets letters behind a hyphen. Both letters that are known end the reading. -/
def readShort (reading : Reading) (letter : Char) : Except Stop Reading :=
  if letter = 'h' then reading.stop .help
  else if letter = 'V' then reading.stop .version
  else .error (.usage (.unexpected (String.ofList ['-', letter])))

/-- Meets an argument that is no option: a value that is due, or a file. -/
def readPlain (reading : Reading) (text : String) : Except Stop Reading :=
  match reading.pending with
  | some (argument, none) => .ok { reading with pending := some (argument, some text) }
  | _ => reading.readFile text

def step (reading : Reading) (argument : String) : Except Stop Reading :=
  if reading.optionsEnded then reading.readFile argument
  else
    match shape argument with
    | .endOfOptions => .ok { reading with optionsEnded := true }
    | .long name attached => reading.readLong name attached
    | .short letter => reading.readShort letter
    | .plain => reading.readPlain argument

end Reading

/-- Reads a command line. -/
def parse (arguments : List String) : Except Stop Options := do
  let reading ← arguments.foldlM Reading.step {}
  let reading ← reading.conclude
  reading.values.options.mapError .usage

end ShaderBuild.Command

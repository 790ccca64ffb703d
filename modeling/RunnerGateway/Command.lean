import RunnerGateway.Environment
import RunnerGateway.Text.Numeral

/-!
# The command line

The program has one command, `serve`, with an option for the port and one for the host; without a
command it serves all the same.  What the command line leaves open comes from the environment, and
then from defaults.

The words are read from left to right.  A value that stands in a word of its own is looked at only
when the next option begins or the words end, so that a word which cannot stand there at all is
reported before a value that is no good.
-/

namespace RunnerGateway

/-- The address to listen at. -/
structure ServeArgs where
  host : String
  port : UInt16
  deriving DecidableEq, Repr

/-- The address as text. -/
def ServeArgs.address (a : ServeArgs) : String :=
  a.host ++ ":" ++ Text.numeral a.port.toNat

namespace Command

/-- An option of `serve` that takes a value. -/
inductive Opt
  | port
  | host
  deriving DecidableEq, Repr

/-- The option as it is shown in messages. -/
def Opt.label : Opt → String
  | .port => "--port <PORT>"
  | .host => "--host <HOST>"

/-- Why a text is no port. -/
inductive PortFault
  | noNumber (fault : Text.NumeralFault)
  | outOfRange (number : Int)
  deriving DecidableEq, Repr

/-- What is wrong with the port, in words. -/
def PortFault.message : PortFault → String
  | .noNumber fault => fault.message
  | .outOfRange number => Text.signedNumeral number ++ " is not in 0..=65535"

/-- Why the words of the command line do not start the gateway. -/
inductive Fault
  | help
  | version
  | unknownCommand (word : String)
  | unexpected (word : String)
  | missingValue (o : Opt)
  | repeated (o : Opt)
  | badPort (value : String) (fault : PortFault)
  | needlessValue (flag value : String)
  | notText
  deriving DecidableEq, Repr

namespace Fault

/-- The name and the version of the program. -/
def versionText : String := "dmr-gateway 0.1.0"

/-- How the program is used. -/
def usage : String :=
  "Usage: dmr-gateway [COMMAND]\n\n" ++
  "Commands:\n" ++
  "  serve  Start the gateway server\n" ++
  "  help   Print this message\n\n" ++
  "Options of serve:\n" ++
  "  -p, --port <PORT>  Listen port [env: DMR_GATEWAY_PORT] [default: 8080]\n" ++
  "  -H, --host <HOST>  Bind address [env: DMR_GATEWAY_HOST] [default: 0.0.0.0]"

/-- What the user is told. -/
def message : Fault → String
  | .help => usage
  | .version => versionText
  | .unknownCommand word => "error: unrecognized subcommand '" ++ word ++ "'"
  | .unexpected word => "error: unexpected argument '" ++ word ++ "' found"
  | .missingValue o => "error: a value is required for '" ++ o.label ++ "' but none was supplied"
  | .repeated o => "error: the argument '" ++ o.label ++ "' cannot be used multiple times"
  | .badPort value fault =>
    "error: invalid value '" ++ value ++ "' for '" ++ Opt.port.label ++ "': " ++ fault.message
  | .needlessValue flag value =>
    "error: unexpected value '" ++ value ++ "' for '" ++ flag ++
      "' found; no more were expected"
  | .notText => "error: invalid UTF-8 was detected in one or more arguments"

/-- The code with which the program ends: 0 if the user only asked something. -/
def exitCode : Fault → Nat
  | .help => 0
  | .version => 0
  | _ => 2

end Fault

/-! ## Words -/

/-- The kinds of words. -/
inductive Word
  | separator
  | long (name : String) (value : Option String)
  | short (letter : Char) (rest : List Char)
  | plain
  deriving DecidableEq, Repr

/-- The kind of a word: `--`, `--name` or `--name=value`, `-x` with more after it, or none of
these. -/
def Word.ofText (word : String) : Word :=
  match word.toList with
  | ['-', '-'] => .separator
  | '-' :: '-' :: rest =>
    let name := rest.takeWhile fun c => c ≠ '='
    match rest.dropWhile fun c => c ≠ '=' with
    | [] => .long (String.ofList name) none
    | _ :: value => .long (String.ofList name) (some (String.ofList value))
  | '-' :: letter :: rest => .short letter rest
  | _ => .plain

/-- The value that is attached to the letter of an option, with or without `=`. -/
def attached? : List Char → Option String
  | [] => none
  | '=' :: value => some (String.ofList value)
  | value => some (String.ofList value)

/-! ## The options of `serve` -/

/-- The port that a text denotes. -/
def readPort (value : String) : Except Fault UInt16 :=
  match Text.readInt Text.maxSigned value.toList with
  | .error fault => .error (.badPort value (.noNumber fault))
  | .ok number =>
    if 0 ≤ number ∧ number ≤ 65535 then .ok (UInt16.ofNat number.toNat)
    else .error (.badPort value (.outOfRange number))

/-- The options read so far.  The last one may still lack its value or have one that was not looked
at yet. -/
structure Reading where
  port : Option UInt16 := none
  host : Option String := none
  last : Option (Opt × Option String) := none
  deriving DecidableEq, Repr

namespace Reading

/-- The reading with a value for an option that has none yet. -/
def give (r : Reading) (o : Opt) (value : String) : Except Fault Reading :=
  match o with
  | .port =>
    if r.port.isSome then .error (.repeated .port)
    else (readPort value).map fun port => { r with port := some port }
  | .host =>
    if r.host.isSome then .error (.repeated .host) else .ok { r with host := some value }

/-- The reading after a look at the last option. -/
def settle (r : Reading) : Except Fault Reading :=
  match r.last with
  | none => .ok r
  | some (o, none) => .error (.missingValue o)
  | some (o, some value) => { r with last := none }.give o value

/-- The reading at the beginning of a further option, whose value may be attached to it. -/
def start (r : Reading) (o : Opt) (value : Option String) : Except Fault Reading := do
  let r ← r.settle
  match value with
  | some value => r.give o value
  | none => return { r with last := some (o, none) }

/-- The fault of a request for help, unless the last option has one. -/
def askHelp (r : Reading) : Fault :=
  match r.settle with
  | .ok _ => .help
  | .error fault => fault

/-- The reading of the words after `serve`. -/
def read (r : Reading) : List String → Except Fault Reading
  | [] => r.settle
  | word :: words =>
    match Word.ofText word with
    | .separator =>
      match words with
      | [] => r.settle
      | word :: _ => .error (.unexpected word)
    | .long "port" value => (r.start .port value).bind fun r => read r words
    | .long "host" value => (r.start .host value).bind fun r => read r words
    | .long "help" none => .error r.askHelp
    | .long "help" (some value) => .error (.needlessValue "--help" value)
    | .long name _ => .error (.unexpected ("--" ++ name))
    | .short 'p' rest => (r.start .port (attached? rest)).bind fun r => read r words
    | .short 'H' rest => (r.start .host (attached? rest)).bind fun r => read r words
    | .short 'h' _ => .error r.askHelp
    | .short letter _ => .error (.unexpected ("-" ++ String.singleton letter))
    | .plain =>
      match r.last with
      | some (o, none) => read { r with last := some (o, some word) } words
      | _ => .error (.unexpected word)

/-- The text of a variable, which must be text if it is set. -/
def readVariable (env : Environment) (name : String) : Except Fault (Option String) :=
  match env.bytes? name, env.text? name with
  | some _, none => .error .notText
  | _, value => .ok value

/-- What the options leave open comes from the environment, and then from the defaults. -/
def complete (r : Reading) (env : Environment) : Except Fault ServeArgs := do
  let port ←
    match r.port with
    | some port => pure port
    | none =>
      match ← readVariable env "DMR_GATEWAY_PORT" with
      | some value => readPort value
      | none => pure 8080
  let host ←
    match r.host with
    | some host => pure host
    | none => return { port, host := (← readVariable env "DMR_GATEWAY_HOST").getD "0.0.0.0" }
  return { port, host }

end Reading

/-! ## Commands -/

/-- The commands of the program and those of its help. -/
def isCommand (word : String) : Bool :=
  word = "serve" || word = "help"

/-- The fault of a request for help on the words after `help`. -/
def helpOn : List String → Fault
  | [] => .help
  | word :: words =>
    if isCommand word then
      match words with
      | [] => .help
      | word :: _ => .unknownCommand word
    else .unknownCommand word

/-- The fault of words of which the first is no command. -/
def withoutCommand (word : String) (words : List String) : Except Fault Unit :=
  match Word.ofText word with
  | .separator =>
    match words with
    | [] => .ok ()
    | word :: _ => .error (if isCommand word then .unexpected word else .unknownCommand word)
  | .long "help" none => .error .help
  | .long "version" none => .error .version
  | .long "help" (some value) => .error (.needlessValue "--help" value)
  | .long "version" (some value) => .error (.needlessValue "--version" value)
  | .long name _ => .error (.unexpected ("--" ++ name))
  | .short 'h' _ => .error .help
  | .short 'V' _ => .error .version
  | .short letter _ => .error (.unexpected ("-" ++ String.singleton letter))
  | .plain => .error (.unknownCommand word)

end Command

/-- What the command line asks for. -/
inductive Command
  | none
  | serve (args : ServeArgs)
  deriving DecidableEq, Repr

namespace Command

/-- The command of the words after the name of the program. -/
def read (env : Environment) : List String → Except Fault Command
  | [] => .ok .none
  | "serve" :: words => do
    let r ← Reading.read {} words
    return .serve (← r.complete env)
  | "help" :: words => .error (helpOn words)
  | word :: words => (withoutCommand word words).map fun _ => .none

/-- The address to listen at; without a command it comes from the environment. -/
def serveArgs (env : Environment) : Command → Except Fault ServeArgs
  | .none => Reading.complete {} env
  | .serve args => .ok args

end Command
end RunnerGateway

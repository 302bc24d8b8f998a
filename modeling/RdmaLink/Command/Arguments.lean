import RdmaLink.Address.Socket

/-!
# Command lines

    [OPTIONS] listen <ADDR>
    [OPTIONS] connect [OPTIONS] <ADDR>
    [OPTIONS] devices
    help [COMMAND]

The arguments are read from left to right, and the first one that is out of place decides: a
question for help or the version is answered at once, a misuse is reported at once.  An option is
given at most once.  A value may stand behind `=`, behind its letter or in the next argument;
letters may be joined.  Behind `--` an argument is no option whatever it starts with.
-/

namespace RdmaLink.Command

/-- The options in front of a command. -/
structure Options where
  /-- The configuration file. -/
  config : Option String
  /-- Name of the service where there is no configuration file. -/
  service : String
  /-- Whether the rendezvous stream is to carry the data path. -/
  socket : Bool
  verbose : Bool
  /-- Whether log lines are written as JSON. -/
  json : Bool
deriving DecidableEq, Repr, Inhabited

/-- What the program is asked to do. -/
inductive Task where
  | listen (address : SocketAddress)
  | connect (address : SocketAddress) (writes : UInt32) (size : Nat)
  | devices
deriving DecidableEq, Repr, Inhabited

/-- A page of help. -/
inductive Topic where
  | program
  | listen
  | connect
  | devices
  | help
deriving DecidableEq, Repr, Inhabited

/-- The page for the command with a name. -/
def Topic.ofCommand? : String → Option Topic
  | "listen" => some .listen
  | "connect" => some .connect
  | "devices" => some .devices
  | "help" => some .help
  | _ => none

/-- What is wrong with a command line. -/
inductive Misuse where
  | unexpected (argument : String)
  | unknownCommand (name : String)
  | missingCommand
  | missingAddress
  | missingValue (name : String)
  | unwantedValue (name value : String)
  | invalidValue (name value : String)
  | repeated (name : String)
deriving DecidableEq, Repr, Inhabited

def Misuse.message : Misuse → String
  | .unexpected argument => "unexpected argument '" ++ argument ++ "' found"
  | .unknownCommand name => "unrecognized subcommand '" ++ name ++ "'"
  | .missingCommand => "a subcommand is required but one was not provided"
  | .missingAddress => "the following required arguments were not provided: <ADDR>"
  | .missingValue name => "a value is required for '" ++ name ++ "' but none was supplied"
  | .unwantedValue name value =>
    "unexpected value '" ++ value ++ "' for '" ++ name ++ "' found; no more were expected"
  | .invalidValue name value => "invalid value '" ++ value ++ "' for '" ++ name ++ "'"
  | .repeated name => "the argument '" ++ name ++ "' cannot be used multiple times"

/-- Why the reading of a command line stops before a task is found. -/
inductive Halt where
  | help (topic : Topic)
  | version
  | misuse (misuse : Misuse)
deriving DecidableEq, Repr, Inhabited

/-! ## Options -/

/-- An option of the program or of one of its commands. -/
inductive Flag where
  | config
  | service
  | socket
  | verbose
  | json
  | writes
  | size
  | help
  | version
deriving DecidableEq, Repr, Inhabited

namespace Flag

/-- The word behind `--`. -/
def word : Flag → String
  | .config => "config"
  | .service => "service"
  | .socket => "socket"
  | .verbose => "verbose"
  | .json => "json"
  | .writes => "writes"
  | .size => "size"
  | .help => "help"
  | .version => "version"

/-- The letter behind `-`. -/
def letter? : Flag → Option Char
  | .config => some 'c'
  | .verbose => some 'v'
  | .writes => some 'n'
  | .size => some 's'
  | .help => some 'h'
  | .version => some 'V'
  | _ => none

/-- The word that stands for the option's value, if it takes one. -/
def valueWord? : Flag → Option String
  | .config => some "FILE"
  | .service => some "SERVICE"
  | .writes => some "WRITES"
  | .size => some "SIZE"
  | _ => none

def takesValue (flag : Flag) : Bool := flag.valueWord?.isSome

/-- An option as messages name it. -/
def name (flag : Flag) : String :=
  "--" ++ flag.word ++ (flag.valueWord?.map fun value => " <" ++ value ++ ">").getD ""

/-- The options that may stand with a command, or in front of all commands. -/
def at? : Topic → List Flag
  | .program => [.config, .service, .socket, .verbose, .json, .help, .version]
  | .connect => [.writes, .size, .help]
  | _ => [.help]

end Flag

/-- Values of the options that were given so far. -/
structure Given where
  texts : List (Flag × String)
deriving DecidableEq, Repr, Inhabited

namespace Given

def none : Given := ⟨[]⟩

def has (given : Given) (flag : Flag) : Bool := given.texts.any fun entry => entry.1 == flag

def value? (given : Given) (flag : Flag) : Option String := given.texts.lookup flag

/-- The number that a text of digits writes; a plus sign may stand in front. -/
def number? (text : String) : Option Nat :=
  let digits := match text.toList with
    | '+' :: rest => rest
    | rest => rest
  if digits.isEmpty || !digits.all Char.isDigit then Option.none
  else some (digits.foldl (fun n c => n * 10 + (c.toNat - '0'.toNat)) 0)

/-- A count of writes: below 2 ^ 32; zero may have a minus sign. -/
def writes? (text : String) : Option UInt32 :=
  let plain := match text.toList with
    | '-' :: rest => (number? (String.ofList rest)).filter (· == 0)
    | _ => number? text
  (plain.filter (· < 4294967296)).map UInt32.ofNat

/-- A size: below 2 ^ 64. -/
def size? (text : String) : Option Nat := (number? text).filter (· < 18446744073709551616)

/-- Whether a text is a value of an option. -/
def accepts : Flag → String → Bool
  | .config, text => text != ""
  | .writes, text => (writes? text).isSome
  | .size, text => (size? text).isSome
  | _, _ => true

/-- Takes the value of an option; help and version are answered instead. -/
def take (given : Given) (topic : Topic) (flag : Flag) (text : String) : Except Halt Given :=
  match flag with
  | .help => .error (.help topic)
  | .version => .error .version
  | _ =>
    if given.has flag then .error (.misuse (.repeated flag.name))
    else if accepts flag text then .ok ⟨given.texts ++ [(flag, text)]⟩
    else if text == "" then .error (.misuse (.missingValue flag.name))
    else .error (.misuse (.invalidValue flag.name text))

end Given

/-! ## Arguments with a dash -/

/-- Whether an argument is read as options. -/
def isDashed (argument : String) : Bool :=
  match argument.toList with
  | '-' :: _ :: _ => true
  | _ => false

/-- Reads joined letters.  An option that still wants its value is given back. -/
def readLetters (topic : Topic) (given : Given) :
    List Char → Except Halt (Given × Option Flag)
  | [] => .ok (given, none)
  | c :: rest =>
    match (Flag.at? topic).find? fun flag => flag.letter? == some c with
    | none => .error (.misuse (.unexpected ("-" ++ String.singleton c)))
    | some flag =>
      if flag.takesValue then
        match rest with
        | [] => .ok (given, some flag)
        | '=' :: value => (given.take topic flag (String.ofList value)).map (·, none)
        | value => (given.take topic flag (String.ofList value)).map (·, none)
      else
        match given.take topic flag "" with
        | .error halt => .error halt
        | .ok given => readLetters topic given rest

/-- Reads a word, with a value behind `=` if there is one. -/
def readWord (topic : Topic) (given : Given) (text : List Char) :
    Except Halt (Given × Option Flag) :=
  let word := String.ofList (text.takeWhile (· != '='))
  let value := (text.dropWhile (· != '=')).tail?.map String.ofList
  match (Flag.at? topic).find? fun flag => flag.word == word with
  | none => .error (.misuse (.unexpected ("--" ++ word)))
  | some flag =>
    match value with
    | some value =>
      if flag.takesValue then (given.take topic flag value).map (·, none)
      else .error (.misuse (.unwantedValue flag.name value))
    | none =>
      if flag.takesValue then .ok (given, some flag)
      else (given.take topic flag "").map (·, none)

/-- Reads an argument that starts with a dash. -/
def readDashed (topic : Topic) (given : Given) (argument : String) :
    Except Halt (Given × Option Flag) :=
  match argument.toList with
  | '-' :: '-' :: text => readWord topic given text
  | '-' :: letters => readLetters topic given letters
  | _ => .error (.misuse (.unexpected argument))

/-! ## Commands -/

/-- Takes the address of a command; there is at most one. -/
def takeAddress (topic : Topic) (address : Option SocketAddress) (argument : String) :
    Except Halt (Option SocketAddress) :=
  if topic = .devices ∨ address.isSome then .error (.misuse (.unexpected argument))
  else
    match SocketAddress.parse? argument with
    | some address => .ok (some address)
    | none => .error (.misuse (.invalidValue "<ADDR>" argument))

/-- The task of a command with its address and options. -/
def taskOf (topic : Topic) (address : Option SocketAddress) (given : Given) : Except Halt Task :=
  match topic, address with
  | .devices, _ => .ok .devices
  | _, none => .error (.misuse .missingAddress)
  | .connect, some address =>
    .ok (.connect address (((given.value? .writes).bind Given.writes?).getD 10)
      (((given.value? .size).bind Given.size?).getD 4096))
  | _, some address => .ok (.listen address)

/-- Reads the arguments of a command.  `wanting` is an option whose value comes next; `plain`
tells that no argument is an option any more. -/
def readTask (topic : Topic) (given : Given) (address : Option SocketAddress)
    (wanting : Option Flag) (plain : Bool) : List String → Except Halt Task
  | [] =>
    match wanting with
    | some flag => .error (.misuse (.missingValue flag.name))
    | none => taskOf topic address given
  | argument :: rest =>
    match wanting with
    | some flag =>
      if isDashed argument then .error (.misuse (.missingValue flag.name))
      else
        match given.take topic flag argument with
        | .error halt => .error halt
        | .ok given => readTask topic given address none plain rest
    | none =>
      if plain || !isDashed argument then
        match takeAddress topic address argument with
        | .error halt => .error halt
        | .ok address => readTask topic given address none plain rest
      else if argument = "--" then readTask topic given address none true rest
      else
        match readDashed topic given argument with
        | .error halt => .error halt
        | .ok (given, wanting) => readTask topic given address wanting plain rest

/-- The page that is asked for behind the command `help`. -/
def helpOn : List String → Halt
  | [] => .help .program
  | name :: rest =>
    match Topic.ofCommand? name with
    | none => .misuse (.unknownCommand name)
    | some topic =>
      match rest with
      | [] => .help topic
      | further :: _ => .misuse (.unknownCommand further)

def optionsOf (given : Given) : Options :=
  { config := given.value? .config
    service := (given.value? .service).getD "rdma_endpoint"
    socket := given.has .socket
    verbose := given.has .verbose
    json := given.has .json }

/-- Reads the options in front of the command, and then the command. -/
def readProgram (given : Given) (wanting : Option Flag) :
    List String → Except Halt (Options × Task)
  | [] =>
    match wanting with
    | some flag => .error (.misuse (.missingValue flag.name))
    | none => .error (.misuse .missingCommand)
  | argument :: rest =>
    match wanting with
    | some flag =>
      if isDashed argument then .error (.misuse (.missingValue flag.name))
      else
        match given.take .program flag argument with
        | .error halt => .error halt
        | .ok given => readProgram given none rest
    | none =>
      if argument = "--" then
        match rest with
        | [] => .error (.misuse .missingCommand)
        | word :: _ => .error (.misuse (.unexpected word))
      else if isDashed argument then
        match readDashed .program given argument with
        | .error halt => .error halt
        | .ok (given, wanting) => readProgram given wanting rest
      else
        match Topic.ofCommand? argument with
        | none => .error (.misuse (.unknownCommand argument))
        | some .help => .error (helpOn rest)
        | some topic => (readTask topic Given.none none none false rest).map (optionsOf given, ·)

/-- Reads a command line. -/
def read (arguments : List String) : Except Halt (Options × Task) :=
  readProgram Given.none none arguments

end RdmaLink.Command

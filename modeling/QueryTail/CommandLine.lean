import QueryTail.Text.Digits

/-!
# The command line

Words such as `--node a=a.log -d` are read into `Arguments`. A parameter takes a value and a switch
takes none. Both have a long name after two hyphens, and some have a short name of one character
after one hyphen. A value may be the next word, or be attached to a long name by an equals sign, or
follow a short name with or without one. Short names of switches may be run together.

A value that is a word of its own is looked at only when the next parameter or switch is met or the
words end. So a word that means nothing is refused even if an earlier value is wrong too.
-/

namespace QueryTail

/-- What the user asks for on the command line. -/
structure Arguments where
  /-- The descriptions of nodes, in order. -/
  nodes : List String
  /-- The settings file to use instead of the user's own. -/
  config : Option String
  capacity : Option UInt64
  pageSize : Option UInt64
  interval : Option UInt64
  /-- Keep rows when the capacity changes. -/
  retain : Bool
  /-- A text that shown subjects contain. -/
  subject : Option String
  /-- A pattern that shown subjects match. -/
  pattern : Option String
  /-- The file that the window is exported to. -/
  exportPath : Option String
  /-- The duration of the run, in seconds. -/
  duration : Option UInt64
  debug : Bool
  deriving DecidableEq, Repr

namespace Arguments

/-- Nothing is asked for. -/
def none : Arguments :=
  { nodes := [], config := .none, capacity := .none, pageSize := .none, interval := .none
    retain := false, subject := .none, pattern := .none, exportPath := .none, duration := .none
    debug := false }

end Arguments

namespace CommandLine

/-- What takes a value. -/
inductive Parameter where
  | node
  | config
  | capacity
  | pageSize
  | interval
  | subject
  | pattern
  | exportPath
  | duration
  deriving DecidableEq, Repr

/-- What takes no value. -/
inductive Switch where
  | retain
  | debug
  | help
  | version
  deriving DecidableEq, Repr

/-- What a name on the command line stands for. -/
inductive Choice where
  | parameter (parameter : Parameter)
  | switch (switch : Switch)
  deriving DecidableEq, Repr

/-- Why no run begins. -/
inductive Refusal where
  /-- A word means nothing. -/
  | unknown
  /-- A parameter lacks its value. -/
  | missingValue
  /-- A switch was given a value. -/
  | needlessValue
  /-- What may be given once was given again. -/
  | repeated
  /-- A value is not a number of 64 bits. -/
  | malformedValue
  /-- The user asks for help instead. -/
  | help
  /-- The user asks for the version instead. -/
  | version
  deriving DecidableEq, Repr

/-! ### Names -/

/-- What has a long name. -/
def Choice.ofLong? (name : List Char) : Option Choice :=
  [ ("node", .parameter .node), ("config", .parameter .config), ("capacity", .parameter .capacity),
    ("page-size", .parameter .pageSize), ("interval-ms", .parameter .interval),
    ("subject", .parameter .subject), ("regex", .parameter .pattern),
    ("export", .parameter .exportPath), ("duration-secs", .parameter .duration),
    ("retain-on-resize", .switch .retain), ("debug", .switch .debug), ("help", .switch .help),
    ("version", .switch .version) ].lookup (String.ofList name)

/-- What has a short name. -/
def Choice.ofShort? : Char → Option Choice
  | 'n' => some (.parameter .node)
  | 'c' => some (.parameter .config)
  | 's' => some (.parameter .subject)
  | 'r' => some (.parameter .pattern)
  | 'e' => some (.parameter .exportPath)
  | 'd' => some (.switch .debug)
  | 'h' => some (.switch .help)
  | 'V' => some (.switch .version)
  | _ => none

/-! ### Values -/

/-- The digits of a number, which may have a plus sign in front. -/
def unsigned : List Char → List Char
  | '+' :: rest => rest
  | text => text

/-- A value that has to be a number of 64 bits. -/
def readWord (value : String) : Except Refusal UInt64 :=
  match Text.readNumber (unsigned value.toList) with
  | some (number, []) =>
    if number < UInt64.size then .ok (UInt64.ofNat number) else .error .malformedValue
  | _ => .error .malformedValue

/-- A value that has to be a path. An empty one counts as missing. -/
def readPath (value : String) : Except Refusal String :=
  if value.isEmpty then .error .missingValue else .ok value

/-- A parameter was given already. Nodes may be given any number of times. -/
def isGiven (arguments : Arguments) : Parameter → Bool
  | .node => false
  | .config => arguments.config.isSome
  | .capacity => arguments.capacity.isSome
  | .pageSize => arguments.pageSize.isSome
  | .interval => arguments.interval.isSome
  | .subject => arguments.subject.isSome
  | .pattern => arguments.pattern.isSome
  | .exportPath => arguments.exportPath.isSome
  | .duration => arguments.duration.isSome

/-- The arguments with the value of a parameter that was not given before. -/
def put (arguments : Arguments) (parameter : Parameter) (value : String) :
    Except Refusal Arguments :=
  match parameter with
  | .node => .ok { arguments with nodes := arguments.nodes ++ [value] }
  | .config => (readPath value).map fun path => { arguments with config := some path }
  | .capacity => (readWord value).map fun word => { arguments with capacity := some word }
  | .pageSize => (readWord value).map fun word => { arguments with pageSize := some word }
  | .interval => (readWord value).map fun word => { arguments with interval := some word }
  | .subject => .ok { arguments with subject := some value }
  | .pattern => .ok { arguments with pattern := some value }
  | .exportPath => (readPath value).map fun path => { arguments with exportPath := some path }
  | .duration => (readWord value).map fun word => { arguments with duration := some word }

/-- The arguments with a parameter. That it was given before is noticed before its value is read. -/
def take (arguments : Arguments) (parameter : Parameter) (value : String) :
    Except Refusal Arguments :=
  if isGiven arguments parameter then .error .repeated else put arguments parameter value

/-- The arguments with a switch. -/
def turnOn (arguments : Arguments) : Switch → Except Refusal Arguments
  | .retain => if arguments.retain then .error .repeated else .ok { arguments with retain := true }
  | .debug => if arguments.debug then .error .repeated else .ok { arguments with debug := true }
  | .help => .error .help
  | .version => .error .version

/-! ### Words -/

/-- The words read so far. -/
structure Reading where
  arguments : Arguments
  /-- The parameter that was met last, with its value if that was met, when neither has gone into
  the arguments yet. -/
  pending : Option (Parameter × Option String)
  /-- The two hyphens that end the parameters and switches were met. -/
  ended : Bool

namespace Reading

/-- No word has been read. -/
def start : Reading := ⟨.none, none, false⟩

/-- Put what is pending into the arguments. -/
def settle (reading : Reading) : Except Refusal Reading :=
  match reading.pending with
  | none => .ok reading
  | some (_, none) => .error .missingValue
  | some (parameter, some value) => do
    let arguments ← take reading.arguments parameter value
    .ok { reading with arguments, pending := none }

/-- A parameter is met, with or without a value attached to it. -/
def meet (reading : Reading) (parameter : Parameter) (attached : Option (List Char)) :
    Except Refusal Reading := do
  let reading ← reading.settle
  match attached with
  | none => .ok { reading with pending := some (parameter, none) }
  | some value =>
    let arguments ← take reading.arguments parameter (String.ofList value)
    .ok { reading with arguments }

/-- A switch is met. -/
def flip (reading : Reading) (switch : Switch) : Except Refusal Reading := do
  let reading ← reading.settle
  let arguments ← turnOn reading.arguments switch
  .ok { reading with arguments }

/-- A long name is met, with or without a value attached to it. -/
def long (reading : Reading) (name : List Char) (attached : Option (List Char)) :
    Except Refusal Reading :=
  match Choice.ofLong? name, attached with
  | none, _ => .error .unknown
  | some (.parameter parameter), attached => reading.meet parameter attached
  | some (.switch switch), none => reading.flip switch
  | some (.switch _), some _ => .error .needlessValue

/-- The value that follows a short name in the same word. -/
def attachedTo : List Char → Option (List Char)
  | [] => none
  | '=' :: value => some value
  | value => some value

/-- Short names are met that stand together. The first parameter takes the rest of the word for its
value. -/
def short (reading : Reading) : List Char → Except Refusal Reading
  | [] => .ok reading
  | name :: rest =>
    match Choice.ofShort? name with
    | none => .error .unknown
    | some (.parameter parameter) => reading.meet parameter (attachedTo rest)
    | some (.switch switch) => do
      let reading ← reading.flip switch
      reading.short rest

/-- A word without a name is met. It has to be the value that the last parameter waits for. -/
def plain (reading : Reading) (word : List Char) : Except Refusal Reading :=
  match reading.pending with
  | some (parameter, none) =>
    .ok { reading with pending := some (parameter, some (String.ofList word)) }
  | _ => .error .unknown

/-- The text after the first equals sign. -/
def afterEquals (text : List Char) : Option (List Char) :=
  match text.dropWhile (· != '=') with
  | [] => none
  | _ :: value => some value

/-- A word is met. After the two hyphens by themselves no word means anything. -/
def step (reading : Reading) (word : String) : Except Refusal Reading :=
  if reading.ended then .error .unknown
  else match word.toList with
    | ['-', '-'] => .ok { reading with ended := true }
    | '-' :: '-' :: rest => reading.long (rest.takeWhile (· != '=')) (afterEquals rest)
    | '-' :: first :: rest => reading.short (first :: rest)
    | word => reading.plain word

end Reading

/-- The arguments that the words of a command line denote. -/
def parse (words : List String) : Except Refusal Arguments := do
  let reading ← words.foldlM Reading.step Reading.start
  let reading ← reading.settle
  .ok reading.arguments

end CommandLine

end QueryTail

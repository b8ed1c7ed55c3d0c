/-!
# The command line

Three options override or name the configuration, and two switches print a
text and end. Arguments are read from left to right and the first switch or
fault decides. An option takes its value from behind an equals sign, from
the rest of a short option, or from the next argument, unless that one looks
like an option itself.
-/

namespace Gatehouse

/-- **What the options ask for.** -/
structure Options where
  /-- The path of the configuration file. -/
  config : Option String := none
  /-- The endpoint to bind to, in place of the configured one. -/
  bind : Option String := none
  /-- The URL of the backend, in place of the configured one. -/
  target : Option String := none
deriving DecidableEq, Inhabited

namespace CommandLine

/-- What the program is asked to do. -/
inductive Request where
  /-- Explain the options. -/
  | help
  /-- Tell the version. -/
  | version
  /-- Serve. -/
  | serve (options : Options)
deriving DecidableEq, Inhabited

/-- Why the arguments make no sense. -/
inductive Fault where
  | unexpected (argument : String)
  | missingValue (option : String)
  | emptyValue (option : String)
  | repeated (option : String)
  | surplusValue (option : String)
deriving DecidableEq, Inhabited

/-- The options that take a value. -/
inductive Name where
  | config
  | bind
  | target
deriving DecidableEq, Inhabited

/-- An option as messages show it. -/
def Name.usage : Name → String
  | .config => "--config <CONFIG>"
  | .bind => "--bind <BIND>"
  | .target => "--target <TARGET>"

/-- The option of a long name. -/
def Name.ofLong? (s : String) : Option Name :=
  if s = "config" then some .config
  else if s = "bind" then some .bind
  else if s = "target" then some .target
  else none

/-- Gives an option its value. None may be given twice, and a path is not
empty. -/
def give (o : Options) (name : Name) (value : String) : Except Fault Options :=
  match name with
  | .config =>
    if o.config.isSome then .error (.repeated name.usage)
    else if value.isEmpty then .error (.emptyValue name.usage)
    else .ok { o with config := some value }
  | .bind =>
    if o.bind.isSome then .error (.repeated name.usage)
    else .ok { o with bind := some value }
  | .target =>
    if o.target.isSome then .error (.repeated name.usage)
    else .ok { o with target := some value }

/-- What one argument is. -/
inductive Argument where
  | help
  | version
  /-- An option with its value, if the argument holds it. -/
  | option (name : Name) (value : Option String)
  /-- The end of the options. -/
  | escape
  | fault (reason : Fault)
deriving DecidableEq, Inhabited

/-- A switch, which takes no value. -/
def switch (name : String) (a : Argument) (value : Option String) : Argument :=
  if value.isSome then .fault (.surplusValue ("--" ++ name)) else a

/-- An argument that begins with two dashes. -/
def longArgument (s : List Char) : Argument :=
  let name := String.ofList (s.takeWhile (· != '='))
  let value := match s.dropWhile (· != '=') with
    | _ :: v => some (String.ofList v)
    | [] => none
  if s.isEmpty then .escape
  else if name = "help" then switch name .help value
  else if name = "version" then switch name .version value
  else match Name.ofLong? name with
    | some n => .option n value
    | none => .fault (.unexpected ("--" ++ name))

/-- An argument that begins with one dash. -/
def shortArgument : List Char → Argument
  | 'h' :: _ => .help
  | 'V' :: _ => .version
  | ['c'] => .option .config none
  | 'c' :: '=' :: value => .option .config (some (String.ofList value))
  | 'c' :: value => .option .config (some (String.ofList value))
  | s => .fault (.unexpected ("-" ++ String.ofList (s.take 1)))

/-- Reads one argument. A single dash is no option. -/
def Argument.ofText (s : String) : Argument :=
  match s.toList with
  | '-' :: '-' :: rest => longArgument rest
  | '-' :: c :: rest => shortArgument (c :: rest)
  | _ => .fault (.unexpected s)

/-- Whether an argument looks like an option, so that it is no value of the
one before. -/
def looksLikeOption (s : String) : Bool :=
  match s.toList with
  | '-' :: _ :: _ => true
  | _ => false

/-- Reads the arguments behind those that have set some options. -/
def parseFrom (o : Options) : List String → Except Fault Request
  | [] => .ok (.serve o)
  | arg :: rest =>
    match Argument.ofText arg with
    | .help => .ok .help
    | .version => .ok .version
    | .fault f => .error f
    | .escape =>
      match rest with
      | [] => .ok (.serve o)
      | next :: _ => .error (.unexpected next)
    | .option name (some value) =>
      match give o name value with
      | .ok o => parseFrom o rest
      | .error f => .error f
    | .option name none =>
      match rest with
      | [] => .error (.missingValue name.usage)
      | value :: rest =>
        if looksLikeOption value then .error (.missingValue name.usage)
        else match give o name value with
          | .ok o => parseFrom o rest
          | .error f => .error f

/-- **Reads the arguments.** -/
def parse (args : List String) : Except Fault Request := parseFrom {} args

/-! ## Texts -/

/-- The name and version of the program. -/
def versionText : String := "geofence-proxy 0.1.0\n"

def usageText : String := "Usage: geofence-proxy [OPTIONS]\n"

/-- The explanation of the options. -/
def helpText : String :=
  "GeoIP filtering reverse proxy\n\n" ++ usageText ++ "\nOptions:\n"
    ++ "  -c, --config <CONFIG>  Path to the TOML configuration file\n"
    ++ "      --bind <BIND>      Override listener.bind_address\n"
    ++ "      --target <TARGET>  Override upstream.target_url\n"
    ++ "  -h, --help             Print help\n"
    ++ "  -V, --version          Print version\n"

/-- The text of a fault. -/
def Fault.message (f : Fault) : String :=
  let reason := match f with
    | .unexpected argument => "unexpected argument '" ++ argument ++ "' found"
    | .missingValue option =>
      "a value is required for '" ++ option ++ "' but none was supplied"
    | .emptyValue option =>
      "a value is required for '" ++ option ++ "' but none was supplied"
    | .repeated option => "the argument '" ++ option ++ "' cannot be used multiple times"
    | .surplusValue option => "unexpected value for '" ++ option ++ "' found; no more were expected"
  "error: " ++ reason ++ "\n\n" ++ usageText ++ "\nFor more information, try '--help'.\n"

end CommandLine

end Gatehouse

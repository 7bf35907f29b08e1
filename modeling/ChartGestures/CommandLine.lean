import ChartGestures.Number.ExactDecimal
import ChartGestures.Script.Replay

/-!
# The command line

What the program is asked to do, and what it prints. Arguments are read from left to right, and the first that is wrong
decides; help and the version are given as soon as they are met. Reading files is left to the caller.
-/

namespace ChartGestures.CommandLine

structure Request where
  script : String
  config : Option String
  /-- Pace events by their times. -/
  realtime : Bool
  json : Bool

inductive Parsed where
  | run (request : Request)
  | help
  | version
  | misuse
  deriving Inhabited

/-- The arguments seen so far. -/
structure Progress where
  script : Option String
  config : Option String
  realtime : Bool
  json : Bool

/-- An argument that stands for itself; a lone dash does. -/
def isPlain (arg : String) : Bool := arg == "-" || !arg.startsWith "-"

def takeScript (p : Progress) (arg : String) : Option Progress :=
  if arg.isEmpty || p.script.isSome then none else some { p with script := some arg }

def takeConfig (p : Progress) (path : String) : Option Progress :=
  if path.isEmpty || p.config.isSome then none else some { p with config := some path }

/-- What follows the letter of an option in the same argument; an equals sign between them does not count. -/
def attached (arg : String) (count : Nat) : String :=
  let rest := (arg.drop count).toString
  if rest.startsWith "=" then (rest.drop 1).toString else rest

def finish (p : Progress) : Parsed :=
  match p.script with
  | some script => .run { script, config := p.config, realtime := p.realtime, json := p.json }
  | none => .misuse

def parseFrom (p : Progress) : List String → Parsed
  | [] => finish p
  | "--" :: rest =>
    match rest.foldlM takeScript p with
    | some p => finish p
    | none => .misuse
  | "--json" :: rest => if p.json then .misuse else parseFrom { p with json := true } rest
  | "--realtime" :: rest => if p.realtime then .misuse else parseFrom { p with realtime := true } rest
  | "--help" :: _ => .help
  | "--version" :: _ => .version
  | arg :: rest =>
    if isPlain arg then (takeScript p arg).elim .misuse (parseFrom · rest)
    else if arg.startsWith "--config=" then
      (takeConfig p (arg.drop 9).toString).elim .misuse (parseFrom · rest)
    else if arg == "--config" || arg == "-c" then
      match rest with
      | path :: rest => if isPlain path then (takeConfig p path).elim .misuse (parseFrom · rest) else .misuse
      | [] => .misuse
    else if arg.startsWith "--" then .misuse
    else if arg.startsWith "-c" then (takeConfig p (attached arg 2)).elim .misuse (parseFrom · rest)
    else if arg.startsWith "-h" then .help
    else if arg.startsWith "-V" then .version
    else .misuse

def parse (args : List String) : Parsed := parseFrom ⟨none, none, false, false⟩ args

def usage : String := "Usage: ax-replay [OPTIONS] <SCRIPT>\n"

def helpText : String :=
  "Replay gesture scripts against chart axes\n\n" ++ usage
    ++ "\nArguments:\n  <SCRIPT>  Gesture script (JSON)\n\nOptions:\n"
    ++ "  -c, --config <CONFIG>  Interaction configuration (JSON); defaults are used when omitted\n"
    ++ "      --realtime         Pace events by their timestamps instead of replaying instantly\n"
    ++ "      --json             Print the final ranges as JSON\n"
    ++ "  -h, --help             Print help\n"
    ++ "  -V, --version          Print version\n"

def versionText : String := "ax-replay 0.1.0\n"

/-- How the program ends: exit code and output, the message of a failure, and how long a paced replay takes. -/
structure Outcome where
  code : Nat
  output : String
  message : String
  lengthNanos : Nat

def succeed (output : String) (lengthNanos : Nat) : Outcome := ⟨0, output, "", lengthNanos⟩

def fail (message : String) : Outcome := ⟨1, "", message, 0⟩

/-- Replays a script that was read. -/
def replay (request : Request) (config : InteractionConfig Float) (text : String) : Outcome :=
  match Script.ofText text with
  | .error e => fail e.message
  | .ok script =>
    match Replay.ofScript script config with
    | .error e => fail e.message
    | .ok start =>
      let report := (start.applyAll script.events).2.finish
      let length := if request.realtime then (script.events.getLast?.map ScriptEvent.time).getD 0 else 0
      succeed (if request.json then reportJson report else reportText report) length

/-- Carries out a request; the configuration is read before the script. -/
def execute {m : Type → Type} [Monad m] (read : String → m (Option String)) (request : Request) : m Outcome := do
  let config ← match request.config with
    | none => pure (.ok .default)
    | some path =>
      match ← read path with
      | none => pure (.error ("Failed to load configuration from " ++ path))
      | some text =>
        pure ((InteractionConfig.ofText text).mapError fun e =>
          "Failed to load configuration from " ++ path ++ ": " ++ e.message)
  match config with
  | .error message => return fail message
  | .ok config =>
    match ← read request.script with
    | none => return fail ("Failed to read " ++ request.script)
    | some text => return replay request config text

def run {m : Type → Type} [Monad m] (read : String → m (Option String)) (args : List String) : m Outcome :=
  match parse args with
  | .run request => execute read request
  | .help => return succeed helpText 0
  | .version => return succeed versionText 0
  | .misuse => return ⟨2, "", usage, 0⟩

end ChartGestures.CommandLine

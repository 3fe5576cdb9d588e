import RemoteClient.Demo.Basic

/-!
The command line: options with two dashes, their values given as a word of their own or after an
equals sign, and a word that names the command. One option holds for all commands and may stand
before or after that word.
-/

namespace RemoteClient.Command

inductive Kind where
  | flag
  | path
  | text
  | count
  deriving DecidableEq, Repr

structure Switch where
  name : String
  kind : Kind
  deriving DecidableEq, Repr

inductive Stop where
  | usage
  | help
  | version
  deriving DecidableEq, Repr

abbrev Given := List (String × String)

inductive Task where
  | plan (input output : Option String) (write : Bool) (service : Option String)
  | initSettings (path : Option String) (force : Bool)
  | demo (options : Demo.Options)
  deriving DecidableEq, Repr

structure Request where
  settings : Option String
  task : Task
  deriving DecidableEq, Repr

def largestCount : Nat := Nat.pow 2 64 - 1

def count? (text : String) : Option Nat :=
  let digits := match text.toList with
    | '+' :: rest => rest
    | digits => digits
  if digits.isEmpty || !digits.all Char.isDigit then none
  else
    let n := digits.foldl (fun n c => 10 * n + (c.toNat - '0'.toNat)) 0
    if n ≤ largestCount then some n else none

def Kind.accepts (kind : Kind) (value : String) : Bool :=
  match kind with
  | .flag => value == ""
  | .path => value ≠ ""
  | .text => true
  | .count => (count? value).isSome

/-- A lone dash is a word. -/
def looksLikeOption (arg : String) : Bool :=
  match arg.toList with
  | '-' :: _ :: _ => true
  | _ => false

def splitOption (arg : String) : String × Option String :=
  let chars := arg.toList.drop 2
  let name := String.ofList (chars.takeWhile (· ≠ '='))
  match chars.dropWhile (· ≠ '=') with
  | [] => (name, none)
  | _ :: value => (name, some (String.ofList value))

def record (given : Given) (s : Switch) (value : String) : Except Stop Given :=
  if !s.kind.accepts value || (given.lookup s.name).isSome then .error .usage
  else .ok (given ++ [(s.name, value)])

def readBare (top : Bool) (name : String) (inline : Option String) : Stop :=
  if inline.isSome then .usage
  else if name == "help" then .help
  else if top && name == "version" then .version
  else .usage

def readShort (top : Bool) (arg : String) : Stop :=
  match arg.toList with
  | _ :: 'h' :: _ => .help
  | _ :: 'V' :: _ => if top then .version else .usage
  | _ => .usage

def readOption (top : Bool) (switches : List Switch) (given : Given) (arg : String) :
    Except Stop (Given × Option Switch) := do
  if !"--".toList.isPrefixOf arg.toList then throw (readShort top arg)
  let (name, inline) := splitOption arg
  match switches.find? (·.name == name), inline with
  | none, _ => throw (readBare top name inline)
  | some s, none =>
    if s.kind = .flag then return (← record given s "", none) else return (given, some s)
  | some s, some value =>
    if s.kind = .flag then throw .usage else return (← record given s value, none)

/-- Reads options up to the first word that is none, and gives what is left. An option that waits
for its value takes the next word if that does not look like an option. After two dashes only words
can follow, and none is expected there. -/
def scan (top : Bool) (switches : List Switch) (given : Given) (waiting : Option Switch) :
    List String → Except Stop (Given × List String)
  | [] => if waiting.isSome then .error .usage else .ok (given, [])
  | arg :: rest =>
    match waiting with
    | some s =>
      if looksLikeOption arg then .error .usage
      else do scan top switches (← record given s arg) none rest
    | none =>
      if arg == "--" then (if rest.isEmpty then .ok (given, []) else .error .usage)
      else if !looksLikeOption arg then .ok (given, arg :: rest)
      else do
        let (given, waiting) ← readOption top switches given arg
        scan top switches given waiting rest

def settingsSwitch : Switch := ⟨"config", .path⟩

def planSwitches : List Switch :=
  [settingsSwitch, ⟨"input", .path⟩, ⟨"output", .path⟩, ⟨"write", .flag⟩, ⟨"service", .text⟩]

def initSwitches : List Switch := [settingsSwitch, ⟨"path", .path⟩, ⟨"force", .flag⟩]

def demoSwitches : List Switch :=
  [settingsSwitch, ⟨"calls", .count⟩, ⟨"fault-every", .count⟩, ⟨"cancel", .flag⟩]

namespace Given

def has (given : Given) (name : String) : Bool := (given.lookup name).isSome

def count (given : Given) (name : String) (standard : Nat) : Nat :=
  ((given.lookup name).bind count?).getD standard

end Given

def scanAll (switches : List Switch) (args : List String) : Except Stop Given := do
  match ← scan false switches [] none args with
  | (given, []) => return given
  | _ => throw .usage

def readPlan (args : List String) : Except Stop (Given × Task) := do
  let given ← scanAll planSwitches args
  if given.has "output" && given.has "write" then throw .usage
  return (given, .plan (given.lookup "input") (given.lookup "output") (given.has "write")
    (given.lookup "service"))

def readInit (args : List String) : Except Stop (Given × Task) := do
  let given ← scanAll initSwitches args
  return (given, .initSettings (given.lookup "path") (given.has "force"))

def readDemo (args : List String) : Except Stop (Given × Task) := do
  let given ← scanAll demoSwitches args
  return (given, .demo ⟨given.count "calls" 5, given.count "fault-every" 0, given.has "cancel"⟩)

def readHelp : List String → Stop
  | [] => .help
  | [name] => if ["plan", "init-config", "demo", "help"].contains name then .help else .usage
  | _ => .usage

def readTask : List String → Except Stop (Given × Task)
  | "plan" :: args => readPlan args
  | "init-config" :: args => readInit args
  | "demo" :: args => readDemo args
  | "help" :: args => .error (readHelp args)
  | _ => .error .usage

/-- Of settings given on both sides of the command the inner ones count. -/
def parse (args : List String) : Except Stop Request := do
  let (outer, rest) ← scan true [settingsSwitch] [] none args
  let (inner, task) ← readTask rest
  return ⟨(inner.lookup "config").or (outer.lookup "config"), task⟩

end RemoteClient.Command

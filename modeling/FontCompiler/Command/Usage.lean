import FontCompiler.Command.Invocation

/-!
# Command lines

A command line consists of the name of a command and of settings in any order.
A setting is a flag, or it takes a value, or it takes all words up to the next
setting.  A value may stand in the next word, behind an equals sign, or
directly behind a short name.  Two hyphens end the settings, and since no
command takes further words, nothing may follow them.

The values of a setting are checked as soon as the next setting starts, so the
first fault of a command line is the one that is reported, except that an
unknown setting is reported before the values in front of it.
-/

namespace FontCompiler.Command

/-- Why a command line asks for nothing that can be done. -/
inductive UsageFault
  | displayHelp
  | displayHelpForNothing
  | invalidCommand
  | missingCommand
  | unknownSetting
  | unneededValue
  | invalidValue
  | repeatedSetting
  | missingSetting
  deriving DecidableEq, Repr

/-- Only those who ask for help get what they want. -/
def UsageFault.exitCode : UsageFault → Nat
  | .displayHelp => 0
  | _ => 2

/-- The settings of all commands. -/
inductive Setting
  | help
  | verbose
  | filter
  | inputs
  | output
  | sidecars
  | dryRun
  | text
  deriving DecidableEq, Repr

/-- What a setting takes. -/
inductive Arity
  | nothing
  /-- A single value, which may be required to have characters. -/
  | value (mayBeEmpty : Bool)
  | values
  deriving DecidableEq, Repr

namespace Setting

/-- The long name of a setting. -/
def long : Setting → String
  | .help => "help"
  | .verbose => "verbose"
  | .filter => "jq-expr"
  | .inputs => "input"
  | .output => "out"
  | .sidecars => "sidecar-dir"
  | .dryRun => "no-op"
  | .text => "text"

/-- The short name of a setting. -/
def short? : Setting → Option Char
  | .help => some 'h'
  | .verbose => some 'v'
  | .inputs => some 'i'
  | .output => some 'o'
  | .text => some 't'
  | _ => none

/-- What a setting takes. -/
def arity : Setting → Arity
  | .help => .nothing
  | .verbose => .nothing
  | .filter => .value true
  | .inputs => .values
  | .output => .value false
  | .sidecars => .value false
  | .dryRun => .nothing
  | .text => .value true

end Setting

/-- The commands by name. -/
inductive CommandName
  | generate
  | probe
  | help
  deriving DecidableEq, Repr

namespace CommandName

/-- The command of a name. -/
def ofWord? : String → Option CommandName
  | "generate" => some .generate
  | "probe" => some .probe
  | "help" => some .help
  | _ => none

/-- The settings of a command. -/
def settings : CommandName → List Setting
  | .generate => [.help, .verbose, .filter, .inputs, .output, .sidecars, .dryRun]
  | .probe => [.help, .verbose, .filter, .inputs, .text]
  | .help => []

end CommandName

/-- What has been read of a command line. -/
structure Words where
  /-- The settings that are complete, in order. -/
  complete : List (Setting × List String)
  /-- The setting whose values are being read. -/
  pending : Option (Setting × List String)
  /-- Whether the next plain word is a value of this setting. -/
  expecting : Bool
  /-- Whether the settings are ended. -/
  ended : Bool
  deriving DecidableEq, Repr

namespace Words

/-- Nothing has been read. -/
def none : Words := ⟨[], .none, false, false⟩

/-- Whether a setting is complete. -/
def contains (words : Words) (setting : Setting) : Bool :=
  words.complete.any fun (other, _) => other == setting

/-- Completes a setting with its values. -/
def add (words : Words) (setting : Setting) (values : List String) :
    Except UsageFault Words :=
  let added : Words := { words with complete := words.complete ++ [(setting, values)] }
  match setting.arity with
  | .nothing =>
    if setting = .help then .error .displayHelp
    else if words.contains setting then .error .repeatedSetting
    else .ok added
  | .values => if values.isEmpty then .error .invalidValue else .ok added
  | .value mayBeEmpty =>
    if values.isEmpty then .error .invalidValue
    else if words.contains setting then .error .repeatedSetting
    else if !mayBeEmpty && values.contains "" then .error .invalidValue
    else .ok added

/-- Completes the setting whose values are being read. -/
def settle (words : Words) : Except UsageFault Words :=
  match words.pending with
  | .none => .ok words
  | .some (setting, values) =>
    add { words with pending := .none, expecting := false } setting values

/-- Reads a setting with the value that is attached to it. -/
def start (words : Words) (setting : Setting) (attached : Option String) :
    Except UsageFault Words := do
  match setting.arity, attached with
  | .nothing, _ => (← words.settle).add setting []
  | _, .some value => (← words.settle).add setting [value]
  | _, .none => return { (← words.settle) with pending := .some (setting, []), expecting := true }

/-- Reads a word that starts with two hyphens, which are left out. -/
def readLong (available : List Setting) (words : Words) (word : List Char) :
    Except UsageFault Words :=
  let name := String.ofList (word.takeWhile (· != '='))
  let attached := (word.dropWhile (· != '=')).tail?.map String.ofList
  match available.find? fun setting => setting.long == name with
  | .none => .error .unknownSetting
  | .some setting =>
    if setting.arity = .nothing ∧ attached.isSome then .error .unneededValue
    else words.start setting attached

/-- Reads the short names of a word that starts with a hyphen, which is left out; a name that
takes a value takes the rest of the word. -/
def readShort (available : List Setting) (words : Words) :
    List Char → Except UsageFault Words
  | [] => .ok words
  | letter :: rest =>
    match available.find? fun setting => setting.short? == .some letter with
    | .none => .error .unknownSetting
    | .some setting =>
      match setting.arity, rest with
      | .nothing, _ => do readShort available (← words.start setting .none) rest
      | _, [] => words.start setting .none
      | _, '=' :: value => words.start setting (.some (String.ofList value))
      | _, value => words.start setting (.some (String.ofList value))

/-- Reads a word, unless it is a plain word that no setting expects. -/
def read (available : List Setting) (words : Words) (word : String) :
    Except UsageFault (Option Words) :=
  if words.ended then .ok .none
  else
    match word.toList with
    | ['-', '-'] => .ok (.some { words with ended := true, expecting := false })
    | '-' :: '-' :: long => (readLong available words long).map .some
    | '-' :: letter :: letters => (readShort available words (letter :: letters)).map .some
    | _ =>
      match words.pending, words.expecting with
      | .some (setting, values), true =>
        .ok (.some { words with
          pending := .some (setting, values ++ [word]), expecting := setting.arity = .values })
      | _, _ => .ok .none

/-- Reads the words of a command. -/
def readAll (available : List Setting) : Words → List String → Except UsageFault Words
  | words, [] => words.settle
  | words, word :: rest => do
    match ← words.read available word with
    | .some words => readAll available words rest
    | .none => .error .unknownSetting

/-- The values of a setting that is given once. -/
def value? (words : Words) (setting : Setting) : Option String :=
  (words.complete.find? fun (other, _) => other == setting).bind fun (_, values) => values.head?

/-- All values of a setting. -/
def values (words : Words) (setting : Setting) : List String :=
  words.complete.flatMap fun (other, values) => if other = setting then values else []

/-- Where the manifests of a command come from. -/
def sources (words : Words) : Except UsageFault Sources :=
  if words.contains .inputs then .ok ⟨words.value? .filter, words.values .inputs⟩
  else .error .missingSetting

/-- The task of a command. -/
def task (words : Words) (name : CommandName) : Except UsageFault Task :=
  match name with
  | .generate => do
    return .generate ⟨← words.sources, words.value? .output, words.value? .sidecars,
      words.contains .dryRun⟩
  | .probe => do
    let sources ← words.sources
    match words.value? .text with
    | .some text => return .probe ⟨sources, text⟩
    | .none => .error .missingSetting
  | .help => .error .displayHelp

end Words

namespace Invocation

/-- The names behind the command for help have to be that of a single command. -/
def helpFault : List String → UsageFault
  | [] => .displayHelp
  | [word] => if (CommandName.ofWord? word).isSome then .displayHelp else .invalidCommand
  | _ => .invalidCommand

/-- Reads what stands in front of a command, and the command. -/
def readFrom : Words → List String → Except UsageFault Invocation
  | words, [] => do
    let words ← words.settle
    .error (if words.complete.isEmpty then .displayHelpForNothing else .missingCommand)
  | words, word :: rest =>
    match words.ended, CommandName.ofWord? word with
    | true, some _ => .error .unknownSetting
    | false, some .help => .error (helpFault rest)
    | false, some name => do
      let inner ← Words.readAll name.settings .none rest
      return ⟨words.contains .verbose || inner.contains .verbose, ← inner.task name⟩
    | _, none => do
      match ← words.read [.help, .verbose] word with
      | some words => readFrom words rest
      | none => .error .invalidCommand

/-- What the words of a command line ask for. -/
def ofWords (words : List String) : Except UsageFault Invocation :=
  readFrom .none words

end Invocation

end FontCompiler.Command

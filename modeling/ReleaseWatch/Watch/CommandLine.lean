import ReleaseWatch.Text.Numeral

/-!
# The command line

The words of a command line are options, or plain words of which the first one names the command.
An option may be cut short as long as it stays unique, its value may follow it behind an equals
sign or as the next word, and short options may share a dash. Unknown words are refused at the
end, so that a request for help that comes before or after them is still met.
-/

namespace ReleaseWatch

inductive Command where
  | watch (once : Bool)
  | writeDefault
  deriving DecidableEq

structure Invocation where
  settingsPath : String
  verbose : Bool
  command : Command
  deriving DecidableEq

/-- Why a command line leads to no command. -/
inductive CommandStop where
  /-- Help was asked for, with the text of it. -/
  | help (text : String)
  | misuse
  deriving DecidableEq

namespace CommandLine

inductive Switch where
  | help
  | settingsPath
  | verbose
  | once
  deriving DecidableEq

def Switch.hasValue : Switch → Bool
  | .settingsPath => true
  | _ => false

/-- The options that may be given, with all their spellings. -/
abbrev OptionTable := List (String × Switch)

def generalOptions : OptionTable :=
  [("-h", .help), ("--help", .help), ("--config", .settingsPath), ("-v", .verbose),
    ("--verbose", .verbose)]

def watchOptions : OptionTable :=
  [("-h", .help), ("--help", .help), ("--once", .once)]

def writeOptions : OptionTable :=
  [("-h", .help), ("--help", .help)]

/-- A text that is joined to an option, and whether an equals sign stands between them. -/
structure Joined where
  text : List Char
  isEquated : Bool

structure OptionUse where
  switch : Switch
  /-- Whether it has a single dash. -/
  isShort : Bool
  joined : Option Joined := none

/-- What a word of the command line is. -/
inductive Word where
  | plain (text : String)
  /-- Two dashes, behind which every word is plain. -/
  | separator
  | use (option : OptionUse)
  | unknown

/-- Whether an option's spelling has a single dash. -/
def isShortName (name : String) : Bool :=
  !name.startsWith "--"

/-- Whether a word is a negative number, which is a plain word. -/
def isNegativeNumber (word : List Char) : Bool :=
  match word with
  | '-' :: rest =>
      let digits := rest.takeWhile isDigit
      match rest.dropWhile isDigit with
      | [] => !digits.isEmpty
      | ['\n'] => !digits.isEmpty
      | '.' :: fraction =>
          !(fraction.takeWhile isDigit).isEmpty &&
            (fraction.dropWhile isDigit == [] || fraction.dropWhile isDigit == ['\n'])
      | _ => false
  | _ => false

/-- The text of a word before its first equals sign and, if there is one, the text behind it. -/
def splitEquated (word : List Char) : List Char × Option (List Char) :=
  match word.dropWhile (· ≠ '=') with
  | [] => (word, none)
  | _ :: rest => (word.takeWhile (· ≠ '='), some rest)

/--
The options that a word may stand for: those that
it cuts short, or a short one with more behind it.
-/
def candidates (table : OptionTable) (word : List Char) : List OptionUse :=
  match word with
  | '-' :: '-' :: _ =>
      let (start, value) := splitEquated word
      table.filterMap fun (name, switch) =>
        if start.isPrefixOf name.toList then
          some { switch, isShort := isShortName name,
                 joined := value.map fun text => { text, isEquated := true } }
        else none
  | _ =>
      table.filterMap fun (name, switch) =>
        if name.toList = word.take 2 then
          some { switch, isShort := true,
                 joined := some { text := word.drop 2, isEquated := false } }
        else if word.isPrefixOf name.toList then some { switch, isShort := isShortName name }
        else none

/-- The option that a word spells out, with or without a value behind an equals sign. -/
def spelledOut? (table : OptionTable) (word : List Char) : Option OptionUse :=
  match table.find? (·.1.toList = word) with
  | some (name, switch) => some { switch, isShort := isShortName name }
  | none =>
      match splitEquated word with
      | (_, none) => none
      | (start, some text) =>
          (table.find? (·.1.toList = start)).map fun (name, switch) =>
            { switch, isShort := isShortName name, joined := some { text, isEquated := true } }

/-- What a word is that no separator precedes; one that may stand for several options is refused. -/
def classify (table : OptionTable) (word : String) : Except CommandStop Word :=
  let chars := word.toList
  if chars.head? ≠ some '-' || chars.length = 1 then .ok (.plain word)
  else
    match spelledOut? table chars with
    | some use => .ok (.use use)
    | none =>
        match candidates table chars with
        | [use] => .ok (.use use)
        | _ :: _ :: _ => .error .misuse
        | [] =>
            if isNegativeNumber chars || chars.contains ' ' then .ok (.plain word)
            else .ok .unknown

def classifyAll (table : OptionTable) : List String → Except CommandStop (List Word)
  | [] => .ok []
  | "--" :: rest => .ok (.separator :: rest.map .plain)
  | word :: rest => do
      let first ← classify table word
      let others ← classifyAll table rest
      return first :: others

/-- The switches of options that share a dash, and whether something unknown is among them. -/
structure Bundle where
  switches : List Switch
  hasUnknown : Bool := false

/--
The switches that follow an option on its dash; a value that an option does not take is refused.
-/
def followers (table : OptionTable) (isEquated : Bool) : List Char → Except CommandStop Bundle
  | [] => if isEquated then .error .misuse else .ok { switches := [] }
  | char :: rest =>
      if isEquated || char = '-' then .error .misuse
      else
        match table.lookup (String.ofList ['-', char]) with
        | none => .ok { switches := [], hasUnknown := true }
        | some switch =>
            match rest with
            | '=' :: _ => .error .misuse
            | rest => do
                let others ← followers table false rest
                return { others with switches := switch :: others.switches }

/-- The switches that an option without a value turns on. -/
def bundle (table : OptionTable) (use : OptionUse) : Except CommandStop Bundle :=
  match use.joined with
  | none => .ok { switches := [use.switch] }
  | some joined =>
      if use.isShort && !joined.text.isEmpty then do
        let others ← followers table joined.isEquated joined.text
        return { others with switches := use.switch :: others.switches }
      else .error .misuse

structure Choices where
  settingsPath : String
  verbose : Bool := false
  once : Bool := false
  hasUnknown : Bool := false

namespace Choices

/-- Turns switches on, in order; help ends the command line. -/
def turnOn (help : String) (choices : Choices) : List Switch → Except CommandStop Choices
  | [] => .ok choices
  | .help :: _ => .error (.help help)
  | .verbose :: rest => turnOn help { choices with verbose := true } rest
  | .once :: rest => turnOn help { choices with once := true } rest
  | .settingsPath :: rest => turnOn help choices rest

def apply (help : String) (choices : Choices) (bundle : Bundle) : Except CommandStop Choices :=
  { choices with hasUnknown := choices.hasUnknown || bundle.hasUnknown }.turnOn help bundle.switches

end Choices

/-- Reads the options up to the first plain word, and gives the words from there on. -/
def readOptions (table : OptionTable) (help : String) (choices : Choices) :
    List Word → Except CommandStop (Choices × List Word)
  | .unknown :: rest => readOptions table help { choices with hasUnknown := true } rest
  | .use option :: rest =>
      if option.switch.hasValue then
        match option.joined, rest with
        | some joined, rest =>
            readOptions table help { choices with settingsPath := String.ofList joined.text } rest
        | none, .plain value :: rest =>
            readOptions table help { choices with settingsPath := value } rest
        | none, _ => .error .misuse
      else do
        let switches ← bundle table option
        let choices ← choices.apply help switches
        readOptions table help choices rest
  | words => .ok (choices, words)

/-- Reads the options of a command, which has no plain words. -/
def readCommand (table : OptionTable) (help : String) (choices : Choices) :
    List Word → Except CommandStop Choices
  | [] => .ok choices
  | .plain _ :: rest => readCommand table help { choices with hasUnknown := true } rest
  | .separator :: rest => readCommand table help { choices with hasUnknown := true } rest
  | .unknown :: rest => readCommand table help { choices with hasUnknown := true } rest
  | .use option :: rest => do
      let switches ← bundle table option
      let choices ← choices.apply help switches
      readCommand table help choices rest

/-- The first line of every help text, for the part of the command line that it is about. -/
def usage (about : String) : String :=
  "usage: torrentsieve" ++ about ++ "\n"

def generalUsage : String :=
  usage " [-h] [--config CONFIG] [-v] \x7brun,init\x7d ..."

def generalHelp : String :=
  generalUsage ++ String.join
    ["\npositional arguments:\n",
     "  \x7brun,init\x7d\n",
     "    run            Poll the feed and save accepted torrents\n",
     "    init           Write a default config file\n",
     "\noptions:\n",
     "  -h, --help       show this help message and exit\n",
     "  --config CONFIG  Path to the YAML config\n",
     "  -v, --verbose    Log at DEBUG level\n"]

def watchHelp : String :=
  usage " run [-h] [--once]" ++ String.join
    ["\noptions:\n",
     "  -h, --help  show this help message and exit\n",
     "  --once      Run a single pass and exit\n"]

def writeHelp : String :=
  usage " init [-h]" ++ String.join
    ["\noptions:\n",
     "  -h, --help  show this help message and exit\n"]

/-- Reads the words behind a command's name. -/
def readNamed (table : OptionTable) (help : String) (choices : Choices) (words : List String) :
    Except CommandStop Choices := do
  let words ← classifyAll table words
  readCommand table help choices words

/-- The invocation that choices make, unless a word was unknown. -/
def finish (choices : Choices) (command : Command) : Except CommandStop Invocation :=
  if choices.hasUnknown then .error .misuse
  else .ok { settingsPath := choices.settingsPath, verbose := choices.verbose, command }

/-- Reads a command line; without a command the feed is watched. -/
def read (settingsPath : String) (words : List String) : Except CommandStop Invocation := do
  let classified ← classifyAll generalOptions words
  let (choices, rest) ← readOptions generalOptions generalHelp { settingsPath } classified
  let behind := words.drop (words.length - rest.length + 1)
  match rest with
  | [] => finish choices (.watch false)
  | .plain "run" :: _ => do
      let choices ← readNamed watchOptions watchHelp choices behind
      finish choices (.watch choices.once)
  | .plain "init" :: _ => do
      let choices ← readNamed writeOptions writeHelp choices behind
      finish choices .writeDefault
  | _ => .error .misuse

end CommandLine

end ReleaseWatch

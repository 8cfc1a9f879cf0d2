import Metastore.Text.Numeral
import Metastore.Text.Split

/-!
# Invocations

The words of a command line, read as a command with its options. The program has one option with an argument,
which stands before the command, and each command has another one, which may be repeated; both also have a
request for help. A long option may be shortened as long as it is no start of the other one, and its argument
is the next word, or follows an equals sign. Two hyphens alone end the options.
-/

namespace Metastore.CommandLine

/-- Why words are not acted on. -/
inductive Stop where
  /-- Help was asked for. -/
  | help
  /-- The words are no invocation. -/
  | misuse
deriving DecidableEq, Repr

/-! ### Words -/

/-- What a word is to a command with one option that takes an argument. -/
inductive Role where
  | argument
  /-- The mark that ends the options. -/
  | divider
  /-- An option that the command does not have. -/
  | unknown
  /-- A request for help, which cannot be followed by anything that looks like an argument. -/
  | help (fits : Bool)
  /-- The option with an argument, which may be attached to it. -/
  | setting (attached : Option String)
deriving DecidableEq, Repr

/-- A word with its role. -/
structure Word where
  role : Role
  text : String
deriving DecidableEq, Repr

/-- The mark that ends the options. -/
def dividerWord : String := "--"

/-- The long option that asks for help. -/
def helpOption : String := "--help"

/-- The option of the program. -/
def configOption : String := "--config"

/-- The option of each command. -/
def settingOption : String := "--set"

/-- Whether a text is a negative decimal number, with or without a point. One line break may follow. -/
def isNegativeNumber (cs : List Char) : Bool :=
  match (if cs.getLast? = some '\n' then cs.dropLast else cs) with
  | '-' :: rest =>
    match rest.dropWhile Text.isNumeral with
    | [] => !rest.isEmpty
    | '.' :: places => !places.isEmpty && places.all Text.isNumeral
    | _ => false
  | _ => false

/-- The role of a word that starts with a hyphen and is no option of the command. -/
def strayRole (cs : List Char) : Role :=
  if isNegativeNumber cs || cs.contains ' ' then .argument else .unknown

/-- Whether the letter that asks for help may be followed by a text: by itself, but by neither an equals sign
nor a hyphen after that. -/
def helpFits (rest : List Char) : Bool :=
  match rest.dropWhile (· == 'h') with
  | '=' :: _ => false
  | '-' :: _ => false
  | _ => true

/-- The options that a text is the start of, each as the role it gives the word. -/
def longRoles (option : String) (name : List Char) (attached : Option String) : List Role :=
  (if name.isPrefixOf helpOption.toList then [.help attached.isNone] else [])
    ++ (if name.isPrefixOf option.toList then [.setting attached] else [])

/-- The role of a word that is not the divider. A word that may be either option stops the reading. -/
def roleOf (option word : String) : Except Stop Role :=
  match word.toList with
  | '-' :: '-' :: rest =>
    let (name, attached) := Text.cutAt '=' ('-' :: '-' :: rest)
    match longRoles option name (attached.map String.ofList) with
    | [] => .ok (strayRole word.toList)
    | [role] => .ok role
    | _ => .error .misuse
  | '-' :: 'h' :: rest => .ok (.help (helpFits rest))
  | '-' :: c :: rest => .ok (strayRole ('-' :: c :: rest))
  | _ => .ok .argument

/-- The words with their roles. All words after the divider are arguments. -/
def wordsOf (option : String) : List String → Except Stop (List Word)
  | [] => .ok []
  | word :: rest =>
    if word = dividerWord then .ok (⟨.divider, word⟩ :: rest.map (⟨.argument, ·⟩))
    else do return ⟨← roleOf option word, word⟩ :: (← wordsOf option rest)

/-! ### Commands -/

/-- A command. -/
inductive Command where
  /-- Build the configured client and report on it. -/
  | check
  /-- Show the settings in force. -/
  | showConfig
deriving DecidableEq, Repr

/-- The command with a name. -/
def Command.named? (name : String) : Option Command :=
  if name = "check" then some .check else if name = "show-config" then some .showConfig else none

/-- A command with its options. -/
structure Invocation where
  /-- The configuration to load. -/
  config : Option String
  command : Command
  /-- The settings to change, each as a text. -/
  overrides : List String
deriving DecidableEq, Repr

/-- What stands before a command, and what follows its name. -/
structure Opening where
  config : Option String
  /-- Whether there are words that belong to nothing. -/
  stray : Bool
  name : String
  rest : List String

/-- Reads the words up to the name of a command. -/
def readOpening (config : Option String) (stray : Bool) : List Word → Except Stop Opening
  | [] => .error .misuse
  | ⟨.argument, name⟩ :: rest => .ok ⟨config, stray, name, rest.map (·.text)⟩
  | ⟨.divider, _⟩ :: _ => .error .misuse
  | ⟨.unknown, _⟩ :: rest => readOpening config true rest
  | ⟨.help fits, _⟩ :: _ => .error (if fits then .help else .misuse)
  | ⟨.setting (some path), _⟩ :: rest => readOpening (some path) stray rest
  | ⟨.setting none, _⟩ :: ⟨.argument, path⟩ :: rest => readOpening (some path) stray rest
  | ⟨.setting none, _⟩ :: _ => .error .misuse

/-- Reads the words after the name of a command: the settings to change, and whether there are words that
belong to nothing. -/
def readOverrides (stray : Bool) : List Word → Except Stop (List String × Bool)
  | [] => .ok ([], stray)
  | ⟨.argument, _⟩ :: rest | ⟨.divider, _⟩ :: rest | ⟨.unknown, _⟩ :: rest => readOverrides true rest
  | ⟨.help fits, _⟩ :: _ => .error (if fits then .help else .misuse)
  | ⟨.setting (some text), _⟩ :: rest => do
    let (texts, stray) ← readOverrides stray rest
    return (text :: texts, stray)
  | ⟨.setting none, _⟩ :: ⟨.argument, text⟩ :: rest => do
    let (texts, stray) ← readOverrides stray rest
    return (text :: texts, stray)
  | ⟨.setting none, _⟩ :: _ => .error .misuse

/-- Reads the words of a command line. -/
def Invocation.read (words : List String) : Except Stop Invocation := do
  let opening ← readOpening none false (← wordsOf configOption words)
  match Command.named? opening.name with
  | none => throw .misuse
  | some command =>
    let (overrides, stray) ← readOverrides opening.stray (← wordsOf settingOption opening.rest)
    if stray then throw .misuse
    return { config := opening.config, command, overrides }

end Metastore.CommandLine

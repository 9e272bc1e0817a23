import SmartDevice.Text.Digit
import SmartDevice.Text.Quoted
import SmartDevice.Text.Split

/-! Command lines. Options may stand anywhere among the other words, long ones may be cut short
while one option alone begins so, and short ones may be written together. After two dashes every
word is an operand; two dashes that are attached to an option stand for no value. -/

namespace SmartDevice

/-- What an option does to the settings. -/
inductive OptionEffect (α : Type) where
  | help
  | flag (set : α → α)
  /-- Takes a value, or tells why it is not one; there is none where two dashes stand for it. -/
  | value (set : Option String → α → Except String α)

structure CommandOption (α : Type) where
  names : List String
  effect : OptionEffect α

/-- A word that a command needs. -/
structure Operand (α : Type) where
  name : String
  set : String → α → α

structure CommandLine (α : Type) where
  program : String
  usage : List String
  /-- What is shown after the usage to those who ask for help. -/
  description : List String
  options : List (CommandOption α)
  operands : List (Operand α) := []

namespace CommandLine

/-! ## Telling options from other words -/

/-- An option in a word, and the text attached to it there. -/
structure Use (α : Type) where
  option : CommandOption α
  name : String
  attached : Option (List Char) := none

inductive Word (α : Type) where
  | operand (text : String)
  | option (use : Use α)
  /-- Looks like an option but is none. -/
  | unknown (text : String)
  | dashes

def find? (line : CommandLine α) (name : String) : Option (CommandOption α) :=
  line.options.find? (·.names.contains name)

/-- All names, with the options they belong to. -/
def names (line : CommandLine α) : List (String × CommandOption α) :=
  line.options.flatMap fun option => option.names.map fun name => (name, option)

/-- The options that a word may stand for though it is the name of none. -/
def candidates (line : CommandLine α) (word : String) : List (Use α) :=
  if "--".isPrefixOf word then
    let (start, attached) := Text.cut '=' word.toList
    line.names.filterMap fun (name, option) =>
      if start.isPrefixOf name.toList then
        some { option, name, attached }
      else none
  else
    line.names.filterMap fun (name, option) =>
      if name.toList = word.toList.take 2 then
        some { option, name, attached := some (word.toList.drop 2) }
      else if word.isPrefixOf name then some { option, name }
      else none

/-- A minus sign before digits, with or without a point among them; a line feed may follow. -/
def isNegativeNumber (word : String) : Bool :=
  match word.toList with
  | '-' :: rest =>
    let rest := if rest.getLast? = some '\n' then rest.dropLast else rest
    let fraction := (rest.dropWhile Text.isDecimal).drop 1
    if rest.all Text.isDecimal then !rest.isEmpty
    else (rest.dropWhile Text.isDecimal).head? = some '.' && !fraction.isEmpty &&
      fraction.all Text.isDecimal
  | _ => false

/-- What a word is; a beginning that several options share is refused. -/
def classify (line : CommandLine α) (word : String) : Except String (Word α) :=
  if word.toList.head? ≠ some '-' then .ok (.operand word)
  else match line.find? word with
    | some option => .ok (.option { option, name := word })
    | none =>
      if word = "-" then .ok (.operand word)
      else
        let (start, attached) := Text.cut '=' word.toList
        let start := String.ofList start
        match attached, line.find? start with
        | some _, some option => .ok (.option { option, name := start, attached })
        | _, _ =>
          match line.candidates word with
          | [use] => .ok (.option use)
          | [] =>
            if isNegativeNumber word || word.contains ' ' then .ok (.operand word)
            else .ok (.unknown word)
          | uses =>
            let matching := ", ".intercalate (uses.map (·.name))
            .error s!"ambiguous option: {word} could match {matching}"

def classifyAll (line : CommandLine α) : List String → Except String (List (Word α))
  | [] => .ok []
  | "--" :: rest => .ok (.dashes :: rest.map .operand)
  | word :: rest => do
    let first ← line.classify word
    return first :: (← line.classifyAll rest)

/-! ## Carrying out -/

/-- How reading a command line ends before its end. -/
inductive Stop where
  | help
  | error (message : String)

structure Reading (α : Type) where
  settings : α
  operands : List (Operand α)
  /-- Words that mean nothing. -/
  extra : List String := []
  /-- The last word was an operand, after which two dashes mean nothing. -/
  afterOperand : Bool := false

/-- An error about an option names all its names. -/
def complain (option : CommandOption α) (message : String) : Stop :=
  let names := "/".intercalate option.names
  .error s!"argument {names}: {message}"

def ignored (attached : List Char) : String :=
  "ignored explicit argument " ++ String.ofList (Text.quoted attached)

/-- The uses in a group of letters after the first one's option. A flag leaves the other letters to
the options after it, and one that takes a value takes them all. -/
def usesInGroup (line : CommandLine α) (option : CommandOption α) (name : String) :
    List Char → Except Stop (List (Use α))
  | [] => .ok [{ option, name }]
  | letter :: rest =>
    match option.effect with
    | .value _ => .ok [{ option, name, attached := some (letter :: rest) }]
    | _ =>
      let nextName := String.ofList ['-', letter]
      match line.find? nextName with
      | none => .error (complain option (ignored (letter :: rest)))
      | some next => return { option, name } :: (← line.usesInGroup next nextName rest)

/-- The uses in one word. Text that is attached to a flag can only be a group of letters. -/
def expand (line : CommandLine α) (use : Use α) : Except Stop (List (Use α)) :=
  match use.option.effect, use.attached with
  | .value _, _ | _, none => .ok [use]
  | _, some attached =>
    if attached.isEmpty || "--".isPrefixOf use.name then
      .error (complain use.option (ignored attached))
    else line.usesInGroup use.option use.name attached

/-- The value in a text that is attached to an option. -/
def attachedValue (text : List Char) : Option String :=
  if text = ['-', '-'] then none else some (String.ofList text)

/-- Carries out one use; an option that needs a value and has none attached takes the next word. -/
def apply (use : Use α) (next : Option String) (settings : α) : Except Stop (α × Bool) :=
  match use.option.effect with
  | .help => .error .help
  | .flag set => .ok (set settings, false)
  | .value set =>
    match use.attached, next with
    | some text, _ =>
      return (← (set (attachedValue text) settings).mapError (complain use.option), false)
    | none, some text => return (← (set (some text) settings).mapError (complain use.option), true)
    | none, none => .error (complain use.option "expected one argument")

/-- Whether an option needs the next word. -/
def needsNext (use : Use α) : Bool :=
  match use.option.effect with
  | .value _ => use.attached.isNone
  | _ => false

/-- Carries out the uses of one word in order. That a value is missing is found out first. -/
def applyAll (uses : List (Use α)) (next : Option String) (settings : α) :
    Except Stop (α × Bool) := do
  match uses.find? needsNext, next with
  | some use, none => throw (complain use.option "expected one argument")
  | _, _ =>
    uses.foldlM (fun (settings, taken) use => do
      let (settings, takes) ← apply use next settings
      return (settings, taken || takes)) (settings, false)

def takeOperand (text : String) (reading : Reading α) : Reading α :=
  match reading.operands with
  | [] => { reading with extra := reading.extra ++ [text], afterOperand := false }
  | operand :: operands =>
    { reading with
      settings := operand.set text reading.settings, operands, afterOperand := true }

def addExtra (text : String) (reading : Reading α) : Reading α :=
  { reading with extra := reading.extra ++ [text], afterOperand := false }

/-- Two dashes mean something only next to a word that is needed. -/
def takeDashes (reading : Reading α) : Reading α :=
  if reading.afterOperand || !reading.operands.isEmpty then reading else addExtra "--" reading

def carryOut (line : CommandLine α) : List (Word α) → Reading α → Except Stop (Reading α)
  | [], reading => .ok reading
  | .operand text :: rest, reading => line.carryOut rest (takeOperand text reading)
  | .unknown text :: rest, reading => line.carryOut rest (addExtra text reading)
  | .dashes :: rest, reading => line.carryOut rest (takeDashes reading)
  | .option use :: rest, reading => do
    let uses ← line.expand use
    let reading := { reading with afterOperand := false }
    match rest with
    | .operand text :: after =>
      let (settings, taken) ← applyAll uses (some text) reading.settings
      let reading := { reading with settings }
      if taken then line.carryOut after reading
      else line.carryOut (.operand text :: after) reading
    | rest =>
      let (settings, _) ← applyAll uses none reading.settings
      line.carryOut rest { reading with settings }

/-! ## Reading a command line -/

/-- A text to show instead of doing the job. -/
inductive Refusal where
  | help (text : String)
  | error (text : String)

def lines (texts : List String) : String := String.join (texts.map (· ++ "\n"))

def refuse (line : CommandLine α) (message : String) : Refusal :=
  .error (lines (line.usage ++ [s!"{line.program}: error: {message}"]))

/-- The settings, once every operand is there and no word is left over. -/
def finish (line : CommandLine α) (reading : Reading α) : Except Refusal α :=
  if !reading.operands.isEmpty then
    let missing := ", ".intercalate (reading.operands.map (·.name))
    .error (line.refuse s!"the following arguments are required: {missing}")
  else if !reading.extra.isEmpty then
    let extra := " ".intercalate reading.extra
    .error (line.refuse s!"unrecognized arguments: {extra}")
  else .ok reading.settings

/-- Reads a command line, from the settings that hold without any option. -/
def read (line : CommandLine α) (defaults : α) (arguments : List String) : Except Refusal α :=
  match line.classifyAll arguments with
  | .error message => .error (line.refuse message)
  | .ok words =>
    match line.carryOut words { settings := defaults, operands := line.operands } with
    | .error .help => .error (.help (lines (line.usage ++ [""] ++ line.description)))
    | .error (.error message) => .error (line.refuse message)
    | .ok reading => line.finish reading

end CommandLine

end SmartDevice

/-! Lines for people to read, in colours that tell their kinds apart. -/

namespace SmartDevice

inductive Stream where
  | out
  | err
  deriving DecidableEq, Repr

structure Console where
  enabled : Bool := true
  /-- Lines about inner workings are shown. -/
  verbose : Bool := false
  written : List (Stream × String) := []

namespace Console

inductive Colour where
  | success
  | failure
  | warning
  | notice
  | inner

def Colour.code : Colour → Nat
  | success => 46
  | failure => 196
  | warning => 208
  | notice => 51
  | inner => 214

/-- A text in a colour of the 256 of terminals. -/
def coloured (colour : Colour) (text : String) : String :=
  s!"\x1b[38;5;{colour.code}m{text}\x1b[0m"

/-- Writes a text whatever the settings. -/
def write (stream : Stream) (text : String) (console : Console) : Console :=
  { console with written := console.written ++ [(stream, text)] }

def line (stream : Stream) (text : String) (console : Console) : Console :=
  if console.enabled then console.write stream (text ++ "\n") else console

def success (message : String) : Console → Console :=
  line .out (coloured .success "✓" ++ " " ++ message)

def error (message : String) : Console → Console :=
  line .err (coloured .failure "✗" ++ " " ++ message)

def info (message : String) : Console → Console :=
  line .out (coloured .notice "[INFO]" ++ " " ++ message)

def warning (message : String) : Console → Console :=
  line .out (coloured .warning "[WARNING]" ++ " " ++ message)

def debug (tag message : String) (console : Console) : Console :=
  if console.verbose then console.line .out (coloured .inner s!"[{tag}]" ++ " " ++ message)
  else console

def heading (title : String) : Console → Console :=
  line .out ("\n" ++ coloured .notice s!"=== {title} ===")

/-- A rule as wide as the given number of characters. -/
def rule (width : Nat) : String := String.ofList (List.replicate width '=')

def header (text : String) (console : Console) : Console :=
  console |>.line .out (coloured .notice (rule 60)) |>.line .out (coloured .notice text)
    |>.line .out (coloured .notice (rule 60))

def substep (message : String) : Console → Console := line .out ("   " ++ message)

/-- Puts a text before what was written after it, in one piece if it went to the same stream. -/
def joinText (stream : Stream) (text : String) :
    List (Stream × String) → List (Stream × String)
  | (other, next) :: rest =>
    if other = stream then (stream, text ++ next) :: rest
    else (stream, text) :: (other, next) :: rest
  | [] => [(stream, text)]

/-- What was written, with each run of texts to one stream in one piece. -/
def joined (console : Console) : List (Stream × String) :=
  console.written.foldr (fun (stream, text) => joinText stream text) []

end Console

end SmartDevice

/-!
# Arguments

The words of a command line, read from left to right: options with a value, flags, and plain words,
up to the word that names a subcommand. A value follows its option as the next word, unless it
starts with a hyphen, or after an equals sign. Nothing may be given twice. After two hyphens all
words are plain.
-/

namespace DealForm

inductive Halt where
  | version
  | help
  | invalid
  deriving DecidableEq, Repr

structure ValueOption where
  name : String
  accepts : String → Bool := fun _ ↦ true

/-- What may stand on a command line, up to a subcommand. -/
structure Grammar where
  options : List ValueOption := []
  flags : List String := []
  words : Nat := 0
  subcommands : List String := []
  tellsVersion : Bool := false

structure Arguments where
  values : List (String × String) := []
  flags : List String := []
  words : List String := []
  subcommand : Option (String × List String) := none
  deriving DecidableEq, Repr

namespace Arguments

def value? (a : Arguments) (name : String) : Option String :=
  a.values.lookup name

def hasFlag (a : Arguments) (name : String) : Bool :=
  a.flags.contains name

def addValue (g : Grammar) (a : Arguments) (name value : String) : Except Halt Arguments :=
  match g.options.find? (·.name == name) with
  | none => .error .invalid
  | some option =>
    if (a.value? name).isSome || !option.accepts value then .error .invalid
    else .ok { a with values := a.values ++ [(name, value)] }

def addFlag (g : Grammar) (a : Arguments) (name : String) : Except Halt Arguments :=
  if !g.flags.contains name || a.hasFlag name then .error .invalid
  else .ok { a with flags := a.flags ++ [name] }

def addWord (g : Grammar) (a : Arguments) (word : String) : Except Halt Arguments :=
  if a.words.length < g.words then .ok { a with words := a.words ++ [word] }
  else .error .invalid

inductive Shape where
  /-- Two hyphens alone. -/
  | separator
  | long (name : String) (value : Option String)
  | short (letter : Char)
  | plain

def shapeOf (word : String) : Shape :=
  match word.toList with
  | ['-', '-'] => .separator
  | '-' :: '-' :: cs =>
    let name := String.ofList (cs.takeWhile (· != '='))
    match cs.dropWhile (· != '=') with
    | [] => .long name none
    | _ :: value => .long name (some (String.ofList value))
  | '-' :: letter :: _ => .short letter
  | _ => .plain

/-- The word can be the value of the option before it. -/
def isPlain (word : String) : Bool :=
  match shapeOf word with
  | .plain => true
  | _ => false

/-- Takes a word that is not the value of an option: one with two hyphens and without a value. -/
def addLong (g : Grammar) (a : Arguments) (name : String) : Except Halt Arguments :=
  if name = "help" then .error .help
  else if name = "version" && g.tellsVersion then .error .version
  else a.addFlag g name

def haltOf (g : Grammar) (letter : Char) : Halt :=
  if letter = 'h' then .help
  else if letter = 'V' && g.tellsVersion then .version
  else .invalid

def takesValue (g : Grammar) (name : String) : Bool :=
  g.options.any (·.name == name)

def scan (g : Grammar) (a : Arguments) : List String → Except Halt Arguments
  | [] => .ok a
  | word :: rest =>
    match shapeOf word with
    | .separator => rest.foldlM (addWord g) a
    | .short letter => .error (haltOf g letter)
    | .long name (some value) => do scan g (← a.addValue g name value) rest
    | .long name none =>
      if takesValue g name then
        match rest with
        | [] => .error .invalid
        | value :: rest =>
          if isPlain value then do scan g (← a.addValue g name value) rest else .error .invalid
      else do scan g (← a.addLong g name) rest
    | .plain =>
      if g.subcommands.contains word then .ok { a with subcommand := some (word, rest) }
      else do scan g (← a.addWord g word) rest

end Arguments

end DealForm

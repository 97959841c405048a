/-!
# Command-line words

How the words after a command's name are told apart: options with a long or a
one-letter name, with or without a value, and operands. Words are read from left
to right, and the first one that makes no sense, or that asks for help or for the
version, decides. A value that stands as a word of its own right in front of the name
of a command is the exception: the command may still ask for help.
-/

namespace RadioSnapshot

/-- What an option expects for its value. -/
structure ValueSpec where
  /-- What stands for the value in a summary of the command. -/
  placeholder : String
  /-- Whether a value makes sense. -/
  accepts : String → Bool := fun _ => true
  /-- The words that the value is one of, if there are few. -/
  choices : List String := []
  /-- The variable of the environment that gives a value left out. -/
  variableName : Option String := none
  /-- The value that counts if there is no other. -/
  fallback : Option String := none
  /-- Whether the option makes no sense without a value. -/
  isRequired : Bool := false

/-- An option of a command, which may be given once. -/
structure OptionSpec where
  name : String
  letter : Option Char
  /-- What its value is like, unless it is a flag. -/
  value : Option ValueSpec
  about : String

namespace OptionSpec

/-- An option without a value. -/
def flag (name about : String) : OptionSpec :=
  ⟨name, none, none, about⟩

/-- An option whose value is one of several words. -/
def choice (name placeholder : String) (choices : List String) (fallback : Option String)
    (about : String) : OptionSpec where
  name
  letter := none
  value := some { placeholder, accepts := choices.contains, choices, fallback }
  about

def isRequired (option : OptionSpec) : Bool :=
  option.value.any ValueSpec.isRequired

end OptionSpec

/-- An operand of a command. -/
structure OperandSpec where
  /-- What stands for the operand in a summary of the command. -/
  usage : String
  accepts : String → Bool
  about : String

/-- The words that a command understands. -/
structure CommandForm where
  about : String
  /-- The options that only this command has. -/
  ownOptions : List OptionSpec := []
  /-- The options that it has in common with other commands. -/
  sharedOptions : List OptionSpec := []
  operands : List OperandSpec := []
  /-- Further commands, by name and purpose, which it takes instead of operands. -/
  commands : List (String × String) := []
  /-- Whether it can be asked for the version. -/
  hasVersion : Bool := false

def CommandForm.options (form : CommandForm) : List OptionSpec :=
  form.ownOptions ++ form.sharedOptions

/-- A single word, by its form. -/
inductive Word where
  /-- Two dashes: all words that follow are operands. -/
  | escape
  | long (name : String) (value : Option String)
  | short (letter : Char) (rest : String)
  | operand (text : String)
  deriving BEq, DecidableEq, Repr

namespace Word

/-- A long name and the value behind an equals sign. -/
def longOfChars (chars : List Char) : Word :=
  let name := String.ofList (chars.takeWhile (· != '='))
  match chars.dropWhile (· != '=') with
  | [] => .long name none
  | _ :: value => .long name (some (String.ofList value))

def ofString (text : String) : Word :=
  match text.toList with
  | ['-', '-'] => .escape
  | '-' :: '-' :: rest => longOfChars rest
  | '-' :: letter :: rest => .short letter (String.ofList rest)
  | _ => .operand text

/-- A word that can be the value of the option in front of it: anything but an
option. -/
def value? (text : String) : Option String :=
  match ofString text with
  | .operand text => some text
  | _ => none

end Word

/-- Options with their values, and operands, in the order given. A flag has an
empty value. -/
structure Parameters where
  options : List (String × String)
  operands : List String
  deriving BEq, DecidableEq, Repr

/-- The variables that are set, by name. -/
abbrev Environment := List (String × String)

namespace Parameters

def none : Parameters := ⟨[], []⟩

def get? (name : String) (parameters : Parameters) : Option String :=
  parameters.options.lookup name

def has (name : String) (parameters : Parameters) : Bool :=
  (parameters.get? name).isSome

/-- The value of an option: the one given, else that of its variable, else the one
that it falls back on. -/
def resolve? (environment : Environment) (option : OptionSpec) (parameters : Parameters) :
    Option String :=
  (parameters.get? option.name).or <|
    option.value.bind fun value =>
      (value.variableName.bind (environment.lookup ·)).or value.fallback

end Parameters

/-- What reading the words of a command comes to. -/
inductive Reading where
  | refused
  | help
  | version
  | complete (parameters : Parameters)
  /-- A further command and its words, behind parameters of which the last may make no
  sense. -/
  | command (parameters : Option Parameters) (name : String) (words : List String)
  deriving BEq, DecidableEq, Repr

namespace CommandForm

/-- Add the value of an option, unless it has one or the value makes no sense. -/
def give? (option : OptionSpec) (value : String) (parameters : Parameters) :
    Option Parameters :=
  if parameters.has option.name || !option.value.all (·.accepts value) then none
  else some { parameters with options := parameters.options ++ [(option.name, value)] }

/-- Add an operand, unless there are enough or it makes no sense. -/
def operand? (form : CommandForm) (parameters : Parameters) (text : String) :
    Option Parameters :=
  match form.operands[parameters.operands.length]? with
  | none => none
  | some operand =>
      if operand.accepts text then
        some { parameters with operands := parameters.operands ++ [text] }
      else none

/-- What a word means to a command. -/
inductive Meaning where
  | refused
  | help
  | version
  | escape
  | operand (text : String)
  /-- An option and the value attached to it. -/
  | option (spec : OptionSpec) (value : Option String)

/-- The option that a long name stands for. -/
def long (form : CommandForm) (name : String) (value : Option String) : Meaning :=
  match form.options.find? (·.name == name) with
  | some spec => .option spec value
  | none =>
      if value.isSome then .refused
      else if name = "help" then .help
      else if name = "version" ∧ form.hasVersion then .version
      else .refused

/-- The option that a letter stands for. What follows the letter, with or without
an equals sign, is its value. -/
def short (form : CommandForm) (letter : Char) (rest : String) : Meaning :=
  match form.options.find? (·.letter == some letter) with
  | some spec =>
      match rest.toList with
      | [] => .option spec none
      | '=' :: value => .option spec (some (String.ofList value))
      | _ => .option spec (some rest)
  | none =>
      if letter = 'h' then .help
      else if letter = 'V' ∧ form.hasVersion then .version
      else .refused

def interpret (form : CommandForm) (word : String) : Meaning :=
  match Word.ofString word with
  | .escape => .escape
  | .operand text => .operand text
  | .long name value => form.long name value
  | .short letter rest => form.short letter rest

/-- Read on behind a value that makes no sense. It refuses all, except that the name of
a further command comes first, if it is the next word. -/
def readOn (form : CommandForm) : List String → Reading
  | [] => .refused
  | word :: words =>
      match form.interpret word with
      | .operand text => if form.commands.isEmpty then .refused else .command none text words
      | _ => .refused

/-- Read words on top of what was read before. The value of an option is
attached to it or is the next word. -/
def read (form : CommandForm) : List String → Parameters → Reading
  | [], parameters => .complete parameters
  | word :: words, parameters =>
      match form.interpret word with
      | .refused => .refused
      | .help => .help
      | .version => .version
      | .escape =>
          match words.foldlM form.operand? parameters with
          | some parameters => .complete parameters
          | none => .refused
      | .operand text =>
          if form.commands.isEmpty then
            match form.operand? parameters text with
            | some parameters => read form words parameters
            | none => .refused
          else .command (some parameters) text words
      | .option spec (some value) =>
          if spec.value.isSome then
            match give? spec value parameters with
            | some parameters => read form words parameters
            | none => .refused
          else .refused
      | .option spec none =>
          if spec.value.isSome then
            match words with
            | [] => .refused
            | next :: words =>
                match Word.value? next with
                | none => .refused
                | some value =>
                    match give? spec value parameters with
                    | some parameters => read form words parameters
                    | none => form.readOn words
          else
            match give? spec "" parameters with
            | some parameters => read form words parameters
            | none => .refused

end CommandForm

end RadioSnapshot

import RadioSnapshot.CommandLine.Arguments

/-!
# Help on a command

A command's purpose, how it is called, and what its words mean, in columns.
Options are listed by their place among the options they were declared with, so
that own and shared options alternate; of two in the same place, the one with the
lesser letter or name comes first.
-/

namespace RadioSnapshot

/-- What a value may be and where it comes from when it is left out. -/
def ValueSpec.notes (environment : Environment) (value : ValueSpec) : List String :=
  (value.variableName.map fun name =>
    "[env: " ++ name ++ "=" ++ (environment.lookup name).getD "" ++ "]").toList ++
  (value.fallback.map fun text => "[default: " ++ text ++ "]").toList ++
  if value.choices.isEmpty then []
  else ["[possible values: " ++ ", ".intercalate value.choices ++ "]"]

namespace OptionSpec

/-- The long name with what stands for the value. -/
def usage (option : OptionSpec) : String :=
  "--" ++ option.name ++
    ((option.value.map fun value => " <" ++ value.placeholder ++ ">").getD "")

/-- The letter, or as much space, in front of the long name. -/
def heading (option : OptionSpec) : String :=
  ((option.letter.map fun letter => "-" ++ letter.toString ++ ", ").getD "    ") ++
    option.usage

/-- What to order options by that stand in the same place: a letter in lower case
comes before the same in upper case. -/
def sortKey (option : OptionSpec) : String :=
  match option.letter with
  | none => option.name
  | some letter => String.ofList [letter.toLower, if letter.isLower then '0' else '1']

def explanation (environment : Environment) (option : OptionSpec) : String :=
  " ".intercalate
    (option.about :: (option.value.map (ValueSpec.notes environment)).getD [])

end OptionSpec

namespace Help

/-- A heading with its rows, aligned in two columns; nothing if there are no rows. -/
def columns (heading : String) (rows : List (String × String)) : List String :=
  if rows.isEmpty then []
  else
    let width := (rows.map (·.1.length)).foldl max 0
    "" :: heading :: rows.map fun (word, explanation) =>
      "  " ++ word ++ String.ofList (List.replicate (width - word.length) ' ') ++ "  " ++
        explanation

end Help

namespace CommandForm

/-- Options in the order in which help lists them. -/
def listedOptions (form : CommandForm) : List OptionSpec :=
  let placed := form.ownOptions.zipIdx ++ form.sharedOptions.zipIdx
  (placed.mergeSort fun (left, leftPlace) (right, rightPlace) =>
    leftPlace < rightPlace ||
      (leftPlace == rightPlace && !(right.sortKey < left.sortKey))).map Prod.fst

/-- The options that are not declared. A command without options has none of these
either. -/
def standardOptions (form : CommandForm) : List (String × String) :=
  if form.options.isEmpty then []
  else
    ("-h, --help", "Print help") ::
      if form.hasVersion then [("-V, --version", "Print version")] else []

/-- How a command is called: what cannot be left out is named. -/
def usage (title : String) (form : CommandForm) : String :=
  " ".intercalate <|
    title ::
      (if form.options.isEmpty then [] else ["[OPTIONS]"]) ++
      (form.options.filter OptionSpec.isRequired).map OptionSpec.usage ++
      form.operands.map OperandSpec.usage ++
      if form.commands.isEmpty then [] else ["<COMMAND>"]

/-- The help on a command, line by line. -/
def helpLines (title : String) (environment : Environment) (form : CommandForm) : List String :=
  let options := form.listedOptions.map fun option =>
    (option.heading, option.explanation environment)
  [form.about, "", "Usage: " ++ form.usage title] ++
    Help.columns "Commands:" form.commands ++
    Help.columns "Arguments:" (form.operands.map fun operand => (operand.usage, operand.about)) ++
    Help.columns "Options:" (options ++ form.standardOptions)

end CommandForm

end RadioSnapshot

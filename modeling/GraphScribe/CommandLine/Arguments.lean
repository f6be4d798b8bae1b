import GraphScribe.Files.Tree

/-!
# The arguments of the command line

`Arguments.read` reads the arguments of the `generate` command.  Options come in a long form, whose
value follows an equals sign or is the next argument, and some in a short form, several of which
can share one dash.  An option that is given again replaces its value; only documents add up.
-/

namespace GraphScribe.CommandLine

/-- The options of the command. -/
inductive Choice where
  | schema
  | documents
  | output
  | outFile
  | config
  | immutableTypes
  | avoidOptionals
  | enumsAsTypes
  | noFlatten
  | noSchema
  | templateDir
  | header
  | verbose
deriving DecidableEq, Inhabited

namespace Choice

/-- Whether an option has a value. -/
def hasValue : Choice → Bool
  | schema => true
  | documents => true
  | output => true
  | outFile => true
  | config => true
  | templateDir => true
  | header => true
  | _ => false

/-- The option with a long form. -/
def ofLong? : String → Option Choice
  | "--schema" => some schema
  | "--documents" => some documents
  | "--output" => some output
  | "--out-file" => some outFile
  | "--config" => some config
  | "--immutable-types" => some immutableTypes
  | "--avoid-optionals" => some avoidOptionals
  | "--enums-as-types" => some enumsAsTypes
  | "--no-flatten" => some noFlatten
  | "--no-schema" => some noSchema
  | "--template-dir" => some templateDir
  | "--header" => some header
  | "--verbose" => some verbose
  | _ => none

/-- The option with a short form. -/
def ofShort? : Char → Option Choice
  | 's' => some schema
  | 'd' => some documents
  | 'o' => some output
  | 'c' => some config
  | 'v' => some verbose
  | _ => none

end Choice

/-- An option as it is given; the value of one that has none is empty. -/
abbrev Given := Choice × String

/-- The arguments of the command. -/
structure Arguments where
  schema : String
  documents : List String := []
  output : String
  outFile : Option String := none
  config : Option String := none
  immutableTypes : Bool := false
  avoidOptionals : Bool := false
  enumsAsTypes : Bool := false
  noFlatten : Bool := false
  noSchema : Bool := false
  templateDir : Option String := none
  header : Option String := none
  verbose : Bool := false
deriving Inhabited

/-! ### Options -/

/-- The options behind one dash, and the arguments left: a value is what is left of the argument,
or else the next one. -/
def shortOptions : List Char → List String → Option (List Given × List String)
  | [], rest => some ([], rest)
  | c :: cs, rest => do
    let choice ← Choice.ofShort? c
    if choice.hasValue then
      if cs.isEmpty then
        match rest with
        | v :: rest => some ([(choice, v)], rest)
        | [] => none
      else some ([(choice, String.ofList cs)], rest)
    else
      let (given, rest) ← shortOptions cs rest
      some ((choice, "") :: given, rest)

/-- Splits a text at its first equals sign. -/
def splitAtEquals (cs : List Char) : List Char × Option (List Char) :=
  match cs.span (· ≠ '=') with
  | (name, '=' :: value) => (name, some value)
  | (name, _) => (name, none)

/-- An option in its long form, and the arguments left. -/
def longOption (argument : List Char) (rest : List String) : Option (List Given × List String) := do
  let (name, value?) := splitAtEquals argument
  let choice ← Choice.ofLong? (String.ofList name)
  match choice.hasValue, value?, rest with
  | true, some v, rest => some ([(choice, String.ofList v)], rest)
  | true, none, v :: rest => some ([(choice, v)], rest)
  | true, none, [] => none
  | false, some _, _ => none
  | false, none, rest => some ([(choice, "")], rest)

/-- All options that are given, and the arguments that belong to no option. -/
def options : Nat → List String → Option (List Given × List String)
  | 0, _ => none
  | _ + 1, [] => some ([], [])
  | bound + 1, argument :: rest =>
    match argument.toList with
    | ['-', '-'] => some ([], rest)
    | '-' :: '-' :: cs => do
      let (given, rest) ← longOption ('-' :: '-' :: cs) rest
      let (more, others) ← options bound rest
      some (given ++ more, others)
    | '-' :: c :: cs => do
      let (given, rest) ← shortOptions (c :: cs) rest
      let (more, others) ← options bound rest
      some (given ++ more, others)
    | _ => do
      let (given, others) ← options bound rest
      some (given, argument :: others)

/-! ### Arguments -/

/-- The values given for an option, in order. -/
def valuesOf (choice : Choice) (given : List Given) : List String :=
  (given.filter fun g => g.1 = choice).map Prod.snd

/-- The last value given for an option. -/
def valueOf? (choice : Choice) (given : List Given) : Option String :=
  (valuesOf choice given).getLast?

/-- Whether an option is given. -/
def isGiven (choice : Choice) (given : List Given) : Bool := given.any fun g => g.1 = choice

/-- The arguments that some options make up; there must be a schema and an output. -/
def Arguments.ofGiven (given : List Given) : Option Arguments := do
  let schema ← valueOf? .schema given
  let output ← valueOf? .output given
  return { schema
           documents := valuesOf .documents given
           output
           outFile := valueOf? .outFile given
           config := valueOf? .config given
           immutableTypes := isGiven .immutableTypes given
           avoidOptionals := isGiven .avoidOptionals given
           enumsAsTypes := isGiven .enumsAsTypes given
           noFlatten := isGiven .noFlatten given
           noSchema := isGiven .noSchema given
           templateDir := valueOf? .templateDir given
           header := valueOf? .header given
           verbose := isGiven .verbose given }

/-! ### Checking -/

/-- Why arguments are refused: they are not in order, or they name what cannot be looked up. -/
inductive Refusal where
  | usage
  | failure (cause : Failure)

/-- Refuses arguments that are not in order. -/
def demand (holds : Bool) : Except Refusal Unit := if holds then .ok () else .error .usage

/-- Whether what a value of an option names is there as far as it has to be: the schema, documents,
a file with a configuration, a directory with templates. -/
def Choice.isFounded (t : FileTree) (path : String) : Choice → Bool
  | schema => t.hasPath path
  | documents => t.hasPath path
  | config => t.hasFile path
  | templateDir => t.hasDirectory path
  | _ => true

/-- Whether the values of an option are paths. -/
def Choice.hasPath : Choice → Bool
  | schema => true
  | documents => true
  | output => true
  | config => true
  | templateDir => true
  | _ => false

/-- Checks a value of an option. -/
def checkValue (t : FileTree) (choice : Choice) (value : String) : Except Refusal Unit := do
  if choice.hasPath then (Path.check value).mapError .failure
  demand (choice.isFounded t value)

/-- Checks the values of an option that count: all of those that add up, else the last one. -/
def checkChoice (t : FileTree) (given : List Given) (choice : Choice) : Except Refusal Unit :=
  if choice = .documents then (valuesOf choice given).forM (checkValue t choice)
  else (valueOf? choice given).toList.forM (checkValue t choice)

/-- The arguments of the command, which must come first.  The options are checked in the order in
which they are given first; only then it counts whether any are missing, or left over. -/
def Arguments.read (t : FileTree) (arguments : List String) : Except Refusal Arguments := do
  let arguments := match arguments with
    | "--" :: rest => rest
    | arguments => arguments
  match arguments with
  | "generate" :: rest =>
    let some (given, others) := options (rest.length + 1) rest | throw .usage
    (given.map Prod.fst).eraseDups.forM (checkChoice t given)
    let some a := Arguments.ofGiven given | throw .usage
    demand others.isEmpty
    return a
  | _ => throw .usage

end GraphScribe.CommandLine

import DeclCodec.Text.Split

/-!
# Command lines

The words after a command are options, their values, and positional arguments, in
any order. A long option takes its value from the word itself, after an equals
sign, or from the next word; a short one from the rest of its word or from the
next. After a word `--` everything is positional.
-/

namespace DeclCodec

/-- An option: its name, the single letter for it if it has one, and whether it takes a value. -/
structure OptionForm where
  name : String
  letter : Option Char
  takesValue : Bool
deriving DecidableEq, Repr

/-- What is on a command line: options with their values, in order, and positional arguments. An
option without a value has an empty one. -/
structure Arguments where
  options : List (String × String)
  positional : List String
deriving DecidableEq, Repr

namespace Arguments

/-- An option in front of the arguments. -/
def addOption (name value : String) (arguments : Arguments) : Arguments :=
  { arguments with options := (name, value) :: arguments.options }

/-- A positional argument in front of the others. -/
def addPositional (word : String) (arguments : Arguments) : Arguments :=
  { arguments with positional := word :: arguments.positional }

/-- What a word on a command line is. -/
inductive WordKind
  | positional
  | given (name value : String)
  /-- An option whose value is the next word. -/
  | awaiting (name : String)

/-- A word that begins with two hyphens. -/
def longOption? (forms : List OptionForm) (body : List Char) : Option WordKind :=
  let name := String.ofList (Text.beforeFirst '=' body)
  match forms.find? (·.name == name) with
  | none => none
  | some form =>
    if body.contains '=' then
      if form.takesValue then some (.given name (String.ofList (Text.afterFirst '=' body)))
      else none
    else if form.takesValue then some (.awaiting name)
    else some (.given name "")

/-- A word that begins with a single hyphen and a letter. -/
def shortOption? (forms : List OptionForm) (letter : Char) (rest : List Char) : Option WordKind :=
  match forms.find? (·.letter == some letter) with
  | none => none
  | some form =>
    match form.takesValue, rest with
    | true, [] => some (.awaiting form.name)
    | true, _ => some (.given form.name (String.ofList rest))
    | false, [] => some (.given form.name "")
    | false, _ => none

/-- What a word is, unless it is an option that there is not. -/
def WordKind.ofWord? (forms : List OptionForm) (word : String) : Option WordKind :=
  match word.toList with
  | '-' :: '-' :: body => longOption? forms body
  | '-' :: letter :: rest => shortOption? forms letter rest
  | _ => some .positional

/-- Read words; the option given is waiting for its value. -/
def parseAwaiting (forms : List OptionForm) : Option String → List String → Option Arguments
  | some _, [] => none
  | some name, value :: rest => (parseAwaiting forms none rest).map (addOption name value)
  | none, [] => some ⟨[], []⟩
  | none, word :: rest =>
    if word = "--" then some ⟨[], rest⟩
    else
      match WordKind.ofWord? forms word with
      | none => none
      | some .positional => (parseAwaiting forms none rest).map (addPositional word)
      | some (.given name value) => (parseAwaiting forms none rest).map (addOption name value)
      | some (.awaiting name) => parseAwaiting forms (some name) rest

/-- Read the words after a command. -/
def parse (forms : List OptionForm) (words : List String) : Option Arguments :=
  parseAwaiting forms none words

/-- Is an option given? -/
def has (arguments : Arguments) (name : String) : Bool := (arguments.options.lookup name).isSome

/-- All values given for an option. -/
def values (arguments : Arguments) (name : String) : List String :=
  (arguments.options.filter (·.1 == name)).map (·.2)

/-- The last value given for an option. -/
def value? (arguments : Arguments) (name : String) : Option String :=
  (arguments.values name).getLast?

/-- Words without a hyphen in front are positional, whatever options there are. -/
theorem parse_positional (forms : List OptionForm) (words : List String)
    (plain : ∀ word ∈ words, word.toList.head? ≠ some '-') :
    parse forms words = some ⟨[], words⟩ := by
  induction words with
  | nil => rfl
  | cons word rest inductionHypothesis =>
    have here := plain word List.mem_cons_self
    have later := inductionHypothesis fun other isOther =>
      plain other (List.mem_cons_of_mem _ isOther)
    have isPositional : WordKind.ofWord? forms word = some .positional := by
      unfold WordKind.ofWord?
      split <;> simp_all
    have noEnd : word ≠ "--" := by
      rintro rfl
      simp at here
    unfold parse at later ⊢
    rw [parseAwaiting, if_neg noEnd, isPositional, later]
    rfl

end Arguments

end DeclCodec

/-
# Command line grammar

Options are spelled with two dashes and a name, or with one dash and a letter. A
value follows its option: behind `=` after a name, directly behind a letter, or
as the next word, whatever that word looks like. Letters of options without
value may share a dash. The word `--` ends the options. Names are not
abbreviated.
-/
import SingleNode.Event

namespace SingleNode.CommandLine

/-- An option: what it is for, how it is spelled, and whether it takes a
value. -/
structure OptionSpec (κ : Type) where
  key : κ
  spellings : List String
  takesValue : Bool
  deriving DecidableEq, Repr

/-- The options that were given, in order, and the other words. An option
without value has the empty text. -/
structure Parsed (κ : Type) where
  given : List (κ × String)
  words : List String
  deriving DecidableEq, Repr

namespace Parsed

variable {κ : Type}

def withOption (key : κ) (value : String) (p : Parsed κ) : Parsed κ :=
  { p with given := (key, value) :: p.given }

def withWord (word : String) (p : Parsed κ) : Parsed κ :=
  { p with words := word :: p.words }

/-- The values given for an option, in order. -/
def values [DecidableEq κ] (p : Parsed κ) (key : κ) : List String :=
  (p.given.filter (·.1 = key)).map Prod.snd

def has [DecidableEq κ] (p : Parsed κ) (key : κ) : Bool :=
  !(p.values key).isEmpty

/-- The value given last for an option. -/
def last? [DecidableEq κ] (p : Parsed κ) (key : κ) : Option String :=
  (p.values key).getLast?

end Parsed

variable {κ : Type}

def find? (options : List (OptionSpec κ)) (spelling : String) :
    Option (OptionSpec κ) :=
  options.find? fun o => o.spellings.contains spelling

/-- What one word gives: options, and the option that still waits for its
value. -/
structure WordResult (κ : Type) where
  given : List (κ × String) := []
  waiting : Option κ := none

/-- Reads the letters behind one dash. -/
def readLetters (options : List (OptionSpec κ)) :
    List Char → Except UsageError (WordResult κ)
  | [] => .ok {}
  | c :: rest =>
    match find? options (String.ofList ['-', c]) with
    | none => .error .noSuchOption
    | some o =>
      if o.takesValue then
        if rest.isEmpty then .ok { waiting := some o.key }
        else .ok { given := [(o.key, String.ofList rest)] }
      else do
        let r ← readLetters options rest
        return { r with given := (o.key, "") :: r.given }

/-- Reads a word with two dashes. -/
def readName (options : List (OptionSpec κ)) (word : List Char) :
    Except UsageError (WordResult κ) :=
  let (name, value) := word.span (· != '=')
  match find? options (String.ofList name), value with
  | none, _ => .error .noSuchOption
  | some o, [] =>
    if o.takesValue then .ok { waiting := some o.key }
      else .ok { given := [(o.key, "")] }
  | some o, _ :: value =>
    if o.takesValue then .ok { given := [(o.key, String.ofList value)] }
      else .error .badOption

/-- Reads the words of a command line. `interspersed` tells whether options may
follow other words; if not, the first other word ends the options. `waiting` is
the option that waits for its value. -/
def read (options : List (OptionSpec κ)) (interspersed : Bool) :
    Option κ → List String → Except UsageError (Parsed κ)
  | none, [] => .ok ⟨[], []⟩
  | some _, [] => .error .badOption
  | some key, word :: rest => do
    let p ← read options interspersed none rest
    return p.withOption key word
  | none, word :: rest =>
    match word.toList with
    | ['-', '-'] => .ok ⟨[], rest⟩
    | '-' :: c :: letters => do
      let r ←
        if c = '-' then readName options word.toList
        else readLetters options (c :: letters)
      let p ← read options interspersed r.waiting rest
      return { p with given := r.given ++ p.given }
    | _ =>
      if interspersed then do
        let p ← read options interspersed none rest
        return p.withWord word
      else .ok ⟨[], word :: rest⟩

end SingleNode.CommandLine

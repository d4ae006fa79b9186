import PowerDelivery.CommandLine.Switch
import PowerDelivery.Text.DecimalDigit
import PowerDelivery.Text.Scan

/-! # Tokens: what each argument is by its form -/
namespace PowerDelivery.CommandLine

/-- A switch as it was spelled, with the text attached to it in the same argument: behind an equals
sign, by which it is `assigned`, or right behind the letter. -/
structure Mention where
  switch : Switch
  spelling : String
  attached : Option String
  assigned : Bool
  deriving DecidableEq, Repr

inductive Token
  | value (text : String)
  | separator
  | unknown (text : String)
  | switch (mention : Mention)
  deriving DecidableEq, Repr

/-- A minus sign and decimal digits, with a point before some of them at most, and perhaps a line
feed at the end. -/
def isNegativeNumber : List Char → Bool
  | '-' :: cs =>
    let body := if cs.getLast? = some '\n' then cs.dropLast else cs
    let allDigits (cs : List Char) : Bool := !cs.isEmpty && cs.all Text.isDigit
    allDigits body ||
      match body.dropWhile Text.isDigit with
      | '.' :: fraction => allDigits fraction
      | _ => false
  | _ => false

/-- The switches that an argument may abbreviate or, behind one dash, lead a cluster of. -/
def candidates (argument : String) : List Mention :=
  match argument.toList with
  | '-' :: '-' :: _ =>
    let (stem, attached) := match Text.cutAtEquals argument.toList with
      | some (stem, value) => (stem, some (String.ofList value))
      | none => (argument.toList, none)
    (Switch.allSpellings.filter fun p => stem.isPrefixOf p.1.toList).map fun p =>
      ⟨p.2, p.1, attached, attached.isSome⟩
  | cs =>
    (Switch.allSpellings.filter fun p => p.1.toList == cs.take 2).map fun p =>
      ⟨p.2, p.1, some (String.ofList (cs.drop 2)), false⟩

/-- A switch spelled in full, alone or before an equals sign. -/
def inFull? (argument : String) : Option Mention :=
  match Switch.ofSpelling? argument with
  | some s => some ⟨s, argument, none, false⟩
  | none => do
    let (spelling, value) ← Text.cutAtEquals argument.toList
    let s ← Switch.ofSpelling? (String.ofList spelling)
    return ⟨s, String.ofList spelling, some (String.ofList value), true⟩

/-- Only what starts with a dash and goes on can be a switch, and of that neither a negative number
nor a text with a space unless a switch is spelled so. -/
def Token.ofArgument (argument : String) : Except UsageError Token :=
  match argument.toList with
  | '-' :: c :: cs =>
    match inFull? argument with
    | some mention => .ok (.switch mention)
    | none =>
      match candidates argument with
      | [mention] => .ok (.switch mention)
      | [] =>
        if isNegativeNumber ('-' :: c :: cs) || (c :: cs).contains ' ' then .ok (.value argument)
        else .ok (.unknown argument)
      | several => .error (.ambiguous argument (several.map (·.spelling)))
  | _ => .ok (.value argument)

/-- All that follows a separator is a value. -/
def tokens : List String → Except UsageError (List Token)
  | [] => .ok []
  | argument :: rest =>
    if argument = "--" then .ok (.separator :: rest.map .value)
    else do
      let token ← Token.ofArgument argument
      return token :: (← tokens rest)

end PowerDelivery.CommandLine

import PowerDelivery.CommandLine.Token
import PowerDelivery.Keyed

/-! # Settings: what the arguments ask for -/
namespace PowerDelivery.CommandLine

/-- Argument parsers of two ages, which differ in what they make of a text attached to a switch. -/
inductive Dialect
  | older
  | newer
  deriving DecidableEq, Repr

/-- What a switch is given. The older dialect drops a separator that is attached to a switch, so
that nothing is given. -/
abbrev Operand := Option String

/-- Of two switches that say the variant only one may be given, which is the `chosen` one. -/
structure Settings where
  pdos : List Operand := []
  rdos : List Operand := []
  reference : Option String := none
  first : Bool := false
  sink : Bool := false
  chosen : Option Switch := none
  variant : Option Variant := none
  leaf : Option String := none
  spr : Bool := false
  encode : Option Variant := none
  attributes : List (Option (String × String)) := []
  summary : Bool := false
  json : Bool := false
  verbosity : Nat := 0
  deriving DecidableEq, Repr

inductive Stop
  | help
  | version
  | usage (error : UsageError)
  deriving DecidableEq, Repr

namespace Settings

def attribute? (text : String) : Option (String × String) :=
  match Text.cutAtEquals text.toList with
  | none | some ([], _) => none
  | some (name, value) =>
    some (String.ofList (Text.trim name), String.ofList (Text.trim value))

def variantChoice (switch : Switch) (text : String) : Except Stop Variant :=
  match variantChoices.find? (·.text == text) with
  | some v => .ok v
  | none => .error (.usage (.invalidChoice switch text))

def flag (s : Settings) : Switch → Except Stop Settings
  | .help => .error .help
  | .version => .error .version
  | .first => .ok { s with first := true }
  | .sink => .ok { s with sink := true }
  | .spr => .ok { s with spr := true }
  | .summary => .ok { s with summary := true }
  | .json => .ok { s with json := true }
  | .verbose => .ok { s with verbosity := s.verbosity + 1 }
  | switch => .error (.usage (.noValue switch))

/-- Takes a switch with its operand, which is checked before the conflict of the two switches that
say the variant. -/
def valued (s : Settings) (switch : Switch) (operand : Operand) : Except Stop Settings :=
  match switch with
  | .pdo => .ok { s with pdos := s.pdos ++ [operand] }
  | .rdo => .ok { s with rdos := s.rdos ++ [operand] }
  | .ref => .ok { s with reference := operand }
  | .variant => do
    let v ← operand.mapM (variantChoice .variant)
    if s.chosen = some .leaf then .error (.usage (.conflict .variant .leaf))
    else .ok { s with chosen := some .variant, variant := v }
  | .leaf =>
    if s.chosen = some .variant then .error (.usage (.conflict .leaf .variant))
    else .ok { s with chosen := some .leaf, leaf := operand }
  | .encode => do
    let v ← operand.mapM (variantChoice .encode)
    return { s with encode := v }
  | .attr => do
    let pair ← operand.mapM pairOf
    return { s with attributes := s.attributes ++ [pair] }
  | switch => .error (.usage (.surplusValue switch (operand.getD "")))
where
  pairOf (text : String) : Except Stop (String × String) :=
    match attribute? text with
    | none => .error (.usage (.notAttribute text))
    | some pair => .ok pair

section
variable (dialect : Dialect)

def operandOf (text : String) : Operand :=
  if dialect = .older ∧ text = "--" then none else some text

/-- A switch and the switches of the letters behind it, with what is left over. The newer dialect
leaves what a letter of no switch begins, where the older one refuses it. -/
def cluster (switch : Switch) : List Char → Except UsageError (List Switch × List String)
  | [] => .ok ([switch], [])
  | c :: cs =>
    match Switch.ofSpelling? (String.ofList ['-', c]) with
    | none =>
      if dialect = .older ∨ c = '-' then .error (.surplusValue switch (String.ofList (c :: cs)))
      else .ok ([switch], [String.ofList ('-' :: c :: cs)])
    | some next =>
      if dialect = .newer ∧ cs.head? = some '=' then
        .error (.surplusValue next (String.ofList cs.tail))
      else (cluster next cs).map fun p => (switch :: p.1, p.2)

/-- The switches of a mention that takes no operand: only behind a single dash may there be more
than one, and in the newer dialect only where nothing is assigned. -/
def flagsOf (mention : Mention) : Except UsageError (List Switch × List String) :=
  match mention.attached with
  | none => .ok ([mention.switch], [])
  | some text =>
    if text = "" ∨ mention.spelling.startsWith "--" ∨ dialect = .newer ∧ mention.assigned then
      .error (.surplusValue mention.switch text)
    else cluster dialect mention.switch text.toList

/-- Takes the tokens from left to right, and collects those that belong to no switch. -/
def take (s : Settings) (strays : List String) : List Token → Except Stop (Settings × List String)
  | [] => .ok (s, strays)
  | .value text :: rest => take s (strays ++ [text]) rest
  | .separator :: rest => take s (strays ++ ["--"]) rest
  | .unknown text :: rest => take s (strays ++ [text]) rest
  | .switch mention :: rest =>
    if mention.switch.takesValue then
      match mention.attached, rest with
      | some text, rest => do
        let s ← s.valued mention.switch (operandOf dialect text)
        take s strays rest
      | none, .value text :: rest => do
        let s ← s.valued mention.switch (operandOf dialect text)
        take s strays rest
      | none, _ => .error (.usage (.noValue mention.switch))
    else do
      let (flags, left) ← (flagsOf dialect mention).mapError .usage
      let s ← flags.foldlM flag s
      take s (strays ++ left) rest

def ofArguments (arguments : List String) : Except Stop Settings := do
  let tokens ← (tokens arguments).mapError .usage
  let (s, strays) ← take dialect {} [] tokens
  if !strays.isEmpty then .error (.usage (.unrecognized strays))
  else if !s.rdos.isEmpty && s.reference.all String.isEmpty then .error (.usage .noReference)
  else .ok s

end

def isIdle (s : Settings) : Bool := s.pdos.isEmpty && s.rdos.isEmpty && s.encode.isNone

end Settings
end PowerDelivery.CommandLine

import PowerDelivery.Text.Quoted
import PowerDelivery.Variant

/-! # Switches of the command line -/
namespace PowerDelivery.CommandLine

inductive Switch
  | help
  | pdo
  | rdo
  | ref
  | first
  | sink
  | variant
  | leaf
  | spr
  | encode
  | attr
  | summary
  | json
  | verbose
  | version
  deriving DecidableEq, Repr

namespace Switch

def all : List Switch :=
  [help, pdo, rdo, ref, first, sink, variant, leaf, spr, encode, attr, summary, json, verbose,
   version]

def spellings : Switch → List String
  | help => ["-h", "--help"]
  | pdo => ["--pdo"]
  | rdo => ["--rdo"]
  | ref => ["--ref"]
  | first => ["--first"]
  | sink => ["--sink"]
  | variant => ["--variant"]
  | leaf => ["--leaf"]
  | spr => ["--spr"]
  | encode => ["--encode"]
  | attr => ["--attr"]
  | summary => ["--summary"]
  | json => ["--json"]
  | verbose => ["-v", "--verbose"]
  | version => ["--version"]

def title (s : Switch) : String := "/".intercalate s.spellings

def takesValue : Switch → Bool
  | pdo | rdo | ref | variant | leaf | encode | attr => true
  | _ => false

def allSpellings : List (String × Switch) := all.flatMap fun s => s.spellings.map (·, s)

def ofSpelling? (s : String) : Option Switch := allSpellings.lookup s

end Switch

inductive UsageError
  | ambiguous (argument : String) (candidates : List String)
  | noValue (switch : Switch)
  | surplusValue (switch : Switch) (value : String)
  | invalidChoice (switch : Switch) (value : String)
  | notAttribute (value : String)
  | conflict (switch other : Switch)
  | unrecognized (arguments : List String)
  | noReference
  deriving DecidableEq, Repr

def variantChoices : List Variant := Variant.members.filter (· ≠ .null)

namespace UsageError

def about (switch : Switch) (text : String) : String := s!"argument {switch.title}: {text}"

def message : UsageError → String
  | ambiguous argument candidates =>
    s!"ambiguous option: {argument} could match " ++ ", ".intercalate candidates
  | noValue switch => about switch "expected one argument"
  | surplusValue switch value => about switch s!"ignored explicit argument {Text.quoted value}"
  | invalidChoice switch value =>
    let choices := ", ".intercalate (variantChoices.map fun v => Text.quoted v.text)
    about switch s!"invalid choice: {Text.quoted value} (choose from {choices})"
  | notAttribute value => about .attr s!"expected NAME=VALUE, got {Text.quoted value}"
  | conflict switch other => about switch s!"not allowed with argument {other.title}"
  | unrecognized arguments => "unrecognized arguments: " ++ " ".intercalate arguments
  | noReference => "--rdo needs --ref to say which kind of PDO is requested"

end UsageError
end PowerDelivery.CommandLine

import PowerDelivery.CommandLine.Switch

/-! # Usage, help and version texts -/
namespace PowerDelivery.CommandLine

def program : String := "pdocodec"

def lines (ls : List String) : String := String.join (ls.map (· ++ "\n"))

def choicesText : String :=
  "\x7b" ++ ",".intercalate (variantChoices.map Variant.text) ++ "\x7d"

def usage : String := lines
  [s!"usage: {program} [-h] [--pdo WORD] [--rdo WORD] [--ref CODE] [--first] [--sink]",
   s!"                [--variant {choicesText} | --leaf NAME]",
   "                [--spr] [--encode VARIANT] [--attr NAME=VALUE] [--summary]",
   "                [--json] [-v] [--version]"]

def options : String := lines
  ["  -h, --help            show this help message and exit",
   "  --pdo WORD            PDO to decode, decimal or 0x-prefixed hex (may be",
   "                        repeated)",
   "  --rdo WORD            RDO to decode, decimal or 0x-prefixed hex (may be",
   "                        repeated)",
   "  --ref CODE            type of the PDO the RDOs refer to: F, B, V, P, A, E or",
   "                        S",
   "  --first               the PDO is at object position 1 (adds the fixed supply",
   "                        capability bits)",
   "  --sink                PDOs are sink capabilities (default: source",
   "                        capabilities)",
   s!"  --variant {choicesText}",
   "                        decode PDOs as this variant instead of classifying",
   "                        them",
   "  --leaf NAME           take the PDO variant and position from a capability",
   "                        leaf name, e.g. 1:fixed_supply",
   "  --spr                 an adjustable_supply leaf is SPR AVS (default: EPR",
   "                        AVS)",
   "  --encode VARIANT      encode the --attr values as a PDO of this variant",
   "  --attr NAME=VALUE     capability attribute for --encode, e.g. voltage=5000mV",
   "                        (may be repeated)",
   "  --summary             with --encode, also print a one line summary",
   "  --json                render results as JSON",
   "  -v, --verbose         increase verbosity (may be repeated)",
   "  --version             show program's version number and exit"]

def examples : String := lines
  ["Examples:",
   s!"  {program} --pdo 0x0a01912c --first         Decode the first source PDO",
   s!"  {program} --pdo 0x0001912c --sink          Decode a sink PDO",
   s!"  {program} --rdo 0x1304b12c --ref F         Decode a fixed supply request",
   s!"  {program} --encode fixed --first --attr voltage=5000mV --attr maximum_current=3000mA",
   "",
   "RDO reference codes: F or V (fixed/variable), B (battery), P (pps),",
   "A, E or S (adjustable voltage supply).",
   "        "]

def help : String :=
  usage ++ s!"\n{program}: USB Power Delivery PDO/RDO decoder and encoder\n\noptions:\n" ++
    options ++ "\n" ++ examples

def version : String := s!"{program} 0.1.0\n"

def UsageError.text (e : UsageError) : String := usage ++ s!"{program}: error: {e.message}\n"

end PowerDelivery.CommandLine

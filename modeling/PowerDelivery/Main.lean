import PowerDelivery.CommandLine.Run

/-! # The command line program -/

def main (arguments : List String) : IO UInt32 := do
  match PowerDelivery.CommandLine.execute .older arguments with
  | .ok t => do
    IO.print t.stdout
    IO.eprint t.stderr
    return t.exit.toUInt32
  | .error e => do
    IO.eprintln e.message
    return 1

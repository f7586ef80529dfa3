import RegisterFamilies.X86.SiblingTable

def main : IO UInt32 := do
  match RegisterFamilies.X86.report with
  | .ok rows =>
    for row in rows do
      IO.println (String.ofList row)
    return 0
  | .error message =>
    IO.eprintln message
    return 1

import RoutePlane.CommandLine.Answer

open RoutePlane in
def main (arguments : List String) : IO UInt32 := do
  let answer ← match CommandLine.read arguments with
    | .error stop => do
      if stop = .mistake then
        IO.eprintln "usage: [-v]... [--max-iterations N] [--threads N] SNAPSHOT COMMAND"
      pure (CommandLine.stopped stop)
    | .ok request => do
      let text ← (some <$> IO.FS.readFile request.snapshot) <|> pure none
      pure (CommandLine.answer request text)
  IO.print answer.output
  pure answer.code.toUInt32

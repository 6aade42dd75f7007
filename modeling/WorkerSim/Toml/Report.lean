import WorkerSim.Text.Utf8
import WorkerSim.Toml.Misfit

/-!
# Reports on misfits

A misfit is shown with its line of the document and a row of carets under it. Lines and columns
count from one, columns in characters; the carets are as many as the stretch has bytes, within the
bytes that the line has from that column on, and at least one.
-/

set_option autoImplicit false

namespace WorkerSim.Toml

structure Report where
  line : Nat
  column : Nat
  source : List Char
  carets : Nat
  reason : Reason
  deriving DecidableEq, Repr

namespace Report

/-- The characters after the last line end. -/
def lastLine (cs : List Char) : List Char := (cs.reverse.takeWhile (· ≠ '\n')).reverse

def ofMisfit (document : List Char) (m : Misfit) : Report :=
  let before := document.take (document.length - m.span.start.length)
  let inside := m.span.start.take (m.span.start.length - m.span.stop.length)
  let source := lastLine before ++ m.span.start.takeWhile (· ≠ '\n')
  let column := (lastLine before).length + 1
  { line := before.count '\n' + 1
    column := column
    source := source
    carets := max 1 (min (Text.Utf8.width inside) (Text.Utf8.width source - (column - 1)))
    reason := m.reason }

def chars (r : Report) : List Char :=
  let line := Numeral.digits r.line
  let gutter := List.replicate (line.length + 1) ' ' ++ ['|']
  "TOML parse error at line ".toList ++ line ++ ", column ".toList ++ Numeral.digits r.column ++ ['\n'] ++
    gutter ++ ['\n'] ++
    line ++ " | ".toList ++ r.source ++ ['\n'] ++
    gutter ++ List.replicate r.column ' ' ++ List.replicate r.carets '^' ++ ['\n'] ++
    r.reason.text ++ ['\n']

end Report

end WorkerSim.Toml

import WorkerSim.Diagnostics.Directive

/-!
# Filters

A filter lets events through up to a level that depends on where they come from. It is a row of
directives, written with commas between them. The most specific directive that fits an event
decides.
-/

set_option autoImplicit false

namespace WorkerSim

abbrev Filter := List Directive

namespace Filter

/-- The parts of a text between its commas. -/
def parts : List Char → List (List Char)
  | [] => [[]]
  | c :: rest =>
    if c = ',' then [] :: parts rest
    else match parts rest with
      | part :: others => (c :: part) :: others
      | [] => [[c]]

/-- Reads a filter; one bad directive spoils it. -/
def ofText? (cs : List Char) : Option Filter :=
  ((parts cs).filter (!·.isEmpty)).mapM Directive.ofText?

/-- The more specific of two directives; of two equal ones, the later. -/
def better (a b : Directive) : Directive := if a.isUpTo b then b else a

/-- The directive that decides on an event. -/
def deciding? (f : Filter) (e : Event) : Option Directive :=
  f.foldl (fun best d => if d.fits e then some (best.elim d (better · d)) else best) none

def allows (f : Filter) (e : Event) : Bool :=
  match f.deciding? e with
  | some d => e.level.rank ≤ d.limit
  | none => false

/-- What is shown unless the environment says otherwise: with verbose diagnostics everything of
interest, and else nothing but warnings of the library. -/
def byVerbosity (verbose : Bool) : Filter :=
  if verbose then [⟨Event.library.toList, .nothing, 4⟩, ⟨[], .nothing, 3⟩]
  else [⟨Event.library.toList, .nothing, 2⟩]

/-- The filter that a variable asks for, if it holds one. -/
def choose (given? : Option (List Char)) (verbose : Bool) : Filter :=
  (given?.bind ofText?).getD (byVerbosity verbose)

end Filter

end WorkerSim

/-!
# Iteration counters

A counter starts at zero and advances by one, so the first iteration is number one. It lives in
64 bits and wraps. A bank holds counters by name; a name that was never used stands for a counter
at zero.
-/

set_option autoImplicit false

namespace WorkerSim

structure Counter where
  value : UInt64
  deriving DecidableEq, Repr

namespace Counter

def start : Counter := ⟨0⟩

def advance (c : Counter) : Counter := ⟨c.value + 1⟩

/-- The counter after `n` advances. -/
def advanceBy (c : Counter) (n : UInt64) : Counter := ⟨c.value + n⟩

theorem advanceBy_zero (c : Counter) : c.advanceBy 0 = c := by
  simp [advanceBy]

theorem advanceBy_succ (c : Counter) (n : UInt64) : c.advanceBy (n + 1) = (c.advanceBy n).advance := by
  simp [advanceBy, advance, UInt64.add_assoc]

/-- Named counters, the most recently written first. -/
abbrev Bank := List (String × Counter)

inductive Operation
  | advance (name : String)
  | advanceBy (name : String) (times : UInt64)
  | value (name : String)
  | reset (name : String)
  | copy (name target : String)
  | same (name other : String)
  deriving DecidableEq, Repr

inductive Answer
  | value (v : UInt64)
  | truth (b : Bool)
  deriving DecidableEq, Repr

namespace Bank

def get (bank : Bank) (name : String) : Counter := (bank.lookup name).getD start

def set (bank : Bank) (name : String) (c : Counter) : Bank :=
  (name, c) :: bank.filter (·.1 != name)

/-- Writes a counter and answers its value. -/
def write (bank : Bank) (name : String) (c : Counter) : Answer × Bank :=
  (.value c.value, bank.set name c)

def step (bank : Bank) : Operation → Answer × Bank
  | .advance name => bank.write name (bank.get name).advance
  | .advanceBy name times => bank.write name ((bank.get name).advanceBy times)
  | .value name => (.value (bank.get name).value, bank)
  | .reset name => bank.write name start
  | .copy name target => bank.write target (bank.get name)
  | .same name other => (.truth (bank.get name == bank.get other), bank)

/-- The answers of a row of operations, each on the bank that the ones before it left. -/
def answers (bank : Bank) : List Operation → List Answer
  | [] => []
  | op :: ops => (bank.step op).1 :: answers (bank.step op).2 ops

end Bank

end Counter

end WorkerSim

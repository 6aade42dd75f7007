/-!
# Dates and times

A TOML date, time of day, or both with an optional offset from universal time. Only whether a text
is one matters here: nothing in a configuration holds a date.
-/

set_option autoImplicit false

namespace WorkerSim.Toml.Moment

/-- The number written by exactly `width` digits, and the rest. -/
def number? (width : Nat) (cs : List Char) : Option (Nat × List Char) :=
  let ds := cs.take width
  if ds.length = width ∧ ds.all Char.isDigit then some (Nat.ofDigitChars 10 ds 0, cs.drop width)
  else none

def mark? (c : Char) : List Char → Option (List Char)
  | d :: rest => if d = c then some rest else none
  | [] => none

def isLeap (year : Nat) : Bool := year % 4 == 0 && (year % 100 != 0 || year % 400 == 0)

def daysIn (year month : Nat) : Nat :=
  if month = 2 then (if isLeap year then 29 else 28)
  else if month = 4 ∨ month = 6 ∨ month = 9 ∨ month = 11 then 30
  else 31

def afterDate? (cs : List Char) : Option (List Char) := do
  let (year, cs) ← number? 4 cs
  let (month, cs) ← number? 2 (← mark? '-' cs)
  let (day, cs) ← number? 2 (← mark? '-' cs)
  if 1 ≤ month ∧ month ≤ 12 ∧ 1 ≤ day ∧ day ≤ daysIn year month then some cs else none

def afterHourMinute? (cs : List Char) : Option (List Char) := do
  let (hour, cs) ← number? 2 cs
  let (minute, cs) ← number? 2 (← mark? ':' cs)
  if hour ≤ 23 ∧ minute ≤ 59 then some cs else none

/-- A fraction of a second: a point with at least one digit after it, or nothing. -/
def afterFraction? : List Char → Option (List Char)
  | '.' :: rest =>
    if (rest.takeWhile Char.isDigit).isEmpty then none else some (rest.dropWhile Char.isDigit)
  | cs => some cs

/-- A time of day; its seconds may be left out, and a leap second counts as one. -/
def afterTime? (cs : List Char) : Option (List Char) := do
  let cs ← afterHourMinute? cs
  match mark? ':' cs with
  | none => some cs
  | some cs =>
    let (second, cs) ← number? 2 cs
    if second ≤ 60 then afterFraction? cs else none

def isOffset : List Char → Bool
  | [] => true
  | ['Z'] => true
  | ['z'] => true
  | '+' :: rest => afterHourMinute? rest == some []
  | '-' :: rest => afterHourMinute? rest == some []
  | _ => false

def isSeparator (c : Char) : Bool := c == 'T' || c == 't' || c == ' '

def isMoment (cs : List Char) : Bool :=
  match afterDate? cs with
  | some [] => true
  | some (sep :: rest) => isSeparator sep && ((afterTime? rest).map isOffset).getD false
  | none => afterTime? cs == some []

end WorkerSim.Toml.Moment

import WorkerSim.Toml.Trivia

/-!
# String literals

TOML writes texts in four ways: between double quotes with escapes or between single quotes
without, each on one line or, with the quote written three times, over several. Up to two quotes
right before a closing triple belong to the text.
-/

set_option autoImplicit false

namespace WorkerSim.Toml.Literal

def hexDigit? (c : Char) : Option Nat :=
  if '0' ≤ c ∧ c ≤ '9' then some (c.toNat - '0'.toNat)
  else if 'a' ≤ c ∧ c ≤ 'f' then some (c.toNat - 'a'.toNat + 10)
  else if 'A' ≤ c ∧ c ≤ 'F' then some (c.toNat - 'A'.toNat + 10)
  else none

/-- The character with the code point that a row of hexadecimal digits denotes. -/
def codePoint? (digits : List Char) : Option Char :=
  match digits.mapM hexDigit? with
  | none => none
  | some ds =>
    let n := ds.foldl (fun n d => n * 16 + d) 0
    if n.isValidChar then some (Char.ofNat n) else none

/-- The letters that stand for one character after a backslash. -/
def shorthand? : Char → Option Char
  | 'b' => some '\x08'
  | 't' => some '\t'
  | 'n' => some '\n'
  | 'f' => some '\x0c'
  | 'r' => some '\r'
  | 'e' => some '\x1b'
  | '"' => some '"'
  | '\\' => some '\\'
  | _ => none

/-- How many digits follow the letter of a numbered escape. -/
def escapeWidth? : Char → Option Nat
  | 'x' => some 2
  | 'u' => some 4
  | 'U' => some 8
  | _ => none

/-- Takes away all blanks and line ends in front. -/
def trimmed : List Char → List Char
  | [] => []
  | '\r' :: '\n' :: rest => trimmed rest
  | c :: rest => if isSpace c || c == '\n' then trimmed rest else c :: rest

theorem length_trimmed_le (cs : List Char) : (trimmed cs).length ≤ cs.length := by
  fun_induction trimmed cs with
  | case1 => exact Nat.le_refl _
  | case2 rest ih => simp only [List.length_cons]; omega
  | case3 c rest _ _ ih => simp only [List.length_cons]; omega
  | case4 => exact Nat.le_refl _

/-- What a backslash with these characters after it stands for, and the rest. Over several lines a
backslash at the end of a line takes away all blanks and line ends that follow. -/
def escape? (multi : Bool) : List Char → Option (List Char × List Char)
  | [] => none
  | c :: rest =>
    match shorthand? c with
    | some e => some ([e], rest)
    | none =>
      match escapeWidth? c with
      | some width =>
        if (rest.take width).length < width then none
        else (codePoint? (rest.take width)).map fun e => ([e], rest.drop width)
      | none =>
        if multi then
          (afterNewline? (afterSpaces (c :: rest))).map fun _ => ([], trimmed rest)
        else none

theorem length_of_escape? {multi : Bool} {cs t rest : List Char}
    (h : escape? multi cs = some (t, rest)) : rest.length < cs.length := by
  cases cs with
  | nil => simp [escape?] at h
  | cons c r =>
    simp only [escape?] at h
    split at h
    · simp only [Option.some.injEq, Prod.mk.injEq] at h
      simp [← h.2]
    · split at h
      · split at h
        · simp at h
        · simp only [Option.map_eq_some_iff, Prod.mk.injEq] at h
          obtain ⟨_, _, _, rfl⟩ := h
          simp only [List.length_drop, List.length_cons]
          omega
      · split at h
        · simp only [Option.map_eq_some_iff, Prod.mk.injEq] at h
          obtain ⟨_, _, _, rfl⟩ := h
          exact Nat.lt_succ_of_le (length_trimmed_le _)
        · simp at h

/-- Whether a carriage return is part of a line end. -/
def startsNewline (cs : List Char) : Bool := (afterNewline? cs).isSome

/-- The quotes that a closing triple leaves to the text, and what follows them. -/
def closing (quote : Char) (rest : List Char) : List Char × List Char :=
  let extra := (rest.take 2).takeWhile (· == quote)
  (extra, rest.drop extra.length)

/-- Whether the characters may stand in a text as they are. -/
def isPlain (multi : Bool) (c : Char) (rest : List Char) : Bool :=
  isOrdinary c || (multi && startsNewline (c :: rest))

/-- The text up to its closing quote, and what follows the quote; `escapes` tells whether a
backslash is special. -/
def body (quote : Char) (multi escapes : Bool) (cs : List Char) : Option (List Char × List Char) :=
  match cs with
  | [] => none
  | c :: rest =>
    if c = quote then
      if multi then
        if rest.take 2 = [quote, quote] then some (closing quote (rest.drop 2))
        else (body quote multi escapes rest).map fun r => (c :: r.1, r.2)
      else some ([], rest)
    else if escapes && c == '\\' then
      match h : escape? multi rest with
      | none => none
      | some (t, rest') =>
        have := length_of_escape? h
        (body quote multi escapes rest').map fun r => (t ++ r.1, r.2)
    else if isPlain multi c rest then
      (body quote multi escapes rest).map fun r => (c :: r.1, r.2)
    else none
termination_by cs.length
decreasing_by
  · simp
  · simp only [List.length_cons]
    omega
  · simp

/-- A text right after its opening triple may start with a line end, which is not part of it. -/
def afterOpening (cs : List Char) : List Char := (afterNewline? cs).getD cs

/-- The text of a literal that starts with the given quote, and what follows the literal. -/
def read? (quote : Char) (escapes : Bool) (cs : List Char) : Option (List Char × List Char) :=
  match cs with
  | c :: rest =>
    if c = quote then
      if rest.take 2 = [quote, quote] then body quote true escapes (afterOpening (rest.drop 2))
      else body quote false escapes rest
    else none
  | [] => none

/-- Whether a literal is of the kind that spans lines. -/
def isMulti (quote : Char) (cs : List Char) : Bool := cs.take 3 == [quote, quote, quote]

end WorkerSim.Toml.Literal

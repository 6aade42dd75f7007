/-!
# Blank characters

The characters with the Unicode property White_Space, the texts that hold nothing else, and texts
without such characters at their ends.
-/

set_option autoImplicit false

namespace WorkerSim.Text

def isBlank (c : Char) : Bool :=
  let n := c.toNat
  (0x09 ≤ n && n ≤ 0x0D) || n == 0x20 || n == 0x85 || n == 0xA0 || n == 0x1680 ||
    (0x2000 ≤ n && n ≤ 0x200A) || n == 0x2028 || n == 0x2029 || n == 0x202F ||
    n == 0x205F || n == 0x3000

/-- A text without the blanks at its two ends. -/
def trim (cs : List Char) : List Char :=
  ((cs.dropWhile isBlank).reverse.dropWhile isBlank).reverse

def isBlankText (cs : List Char) : Bool := cs.all isBlank

theorem isBlankText_iff (cs : List Char) : isBlankText cs = true ↔ ∀ c ∈ cs, isBlank c = true :=
  List.all_eq_true

end WorkerSim.Text

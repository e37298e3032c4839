/-!
Blank characters, and texts without the blanks around them.
-/
namespace InstallCheck.Text

/-- First and last codes of the runs of blank characters, from the standard's list of white space. -/
def blankCodes : List (Nat × Nat) :=
  [(0x09, 0x0d), (0x20, 0x20), (0x85, 0x85), (0xa0, 0xa0), (0x1680, 0x1680), (0x2000, 0x200a),
    (0x2028, 0x2029), (0x202f, 0x202f), (0x205f, 0x205f), (0x3000, 0x3000)]

def isBlank (c : Char) : Bool := blankCodes.any fun r => r.1 ≤ c.toNat && c.toNat ≤ r.2

/-- What follows the blanks at the start. -/
def afterBlanks (cs : List Char) : List Char := cs.dropWhile isBlank

/-- What stands before the blanks at the end. -/
def beforeBlanks (cs : List Char) : List Char := (cs.reverse.dropWhile isBlank).reverse

end InstallCheck.Text

/-!
How alike two words are, by the characters that they share at about the same place and by how many of
those stand in another order. Likeness is a fraction, so that it can be compared exactly.
-/
namespace InstallCheck.Text

/-- A fraction. -/
structure Likeness where
  numerator : Nat
  denominator : Nat
  deriving DecidableEq, Repr

namespace Likeness

/-- Whether a likeness is less than another one. -/
def isLess (a b : Likeness) : Bool := a.numerator * b.denominator < b.numerator * a.denominator

end Likeness

/-- The first place in a range of a word at which a character stands that has not been taken. -/
def findFree (c : Char) (start stop : Nat) (taken : List Nat) : Nat → List Char → Option Nat
  | _, [] => none
  | place, d :: rest =>
    if start ≤ place ∧ place < stop ∧ d = c ∧ !taken.contains place then some place
    else findFree c start stop taken (place + 1) rest

/-- The places of the characters of a word that are shared with another word, and the places there;
characters are shared in order, each with the first that is near enough and not taken. -/
def shared (reach : Nat) (b : List Char) : Nat → List Nat → List Char → List (Char × Nat)
  | _, _, [] => []
  | place, taken, c :: rest =>
    match findFree c (place - reach) (place + reach + 1) taken 0 b with
    | some found => (c, found) :: shared reach b (place + 1) (found :: taken) rest
    | none => shared reach b (place + 1) taken rest

/-- The likeness of two words: the mean of the shares of each word that is shared and the share of that
which is in order. -/
def likeness (a b : String) : Likeness :=
  let x := a.toList
  let y := b.toList
  if x.isEmpty && y.isEmpty then ⟨1, 1⟩
  else
    let common := shared (max x.length y.length / 2 - 1) y 0 [] x
    let m := common.length
    if m = 0 then ⟨0, 1⟩
    else
      let places := (common.map (·.2)).mergeSort (· ≤ ·)
      let inOrder := places.filterMap fun place => y[place]?
      let moved := ((common.map (·.1)).zip inOrder).countP (fun p => p.1 ≠ p.2) / 2
      ⟨m * m * y.length + m * m * x.length + (m - moved) * x.length * y.length,
        3 * x.length * y.length * m⟩

/-- How alike a word has to be to be taken for another one. -/
def threshold : Likeness := ⟨7, 10⟩

/-- A list ascending by likeness with one more word, after those that are as alike. -/
def insertByLikeness (l : Likeness) (s : String) : List (Likeness × String) → List (Likeness × String)
  | [] => [(l, s)]
  | (k, t) :: rest => if l.isLess k then (l, s) :: (k, t) :: rest else (k, t) :: insertByLikeness l s rest

/-- The words that are like a word, the most alike last. -/
def similarWords (word : String) (known : List String) : List String :=
  (known.foldl (fun found s =>
    let l := likeness word s
    if threshold.isLess l then insertByLikeness l s found else found) []).map (·.2)

/-- The word that is most like a word, if any is like it. -/
def mostSimilar? (word : String) (known : List String) : Option String :=
  (similarWords word known).getLast?

end InstallCheck.Text

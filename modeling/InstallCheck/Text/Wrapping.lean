/-!
Breaking lines between words so that they fit a width. A line that begins with blanks goes on with the
same blanks; the first word of a line is never moved.
-/
namespace InstallCheck.Text

/-- A blank. -/
def isSpace (c : Char) : Bool := c = ' ' || c = '\t' || c = '\n' || c = '\r'

/-- The words of a line, each with the spaces after it; spaces at the beginning are a word. -/
def wordsOf : List Char → List (List Char)
  | [] => []
  | c :: rest =>
    match wordsOf rest with
    | [] => [[c]]
    | word :: words =>
      if c = ' ' ∧ word.head? ≠ some ' ' then [c] :: word :: words
      else (c :: word) :: words

/-- A word without the blanks at its end. -/
def trimEnd (word : List Char) : List Char := (word.reverse.dropWhile isSpace).reverse

/-- A list of lines, last one first, to which a word is added; its width is that of the last line. -/
structure Wrapped where
  done : List (List Char)
  line : List Char
  width : Nat

/-- Adds a word to the last line or begins a line with it, after the given blanks. -/
def Wrapped.add (limit : Nat) (blanks : List Char) (w : Wrapped) (word : List Char) : Wrapped :=
  let wordWidth := (trimEnd word).length
  if limit < w.width + wordWidth then
    ⟨trimEnd w.line :: w.done, blanks ++ word, blanks.length + word.length⟩
  else ⟨w.done, w.line ++ word, w.width + word.length⟩

def wrapLine (limit : Nat) (line : List Char) : List (List Char) :=
  match wordsOf line with
  | [] => [[]]
  | first :: words =>
    let blank := first.all isSpace
    let blanks := if blank then first else []
    -- blanks do not count as the first word, which is not moved
    let (start, words) :=
      match blank, words with
      | true, second :: words =>
        (Wrapped.mk [] (first ++ second) (first.length + second.length), words)
      | _, words => (Wrapped.mk [] first first.length, words)
    let w := words.foldl (Wrapped.add limit blanks) start
    (w.line :: w.done).reverse

/-- A text broken into lines, without blanks at its end. -/
def wrap (limit : Nat) (s : String) : String :=
  let lines := (s.splitOn "\n").flatMap fun line => (wrapLine limit line.toList).map String.ofList
  String.ofList (trimEnd ("\n".intercalate lines).toList)

/-- A text whose lines after the first one begin with so many spaces. -/
def indentRest (spaces : Nat) (s : String) : String :=
  ("\n" ++ String.ofList (List.replicate spaces ' ')).intercalate (s.splitOn "\n")

/-- A text with spaces after it up to a width. -/
def padTo (width : Nat) (s : String) : String :=
  s ++ String.ofList (List.replicate (width - s.length) ' ')

end InstallCheck.Text

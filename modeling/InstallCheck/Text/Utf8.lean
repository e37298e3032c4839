/-!
Decoding UTF-8. Bytes that are not well formed are taken together as far as they could have begun a
character, and each such run stands for one character that could not be read.
-/
namespace InstallCheck.Text

/-- Whether a byte continues a character. -/
def isContinuation (b : UInt8) : Bool := 0x80 ≤ b && b ≤ 0xBF

/-- For the first byte of a character of several bytes: how many bytes follow, the bits of the code
that it holds, and the least and greatest second byte. -/
def leading? (b : UInt8) : Option (Nat × Nat × UInt8 × UInt8) :=
  let n := b.toNat
  if 0xC2 ≤ b ∧ b ≤ 0xDF then some (1, n - 0xC0, 0x80, 0xBF)
  else if b = 0xE0 then some (2, 0, 0xA0, 0xBF)
  else if b = 0xED then some (2, n - 0xE0, 0x80, 0x9F)
  else if 0xE1 ≤ b ∧ b ≤ 0xEF then some (2, n - 0xE0, 0x80, 0xBF)
  else if b = 0xF0 then some (3, 0, 0x90, 0xBF)
  else if 0xF1 ≤ b ∧ b ≤ 0xF3 then some (3, n - 0xF0, 0x80, 0xBF)
  else if b = 0xF4 then some (3, 4, 0x80, 0x8F)
  else none

/-- Continues a character of which the given number of bytes are missing: its code, if all of them
follow, and how many of them do. -/
def continued : Nat → Nat → List UInt8 → Option Nat × Nat
  | 0, code, _ => (some code, 0)
  | missing + 1, code, b :: rest =>
    if isContinuation b then
      let (found, length) := continued missing (code * 64 + (b.toNat - 0x80)) rest
      (found, length + 1)
    else (none, 0)
  | _ + 1, _, [] => (none, 0)

/-- The character that bytes begin with, if it is well formed, and how many bytes after the first belong
to it or to what could not be read. -/
def firstChar (b : UInt8) (rest : List UInt8) : Option Char × Nat :=
  if b < 0x80 then (some (Char.ofNat b.toNat), 0)
  else
    match leading? b, rest with
    | some (missing, code, low, high), second :: _ =>
      if low ≤ second ∧ second ≤ high then
        let (found, length) := continued missing code rest
        (found.map Char.ofNat, length)
      else (none, 0)
    | _, _ => (none, 0)

/-- The characters of a text, or nothing for what cannot be read. -/
def decoded : List UInt8 → List (Option Char)
  | [] => []
  | b :: rest => (firstChar b rest).1 :: decoded (rest.drop (firstChar b rest).2)
termination_by bytes => bytes.length
decreasing_by simp only [List.length_drop, List.length_cons]; omega

/-- The text that bytes stand for, if all of it can be read. -/
def ofUtf8? (bytes : List UInt8) : Option String := ((decoded bytes).mapM id).map String.ofList

/-- The text that bytes stand for, with replacement characters for what cannot be read. -/
def ofUtf8 (bytes : List UInt8) : String :=
  String.ofList ((decoded bytes).map (·.getD '\ufffd'))

end InstallCheck.Text

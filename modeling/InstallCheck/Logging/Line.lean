import InstallCheck.Logging.Event

/-!
Log lines: the time, the level, the activities from the outermost on, and what happened.
-/
namespace InstallCheck.Logging

/-- The mark of a level, which is five characters wide. -/
def Level.mark : Level → String
  | error => "ERROR"
  | warn => " WARN"
  | info => " INFO"
  | debug => "DEBUG"
  | trace => "TRACE"

/-- Named values with blanks between them. -/
def fieldsText (fields : List (String × String)) : String :=
  " ".intercalate (fields.map fun f => f.1 ++ "=" ++ f.2)

/-- An activity as it stands in a line. -/
def Span.text (s : Span) : String :=
  s.name ++ (if s.fields.isEmpty then "" else "\x7b" ++ fieldsText s.fields ++ "\x7d") ++ ":"

/-- A character of a message. Characters that could steer a terminal are written as escapes. -/
def messageChar (c : Char) : List Char :=
  let digits := Nat.toDigits 16 c.toNat
  if ['\x07', '\x08', '\x0c', '\x1b', '\x7f'].contains c then
    ['\\', 'x'] ++ (if digits.length < 2 then '0' :: digits else digits)
  else if 0x80 ≤ c.toNat && c.toNat ≤ 0x9f then ['\\', 'u', '\x7b'] ++ digits ++ ['\x7d']
  else [c]

/-- A message as it stands in a line. -/
def messageText (message : String) : String := String.ofList (message.toList.flatMap messageChar)

/-- The line of an event at a time. -/
def Event.line (time : String) (e : Event) : String :=
  time ++ " " ++ e.level.mark ++ " " ++ String.join (e.spans.map (·.text)) ++
    (if e.spans.isEmpty then "" else " ") ++ messageText e.message ++
    (if e.fields.isEmpty then "" else " " ++ fieldsText e.fields) ++ "\n"

end InstallCheck.Logging

import SerialLine.Text.Quoted

/-!
# SerialLine.Text.Structural — the text of a structured value

A structured value is written with its name, its fields in declaration order between braces,
and its texts quoted: `Slot \{ fd: 7, data: None }`. Values that keep part of themselves
private end in two dots.
-/

namespace SerialLine.Text

/-- The fields of a record, separated by commas. -/
def fieldsText (fields : List (String × String)) : String :=
  ", ".intercalate (fields.map fun f => f.1 ++ ": " ++ f.2)

/-- A record with all its fields; a record without fields is its name alone. -/
def record (name : String) (fields : List (String × String)) : String :=
  if fields.isEmpty then name else name ++ " \x7b " ++ fieldsText fields ++ " \x7d"

/-- A record that shows only some of its fields. -/
def openRecord (name : String) (fields : List (String × String)) : String :=
  if fields.isEmpty then name ++ " \x7b .. \x7d"
  else name ++ " \x7b " ++ fieldsText fields ++ ", .. \x7d"

/-- A value wrapped in a constructor of one argument. -/
def wrapped (name arg : String) : String := name ++ "(" ++ arg ++ ")"

/-- An optional value. -/
def optional : Option String → String
  | none => "None"
  | some text => wrapped "Some" text

/-- A list of values between square brackets. -/
def listed (items : List String) : String := "[" ++ ", ".intercalate items ++ "]"

/-- The word of a truth value. -/
def truth (b : Bool) : String := if b then "true" else "false"

end SerialLine.Text

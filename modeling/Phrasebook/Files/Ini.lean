import Phrasebook.Files.Lines

/-!
# Ini files

Comments start with a semicolon and take a line of their own. A key is a star or a single name; an
equals sign or a colon separates it from its value, which is the rest of the line.
-/

namespace Phrasebook.Files.Ini

/-- A key. -/
def readKey (c : Cursor) : Except TextError (List Text × Cursor) :=
  if c.isAt '*' then .ok (["*"], c.next)
  else if !c.rest.head?.any startsKey then .error (Dialect.unexpected c)
  else
    let stop := c.skipWhile continuesKey
    .ok ([c.textTo stop], stop)

/-- A value: the rest of the line without the blanks at its end. -/
def readValue (c : Cursor) : Except TextError (Written × Cursor) :=
  let stop := c.toLineEnd
  .ok (⟨(c.textTo stop).stripEnd, none⟩, stop)

/-- The rules of ini files. -/
def dialect : Dialect where
  comment := ';'
  isSeparator c := c = '=' || c = ':'
  readKey := readKey
  readValue := readValue
  allowsTrailingComment := false

end Phrasebook.Files.Ini

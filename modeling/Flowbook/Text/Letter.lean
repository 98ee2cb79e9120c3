import Flowbook.Character.Trait

namespace Flowbook.Text

open Flowbook.Character

/-!
Letters and numerals, which names are made of. A letter has the property
Alphabetic, and a numeral is of the general category N.
-/

def numerals : CharSet :=
  ofCategories ["Nd", "Nl", "No"]

def isLetter (c : Char) : Bool :=
  if c.toNat < 0x80 then c.isAlpha else alphabetic.contains c.toNat

def isNumeral (c : Char) : Bool :=
  if c.toNat < 0x80 then c.isDigit else numerals.contains c.toNat

end Flowbook.Text

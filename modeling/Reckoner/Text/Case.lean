/-!
# Letter case

Lower and upper case of the letters of ASCII. Words that are compared without regard to case are
made of them.
-/

namespace Reckoner.Text

/-- A letter of ASCII in lower case; other characters are left alone. -/
def toLower (c : Char) : Char :=
  if 'A' ≤ c ∧ c ≤ 'Z' then Char.ofNat (c.toNat + 32) else c

/-- A letter of ASCII in upper case; other characters are left alone. -/
def toUpper (c : Char) : Char :=
  if 'a' ≤ c ∧ c ≤ 'z' then Char.ofNat (c.toNat - 32) else c

def lower (text : String) : String :=
  String.ofList (text.toList.map toLower)

def upper (text : String) : String :=
  String.ofList (text.toList.map toUpper)

end Reckoner.Text

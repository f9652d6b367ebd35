import EntryStore.Text.Table

/-!
# White space

The characters with the White_Space property of Unicode.
-/

namespace EntryStore.Text

def blankTable : String :=
  "9 E 20 21 85 86 A0 A1 1680 1681 2000 200B 2028 202A 202F 2030 205F 2060 3000 3001"

def blankCodes : CodeSet := CodeSet.ofTable blankTable

def isBlank (c : Char) : Bool := blankCodes.contains c

end EntryStore.Text

/-!
# Case

Keywords, modes and column names are compared without regard to the case of ASCII letters. A text
is folded for that: its capital ASCII letters become small, every other character stays.
-/
namespace SqlWeave.Text

/-- ASCII letters in lower case, everything else as it is. -/
def foldCase (text : List Char) : List Char := text.map Char.toLower

def lowered (text : String) : List Char := foldCase text.toList

/-- Are two strings equal up to the case of ASCII letters? -/
def sameWord (a b : String) : Bool := lowered a = lowered b

@[simp] theorem foldCase_append (a b : List Char) : foldCase (a ++ b) = foldCase a ++ foldCase b :=
  List.map_append

end SqlWeave.Text

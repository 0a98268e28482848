/-!
# Identifiers

Names of types, members and functions are arbitrary text. In a header each becomes a word of ASCII
letters, digits and underscores that does not start with a digit.
-/

namespace TypeRecovery

def isWordChar (c : Char) : Bool := c.isAlphanum || c = '_'

def wordChar (c : Char) : Char := if isWordChar c then c else '_'

/-- Puts an underscore in front of a word that is empty or starts with a digit. -/
def guardWord : List Char → List Char
  | [] => ['_']
  | c :: rest => if c.isDigit then '_' :: c :: rest else c :: rest

def sanitize (name : String) : String := String.ofList (guardWord (name.toList.map wordChar))

end TypeRecovery

import Curly.Text.Space
import Curly.Text.Unicode.Case
import Curly.Text.Unicode.Identifier
import Curly.Text.Unicode.Letter
import Curly.Text.Unicode.Printable

/-!
Classes of texts: those whose characters all belong to a class, or whose letters all have one case.
-/

namespace Curly.Text.Unicode

/-- Whether a text has characters, and all are in a class. -/
def isAll (p : Char → Bool) (s : List Char) : Bool := !s.isEmpty && s.all p

/-- Whether a text has letters with case, and none is in a class. -/
def hasCaseWithout (p : Char → Bool) (s : List Char) : Bool := s.any isCased && !s.any p

/-- Whether a text is in lower case. -/
def isLowerText (s : List Char) : Bool := hasCaseWithout (fun c => isUpper c || isTitle c) s

/-- Whether a text is in upper case. -/
def isUpperText (s : List Char) : Bool := hasCaseWithout (fun c => isLower c || isTitle c) s

/-- Whether capitals stand only at the start of a word, and lower case only after a letter. -/
def isTitleFrom (afterCased : Bool) : List Char → Bool
  | [] => true
  | c :: cs =>
    if isUpper c || isTitle c then !afterCased && isTitleFrom true cs
    else if isLower c then afterCased && isTitleFrom true cs
    else isTitleFrom false cs

/-- Whether every word of a text begins with a capital and goes on in lower case. -/
def isTitleText (s : List Char) : Bool := s.any isCased && isTitleFrom false s

/-- Whether a text is a name. -/
def isIdentifierText : List Char → Bool
  | [] => false
  | c :: cs => isIdentifierStart c && cs.all isIdentifierRest

end Curly.Text.Unicode

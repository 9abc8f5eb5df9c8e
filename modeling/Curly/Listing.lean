/-!
Listings: code written line by line, each line indented as deep as the level then is.
-/

namespace Curly

/-- What is done to a listing. -/
inductive ListingStep
  | line (text : String)
  | indent
  | dedent
  deriving DecidableEq, Inhabited

/-- A listing so far: how far the next line is indented, and the text. -/
structure Listing where
  level : Int := 0
  text : String := ""
  deriving DecidableEq, Inhabited

namespace Listing

/-- How much deeper one level is. -/
def width : Int := 4

/-- The blanks in front of a line; below zero there are none. -/
def margin (level : Int) : String := String.ofList (List.replicate level.toNat ' ')

/-- Does one step. -/
def step (l : Listing) : ListingStep → Listing
  | .line text => { l with text := l.text ++ margin l.level ++ text ++ "\n" }
  | .indent => { l with level := l.level + width }
  | .dedent => { l with level := l.level - width }

/-- Does several steps. -/
def run (l : Listing) (steps : List ListingStep) : Listing := steps.foldl step l

end Listing

end Curly

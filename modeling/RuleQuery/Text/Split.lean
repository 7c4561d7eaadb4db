/-!
**Parting a text at a character.**
-/

namespace RuleQuery.Text

/-- The parts of a text between the places where a character stands. -/
def splitAt (mark : Char) : List Char → List (List Char)
  | [] => [[]]
  | c :: rest =>
    if c = mark then [] :: splitAt mark rest
    else
      match splitAt mark rest with
      | part :: others => (c :: part) :: others
      | [] => [[c]]

end RuleQuery.Text

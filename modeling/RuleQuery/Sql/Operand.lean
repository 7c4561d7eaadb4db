import RuleQuery.Text.Blank
import RuleQuery.Text.Lowercase

/-!
**Access to a field through an alias.**

`O.CustId` reads the field `custid` of the relation with the alias `o`. The text is taken in lower
case as a whole and parted at its first dot. White space around the two parts does not count, and
neither part may be empty.
-/

namespace RuleQuery.Sql

/-- A field of the relation with an alias. -/
structure Operand where
  /-- The alias, in lower case. -/
  aliasName : String
  /-- The field, in lower case. -/
  field : String
deriving DecidableEq, Repr

/-- The operand of a text in lower case. -/
def Operand.ofLowered? (lowered : List Char) : Option Operand :=
  match lowered.dropWhile (· ≠ '.') with
  | [] => none
  | _ :: rest =>
    let aliasName := Text.trim (lowered.takeWhile (· ≠ '.'))
    let field := Text.trim rest
    if aliasName = [] ∨ field = [] then none
    else some ⟨String.ofList aliasName, String.ofList field⟩

/-- **The operand that a text names.** -/
def Operand.ofText? (text : String) : Option Operand :=
  Operand.ofLowered? (Text.lowercase text).toList

end RuleQuery.Sql

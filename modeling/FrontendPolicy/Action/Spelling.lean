import FrontendPolicy.Action.Basic
import FrontendPolicy.Text.Blank
import FrontendPolicy.Text.Lowercase

/-!
# Spellings of actions

An action may be written in any case, with underscores for hyphens, and with blanks around it.
Such a spelling has one normal form, and an action is found by comparing that form with its token.
-/

namespace FrontendPolicy

/-- Underscores stand for hyphens. -/
def hyphenate (c : Char) : Char := if c = '_' then '-' else c

/-- The normal form of a spelling: no blanks around it, lower case, hyphens. -/
def normalize (raw : String) : String :=
  String.ofList ((Text.lower (Text.trim raw.toList)).map hyphenate)

/-- The action of a spelling. -/
def Action.ofText? (raw : String) : Option Action :=
  Action.all.find? fun a => a.token = normalize raw

end FrontendPolicy

/-!
# Columns

Left-aligned columns of a listing.
-/

namespace FrontendPolicy.Text

/-- A text filled up with blanks on the right to the given width. A longer text stays whole. -/
def padRight (width : Nat) (s : String) : String :=
  s ++ String.ofList (List.replicate (width - s.length) ' ')

/-- How a listing shows a truth value. -/
def yesNo (value : Bool) : String := if value then "yes" else "no"

end FrontendPolicy.Text

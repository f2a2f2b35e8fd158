/-!
# Letter case

Case is looked through for the letters from A to Z only; every other character stays as it is, also
those that other alphabets write in two cases.
-/

namespace PidOne.Text

/-- The text with its letters from A to Z made small. -/
def lower (text : String) : String := String.ofList (text.toList.map Char.toLower)

end PidOne.Text

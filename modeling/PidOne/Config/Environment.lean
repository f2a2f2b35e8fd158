import PidOne.Config
import PidOne.Text.Blank
import PidOne.Text.Case
import PidOne.Text.Utf8

/-!
# Configuration from the environment

An environment gives byte strings to names. A variable that is not UTF-8 counts as unset. The filter
is the one of the program's own variable or else the common one; a blank filter is no filter.
-/

namespace PidOne

abbrev Environment := List (String × List UInt8)

namespace Environment

/-- The text of a variable that is set to UTF-8. -/
def text? (environment : Environment) (name : String) : Option String :=
  environment.lookup name |>.bind Utf8.decode?

def set (environment : Environment) (name : String) (value : List UInt8) : Environment :=
  (name, value) :: environment

def unset (environment : Environment) (name : String) : Environment :=
  environment.filter fun entry => entry.1 != name

end Environment

namespace Config

/-- The variable for the filter of this program. -/
def ownFilterVariable : String := "VMINIT_LOG"

/-- The variable for the filter of any program. -/
def commonFilterVariable : String := "RUST_LOG"

def jsonVariable : String := "VMINIT_TRACE_JSON"

/-- Whether the value of a variable says yes. -/
def isYes (value : String) : Bool := value == "1" || Text.lower value == "true"

def ofEnvironment (environment : Environment) : Config where
  filter :=
    ((environment.text? ownFilterVariable).or (environment.text? commonFilterVariable)
      |>.filter fun value => !Text.allBlank value).getD defaultFilter
  json := (environment.text? jsonVariable).any isYes

end Config

end PidOne

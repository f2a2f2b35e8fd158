import PidOne.Text.Quoted

/-!
# Logging configuration

What a process is told about its log: a filter, and whether lines are JSON or plain text. The
default logs what is worth knowing, as text.
-/

namespace PidOne

structure Config where
  filter : String
  json : Bool
  deriving DecidableEq, Repr

namespace Config

def defaultFilter : String := "info"

def default : Config := ⟨defaultFilter, false⟩

instance : Inhabited Config := ⟨default⟩

def setFilter (config : Config) (filter : String) : Config := { config with filter }

def setJson (config : Config) (json : Bool) : Config := { config with json }

def debug (config : Config) : String :=
  "TracingConfig \x7b filter: " ++ Text.quoted config.filter ++ ", json: " ++
    toString config.json ++ " \x7d"

end Config

end PidOne

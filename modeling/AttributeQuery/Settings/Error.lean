/-!
# Faults of settings

Why settings are refused, and the message for each reason.
-/

namespace AttributeQuery

/-- What is wrong with the value of a setting. -/
inductive ValueFault where
  | notADialect (value : String)
  | notAnEmptyAll (value : String)
  | notANatural (value : String)
  | notABoolean (value : String)
  | notAnIdentifier (value : String)
  deriving BEq, DecidableEq, Repr

def ValueFault.message : ValueFault → String
  | .notADialect value => "invalid dialect value '" ++ value ++ "'"
  | .notAnEmptyAll value =>
      "invalid empty All() semantics value '" ++ value ++ "'"
  | .notANatural value => "invalid usize value '" ++ value ++ "'"
  | .notABoolean value =>
      "invalid boolean value '" ++ value ++ "', expected true, false, 1 or 0"
  | .notAnIdentifier value => "'" ++ value ++ "' is not a plain SQL identifier"

/-- Why settings are refused. -/
inductive SettingsError where
  | invalidValue (key : String) (fault : ValueFault)
  | noRelationDepth
  | malformedFile
  | unreadableFile
  deriving BEq, DecidableEq, Repr

def SettingsError.message : SettingsError → String
  | .invalidValue key fault =>
      "Invalid value for " ++ key ++ ": " ++ fault.message
  | .noRelationDepth =>
      "Validation error: compiler.max_relation_depth must be at least 1, "
        ++ "otherwise no related-via attribute can be reached"
  | .malformedFile => "Failed to parse TOML config"
  | .unreadableFile => "Failed to read config file"

end AttributeQuery

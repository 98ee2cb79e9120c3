namespace Flowbook

inductive ConfigurationFault where
  | missingKey (key : String)
  | invalidValue (key value reason : String)
deriving DecidableEq

def ConfigurationFault.message : ConfigurationFault → String
  | missingKey key => s!"missing required property '{key}'"
  | invalidValue key value reason =>
    s!"property '{key}' has invalid value '{value}': {reason}"

end Flowbook

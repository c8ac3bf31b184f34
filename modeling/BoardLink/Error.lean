import BoardLink.Resource
import BoardLink.Transmit

/-!
# Errors

Each layer has its own errors; here they are one type, for those who do not care which layer failed.
-/

namespace BoardLink

inductive ConfigError where
  | io (error : IoError)
  /-- The text is no TOML document, or a value has the wrong type. -/
  | toml
  | invalid (reason : String)
  deriving DecidableEq, Repr

def ConfigError.message : ConfigError → String
  | .io e => "I/O error: " ++ e.message
  | .toml => "TOML parse error"
  | .invalid reason => "Invalid configuration: " ++ reason

/-- The texts of a configuration error and of what caused it. -/
def ConfigError.chain (e : ConfigError) : List String :=
  match e with
  | .io cause => [e.message, cause.message]
  | e => [e.message]

inductive Error where
  | frame (error : FrameError)
  | packet (error : PacketError)
  | tx (error : TxError)
  | link (error : LinkError)
  | registry (error : RegistryError)
  | timer (error : TimerError)
  | config (error : ConfigError)
  deriving DecidableEq, Repr

def Error.message : Error → String
  | .frame e => e.message
  | .packet e => e.message
  | .tx e => e.message
  | .link e => e.message
  | .registry e => e.message
  | .timer e => e.message
  | .config e => e.message

end BoardLink

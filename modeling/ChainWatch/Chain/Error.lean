/-!
# Configuration errors

The errors of chain arithmetic and of configuration values: a timestamp before genesis, a zero
where a positive value is needed, an overflow of 64-bit arithmetic, and a malformed address.
`ConfigError.message` writes their texts.
-/

namespace ChainWatch

/-- An error in the configuration of the chain or of its clients. -/
inductive ConfigError where
  /-- A timestamp lies before the genesis time. -/
  | clockSkew (timestamp genesisTime : Nat)
  /-- A value that must be positive is zero. -/
  | zeroValue (field : String)
  /-- A result does not fit 64 bits. -/
  | overflow (operation : String)
  /-- A text is not an address. -/
  | malformedAddress (input reason : String)
  deriving DecidableEq

namespace ConfigError

/-- The text of the error. -/
def message : ConfigError → String
  | clockSkew t g => "Timestamp " ++ Nat.repr t ++ " is before the network genesis time " ++
      Nat.repr g ++ ", the system clock or the network configuration is wrong"
  | zeroValue field => "Invalid Beacon configuration, " ++ field ++ " must be greater than zero"
  | overflow operation => "Arithmetic overflow while computing " ++ operation
  | malformedAddress input reason => "Malformed address \"" ++ input ++ "\": " ++ reason

/-- The name of the kind of error. -/
def kindName : ConfigError → String
  | clockSkew .. => "ClockSkew"
  | zeroValue .. => "ZeroValue"
  | overflow .. => "Overflow"
  | malformedAddress .. => "MalformedAddress"

end ConfigError

end ChainWatch

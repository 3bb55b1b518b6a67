import IdentityServer.Decimal.Binary64
import IdentityServer.Fields
import IdentityServer.Toml.Moment

/-!
# TOML values

The values that TOML documents hold.
-/

namespace IdentityServer.Toml

/-- TOML values. -/
inductive Value where
  | text (value : String)
  | int (value : Int64)
  | float (value : Binary64)
  | bool (value : Bool)
  | moment (value : Moment)
  | array (items : List Value)
  | table (entries : List (String × Value))
  deriving Inhabited

end IdentityServer.Toml

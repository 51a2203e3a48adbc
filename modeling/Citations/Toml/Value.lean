import Citations.Number.Binary64
import Citations.Toml.Moment

/-!
# TOML values

A value of the TOML configuration language.
-/
namespace Citations

/-- A TOML value. -/
inductive Toml where
  /-- A text. -/
  | text (value : Text)
  /-- An integer. -/
  | integer (value : Int)
  /-- A number of double precision. -/
  | float (value : Binary64)
  /-- A truth value. -/
  | bool (value : Bool)
  /-- A date, a time, or both. -/
  | moment (value : Toml.Moment)
  /-- Values in order. -/
  | array (items : List Toml)
  /-- Named values. -/
  | table (members : List (Text × Toml))

end Citations

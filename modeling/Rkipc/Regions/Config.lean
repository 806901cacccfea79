import Rkipc.Libc.Rounds
import Rkipc.Libc.Align
import Rkipc.Osd.Overlay
import Rkipc.Param.Copies

namespace Rkipc.Regions

open Ini Libc Osd.Overlay Param.Copies

/-! The parameters that regions are made of. -/

/-- What `rk_param_get_int` and `rk_param_get_string` return. -/
structure Config where
  getInt : Text → Int → Int
  getString : Text → Text → Text

def Config.IsInt (config : Config) : Prop :=
  ∀ key, intMin ≤ config.getInt key (-1) ∧ config.getInt key (-1) ≤ intMax

/-- `(int)(value * ((double)frame / (double)normalized))` -/
abbrev Scale := Int → Int → Int → Int

/-- The scaling where the quotients are exact. -/
def exactly : Scale := fun value frame normalized => (value * frame).tdiv normalized

/-- Numbers of regions that are all alike, in frames that are all alike. -/
def alike (ofRegion ofFrame : Int) : Config where
  getInt key _ := if key.head? = some 'r' then ofRegion else ofFrame
  getString _ default := default

def positionKey : Axis → String
  | .x => ":position_x"
  | .y => ":position_y"

def sizeKey : Axis → String
  | .x => ":width"
  | .y => ":height"

def normalizedKey : Axis → String
  | .x => "osd.common:normalized_screen_width"
  | .y => "osd.common:normalized_screen_height"

def otherAxis : Axis → Axis
  | .x => .y
  | .y => .x

theorem isInt_alike {ofRegion ofFrame : Int} (region : intMin ≤ ofRegion ∧ ofRegion ≤ intMax)
    (frame : intMin ≤ ofFrame ∧ ofFrame ≤ intMax) : (alike ofRegion ofFrame).IsInt := by
  intro key
  unfold alike
  dsimp only
  split
  · exact region
  · exact frame

end Rkipc.Regions

import Flowline.Json.Basic
import Flowline.Text.Position

/-!
# Places for an editor

Positions and ranges as JSON, with numbers that an editor can receive.
-/

namespace Flowline

def Position.toJson (p : Position) : Json :=
  .obj [("line", .nat p.clamp.line), ("character", .nat p.clamp.character)]

def Range.toJson (r : Range) : Json :=
  .obj [("start", r.start.toJson), ("end", r.stop.toJson)]

end Flowline

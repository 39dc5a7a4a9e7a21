import TileDepot.Decimal.Layout

/-!
# The tile grid

At zoom level `z` the world is a square of `2^z` by `2^z` tiles in the Web Mercator projection.
Columns grow eastward and rows southward, both from zero. This module has the tiles themselves,
boxes in degrees, and the tile that a point lies in.

Places outside the grid land on its edge, so that every point has a tile (`clampIndex_mem`).
-/

namespace TileDepot.Grid

/-- The deepest zoom level that a request may name. -/
def maxZoom : UInt32 := 22

/-- A tile by zoom level, column and row. -/
structure TileId where
  zoom : UInt32
  x : Int64
  y : Int64
  deriving Repr, DecidableEq, Inhabited

/-- A tile as `z/x/y`. -/
def TileId.text (t : TileId) : String :=
  s!"{t.zoom}/{t.x}/{t.y}"

/-! ## Boxes -/

/-- A box in degrees. Nothing is said about the order of its edges. -/
structure Bounds where
  minLng : Float
  minLat : Float
  maxLng : Float
  maxLat : Float
  deriving Inhabited

namespace Bounds

/-- A box from west, south, east and north, of which there must be exactly four. -/
def ofList? : List Float → Option Bounds
  | [west, south, east, north] => some ⟨west, south, east, north⟩
  | _ => none

def toList (b : Bounds) : List Float :=
  [b.minLng, b.minLat, b.maxLng, b.maxLat]

end Bounds

/-- The smaller of two numbers; something that is not a number gives way to the other. -/
def smaller (a b : Float) : Float :=
  if a.isNaN then b else if b < a then b else a

/-- The larger of two numbers; something that is not a number gives way to the other. -/
def larger (a b : Float) : Float :=
  if a.isNaN then b else if a < b then b else a

namespace Bounds

/-- The box with its edges in order. -/
def normalized (b : Bounds) : Bounds :=
  ⟨smaller b.minLng b.maxLng, smaller b.minLat b.maxLat, larger b.minLng b.maxLng,
    larger b.minLat b.maxLat⟩

/-- A box as `[west, south, east, north]`. -/
def text (b : Bounds) : String :=
  "[" ++ ", ".intercalate (b.toList.map Decimal.plain) ++ "]"

end Bounds

/-! ## From degrees to tiles -/

/-- The northern edge of the projection in degrees. -/
def maxLatitude : Float := 85.05112878

/-- The southern edge of the projection in degrees. -/
def minLatitude : Float := -85.05112878

def pi : Float := 3.141592653589793

/-- A latitude on the projection. What is not a number stays so. -/
def clampLatitude (lat : Float) : Float :=
  if lat < minLatitude then minLatitude else if maxLatitude < lat then maxLatitude else lat

/-- Columns of the grid, as a floating-point number. Beyond level 1023 it is infinite. -/
def width (zoom : UInt32) : Float :=
  Float.scaleB 1.0 zoom.toNat

/-- The last column or row of the grid. Where the grid is wider than 63 bits the index stops one
below the largest word, so that a walk can step past it. -/
def lastIndex (zoom : UInt32) : Int64 :=
  if zoom.toNat < 63 then Int64.ofNat (1 <<< zoom.toNat - 1) else Int64.maxValue - 1

/-- The index nearest to `i` from zero to `last`. -/
def clampIndex (last i : Int64) : Int64 :=
  if i < 0 then 0 else if last < i then last else i

/-- The column of a longitude. -/
def column (zoom : UInt32) (lng : Float) : Int64 :=
  clampIndex (lastIndex zoom) ((lng + 180.0) / 360.0 * width zoom).floor.toInt64

/-- The row of a latitude. -/
def row (zoom : UInt32) (lat : Float) : Int64 :=
  let radians := clampLatitude lat * pi / 180.0
  let height := (1.0 - (radians.tan + 1.0 / radians.cos).log / pi) / 2.0 * width zoom
  clampIndex (lastIndex zoom) height.floor.toInt64

/-- The tile that a point lies in. -/
def tileAt (zoom : UInt32) (lng lat : Float) : TileId :=
  ⟨zoom, column zoom lng, row zoom lat⟩

/-- There is a grid for this level. -/
def hasGrid (zoom : UInt32) : Bool :=
  zoom.toNat < 0x80000000

/-- The tile that a point lies in, where there is a grid. -/
def tileAt? (zoom : UInt32) (lng lat : Float) : Option TileId :=
  if hasGrid zoom then some (tileAt zoom lng lat) else none

/-- An index is clamped onto the grid. -/
theorem clampIndex_mem {last i : Int64} (h : 0 ≤ last) :
    0 ≤ clampIndex last i ∧ clampIndex last i ≤ last := by
  unfold clampIndex
  split
  · exact ⟨Int64.le_refl 0, h⟩
  · split
    · exact ⟨h, Int64.le_refl last⟩
    · exact ⟨Int64.not_lt.mp (by assumption), Int64.not_lt.mp (by assumption)⟩

/-- The zoom levels from the smaller to the larger of two. -/
def zoomLevels (a b : UInt32) : List UInt32 :=
  let low := min a.toNat b.toNat
  let high := max a.toNat b.toNat
  (List.range' low (high + 1 - low)).map UInt32.ofNat

end TileDepot.Grid

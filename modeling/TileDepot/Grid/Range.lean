import TileDepot.Grid.Basic

/-!
# Ranges of tiles

A range is a rectangle of tiles at one zoom level, with both ends included. `Range.toList` lists its
tiles column by column, and `Cursor` walks them one at a time without ever holding the list. Counts
saturate at the largest word.
-/

namespace TileDepot.Grid

/-- The nearest number of 64 bits. -/
def saturate (n : Nat) : UInt64 :=
  UInt64.ofNat (min n (UInt64.size - 1))

/-- How many indices lie from `lo` to `hi`. -/
def extent (lo hi : Int64) : Nat :=
  (hi.toInt - lo.toInt + 1).toNat

/-- A rectangle of tiles. It is empty when an end lies below its start. -/
structure Range where
  zoom : UInt32
  xMin : Int64
  xMax : Int64
  yMin : Int64
  yMax : Int64
  deriving Repr, DecidableEq, Inhabited

namespace Range

/-- The number of tiles, at most the largest word. -/
def count (r : Range) : UInt64 :=
  saturate ((saturate (extent r.xMin r.xMax)).toNat * (saturate (extent r.yMin r.yMax)).toNat)

def isEmpty (r : Range) : Bool :=
  r.count == 0

/-- The tiles, columns eastward and each from north to south. -/
def toList (r : Range) : List TileId :=
  (List.range (extent r.xMin r.xMax)).flatMap fun (i : Nat) =>
    (List.range (extent r.yMin r.yMax)).map fun (j : Nat) =>
      ⟨r.zoom, Int64.ofInt (r.xMin.toInt + i), Int64.ofInt (r.yMin.toInt + j)⟩

/-- The range that covers a box: from the tile of its north-west corner to that of its south-east
corner. A box with its edges out of order has an empty range. -/
def covering (b : Bounds) (zoom : UInt32) : Range :=
  ⟨zoom, column zoom b.minLng, column zoom b.maxLng, row zoom b.maxLat, row zoom b.minLat⟩

/-- The range that covers a box, where there is a grid. -/
def covering? (b : Bounds) (zoom : UInt32) : Option Range :=
  if hasGrid zoom then some (covering b zoom) else none

end Range

/-! ## Walking a range -/

/-- A place in the walk over a range: the tile to visit next. -/
structure Cursor where
  range : Range
  x : Int64
  y : Int64
  deriving Repr, DecidableEq

namespace Cursor

/-- The start of the walk. -/
def start (r : Range) : Cursor :=
  ⟨r, r.xMin, r.yMin⟩

/-- Nothing is left to visit. -/
def finished (c : Cursor) : Bool :=
  c.range.yMax < c.range.yMin || c.range.xMax < c.x

/-- The next tile with the place after it. -/
def next? (c : Cursor) : Option (TileId × Cursor) :=
  if c.finished then none
  else
    let y := c.y + 1
    let after : Cursor :=
      if c.range.yMax < y then { c with x := c.x + 1, y := c.range.yMin } else { c with y }
    some (⟨c.range.zoom, c.x, c.y⟩, after)

/-- How many tiles are left, at most the largest word. -/
def remaining (c : Cursor) : UInt64 :=
  if c.finished then 0
  else
    let rows := (saturate (extent c.range.yMin c.range.yMax)).toNat
    let columns := (c.range.xMax.toInt - c.x.toInt).natAbs
    saturate ((saturate (columns * rows)).toNat + (saturate (extent c.y c.range.yMax)).toNat)

/-- Bounds on how many tiles are left, a lower one and perhaps an upper one. -/
def sizeHint (c : Cursor) : UInt64 × Option UInt64 :=
  (c.remaining, some c.remaining)

end Cursor

/-! ## Walking several ranges -/

/-- A place in the walk over several ranges, one after the other. -/
structure Walk where
  current : Option Cursor
  rest : List Range

namespace Walk

def start (rs : List Range) : Walk :=
  ⟨none, rs⟩

/-- The first tile of the ranges that have one, with the place after it. -/
def enter : List Range → Option (TileId × Walk)
  | [] => none
  | r :: rs =>
    match (Cursor.start r).next? with
    | some (t, c) => some (t, ⟨some c, rs⟩)
    | none => enter rs

/-- The next tile with the place after it. -/
def next? (w : Walk) : Option (TileId × Walk) :=
  match w.current with
  | some c =>
    match c.next? with
    | some (t, c) => some (t, ⟨some c, w.rest⟩)
    | none => enter w.rest
  | none => enter w.rest

/-- The first `n` tiles of the walk. -/
def take (w : Walk) : Nat → List TileId
  | 0 => []
  | n + 1 =>
    match w.next? with
    | some (t, w) => t :: w.take n
    | none => []

end Walk

/-- How many tiles several ranges have. -/
def tileCount (rs : List Range) : Nat :=
  rs.foldr (fun r n => extent r.xMin r.xMax * extent r.yMin r.yMax + n) 0

/-- The sum of two words, if a word holds it. -/
def addWords? (a b : UInt64) : Option UInt64 :=
  if a.toNat + b.toNat < UInt64.size then some (a + b) else none

/-- The number of tiles of several ranges. The counts of the ranges are added up, and there is no
number if the sum comes to the end of its word: who asks for it stops there. -/
def totalCount? (rs : List Range) : Option UInt64 :=
  rs.foldlM (fun n r => addWords? n r.count) 0

/-- The number of tiles that cover a box at several levels. There is none, either, if one of them
has no grid. -/
def totalTiles? (b : Bounds) (zooms : List UInt32) : Option UInt64 :=
  if zooms.all hasGrid then totalCount? (zooms.map (Range.covering b)) else none

end TileDepot.Grid

import Verdict.Operator.Basic
import Verdict.Json.Record

/-!
# Places on the Earth

`Place.inRing` is the parity of the edges of a ring that the ray from a point toward greater
longitudes crosses.  It is written for any kind of number, since its laws do not depend on how
numbers are rounded.
-/

namespace Verdict

structure Place (α : Type) where
  lat : α
  lon : α
deriving DecidableEq

namespace Place

section Ring

variable {α : Type} [LT α] [DecidableLT α] [Add α] [Sub α] [Mul α] [Div α]

/-- Whether the latitude of a point separates the ends of an edge. -/
def straddles (point a b : Place α) : Bool :=
  decide (point.lat < a.lat) != decide (point.lat < b.lat)

/-- The longitude at which an edge meets the latitude of a point. -/
def meetingLon (point a b : Place α) : α :=
  (b.lon - a.lon) * (point.lat - a.lat) / (b.lat - a.lat) + a.lon

/-- Whether the ray from a point toward greater longitudes crosses an edge. -/
def crosses (point a b : Place α) : Bool :=
  if straddles point a b then decide (point.lon < meetingLon point a b) else false

/-- The edges of a ring: each vertex with the one before it, the first one with the last. -/
def edges (vertices : List (Place α)) : List (Place α × Place α) :=
  match vertices.getLast? with
  | none => []
  | some last => vertices.zip (last :: vertices)

/-- Whether a point lies inside a ring of at least three vertices. -/
def inRing (point : Place α) (vertices : List (Place α)) : Bool :=
  if vertices.length < 3 then false
  else
    (edges vertices).foldl
      (fun inside edge => if crosses point edge.1 edge.2 then !inside else inside) false

end Ring

/-! ## Coordinates in degrees -/

/-- A point on the Earth, if both angles are within their range. -/
def ofDegrees? (lat lon : Float) : Option (Place Float) :=
  if lat.isFinite && lon.isFinite && -90 ≤ lat && lat ≤ 90 && -180 ≤ lon && lon ≤ 180 then
    some ⟨lat, lon⟩
  else none

/-- The number under the first of the names that is a field at all. -/
def firstNumber? (fields : Fields Json) (names : List String) : Option Float :=
  (names.findSome? fields.get?).bind Json.float?

def ofJson? : Json → Option (Place Float)
  | .array [lat, lon] => lat.float?.bind fun lat => lon.float?.bind fun lon => ofDegrees? lat lon
  | .object fields =>
    (firstNumber? fields ["lat", "latitude"]).bind fun lat =>
      (firstNumber? fields ["lon", "lng", "long", "longitude"]).bind fun lon => ofDegrees? lat lon
  | _ => none

/-- Reads a place that was written as a record.  The angles are not checked. -/
def ofRecord? (document : Json) : Option (Place Float) := do
  let layout : Layout := [("lat", .required), ("lon", .required)]
  match ← layout.read document with
  | [some lat, some lon] => return ⟨← lat.float?, ← lon.float?⟩
  | _ => none

def toJson (place : Place Float) : Json :=
  .object [("lat", .ofFloat place.lat), ("lon", .ofFloat place.lon)]

/-- The mean radius of the Earth in kilometres. -/
def earthRadius : Float := 6371

def radians (degrees : Float) : Float :=
  degrees * (3.141592653589793 / 180)

/-- The distance along a great circle in kilometres. -/
def distance (a b : Place Float) : Float :=
  let lat := (radians (b.lat - a.lat) / 2).sin
  let lon := (radians (b.lon - a.lon) / 2).sin
  let root := (lat * lat + (radians a.lat).cos * (radians b.lat).cos * (lon * lon)).sqrt
  2 * earthRadius * (if root < 1 then root else 1).asin

end Place

namespace Operator

def withinRadius : Test := fun actual expected _ =>
  match (defined actual).bind Place.ofJson?, expected with
  | some point, .object fields =>
    match (Fields.get? fields "center").bind Place.ofJson?,
      ((Fields.get? fields "radius_km").or (Fields.get? fields "radius")).bind Json.float? with
    | some center, some radius =>
      radius.isFinite && 0 ≤ radius && Place.distance point center ≤ radius
    | _, _ => false
  | _, _ => false

def inPolygon : Test := fun actual expected _ =>
  match (defined actual).bind Place.ofJson?, expected.array?.bind (·.mapM Place.ofJson?) with
  | some point, some vertices => Place.inRing point vertices
  | _, _ => false

def geographics : List (String × Test) :=
  [("within_radius", withinRadius), ("in_polygon", inPolygon)]

end Operator
end Verdict

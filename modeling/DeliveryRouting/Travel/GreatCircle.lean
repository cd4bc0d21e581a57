import DeliveryRouting.Travel.Table

/-! # Travel: great circles

Where nothing better is known, the travel duration between two points is the length of the great
circle through them at a constant speed, by the haversine formula on a sphere of the earth's mean
radius, cut to whole seconds. -/

namespace DeliveryRouting

/-- A point by its longitude `x` and its latitude `y`, in degrees. -/
structure Point where
  x : Float
  y : Float
  deriving Inhabited

namespace GreatCircle

/-- The mean radius of the earth in metres. -/
def earthRadius : Float := 6371008.8

/-- An angle of degrees in radians. -/
def radians (degrees : Float) : Float := degrees * (3.141592653589793 / 180.0)

/-- The square of the sine of half an angle of degrees. -/
def haversine (degrees : Float) : Float :=
  let s := (radians degrees / 2.0).sin
  s * s

/-- The distance of two points in metres. -/
def distance (p q : Point) : Float :=
  let a := haversine (q.y - p.y) +
    (radians p.y).cos * (radians q.y).cos * haversine (q.x - p.x)
  earthRadius * (2.0 * a.sqrt.asin)

/-- A number of seconds cut to a whole one within 64 bits; zero if it is no number. -/
def wholeSeconds (seconds : Float) : Int := seconds.toModel.toInt64.toInt

/-- The travel duration between two points at a speed in metres per second. -/
def duration (speed : Float) (p q : Point) : Int := wholeSeconds (distance p q / speed)

/-- Kilometres per hour in metres per second. -/
def metresPerSecond (kmh : Float) : Float := kmh * 1000.0 / 3600.0

/-- The travel durations between points at a speed in kilometres per hour. From a point to itself
it takes no time. -/
def table (points : List Point) (kmh : Float) : TravelTable where
  durations := points.zipIdx.flatMap fun (p, i) => points.zipIdx.map fun (q, j) =>
    if i = j then 0 else duration (metresPerSecond kmh) p q
  locations := points.length

end GreatCircle

end DeliveryRouting

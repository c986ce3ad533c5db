import GeoRaster.Bounds

namespace GeoRaster

inductive AxisOrder where
  | eastingFirst
  | northingFirst
  deriving DecidableEq, Inhabited

inductive Crs.Code where
  | wgs84
  | nad83
  | webMercator
  | arctic
  | antarctic
  deriving DecidableEq, Inhabited

/-- A system with the order in which its coordinates are given. -/
structure Crs where
  code : Crs.Code
  order : AxisOrder
  deriving DecidableEq, Inhabited

namespace Crs

namespace Code

def all : List Code := [.wgs84, .nad83, .webMercator, .arctic, .antarctic]

def epsg : Code → Nat
  | .wgs84 => 4326
  | .nad83 => 4269
  | .webMercator => 3857
  | .arctic => 3413
  | .antarctic => 3031

/-- Numbers by which web Mercator was known before it had its own. -/
def aliases : List (Nat × Code) := [(900913, .webMercator), (3785, .webMercator)]

def ofEpsg? (n : Nat) : Option Code :=
  (all.find? (·.epsg == n)).or (aliases.lookup n)

theorem ofEpsg?_epsg (c : Code) : ofEpsg? c.epsg = some c := by
  cases c <;> rfl

def isGeographic : Code → Bool
  | .wgs84 | .nad83 => true
  | _ => false

def isCylindrical : Code → Bool
  | .wgs84 | .nad83 | .webMercator => true
  | _ => false

/-- The order the registry lays down: latitude comes first. -/
def registryOrder (c : Code) : AxisOrder :=
  if c.isGeographic then .northingFirst else .eastingFirst

def text (c : Code) : String :=
  "EPSG:" ++ toString c.epsg

end Code

def ofCode (c : Code) : Crs := ⟨c, .eastingFirst⟩

def inRegistryOrder (c : Code) : Crs := ⟨c, c.registryOrder⟩

def isGeographic (c : Crs) : Bool :=
  c.code.isGeographic

def eastingFirst (c : Crs) : Crs :=
  ofCode c.code

def eastingIndex (c : Crs) : Nat :=
  match c.order with
  | .eastingFirst => 0
  | .northingFirst => 1

variable {α : Type} [Scalar α]

def Code.extent : Code → Bounds α
  | .wgs84 | .nad83 => ⟨-180.0, -90.0, 180.0, 90.0⟩
  | .webMercator =>
    ⟨-20037508.342789244, -20037508.342789244, 20037508.342789244, 20037508.342789244⟩
  | .arctic | .antarctic => ⟨-4000000.0, -4000000.0, 4000000.0, 4000000.0⟩

inductive Direction where
  | east
  | north
  deriving DecidableEq

structure Axis (α : Type) where
  name : String
  direction : Direction
  min : α
  max : α

def Axis.range (a : Axis α) : α :=
  a.max - a.min

def eastAxis (c : Code) : Axis α :=
  let e : Bounds α := c.extent
  ⟨if c.isGeographic then "Long" else "E", .east, e.minX, e.maxX⟩

def northAxis (c : Code) : Axis α :=
  let e : Bounds α := c.extent
  ⟨if c.isGeographic then "Lat" else "N", .north, e.minY, e.maxY⟩

def axes (c : Crs) : List (Axis α) :=
  match c.order with
  | .eastingFirst => [eastAxis c.code, northAxis c.code]
  | .northingFirst => [northAxis c.code, eastAxis c.code]

end Crs

end GeoRaster

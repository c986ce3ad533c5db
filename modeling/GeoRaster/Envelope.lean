import GeoRaster.Bounds
import GeoRaster.Crs

namespace GeoRaster

structure Interval (α : Type) where
  min : α
  max : α
  deriving DecidableEq, Inhabited

/-- A box in a reference system; without one its receiver supplies the system. -/
structure Envelope (α : Type) where
  axes : List (Interval α)
  crs : Option Crs
  deriving DecidableEq, Inhabited

variable {α : Type} [Scalar α]

namespace Interval

@[inline] def span (a : Interval α) : α :=
  a.max - a.min

def overlaps (a b : Interval α) : Bool :=
  a.min < b.max && b.min < a.max

def meet (a b : Interval α) : Interval α :=
  ⟨Scalar.max a.min b.min, Scalar.min a.max b.max⟩

def holds (a b : Interval α) : Bool :=
  a.min ≤ b.min && b.max ≤ a.max

def isNear (tolerance : α) (a b : Interval α) : Bool :=
  let least : α := 2.2250738585072014e-308
  let t := tolerance * Scalar.max (Scalar.max (Scalar.abs a.span) (Scalar.abs b.span)) least
  Scalar.abs (a.min - b.min) ≤ t && Scalar.abs (a.max - b.max) ≤ t

end Interval

namespace Envelope

def ofCorners (lower upper : α × α) (crs : Option Crs) : Envelope α :=
  ⟨[⟨lower.1, upper.1⟩, ⟨lower.2, upper.2⟩], crs⟩

def ofBounds (b : Bounds α) (crs : Option Crs) : Envelope α :=
  match crs.map Crs.order with
  | some .northingFirst => ofCorners (b.minY, b.minX) (b.maxY, b.maxX) crs
  | _ => ofCorners (b.minX, b.minY) (b.maxX, b.maxY) crs

def dimension (e : Envelope α) : Nat :=
  e.axes.length

/-- An axis by its place; the bounds of one that is not there are undefined. -/
def axis (e : Envelope α) (i : Nat) : Interval α :=
  (e.axes[i]?).getD ⟨Scalar.nan, Scalar.nan⟩

def eastingIndex (e : Envelope α) : Nat :=
  (e.crs.map Crs.eastingIndex).getD 0

def easting (e : Envelope α) : Interval α :=
  e.axis e.eastingIndex

def northing (e : Envelope α) : Interval α :=
  e.axis (1 - e.eastingIndex)

def bounds (e : Envelope α) : Bounds α :=
  ⟨e.easting.min, e.northing.min, e.easting.max, e.northing.max⟩

def eastingFirst (e : Envelope α) : Envelope α :=
  ofCorners (e.easting.min, e.northing.min) (e.easting.max, e.northing.max)
    (e.crs.map Crs.eastingFirst)

def isValid (e : Envelope α) : Bool :=
  e.axes.all fun a => a.min ≤ a.max

/-- Do the boxes share more than a border? Axes are compared place by place. -/
def overlaps (a b : Envelope α) : Bool :=
  (a.axes.zip b.axes).all fun (s, t) => s.overlaps t

/-- The box that two boxes share, in the system of the first. -/
def meet? (a b : Envelope α) : Option (Envelope α) :=
  if a.dimension = b.dimension ∧ a.overlaps b then
    some ⟨(a.axes.zip b.axes).map fun (s, t) => s.meet t, a.crs⟩
  else none

def holds (a b : Envelope α) : Bool :=
  (a.axes.zip b.axes).all fun (s, t) => s.holds t

def holdsPoint (e : Envelope α) (p : Point α) : Bool :=
  e.bounds.holds p

/-- Equality of all bounds up to a part of the span of their axis. -/
def isNear (tolerance : α) (a b : Envelope α) : Bool :=
  decide (a.dimension = b.dimension) &&
    (a.axes.zip b.axes).all fun (s, t) => s.isNear tolerance t

end Envelope

end GeoRaster

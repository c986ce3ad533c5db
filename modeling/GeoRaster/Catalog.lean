import GeoRaster.Exception
import GeoRaster.Reader.RawFile

namespace GeoRaster

inductive EntryFault (α : Type) where
  | crs (name : String)
  | noCells (width height : Nat)
  | noBands
  | envelope (bounds : Bounds α)
  | grid (f : GridFault)
  | stated (message : String)
  deriving DecidableEq

def EntryFault.message {α : Type} [ShortestText α] : EntryFault α → String
  | .crs name => Crs.unsupportedMessage name
  | .noCells width height =>
    "grid size " ++ toString width ++ "x" ++ toString height ++ " is empty"
  | .noBands => "no bands declared"
  | .envelope b =>
    "envelope " ++ Decimal.listText [b.minX, b.minY, b.maxX, b.maxY] ++ " is empty or inverted"
  | .grid f => f.message
  | .stated message => message

inductive CatalogFault (α : Type) where
  /-- The text is no catalog. -/
  | unreadable
  | invalid (id : String) (f : EntryFault α)
  | duplicate (id : String)
  deriving DecidableEq

def CatalogFault.message {α : Type} [ShortestText α] : CatalogFault α → String
  | .unreadable => "unreadable catalog"
  | .invalid id f => "invalid coverage '" ++ id ++ "': " ++ f.message
  | .duplicate id => "duplicate coverage identifier: " ++ id

def Exception.ofCatalogFault {α : Type} [ShortestText α] (f : CatalogFault α) : Exception α :=
  .processing (.stated f.message)

structure CatalogEntry (α : Type) where
  descriptor : CoverageDescriptor α
  dataPath : Option String

def CatalogEntry.id {α : Type} (e : CatalogEntry α) : String :=
  e.descriptor.id

/-- Coverages in the order they were inserted, no two of them under one identifier. -/
structure Catalog (α : Type) where
  entries : List (CatalogEntry α)
  distinct : (entries.map CatalogEntry.id).Nodup

namespace Catalog

variable {α : Type}

def empty : Catalog α :=
  ⟨[], List.nodup_nil⟩

def size (c : Catalog α) : Nat :=
  c.entries.length

def isEmpty (c : Catalog α) : Bool :=
  c.entries.isEmpty

def find? (c : Catalog α) (id : String) : Option (CatalogEntry α) :=
  c.entries.find? (·.id == id)

def descriptor? (c : Catalog α) (id : String) : Option (CoverageDescriptor α) :=
  (c.find? id).map CatalogEntry.descriptor

def dataPath? (c : Catalog α) (id : String) : Option String :=
  c.find? id >>= CatalogEntry.dataPath

def ids (c : Catalog α) : List String :=
  (c.entries.map CatalogEntry.id).mergeSort fun a b => decide (a ≤ b)

def insertEntry (c : Catalog α) (e : CatalogEntry α) : Except (CatalogFault α) (Catalog α) :=
  if h : e.id ∈ c.entries.map CatalogEntry.id then .error (.duplicate e.id)
  else
    .ok ⟨c.entries ++ [e], by
      rw [List.map_append, List.nodup_append]
      refine ⟨c.distinct, by simp, fun a ha b hb hab => h ?_⟩
      obtain rfl : b = e.id := by simpa using hb
      exact hab ▸ ha⟩

def insert (c : Catalog α) (d : CoverageDescriptor α) : Except (CatalogFault α) (Catalog α) :=
  c.insertEntry ⟨d, none⟩

def ofDescriptors (ds : List (CoverageDescriptor α)) : Except (CatalogFault α) (Catalog α) :=
  ds.foldlM insert empty

def rawFileReader {σ : Type} [Narrowing α σ] (c : Catalog α) : RawFileReader α σ :=
  ⟨c.entries.filterMap fun e =>
    e.dataPath.map fun path => (e.id, RawFileEntry.ofDescriptor e.descriptor path)⟩

end Catalog

end GeoRaster

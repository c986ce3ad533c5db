namespace GeoRaster.Yaml

inductive Style where
  | plain
  | quoted
  | literal
  | folded
  deriving DecidableEq

/-- A part of a document. A reference stands for the node that has its label. -/
inductive Node where
  | scalar (text : String) (style : Style) (tag : Option String)
  | sequence (items : List Node)
  | mapping (entries : List (Node × Node))
  | reference (label : Nat)
  deriving Inhabited

namespace Node

def empty : Node :=
  .scalar "" .plain none

mutual

/-- How much is written: one for each scalar and reference, two for the ends of each collection. -/
def size : Node → Nat
  | .scalar _ _ _ => 1
  | .reference _ => 1
  | .sequence items => 2 + sizeOfItems items
  | .mapping entries => 2 + sizeOfEntries entries

def sizeOfItems : List Node → Nat
  | [] => 0
  | v :: vs => v.size + sizeOfItems vs

def sizeOfEntries : List (Node × Node) → Nat
  | [] => 0
  | (k, v) :: rest => k.size + v.size + sizeOfEntries rest

end

end Node

structure Document where
  root : Node
  labelled : Array (Nat × Node)

/-- The node that references with a label stand for, the last one that was given it. -/
def Document.target? (d : Document) (label : Nat) : Option Node :=
  (d.labelled.findRev? (·.1 == label)).map Prod.snd

end GeoRaster.Yaml

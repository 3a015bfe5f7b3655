import OpGraph.ElementType

namespace OpGraph

/-- The type of one node output: what its elements are and how they are laid out. -/
structure TensorType where
  element : ElementType
  shape : List Nat
deriving DecidableEq, Ord

namespace TensorType

def shapeText (type : TensorType) : String :=
  "[" ++ ", ".intercalate (type.shape.map Nat.repr) ++ "]"

/-- The element type followed by the bracketed extents, as in `F32[2, 3]`. -/
def text (type : TensorType) : String :=
  type.element.name ++ type.shapeText

/-- The type with its parts named, as in `TensorType { dtype: F32, shape: [2, 3] }`. -/
def partsText (type : TensorType) : String :=
  "TensorType \x7b dtype: " ++ type.element.name ++ ", shape: " ++ type.shapeText ++ " \x7d"

instance : ToString TensorType := ⟨text⟩

end TensorType

end OpGraph

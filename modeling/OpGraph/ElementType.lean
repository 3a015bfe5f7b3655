namespace OpGraph

/-- The type of one tensor element, in the order in which element types compare. -/
inductive ElementType where
  | bf16
  | f16
  | f32
  | f64
  | u8
  | i8
  | i16
  | i32
  | i64
  | bool
deriving DecidableEq, Ord

namespace ElementType

def name : ElementType → String
  | bf16 => "BF16"
  | f16 => "F16"
  | f32 => "F32"
  | f64 => "F64"
  | u8 => "U8"
  | i8 => "I8"
  | i16 => "I16"
  | i32 => "I32"
  | i64 => "I64"
  | bool => "Bool"

instance : ToString ElementType := ⟨name⟩

def all : List ElementType :=
  [bf16, f16, f32, f64, u8, i8, i16, i32, i64, bool]

end ElementType

end OpGraph

import OpGraph.ElementType
import OpGraph.Number.Decimal

namespace OpGraph

/-! Scalar constants.  Floating point constants are kept as bit patterns, so that equality and
order are those of the patterns and every value that is no number stays what it was. -/

inductive Constant where
  | bf16 (bits : UInt16)
  | f16 (bits : UInt16)
  | f32 (bits : UInt32)
  | f64 (bits : UInt64)
  | u8 (value : UInt8)
  | i8 (value : Int8)
  | i16 (value : Int16)
  | i32 (value : Int32)
  | i64 (value : Int64)
  | bool (value : Bool)
deriving DecidableEq, Ord

namespace Constant

def element : Constant → ElementType
  | bf16 _ => .bf16
  | f16 _ => .f16
  | f32 _ => .f32
  | f64 _ => .f64
  | u8 _ => .u8
  | i8 _ => .i8
  | i16 _ => .i16
  | i32 _ => .i32
  | i64 _ => .i64
  | bool _ => .bool

/-- The zero of an element type; of the two floating point zeros the positive one. -/
def zero : ElementType → Constant
  | .bf16 => bf16 0
  | .f16 => f16 0
  | .f32 => f32 0
  | .f64 => f64 0
  | .u8 => u8 0
  | .i8 => i8 0
  | .i16 => i16 0
  | .i32 => i32 0
  | .i64 => i64 0
  | .bool => bool false

@[simp] theorem element_zero (element : ElementType) : (zero element).element = element := by
  cases element <;> rfl

/-- All digits of a floating point constant are written, and an integer has no point. -/
def floatLayout : FloatLayout :=
  { integerEnd := "", positionalPowers := none }

/-- Integers in decimal, floating point numbers with the fewest digits that read back.  The two
16 bit formats are shown with the digits of the 32 bit number of the same value. -/
def text : Constant → String
  | bf16 bits => (FloatFormat.bfloat16.decode bits.toNat).text floatLayout .binary32
  | f16 bits => (FloatFormat.binary16.decode bits.toNat).text floatLayout .binary32
  | f32 bits => (FloatFormat.binary32.decode bits.toNat).text floatLayout .binary32
  | f64 bits => (FloatFormat.binary64.decode bits.toNat).text floatLayout .binary64
  | u8 value => value.toNat.repr
  | i8 value => value.toInt.repr
  | i16 value => value.toInt.repr
  | i32 value => value.toInt.repr
  | i64 value => value.toInt.repr
  | bool value => if value then "true" else "false"

instance : ToString Constant := ⟨text⟩

end Constant

end OpGraph

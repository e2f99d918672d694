import KernelSweep.Number.Binary64
import KernelSweep.Number.Integer
import KernelSweep.Text.Utf8

set_option autoImplicit false

namespace KernelSweep.Template

open KernelSweep.Text (Bytes)
open KernelSweep.Number (Binary64)

inductive Value where
  | absent
  | text (s : Bytes)
  | int (n : Int64)
  /-- One byte of a text. -/
  | byte (b : UInt8)
  | bool (b : Bool)
  | float (x : Binary64)
  | complex (re im : Binary64)
  /-- Named fields in order, with the name of their type. -/
  | record (type : String) (fields : List (String × Value))

namespace Value

def ofString (s : String) : Value := .text (Text.encode s)

def typeName : Value → String
  | .absent => "<nil>"
  | .text _ => "string"
  | .int _ => "int"
  | .byte _ => "uint8"
  | .bool _ => "bool"
  | .float _ => "float64"
  | .complex .. => "complex128"
  | .record type _ => type

def isText : Value → Bool
  | .text _ => true
  | _ => false

/-- What a condition makes of a value. -/
def isTrue : Value → Bool
  | .absent => false
  | .text s => !s.isEmpty
  | .int n => n != 0
  | .byte b => b != 0
  | .bool b => b
  | .float x => !x.isZero
  | .complex re im => !re.isZero || !im.isZero
  | .record .. => true

/-- The two zeros are equal. -/
def sameFloat (x y : Binary64) : Bool := x == y || (x.isZero && y.isZero)

mutual

/-- Equality of values of one type. -/
def same : Value → Value → Bool
  | .absent, .absent => true
  | .text s, .text t => s == t
  | .int m, .int n => m == n
  | .byte a, .byte b => a == b
  | .bool a, .bool b => a == b
  | .float x, .float y => sameFloat x y
  | .complex a b, .complex c d => sameFloat a c && sameFloat b d
  | .record t fs, .record u gs => t == u && sameFields fs gs
  | _, _ => false

def sameFields : List (String × Value) → List (String × Value) → Bool
  | [], [] => true
  | (m, v) :: fs, (n, w) :: gs => m == n && same v w && sameFields fs gs
  | _, _ => false

end

end Value

end KernelSweep.Template

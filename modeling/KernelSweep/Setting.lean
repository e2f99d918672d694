set_option autoImplicit false

namespace KernelSweep

/-- The values go to the toolchain as they are written, so they stay texts. -/
structure Setting where
  direction : String
  factor : String
  stride : String
  deriving DecidableEq, Repr

namespace Setting

def withDirection (s : Setting) (direction : String) : Setting := { s with direction }

def text (s : Setting) : String :=
  "direction=" ++ s.direction ++ " factor=" ++ s.factor ++ " stride=" ++ s.stride

/-- Every combination; the direction varies slowest and the stride fastest. -/
def grid (directions factors strides : List String) : List Setting :=
  directions.flatMap fun direction =>
    factors.flatMap fun factor =>
      strides.map fun stride => ⟨direction, factor, stride⟩

def gridSize (directions factors strides : List String) : Nat :=
  directions.length * factors.length * strides.length

theorem grid_length (directions factors strides : List String) :
    (grid directions factors strides).length = gridSize directions factors strides := by
  simp [grid, gridSize, List.length_flatMap, List.map_const', Nat.mul_assoc]

end Setting

end KernelSweep

/-! # Bounds of machine integers

* `Bounds.int32`, `Bounds.int64` — the sizes that signed integers of 32 and 64 bits stay below. -/

namespace ImportPolicy.Bounds

/-- Two to the power of 31. -/
def int32 : Int := 0x80000000

/-- Two to the power of 63. -/
def int64 : Int := 0x8000000000000000

end ImportPolicy.Bounds

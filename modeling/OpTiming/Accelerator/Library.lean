import OpTiming.Text.Blank

/-!
# Runtime libraries

Where the accelerator runtime is looked for.  **`candidates`** lists every place to try: first the
places given in the environment, with colons between them, then the usual ones.
-/

namespace OpTiming.Accelerator.Library

/-- The usual places, in the order in which they are tried. -/
def usualPlaces : List String :=
  [ "/usr/lib64/libOpenCL.so",
    "/usr/local/lib64/libOpenCL.so",
    "/usr/local/cuda/lib64/libOpenCL.so",
    "/opt/intel/opencl/libOpenCL.so",
    "/usr/lib/libOpenCL.so",
    "libOpenCL.so" ]

/-- The places given in a text, without empty ones. -/
def givenPlaces (text : String) : List String :=
  ((Text.split (· == ':') text.toList).filter fun place => !place.isEmpty).map String.ofList

/-- Every place to try, in order. -/
def candidates (given : Option String) : List String :=
  (match given with
   | none => []
   | some text => givenPlaces text) ++ usualPlaces

end OpTiming.Accelerator.Library

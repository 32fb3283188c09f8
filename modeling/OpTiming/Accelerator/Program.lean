import OpTiming.Accelerator.Workload

/-!
# Programs for the accelerator

The kernels of a workload as source text for the accelerator's compiler.  Kernels of one workload
only differ in the vector width, and compute programs only in the element type, so the text is built
from these: a **block** is a list of lines, **`kernel`** puts a body under a signature, and a program
is a preamble and its kernels with an empty line between any two blocks.
-/

namespace OpTiming.Accelerator.Program

/-! ## Parts of a text -/

/-- Lines as a text; every line is ended. -/
def unlines (lines : List String) : String := String.join (lines.map (· ++ "\n"))

/-- Blocks of lines with an empty line between any two. -/
def blocks : List (List String) → List String
  | [] => []
  | [block] => block
  | block :: rest => block ++ "" :: blocks rest

/-- Lines further inside. -/
def indented (lines : List String) : List String :=
  lines.map fun line => if line.isEmpty then line else "    " ++ line

/-- Lines between braces of their own. -/
def braced (lines : List String) : List String := "\x7b" :: (indented lines ++ ["\x7d"])

/-- A kernel: its signature and its body. -/
def kernel (name arguments : String) (body : List String) : List String :=
  ("__kernel void " ++ name ++ "(" ++ arguments ++ ")") :: braced body

/-- Several expressions with commas between them. -/
def commas (parts : List String) : String := ", ".intercalate parts

/-- Several expressions with plus signs between them. -/
def sum (parts : List String) : String := " + ".intercalate parts

/-- The type of vectors of a width; a vector of width one is a plain element. -/
def vectorType (element : String) (width : Nat) : String :=
  if width = 1 then element else element ++ toString width

/-- The name of a vector's lane. -/
def lane (n : Nat) : String := "s" ++ (String.singleton (Nat.digitChar n)).toUpper

/-- The sum of a vector's lanes. -/
def laneSum (vector : String) (width : Nat) : String :=
  if width = 1 then vector else sum ((List.range width).map fun n => vector ++ "." ++ lane n)

/-! ## Compute programs -/

/-- Four dependent multiply-adds, the calls of a built-in function or written out. -/
def multiplyAdds : ElementType → String
  | .int => "x = (y * x) + y; y = (x * y) + x; x = (y * x) + y; y = (x * y) + x;"
  | _ => "x = mad(y, x, y); y = mad(x, y, x); x = mad(y, x, y); y = mad(x, y, x);"

/-- The line that switches an extension on. -/
def enable (extension : String) : String := "#pragma OPENCL EXTENSION " ++ extension ++ " : enable"

/-- The lines that switch on what an element type needs. -/
def extensions : ElementType → List (List String)
  | .int | .float => []
  | .half => [[enable "cl_khr_fp16"]]
  | .double =>
    [[ "#if defined(cl_khr_fp64)", enable "cl_khr_fp64", "#elif defined(cl_amd_fp64)",
       enable "cl_amd_fp64", "#endif" ]]

/-- The type of a kernel's second argument; half precision is no argument type. -/
def argumentType : ElementType → String
  | .half => "float"
  | t => t.name

/-- The first value, from the second argument. -/
def startValue : ElementType → String
  | .half => "(half)_A"
  | _ => "_A"

/-- The first vector: consecutive values from the start value on. -/
def startVector (element : String) (width : Nat) : String :=
  if width = 1 then "a"
  else "(" ++ vectorType element width ++ ")(" ++
    commas ((List.range width).map fun n => if n = 0 then "a" else "(a + " ++ toString n ++ ")") ++ ")"

/-- The second vector: the place in the work-group, in every lane. -/
def placeVector (element : String) (width : Nat) : String :=
  let place := "(" ++ element ++ ")get_local_id(0)"
  if width = 1 then place else "(" ++ vectorType element width ++ ")(" ++ place ++ ")"

/-- The kernel of a width: whatever the width, every work-item does the same number of operations. -/
def computeKernel (t : ElementType) (width : Nat) : List String :=
  let vector := vectorType t.name width
  kernel (t.kernelStem ++ toString width)
    ("__global " ++ t.name ++ " *ptr, " ++ argumentType t ++ " _A") <| blocks
    [ [ t.name ++ " a = " ++ startValue t ++ ";",
        vector ++ " x = " ++ startVector t.name width ++ ";",
        vector ++ " y = " ++ placeVector t.name width ++ ";" ],
      List.replicate (16 / width) "MAD_64(x, y);   MAD_64(x, y);",
      [ "ptr[get_global_id(0)] = " ++ laneSum "y" width ++ ";" ] ]

/-- The compute program of an element type. -/
def computeProgram (t : ElementType) : List String :=
  blocks <|
    [ ["// Every kernel performs 2048 lane multiply-adds, 4096 operations, per work-item."] ] ++
    extensions t ++
    [ [ "#define MAD_4(x, y)   " ++ multiplyAdds t,
        "#define MAD_16(x, y)  MAD_4(x, y) MAD_4(x, y) MAD_4(x, y) MAD_4(x, y)",
        "#define MAD_64(x, y)  MAD_16(x, y) MAD_16(x, y) MAD_16(x, y) MAD_16(x, y)" ] ] ++
    (Workload.widths (.compute t)).map (computeKernel t)

/-! ## The global memory program -/

/-- Where a work-item starts to read, and how far apart its reads are. -/
def strides : List (String × List String) :=
  [ ("global", ["uint gid = get_global_id(0);", "uint stride = get_global_size(0);"]),
    ("local", ["uint stride = get_local_size(0);",
      "uint gid = get_group_id(0) * stride * FETCH_PER_WI + get_local_id(0);"]) ]

/-- The kernel of a width and a layout. -/
def globalKernel (width : Nat) (layout : String) (start : List String) : List String :=
  let vector := vectorType "float" width
  kernel ("global_bandwidth_v" ++ toString width ++ "_" ++ layout ++ "_offset")
    ("__global const " ++ vector ++ " *src, __global float *dst") <| blocks
    [ start ++ [vector ++ " sum = 0;"],
      ["for (int k = 0; k < FETCH_PER_WI; k++) \x7b"] ++
        indented ["sum += src[gid];", "gid += stride;"] ++ ["\x7d"],
      [ "dst[get_global_id(0)] = " ++ laneSum "sum" width ++ ";" ] ]

/-- The program that streams through global memory. -/
def globalProgram : List String :=
  blocks <|
    [ [ "// Every work-item reads FETCH_PER_WI vectors and writes one float.",
        "// The global-offset layout strides by the whole NDRange; the local-offset",
        "// layout keeps each work-group inside its own contiguous block." ],
      ["#define FETCH_PER_WI " ++ toString fetchesPerItem] ] ++
    (Workload.widths .globalBandwidth).flatMap fun width =>
      strides.map fun (layout, start) => globalKernel width layout start

/-! ## The local memory program -/

/-- What is first put into each slot, beside the place in the work-group. -/
def slotValues : List Nat := [0, 1, 3, 7, 13, 17]

/-- What tells the lanes of a slot apart. -/
def laneValues : List Nat := [0, 11, 19, 23]

/-- The slot of a number. -/
def slot (n : Nat) : String := "buf + tid + " ++ toString n ++ " * block"

/-- The first contents of a slot. -/
def slotContents (vector : String) (width value : Nat) : String :=
  "(" ++ vector ++ ")(" ++ commas ((laneValues.take width).map fun offset =>
    sum (["tid", toString value] ++ if offset = 0 then [] else [toString offset])) ++ ")"

/-- The swap of two neighbouring slots. -/
def swap (vector : String) (n : Nat) : String :=
  "SWAP(" ++ commas [vector, slot n, slot (n + 1)] ++ ");"

/-- The line behind which local memory is settled. -/
def fence : String := "mem_fence(CLK_LOCAL_MEM_FENCE);"

/-- The kernel of a width. -/
def localKernel (width : Nat) : List String :=
  let vector := vectorType "int" width
  kernel ("krn_localmem_juggling_int" ++ toString width)
    ("__global int *out, __local " ++ vector ++ " *buf") <| blocks
    [ ["int tid = get_local_id(0);", "int block = get_local_size(0);"],
      (slotValues.zipIdx.map fun (value, n) =>
        "buf[tid + " ++ toString n ++ " * block] = " ++ slotContents vector width value ++ ";") ++ [fence],
      ["for (int r = 0; r < ROUNDS; r++) \x7b"] ++
        indented ([0, 2, 4].map (swap vector) ++ [fence] ++ [1, 3].map (swap vector) ++ [fence]) ++
        ["\x7d"],
      [ vector ++ " acc = buf[tid] + buf[tid + block] + buf[tid + 2 * block]",
        "    + buf[tid + 3 * block] + buf[tid + 4 * block] + buf[tid + 5 * block];",
        "out[get_global_id(0)] = " ++ laneSum "acc" width ++ ";" ] ]

/-- The program that juggles local memory. -/
def localProgram : List String :=
  blocks <|
    [ [ "// Six slots per work-item are juggled through local memory.",
        "// One round is five swaps of two reads and two writes each." ],
      ["#define ROUNDS " ++ toString localRounds],
      ["#define SWAP(T, a, b) \x7b T tmp = *(b); *(b) = *(a); *(a) = tmp; \x7d"] ] ++
    (Workload.widths .localBandwidth).map localKernel

/-! ## All programs -/

/-- The options with which every program is built. -/
def buildOptions : String := "-cl-fast-relaxed-math -cl-mad-enable"

/-- The lines of a workload's program. -/
def linesOf : Workload → List String
  | .localBandwidth => localProgram
  | .globalBandwidth => globalProgram
  | .compute t => computeProgram t

/-- The source text of the program of a given name. -/
def source (name : String) : Except Failure String :=
  match Workload.sequence.find? fun w => w.program == name with
  | some w => .ok (unlines (linesOf w))
  | none => .error (.unknownProgram name)

end OpTiming.Accelerator.Program

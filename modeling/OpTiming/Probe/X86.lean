import OpTiming.Probe.Row

/-!
# The x86 table

Five families for x86 processors, from the widest registers down to the oldest, with ten groups in
every loop iteration.  Two rows of the last family are encoded for newer processors than the family
itself needs, and say so.
-/

namespace OpTiming.Probe.X86

/-- Fused multiply-add on 256-bit registers. -/
def fusedRows : List Row :=
  [
    row "vfmadd132ps_avx" 10 16,
    row "vfmadd132pd_avx" 10 8
  ]

/-- Integer instructions on 256-bit registers. -/
def integerRows : List Row :=
  [
    row "vpmaddwd_avx2" 10 24,
    row "vpaddd_avx2" 10 8,
    row "vpand_avx2" 10 8,
    row "vpmaddwd_vpaddd_avx2" 10 32,
    row "vpackssdw_avx2" 10 16,
    row "vpacksswb_avx2" 10 32
  ]

/-- Instructions on 512-bit registers. -/
def wideRows : List Row :=
  [
    row "vpmaddwd_512" 10 48,
    row "vpaddd_512" 10 16,
    row "vfmadd132ps_512" 10 32
  ]

/-- The dot product on 512-bit registers. -/
def dotRows : List Row :=
  [
    row "vpdpbusd_vnni" 10 112
  ]

/-- Instructions on 128-bit registers. -/
def narrowRows : List Row :=
  [
    row "mulps_sse" 10 8,
    row "mulpd_sse" 10 4,
    (row "vfmadd132ps_sse" 10 8).needing [.fma],
    (row "vpmaddwd_vpaddd_sse" 10 16).needing [.avx]
  ]

/-- The families, in the order in which they run. -/
def catalog : List Family :=
  [
    family .wide "AVX/FMA" [.avx, .fma] (row "vfmadd132ps_avx" 10 16) fusedRows,
    family .wide "AVX2" [.avx2] (row "vpmaddwd_avx2" 10 24) integerRows,
    family .wide "AVX-512" [.avx512] (row "vpmaddwd_512" 10 48) wideRows,
    family .wide "AVX-512 VNNI" [.vnni] (row "vpdpbusd_vnni" 10 112) dotRows,
    family .wide "SSE" [.sse2] (row "mulps_sse" 10 8) narrowRows
  ]

end OpTiming.Probe.X86

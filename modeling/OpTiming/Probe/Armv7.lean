import OpTiming.Probe.Row

/-!
# The 32-bit Arm table

One family for 32-bit Arm processors with a vector unit.  Loop counters have 32 bits here, so a body
never runs more iterations than fit one.
-/

namespace OpTiming.Probe.Armv7

/-- Vector instructions, from loads to conversions. -/
def vectorRows : List Row :=
  [
    row "nop" 10 1,
    row "eor_d" 10 2,
    row "eor_q" 10 4,
    row "ld1_d" 10 2,
    row "vld1d_x2" 10 4,
    row "ld1_q" 10 4,
    row "pld" 10 4,
    row "st1_d" 10 2,
    row "ldst1_d" 10 2,
    row "padal" 10 4,
    row "padd" 10 4,
    row "mla_s32" 10 8,
    row "vmovl_s8" 10 8,
    row "mla_s16" 10 16,
    row "mla_s16_lane" 10 16,
    row "mla_s16_lane_d" 10 8,
    row "ldrd_mla_s16_lane" 10 16,
    row "ldrd_mla_s16_lane_1_4" 12 16,
    row "ld1d_mlad_s16" 10 8,
    row "mlal_s8" 10 16,
    row "mlal_s16" 10 8,
    row "mlal_s16_lane" 10 8,
    row "mla_f32" 10 8,
    row "mla_f32_d" 10 4,
    row "mla_f32d_lane" 10 4,
    row "mla_f32q_lane" 10 8,
    row "ld1d_fmlad" 10 4,
    row "ld1d_fmlaq" 10 8,
    row "ld1dx2_fmlad_lane" 10 4,
    row "ld1dx2_fmlaq_lane" 10 8,
    row "mul_s32" 10 4,
    row "mul_f32" 10 4,
    row "cvt" 10 4,
    row "qrdmulh" 10 4,
    row "rshl" 10 4
  ]

/-- The families, in the order in which they run. -/
def catalog : List Family :=
  [
    family .narrow "NEON" [.neon] (row "mla_s32" 10 8) vectorRows
  ]

end OpTiming.Probe.Armv7

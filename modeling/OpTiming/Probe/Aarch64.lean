import OpTiming.Probe.Row

/-!
# The 64-bit Arm table

Two families for 64-bit Arm processors: single vector instructions, and groups of instructions that a
core might issue together.  A group is repeated twenty times in a loop iteration unless it is too
long for that.
-/

namespace OpTiming.Probe.Aarch64

/-- Single vector instructions, from loads to conversions. -/
def vectorRows : List Row :=
  [
    row "ldd" 20 2,
    row "ldq" 20 4,
    row "stq" 20 4,
    row "ldpq" 16 8,
    row "lddx2" 10 4,
    row "ld1q" 20 4,
    row "eor" 20 4,
    row "fmla" 20 8,
    row "fmlad" 20 4,
    row "fmla_x2" 20 16,
    row "mla" 20 8,
    row "fmul" 20 4,
    row "mul" 20 4,
    row "addp" 20 4,
    (row "sdot" 20 32).needing [.dotProd],
    (row "smmla" 20 64).needing [.i8mm],
    (row "bfmmla" 20 32).needing [.bf16],
    row "sadalp" 20 4,
    row "add" 20 4,
    row "fadd" 20 4,
    row "smull" 20 4,
    row "smlal_4b" 20 8,
    row "smlal_8b" 20 16,
    row "dupd_lane_s8" 20 8,
    row "mlaq_lane_s16" 15 16,
    row "sshll" 20 8,
    row "tbl" 20 16,
    row "ins" 20 2,
    row "sqrdmulh" 20 4,
    row "usubl" 20 4,
    row "abs" 20 4,
    row "fcvtzs" 20 4,
    row "scvtf" 20 4,
    row "fcvtns" 20 4,
    row "fcvtms" 20 4,
    row "fcvtps" 20 4,
    row "fcvtas" 20 4,
    row "fcvtn" 20 4,
    row "fcvtl" 20 4
  ]

/-- Pairs and groups of instructions that a core might issue together. -/
def dualIssueRows : List Row :=
  [
    (row "ins_ldd" 20 2).noted "Test ldd ins dual issue",
    row "ldd_ldx_ins" 20 4,
    (row "ldqstq" 20 4).noted "Test ldq stq dual issue",
    row "ldq_fmlaq" 20 8,
    (row "stq_fmlaq_lane" 15 8).noted "Test stq fmlaq_lane dual issue",
    (row "ldd_fmlad" 20 4).noted "Test ldd fmlad dual issue",
    (row "ldq_fmlaq_sep" 16 8).noted "Test throughput ldq + 2 x fmlaq",
    (row "ldq_fmlaq_lane_sep" 16 8).noted "Test compute throughput ldq + 2 x fmlaq_lane",
    (row "ldd_fmlaq_sep" 16 8).noted "Test compute throughput ldq + fmlaq",
    row "lds_fmlaq_lane_sep" 20 8,
    (row "ldd_fmlaq_lane_sep" 20 8).noted "Test compute throughput ldd + fmlaq_lane",
    row "ldx_fmlaq_lane_sep" 20 8,
    (row "ldd_ldx_ins_fmlaq_lane_sep" 16 8).noted "Test compute throughput ldd+fmlaq+ldx+fmlaq+ins+fmlaq",
    row "ldd_nop_ldx_ins_fmlaq_lane_sep" 16 8,
    (row "ins_fmlaq_lane_1_4_sep" 16 8).noted "Test compute throughput ins + 4 x fmlaq_lane",
    (row "ldd_fmlaq_lane_1_4_sep" 16 8).noted "Test compute throughput ldd + 4 x fmlaq_lane",
    (row "ldq_fmlaq_lane_1_4_sep" 16 8).noted "Test compute throughput ldq + 4 x fmlaq_lane",
    (row "ins_fmlaq_lane_1_3_sep" 15 8).noted "Test compute throughput ins + 3 x fmlaq_lane",
    row "ldd_fmlaq_lane_1_3_sep" 15 8,
    (row "ldq_fmlaq_lane_1_3_sep" 15 8).noted "Test compute throughput ldq + 3 x fmlaq_lane",
    (row "ldq_fmlaq_lane_1_2_sep" 16 8).noted "Test compute throughput ldq + 2 x fmlaq_lane",
    row "ins_fmlaq_lane_sep" 20 8,
    row "dupd_fmlaq_lane_sep" 20 8,
    row "smlal_8b_addp" 20 16,
    row "smlal_8b_dupd" 20 16,
    (row "ldd_smlalq_sep_8b" 20 16).noted "Test ldd smlalq dual issue",
    (row "ldq_smlalq_sep" 20 16).noted "Test ldq smlalq dual issue",
    row "lddx2_smlalq_sep" 20 16,
    row "smlal_sadalp" 20 16,
    (row "smull_smlal_sadalp" 20 32).noted "Test smull smlal dual issue",
    row "smull_smlal_sadalp_sep" 18 16,
    row "ins_smlalq_sep_1_2" 16 16,
    row "ldx_ins_smlalq_sep" 16 16,
    (row "ldrd_sdot_lane" 20 32).needing [.dotProd],
    (row "ldrq_sdot_lane" 20 32).needing [.dotProd],
    row "dupd_lane_smlal_s8" 20 16,
    row "ldd_mla_s16_lane_1_4_sep" 16 16,
    row "ldrd_sshll" 20 8,
    row "sshll_ins_sep" 10 8
  ]

/-- The families, in the order in which they run. -/
def catalog : List Family :=
  [
    family .wide "NEON" [.neon] (row "fmla" 20 8) vectorRows,
    family .wide "dual issue" [.neon] (row "fmla" 20 8) dualIssueRows
  ]

end OpTiming.Probe.Aarch64

import TorCircuitBuild.Types
import Mathlib.Algebra.Order.Field.Basic
import Mathlib.Algebra.Order.Field.Rat
import Mathlib.Data.Rat.Cast.Order

set_option autoImplicit false

/-!
# Path-bias parameters

Each `pathbias_get_*` takes the PathBias* option when it is set and otherwise the consensus
parameter, clamped by `networkstatus_get_param`. The scale ratio is `pb_multfactor` over
`pb_scalefactor`, and the clamps keep it in (0, 1].
-/

namespace TorCircuitBuild.PathBias

def int32Max : ℤ := 2147483647

/-- The options the accountant reads. A rate below 0, or a threshold below its floor, is unset. -/
structure PathBiasOptions where
  useEntryGuards : Bool
  pathBiasCircThreshold : ℤ
  pathBiasNoticeRate : ℚ
  pathBiasWarnRate : ℚ
  pathBiasExtremeRate : ℚ
  pathBiasDropGuards : ℤ
  pathBiasScaleThreshold : ℤ
  pathBiasUseThreshold : ℤ
  pathBiasNoticeUseRate : ℚ
  pathBiasExtremeUseRate : ℚ
  pathBiasScaleUseThreshold : ℤ
  deriving DecidableEq, Repr

/-- The consensus parameters pb_*, none when the consensus does not set one. -/
structure Consensus where
  pbMincircs : Option ℤ
  pbNoticepct : Option ℤ
  pbWarnpct : Option ℤ
  pbExtremepct : Option ℤ
  pbDropguards : Option ℤ
  pbScalecircs : Option ℤ
  pbScalefactor : Option ℤ
  pbMultfactor : Option ℤ
  pbMinuse : Option ℤ
  pbNoticeusepct : Option ℤ
  pbExtremeusepct : Option ℤ
  pbScaleuse : Option ℤ
  deriving DecidableEq, Repr

/-- Modelled from the spec: networkstatus_get_param, the consensus value clamped to
[lo, hi], or the default when the consensus has none. -/
def networkstatusGetParam (param : Option ℤ) (dflt lo hi : ℤ) : ℤ :=
  match param with
  | none => dflt
  | some v => if v < lo then lo else if hi < v then hi else v

/-- The integer getters: the option when it reaches its floor, else the consensus parameter
clamped to [floor, hi]. -/
def intParam (option floor hi : ℤ) (param : Option ℤ) (dflt : ℤ) : ℤ :=
  if floor ≤ option then option else networkstatusGetParam param dflt floor hi

/-- The rate getters: the option when it is not negative, else the percentage parameter. -/
def rateParam (option : ℚ) (param : Option ℤ) (dflt : ℤ) : ℚ :=
  if 0 ≤ option then option else (networkstatusGetParam param dflt 0 100 : ℚ) / 100

section Getters

variable (o : PathBiasOptions) (ns : Consensus)

def pathbiasGetMinCircs : ℤ := intParam o.pathBiasCircThreshold 5 int32Max ns.pbMincircs 150

def pathbiasGetNoticeRate : ℚ := rateParam o.pathBiasNoticeRate ns.pbNoticepct 70

def pathbiasGetWarnRate : ℚ := rateParam o.pathBiasWarnRate ns.pbWarnpct 50

def pathbiasGetExtremeRate : ℚ := rateParam o.pathBiasExtremeRate ns.pbExtremepct 30

def pathbiasGetDropguards : ℤ := intParam o.pathBiasDropGuards 0 1 ns.pbDropguards 0

def pathbiasGetScaleThreshold : ℤ :=
  intParam o.pathBiasScaleThreshold 10 int32Max ns.pbScalecircs 300

def pathbiasGetScaleRatio : ℚ :=
  let denominator := networkstatusGetParam ns.pbScalefactor 2 2 int32Max
  (networkstatusGetParam ns.pbMultfactor 1 1 denominator : ℚ) / denominator

def pathbiasGetMinUse : ℤ := intParam o.pathBiasUseThreshold 3 int32Max ns.pbMinuse 20

def pathbiasGetNoticeUseRate : ℚ := rateParam o.pathBiasNoticeUseRate ns.pbNoticeusepct 80

def pathbiasGetExtremeUseRate : ℚ := rateParam o.pathBiasExtremeUseRate ns.pbExtremeusepct 60

def pathbiasGetScaleUseThreshold : ℤ :=
  intParam o.pathBiasScaleUseThreshold 10 int32Max ns.pbScaleuse 100

end Getters

theorem networkstatusGetParam_mem (param : Option ℤ) {dflt lo hi : ℤ} (hlo : lo ≤ dflt)
    (hhi : dflt ≤ hi) :
    lo ≤ networkstatusGetParam param dflt lo hi ∧ networkstatusGetParam param dflt lo hi ≤ hi := by
  unfold networkstatusGetParam
  split
  · exact ⟨hlo, hhi⟩
  · split_ifs <;> omega

theorem pathbiasGetScaleRatio_mem (ns : Consensus) :
    0 < pathbiasGetScaleRatio ns ∧ pathbiasGetScaleRatio ns ≤ 1 := by
  obtain ⟨hd, -⟩ := networkstatusGetParam_mem ns.pbScalefactor (le_refl (2 : ℤ))
    (show (2 : ℤ) ≤ int32Max by decide)
  set denominator := networkstatusGetParam ns.pbScalefactor 2 2 int32Max
  obtain ⟨hm, hm'⟩ := networkstatusGetParam_mem ns.pbMultfactor (le_refl (1 : ℤ))
    (show (1 : ℤ) ≤ denominator by omega)
  have hdq : (0 : ℚ) < denominator := by exact_mod_cast (show (0 : ℤ) < denominator by omega)
  have hmq : (0 : ℚ) < networkstatusGetParam ns.pbMultfactor 1 1 denominator := by
    exact_mod_cast (show (0 : ℤ) < _ by omega)
  have hle : (networkstatusGetParam ns.pbMultfactor 1 1 denominator : ℚ) ≤ denominator := by
    exact_mod_cast hm'
  exact ⟨div_pos hmq hdq, (div_le_one hdq).mpr hle⟩

/-- Everything the accountant reads from the configuration. -/
structure Config where
  options : PathBiasOptions
  consensus : Consensus

/-- Entry guards in use, every PathBias option unset and a consensus without pb_ parameters:
each getter gives its default. -/
def unsetConfig : Config where
  options :=
    { useEntryGuards := true, pathBiasCircThreshold := -1, pathBiasNoticeRate := -1,
      pathBiasWarnRate := -1, pathBiasExtremeRate := -1, pathBiasDropGuards := -1,
      pathBiasScaleThreshold := -1, pathBiasUseThreshold := -1, pathBiasNoticeUseRate := -1,
      pathBiasExtremeUseRate := -1, pathBiasScaleUseThreshold := -1 }
  consensus := ⟨none, none, none, none, none, none, none, none, none, none, none, none⟩

example : pathbiasGetMinCircs unsetConfig.options unsetConfig.consensus = 150 ∧
    pathbiasGetScaleThreshold unsetConfig.options unsetConfig.consensus = 300 ∧
    pathbiasGetDropguards unsetConfig.options unsetConfig.consensus = 0 := by decide

end TorCircuitBuild.PathBias

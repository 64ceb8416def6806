import TorCircuitBuild.PathBiasParams
import Mathlib.Tactic.Linarith
import Mathlib.Tactic.Ring

set_option autoImplicit false

/-!
# Guard counters: measuring and scaling

`pathbias_count_circs_in_states` scans the global circuit list for the live, counted circuits
whose first hop is the guard and whose path state lies in a range. The close-rate and use-rate
checks only latch alert flags; scaling subtracts the circuits the scan finds, decays the rest
by the scale ratio and adds them back; `entry_guard_inc_circ_attempt_count` runs the close
check, gives up on a disabled guard, scales and counts the attempt.
-/

namespace TorCircuitBuild.PathBias

def pathbiasShouldCount (o : PathBiasOptions) (circ : OriginCircuit) : Bool :=
  if ¬o.useEntryGuards ∨ circ.purpose = .testing ∨ circ.purpose = .controller ∨
      circ.purpose = .sConnectRend ∨ circ.purpose = .sRendJoined ∨ circ.purpose.isClientIntro
  then false
  else if circ.buildState.onehopTunnel ∨ circ.buildState.desiredPathLen = 1 then false
  else true

/-- The second hop is about to get its keys: the moment an attempt is counted. -/
def pathbiasIsNewCircAttempt (circ : OriginCircuit) : Bool :=
  match circ.cpath with
  | _ :: hop :: _ => hop.state = .awaitingKeys
  | _ => false

/-- The test the scan of pathbias_count_circs_in_states applies to one circuit. -/
def openCircInStates (o : PathBiasOptions) (d : Digest) (lo hi : PathState)
    (ocirc : OriginCircuit) : Bool :=
  !ocirc.markedForClose &&
    match ocirc.cpath with
    | [] => false
    | hop :: _ =>
      decide (lo.toNat ≤ ocirc.pathState.toNat ∧ ocirc.pathState.toNat ≤ hi.toNat) &&
        pathbiasShouldCount o ocirc && decide (hop.extendInfo.identityDigest = d)

def pathbiasCountCircsInStates (o : PathBiasOptions) (circs : List OriginCircuit) (d : Digest)
    (lo hi : PathState) : ℕ :=
  circs.countP (openCircInStates o d lo hi)

section Guard

variable (cfg : Config) (circs : List OriginCircuit) (d : Digest) (g : EntryGuard)

def pathbiasGetCloseSuccessCount : ℚ :=
  g.successfulCircuitsClosed +
    pathbiasCountCircsInStates cfg.options circs d .buildSucceeded .useSucceeded

def pathbiasGetUseSuccessCount : ℚ :=
  g.useSuccesses + pathbiasCountCircsInStates cfg.options circs d .useAttempted .useSucceeded

/-- The close-rate check: below the extreme rate the guard is disabled when pb_dropguards is
set, and otherwise each threshold latches its flag. -/
def pathbiasMeasureCloseRate : EntryGuard :=
  if (pathbiasGetMinCircs cfg.options cfg.consensus : ℚ) < g.circAttempts then
    let rate := pathbiasGetCloseSuccessCount cfg circs d g / g.circAttempts
    if rate < pathbiasGetExtremeRate cfg.options cfg.consensus then
      if pathbiasGetDropguards cfg.options cfg.consensus ≠ 0 then { g with pathBiasDisabled := true }
      else { g with pathBiasExtreme := true }
    else if rate < pathbiasGetWarnRate cfg.options cfg.consensus then
      { g with pathBiasWarned := true }
    else if rate < pathbiasGetNoticeRate cfg.options cfg.consensus then
      { g with pathBiasNoticed := true }
    else g
  else g

def pathbiasMeasureUseRate : EntryGuard :=
  if (pathbiasGetMinUse cfg.options cfg.consensus : ℚ) < g.useAttempts then
    let rate := pathbiasGetUseSuccessCount cfg circs d g / g.useAttempts
    if rate < pathbiasGetExtremeUseRate cfg.options cfg.consensus then
      if pathbiasGetDropguards cfg.options cfg.consensus ≠ 0 then { g with pathBiasDisabled := true }
      else { g with pathBiasUseExtreme := true }
    else if rate < pathbiasGetNoticeUseRate cfg.options cfg.consensus then
      { g with pathBiasUseNoticed := true }
    else g
  else g

def pathbiasScaleCloseRates : EntryGuard :=
  if (pathbiasGetScaleThreshold cfg.options cfg.consensus : ℚ) < g.circAttempts then
    let scaleRatio := pathbiasGetScaleRatio cfg.consensus
    let openedAttempts : ℚ :=
      pathbiasCountCircsInStates cfg.options circs d .buildAttempted .buildAttempted
    let openedBuilt : ℚ :=
      pathbiasCountCircsInStates cfg.options circs d .buildSucceeded .useFailed
    { g with
      circAttempts := (g.circAttempts - (openedAttempts + openedBuilt)) * scaleRatio +
        (openedAttempts + openedBuilt)
      circSuccesses := (g.circSuccesses - openedBuilt) * scaleRatio + openedBuilt
      timeouts := g.timeouts * scaleRatio
      successfulCircuitsClosed := g.successfulCircuitsClosed * scaleRatio
      collapsedCircuits := g.collapsedCircuits * scaleRatio
      unusableCircuits := g.unusableCircuits * scaleRatio }
  else g

def pathbiasScaleUseRates : EntryGuard :=
  if (pathbiasGetScaleUseThreshold cfg.options cfg.consensus : ℚ) < g.useAttempts then
    let scaleRatio := pathbiasGetScaleRatio cfg.consensus
    let openedAttempts : ℚ :=
      pathbiasCountCircsInStates cfg.options circs d .useAttempted .useSucceeded
    { g with
      useAttempts := (g.useAttempts - openedAttempts) * scaleRatio + openedAttempts
      useSuccesses := g.useSuccesses * scaleRatio }
  else g

/-- -1 for a guard the close-rate check leaves disabled, 0 after counting the attempt. -/
def entryGuardIncCircAttemptCount : ℤ × EntryGuard :=
  let g := pathbiasMeasureCloseRate cfg circs d g
  if g.pathBiasDisabled then (-1, g)
  else (0, (pathbiasScaleCloseRates cfg circs d g).bump .circAttempts)

/-! The checks only latch flags. -/

@[simp] theorem pathbiasMeasureCloseRate_count (k : Counter) :
    (pathbiasMeasureCloseRate cfg circs d g).count k = g.count k := by
  unfold pathbiasMeasureCloseRate
  dsimp only
  split_ifs <;> cases k <;> rfl

@[simp] theorem pathbiasMeasureUseRate_count (k : Counter) :
    (pathbiasMeasureUseRate cfg circs d g).count k = g.count k := by
  unfold pathbiasMeasureUseRate
  dsimp only
  split_ifs <;> cases k <;> rfl

theorem pathbiasMeasureCloseRate_disabled (h : g.pathBiasDisabled = true) :
    (pathbiasMeasureCloseRate cfg circs d g).pathBiasDisabled = true := by
  unfold pathbiasMeasureCloseRate
  dsimp only
  split_ifs <;> simp [h]

@[simp] theorem pathbiasMeasureUseRate_disabled (h : g.pathBiasDisabled = true) :
    (pathbiasMeasureUseRate cfg circs d g).pathBiasDisabled = true := by
  unfold pathbiasMeasureUseRate
  dsimp only
  split_ifs <;> simp [h]

theorem entryGuardIncCircAttemptCount_cases :
    entryGuardIncCircAttemptCount cfg circs d g = (-1, pathbiasMeasureCloseRate cfg circs d g) ∨
      entryGuardIncCircAttemptCount cfg circs d g =
        (0, (pathbiasScaleCloseRates cfg circs d (pathbiasMeasureCloseRate cfg circs d g)).bump
          .circAttempts) := by
  unfold entryGuardIncCircAttemptCount
  dsimp only
  split_ifs <;> simp

theorem scaleRatio_bounds : 0 ≤ pathbiasGetScaleRatio cfg.consensus ∧
    pathbiasGetScaleRatio cfg.consensus ≤ 1 :=
  (pathbiasGetScaleRatio_mem cfg.consensus).imp le_of_lt id

/-! ## Slack

What the attempts leave over the successes once the open circuits the scan finds are set
aside. The books balance while both slacks are nonnegative: the checks leave them alone, a
bump moves one by one, and scaling multiplies them by the scale ratio, so decay never eats
into what the open circuits are owed. -/

/-- Build attempts not matched by a success, less the circuits still in BUILD_ATTEMPTED. -/
def closeSlack : ℚ :=
  g.count .circAttempts - g.count .circSuccesses -
    pathbiasCountCircsInStates cfg.options circs d .buildAttempted .buildAttempted

/-- Use attempts not matched by a use success, less the circuits in USE_ATTEMPTED or
USE_SUCCEEDED. -/
def useSlack : ℚ :=
  g.count .useAttempts - g.count .useSuccesses -
    pathbiasCountCircsInStates cfg.options circs d .useAttempted .useSucceeded

@[simp] theorem closeSlack_bump (k : Counter) :
    closeSlack cfg circs d (g.bump k) = closeSlack cfg circs d g +
      (if k = .circAttempts then 1 else 0) - (if k = .circSuccesses then 1 else 0) := by
  simp only [closeSlack, EntryGuard.count_bump]
  split_ifs <;> simp_all <;> ring

@[simp] theorem useSlack_bump (k : Counter) :
    useSlack cfg circs d (g.bump k) = useSlack cfg circs d g +
      (if k = .useAttempts then 1 else 0) - (if k = .useSuccesses then 1 else 0) := by
  simp only [useSlack, EntryGuard.count_bump]
  split_ifs <;> simp_all <;> ring

@[simp] theorem closeSlack_measureCloseRate (d' : Digest) (circs' : List OriginCircuit) :
    closeSlack cfg circs d (pathbiasMeasureCloseRate cfg circs' d' g) = closeSlack cfg circs d g := by
  simp only [closeSlack, pathbiasMeasureCloseRate_count]

@[simp] theorem useSlack_measureCloseRate (d' : Digest) (circs' : List OriginCircuit) :
    useSlack cfg circs d (pathbiasMeasureCloseRate cfg circs' d' g) = useSlack cfg circs d g := by
  simp only [useSlack, pathbiasMeasureCloseRate_count]

@[simp] theorem closeSlack_measureUseRate (d' : Digest) (circs' : List OriginCircuit) :
    closeSlack cfg circs d (pathbiasMeasureUseRate cfg circs' d' g) = closeSlack cfg circs d g := by
  simp only [closeSlack, pathbiasMeasureUseRate_count]

@[simp] theorem useSlack_measureUseRate (d' : Digest) (circs' : List OriginCircuit) :
    useSlack cfg circs d (pathbiasMeasureUseRate cfg circs' d' g) = useSlack cfg circs d g := by
  simp only [useSlack, pathbiasMeasureUseRate_count]

theorem closeSlack_scaleCloseRates : ∃ t : ℚ, 0 ≤ t ∧ t ≤ 1 ∧
    closeSlack cfg circs d (pathbiasScaleCloseRates cfg circs d g) =
      t * closeSlack cfg circs d g := by
  obtain ⟨hr0, hr1⟩ := scaleRatio_bounds cfg
  unfold pathbiasScaleCloseRates
  split_ifs
  · exact ⟨_, hr0, hr1, by simp only [closeSlack, EntryGuard.count]; ring⟩
  · exact ⟨1, zero_le_one, le_rfl, (one_mul _).symm⟩

@[simp] theorem useSlack_scaleCloseRates (d' : Digest) (circs' : List OriginCircuit) :
    useSlack cfg circs d (pathbiasScaleCloseRates cfg circs' d' g) = useSlack cfg circs d g := by
  unfold pathbiasScaleCloseRates
  split_ifs <;> rfl

theorem useSlack_scaleUseRates : ∃ t : ℚ, 0 ≤ t ∧ t ≤ 1 ∧
    useSlack cfg circs d (pathbiasScaleUseRates cfg circs d g) = t * useSlack cfg circs d g := by
  obtain ⟨hr0, hr1⟩ := scaleRatio_bounds cfg
  unfold pathbiasScaleUseRates
  split_ifs
  · exact ⟨_, hr0, hr1, by simp only [useSlack, EntryGuard.count]; ring⟩
  · exact ⟨1, zero_le_one, le_rfl, (one_mul _).symm⟩

@[simp] theorem closeSlack_scaleUseRates (d' : Digest) (circs' : List OriginCircuit) :
    closeSlack cfg circs d (pathbiasScaleUseRates cfg circs' d' g) = closeSlack cfg circs d g := by
  unfold pathbiasScaleUseRates
  split_ifs <;> rfl

end Guard

end TorCircuitBuild.PathBias

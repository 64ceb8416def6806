import TorCircuitBuild.Books

set_option autoImplicit false

/-!
# The counted attempts and the scaling of their guard

`pathbias_count_build_attempt` writes BUILD_ATTEMPTED into the circuit before
`entry_guard_inc_circ_attempt_count` measures and scales the guard, and the scaling scans the
global circuit list. So the attempting circuit is already among the open attempts that the
scaling takes out, decays and puts back, and the attempt it then counts comes on top:
r·(A − k − 1) + k + 2.

The use path, `pathbias_count_use_attempt`, measures and scales before it writes
USE_ATTEMPTED, so its scan sees only the other circuits: r·(U − k) + k + 1, with the successes
decayed whole, since `pathbias_scale_use_rates` takes nothing out of them.
-/

namespace TorCircuitBuild.PathBias

open Sys

theorem openCircInStates_split (o : PathBiasOptions) (d : Digest) (c : OriginCircuit) :
    (if openCircInStates o d .buildAttempted .useFailed c then 1 else 0) =
      (if openCircInStates o d .buildAttempted .buildAttempted c then 1 else 0) +
        (if openCircInStates o d .buildSucceeded .useFailed c then 1 else 0) := by
  unfold openCircInStates
  cases c.cpath with
  | nil => simp
  | cons hop _ =>
    dsimp only
    cases c.markedForClose
    · -- the three scans differ only in the range of states
      generalize pathbiasShouldCount o c = b₁
      generalize decide (hop.extendInfo.identityDigest = d) = b₂
      cases c.pathState <;> cases b₁ <;> cases b₂ <;> rfl
    · rfl

theorem countCircsInStates_split (o : PathBiasOptions) (d : Digest)
    (circs : List OriginCircuit) :
    pathbiasCountCircsInStates o circs d .buildAttempted .useFailed =
      pathbiasCountCircsInStates o circs d .buildAttempted .buildAttempted +
        pathbiasCountCircsInStates o circs d .buildSucceeded .useFailed := by
  induction circs with
  | nil => rfl
  | cons c l ih =>
    simp only [pathbiasCountCircsInStates, List.countP_cons] at ih ⊢
    rw [ih, openCircInStates_split o d c]
    omega

theorem countCircsInStates_eraseIdx (o : PathBiasOptions) (d : Digest) (lo hi : PathState)
    {l : List OriginCircuit} {i : ℕ} {c : OriginCircuit} (hc : l[i]? = some c) :
    pathbiasCountCircsInStates o (l.eraseIdx i) d lo hi +
        (if openCircInStates o d lo hi c then 1 else 0) =
      pathbiasCountCircsInStates o l d lo hi := by
  induction l generalizing i with
  | nil => simp at hc
  | cons a l ih =>
    cases i with
    | zero =>
      simp only [List.getElem?_cons_zero, Option.some.injEq] at hc
      subst hc
      simp only [pathbiasCountCircsInStates, List.eraseIdx_cons_zero, List.countP_cons]
    | succ i =>
      have := ih (by simpa using hc)
      simp only [pathbiasCountCircsInStates, List.eraseIdx_cons_succ, List.countP_cons] at this ⊢
      omega

variable (cfg : Config)

theorem pathbiasMeasureCloseRate_congr {circs circs' : List OriginCircuit} {d : Digest}
    (h : pathbiasCountCircsInStates cfg.options circs' d .buildSucceeded .useSucceeded =
      pathbiasCountCircsInStates cfg.options circs d .buildSucceeded .useSucceeded)
    (g : EntryGuard) :
    pathbiasMeasureCloseRate cfg circs' d g = pathbiasMeasureCloseRate cfg circs d g := by
  simp only [pathbiasMeasureCloseRate, pathbiasGetCloseSuccessCount, h]

/-- pathbias_count_build_attempt on a counted, never-opened circuit in NEW_CIRC whose second hop
awaits keys, at a guard the check leaves enabled: the guard is measured, scaled and counted over
the list that already holds the circuit in BUILD_ATTEMPTED. -/
theorem pathbiasCountBuildAttempt_counted {sys : Sys} {i : ℕ} {c : OriginCircuit}
    (hc : sys.circuits[i]? = some c) (hcount : pathbiasShouldCount cfg.options c = true)
    (hnew : pathbiasIsNewCircAttempt c = true) (hopened : c.hasOpened = false)
    (hps : c.pathState = .newCirc) {d : Digest} {g : EntryGuard}
    (hg : guardOf sys c = some (d, g))
    (hok : (pathbiasMeasureCloseRate cfg (sys.setPathState i .buildAttempted).circuits d
      g).pathBiasDisabled = false) :
    pathbiasCountBuildAttempt cfg sys i = (none, (sys.setPathState i .buildAttempted).setGuard d
      ((pathbiasScaleCloseRates cfg (sys.setPathState i .buildAttempted).circuits d
        (pathbiasMeasureCloseRate cfg (sys.setPathState i .buildAttempted).circuits d g)).bump
          .circAttempts)) := by
  have hgd := (guardOf_eq_some hg).2
  unfold pathbiasCountBuildAttempt
  rw [hc]
  simp only [hcount, hnew, hopened, hps, hg, Bool.not_true, Bool.not_false, Bool.false_eq_true,
    if_false, and_self, if_true]
  simp only [setPathState, modifyCirc_guards, modifyCirc_circuits, hgd] at hok ⊢
  simp [entryGuardIncCircAttemptCount, hok]

/-- When the counted attempt scales the guard's close rates, its attempts end at
r·(A − k − 1) + k + 2 and its successes at r·(S − k_b) + k_b, where k counts the other live
counted circuits of the guard from BUILD_ATTEMPTED to USE_FAILED and k_b those from
BUILD_SUCCEEDED on. -/
theorem pathbiasCountBuildAttempt_scaled {sys : Sys} {i : ℕ} {c : OriginCircuit}
    (hc : sys.circuits[i]? = some c) (hlive : c.markedForClose = false)
    (hcount : pathbiasShouldCount cfg.options c = true)
    (hnew : pathbiasIsNewCircAttempt c = true) (hopened : c.hasOpened = false)
    (hps : c.pathState = .newCirc) {d : Digest} {g : EntryGuard}
    (hg : guardOf sys c = some (d, g))
    (hok : (pathbiasMeasureCloseRate cfg sys.circuits d g).pathBiasDisabled = false)
    (hscale : (pathbiasGetScaleThreshold cfg.options cfg.consensus : ℚ) < g.circAttempts) :
    ∃ g', pathbiasCountBuildAttempt cfg sys i =
        (none, (sys.setPathState i .buildAttempted).setGuard d g') ∧
      g'.circAttempts = pathbiasGetScaleRatio cfg.consensus * (g.circAttempts -
        pathbiasCountCircsInStates cfg.options sys.circuits d .buildAttempted .useFailed - 1) +
        pathbiasCountCircsInStates cfg.options sys.circuits d .buildAttempted .useFailed + 2 ∧
      g'.circSuccesses = pathbiasGetScaleRatio cfg.consensus * (g.circSuccesses -
        pathbiasCountCircsInStates cfg.options sys.circuits d .buildSucceeded .useFailed) +
        pathbiasCountCircsInStates cfg.options sys.circuits d .buildSucceeded .useFailed := by
  obtain ⟨hd, -⟩ := guardOf_eq_some hg
  set f : OriginCircuit → OriginCircuit := fun c => { c with pathState := .buildAttempted }
  -- the scans from BUILD_SUCCEEDED on see the circuit neither before nor after
  have hsame : ∀ hi, pathbiasCountCircsInStates cfg.options (sys.circuits.modify f i) d
      .buildSucceeded hi =
      pathbiasCountCircsInStates cfg.options sys.circuits d .buildSucceeded hi := by
    intro hi
    have := countCircsInStates_modify cfg.options d .buildSucceeded hi hc f
    rw [openCircInStates_of_not_mem _ _ _ _ (by simp [hps, PathState.toNat]),
      openCircInStates_of_not_mem _ _ _ _ (by simp [f, PathState.toNat])] at this
    simpa using this
  -- the scan of BUILD_ATTEMPTED finds it, after the write
  have hattempt : pathbiasCountCircsInStates cfg.options (sys.circuits.modify f i) d
      .buildAttempted .buildAttempted =
      pathbiasCountCircsInStates cfg.options sys.circuits d .buildAttempted .buildAttempted + 1 := by
    have := countCircsInStates_modify cfg.options d .buildAttempted .buildAttempted hc f
    rw [openCircInStates_of_not_mem _ _ _ _ (by simp [hps, PathState.toNat]),
      show openCircInStates cfg.options d .buildAttempted .buildAttempted (f c) = true from
        (openCircInStates_eq_true _ _ _ _ _).mpr ⟨hlive, hd, hcount, le_rfl, le_rfl⟩] at this
    simpa using this
  have hmeasure := pathbiasMeasureCloseRate_congr cfg (hsame .useSucceeded) g
  have hA := pathbiasMeasureCloseRate_count cfg sys.circuits d g .circAttempts
  have hS := pathbiasMeasureCloseRate_count cfg sys.circuits d g .circSuccesses
  simp only [EntryGuard.count] at hA hS
  refine ⟨_, pathbiasCountBuildAttempt_counted cfg hc hcount hnew hopened hps hg
    (by simpa [setPathState, hmeasure] using hok), ?_, ?_⟩ <;>
  · simp only [setPathState, modifyCirc_circuits, hmeasure, pathbiasScaleCloseRates, hA, hS,
      if_pos hscale, EntryGuard.bump, hattempt, hsame, countCircsInStates_split]
    push_cast
    ring

/-- pathbias_count_use_attempt on a counted circuit in BUILD_SUCCEEDED at a known guard: the guard
is measured, scaled and counted over the list in which the circuit is still in BUILD_SUCCEEDED,
and only then is USE_ATTEMPTED written. -/
theorem pathbiasCountUseAttempt_counted {sys : Sys} {i : ℕ} {c : OriginCircuit}
    (hc : sys.circuits[i]? = some c) (hcount : pathbiasShouldCount cfg.options c = true)
    (hbs : c.pathState = .buildSucceeded) {d : Digest} {g : EntryGuard}
    (hg : guardOf sys c = some (d, g)) :
    pathbiasCountUseAttempt cfg sys i = (sys.setGuard d ((pathbiasScaleUseRates cfg sys.circuits d
      (pathbiasMeasureUseRate cfg sys.circuits d g)).bump .useAttempts)).setPathState i
        .useAttempted := by
  unfold pathbiasCountUseAttempt
  rw [hc]
  simp only [hcount, hbs, Bool.not_true, Bool.false_eq_true, if_false]
  rw [if_neg (by decide), if_pos (by decide), hg]

/-- When the counted use attempt scales the guard's use rates, its attempts end at
r·(U − k) + k + 1 and its successes at r·US, where k counts the other live counted circuits of
the guard from USE_ATTEMPTED to USE_SUCCEEDED; the circuit itself is then in USE_ATTEMPTED. -/
theorem pathbiasCountUseAttempt_scaled {sys : Sys} {i : ℕ} {c : OriginCircuit}
    (hc : sys.circuits[i]? = some c) (hcount : pathbiasShouldCount cfg.options c = true)
    (hbs : c.pathState = .buildSucceeded) {d : Digest} {g : EntryGuard}
    (hg : guardOf sys c = some (d, g))
    (hscale : (pathbiasGetScaleUseThreshold cfg.options cfg.consensus : ℚ) < g.useAttempts) :
    ∃ g', (pathbiasCountUseAttempt cfg sys i).guards d = some g' ∧
      g'.useAttempts = pathbiasGetScaleRatio cfg.consensus * (g.useAttempts -
        pathbiasCountCircsInStates cfg.options (sys.circuits.eraseIdx i) d .useAttempted
          .useSucceeded) +
        pathbiasCountCircsInStates cfg.options (sys.circuits.eraseIdx i) d .useAttempted
          .useSucceeded + 1 ∧
      g'.useSuccesses = pathbiasGetScaleRatio cfg.consensus * g.useSuccesses ∧
      (pathbiasCountUseAttempt cfg sys i).circuits[i]? =
        some { c with pathState := .useAttempted } := by
  -- the scan runs before the write, and a circuit in BUILD_SUCCEEDED is not in it
  have hothers := countCircsInStates_eraseIdx cfg.options d .useAttempted .useSucceeded hc
  rw [openCircInStates_of_not_mem _ _ _ _ (by simp [hbs, PathState.toNat])] at hothers
  simp only [Bool.false_eq_true, if_false, add_zero] at hothers
  have hU := pathbiasMeasureUseRate_count cfg sys.circuits d g .useAttempts
  have hS := pathbiasMeasureUseRate_count cfg sys.circuits d g .useSuccesses
  simp only [EntryGuard.count] at hU hS
  refine ⟨(pathbiasScaleUseRates cfg sys.circuits d (pathbiasMeasureUseRate cfg sys.circuits d
    g)).bump .useAttempts, by simp [pathbiasCountUseAttempt_counted cfg hc hcount hbs hg,
    setPathState], ?_, ?_, pathbiasCountUseAttempt_getElem hc hcount hbs⟩ <;>
  · simp only [pathbiasScaleUseRates, hU, hS, if_pos hscale, EntryGuard.bump, ← hothers]
    ring

/-- A general-purpose three-hop circuit in NEW_CIRC, never opened, whose entry, at digest 0, is
open and whose second hop awaits keys. -/
def s4Circuit : OriginCircuit where
  purpose := .cGeneral
  state := .building
  markedForClose := false
  cpath := [hopAt 0 .open, hopAt 1 .awaitingKeys, hopAt 2 .closed]
  buildState := ⟨3, false, false, false, false, none⟩
  hasOpened := false
  pathState := .newCirc
  pathbiasProbeId := 0
  pathbiasProbeNonce := 0

/-- A guard just past the default scale threshold of 300 attempts. -/
def s4Guard : EntryGuard :=
  ⟨301, 250, 240, 0, 0, 0, 0, 0, false, false, false, false, false, false⟩

/-- The circuit alone in the list, and its guard. -/
def s4Sys : Sys := ⟨[s4Circuit], fun d => if d = 0 then some s4Guard else none⟩

/-- With the default scale ratio of one half and no other circuit open, the attempt leaves the
guard with 152 attempts, not 301 / 2 + 1. -/
theorem s4_circAttempts :
    ((pathbiasCountBuildAttempt unsetConfig s4Sys 0).2.guards 0).map (·.circAttempts) =
      some 152 := by
  have hk : ∀ lo hi, lo = .buildAttempted ∨ lo = .buildSucceeded →
      pathbiasCountCircsInStates unsetConfig.options s4Sys.circuits 0 lo hi = 0 := by
    rintro lo hi (rfl | rfl) <;> rfl
  have hok : (pathbiasMeasureCloseRate unsetConfig s4Sys.circuits 0 s4Guard).pathBiasDisabled =
      false := by
    rw [pathbiasMeasureCloseRate, pathbiasGetCloseSuccessCount, hk _ _ (.inr rfl)]
    norm_num [pathbiasGetMinCircs, pathbiasGetExtremeRate, pathbiasGetWarnRate,
      pathbiasGetNoticeRate, intParam, rateParam, networkstatusGetParam, unsetConfig, s4Guard]
  have hscale : (pathbiasGetScaleThreshold unsetConfig.options unsetConfig.consensus : ℚ) <
      s4Guard.circAttempts := by
    norm_num [pathbiasGetScaleThreshold, intParam, networkstatusGetParam, unsetConfig, s4Guard]
  obtain ⟨g', he, hA, -⟩ := @pathbiasCountBuildAttempt_scaled unsetConfig s4Sys 0 s4Circuit rfl
    rfl rfl rfl rfl rfl 0 s4Guard rfl hok hscale
  have hr : pathbiasGetScaleRatio unsetConfig.consensus = 1 / 2 := by
    norm_num [pathbiasGetScaleRatio, networkstatusGetParam, unsetConfig]
  simp only [he, setGuard_guards, if_true, Option.map_some', hA, hr, hk _ _ (.inl rfl)]
  norm_num [s4Guard]

/-- An opened general-purpose three-hop circuit in BUILD_SUCCEEDED, all hops open, whose entry is
at digest 0. -/
def builtCircuit : OriginCircuit where
  purpose := .cGeneral
  state := .open
  markedForClose := false
  cpath := [hopAt 0 .open, hopAt 1 .open, hopAt 2 .open]
  buildState := ⟨3, false, false, false, false, none⟩
  hasOpened := true
  pathState := .buildSucceeded
  pathbiasProbeId := 0
  pathbiasProbeNonce := 0

/-- A guard just past the default use-scale threshold of 100 use attempts. -/
def useGuard : EntryGuard :=
  ⟨120, 110, 0, 0, 0, 0, 101, 90, false, false, false, false, false, false⟩

/-- The circuit, and beside it the same circuit already in USE_ATTEMPTED, at the guard. -/
def useSys : Sys :=
  ⟨[builtCircuit, { builtCircuit with pathState := .useAttempted }],
    fun d => if d = 0 then some useGuard else none⟩

theorem useSys_useAttempts_scaled :
    useSys.circuits[0]? = some builtCircuit ∧
      pathbiasShouldCount unsetConfig.options builtCircuit = true ∧
      builtCircuit.pathState = .buildSucceeded ∧ guardOf useSys builtCircuit = some (0, useGuard) ∧
      (pathbiasGetScaleUseThreshold unsetConfig.options unsetConfig.consensus : ℚ) <
        useGuard.useAttempts ∧
      ∃ g', (pathbiasCountUseAttempt unsetConfig useSys 0).guards 0 = some g' ∧
        g'.useAttempts = pathbiasGetScaleRatio unsetConfig.consensus * (useGuard.useAttempts -
          pathbiasCountCircsInStates unsetConfig.options (useSys.circuits.eraseIdx 0) 0
            .useAttempted .useSucceeded) +
          pathbiasCountCircsInStates unsetConfig.options (useSys.circuits.eraseIdx 0) 0
            .useAttempted .useSucceeded + 1 ∧
        g'.useSuccesses = pathbiasGetScaleRatio unsetConfig.consensus * useGuard.useSuccesses ∧
        (pathbiasCountUseAttempt unsetConfig useSys 0).circuits[0]? =
          some { builtCircuit with pathState := .useAttempted } := by
  have hscale : (pathbiasGetScaleUseThreshold unsetConfig.options unsetConfig.consensus : ℚ) <
      useGuard.useAttempts := by
    norm_num [pathbiasGetScaleUseThreshold, intParam, networkstatusGetParam, unsetConfig, useGuard]
  exact ⟨rfl, rfl, rfl, rfl, hscale,
    @pathbiasCountUseAttempt_scaled unsetConfig useSys 0 builtCircuit rfl rfl rfl 0 useGuard rfl
      hscale⟩

end TorCircuitBuild.PathBias

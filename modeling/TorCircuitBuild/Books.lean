import TorCircuitBuild.Frame

set_option autoImplicit false

/-!
# The accountant's books

The books balance when, for every guard, both slacks are nonnegative: attempts minus
successes cover the live counted circuits of that guard still in BUILD_ATTEMPTED, and use
attempts minus use successes cover those in USE_ATTEMPTED or USE_SUCCEEDED. The per-circuit
half says which path states a live circuit can be in: one that never opened is in NEW_CIRC or
BUILD_ATTEMPTED, and in BUILD_ATTEMPTED once its second hop is open when it is counted at a
known guard; one that opened and is counted at a known guard is in BUILD_SUCCEEDED,
USE_ATTEMPTED or USE_SUCCEEDED. Every accountant function and every close keep the books.
-/

namespace TorCircuitBuild.PathBias

open Sys

section Counting

variable (o : PathBiasOptions) (d : Digest) (lo hi : PathState)

theorem openCircInStates_eq_true (c : OriginCircuit) :
    openCircInStates o d lo hi c = true ↔ c.markedForClose = false ∧ firstHopId c = some d ∧
      pathbiasShouldCount o c = true ∧ lo.toNat ≤ c.pathState.toNat ∧
      c.pathState.toNat ≤ hi.toNat := by
  unfold openCircInStates firstHopId
  cases c.cpath <;> simp [and_assoc, and_comm, and_left_comm]

theorem openCircInStates_of_firstHopId_ne {c : OriginCircuit} {d' : Digest}
    (hd : firstHopId c = some d') (hne : d ≠ d') : openCircInStates o d lo hi c = false := by
  rw [← Bool.not_eq_true, openCircInStates_eq_true, hd]
  simp [Ne.symm hne]

theorem openCircInStates_of_not_mem {c : OriginCircuit}
    (h : ¬(lo.toNat ≤ c.pathState.toNat ∧ c.pathState.toNat ≤ hi.toNat)) :
    openCircInStates o d lo hi c = false := by
  rw [← Bool.not_eq_true, openCircInStates_eq_true]
  tauto

theorem openCircInStates_of_marked {c : OriginCircuit} (hm : c.markedForClose = true) :
    openCircInStates o d lo hi c = false := by
  rw [← Bool.not_eq_true, openCircInStates_eq_true, hm]
  simp

theorem countCircsInStates_modify {l : List OriginCircuit} {i : ℕ} {c : OriginCircuit}
    (hc : l[i]? = some c) (f : OriginCircuit → OriginCircuit) :
    pathbiasCountCircsInStates o (l.modify f i) d lo hi +
        (if openCircInStates o d lo hi c then 1 else 0) =
      pathbiasCountCircsInStates o l d lo hi +
        (if openCircInStates o d lo hi (f c) then 1 else 0) := by
  induction l generalizing i with
  | nil => simp at hc
  | cons a l ih =>
    cases i with
    | zero =>
      simp only [List.getElem?_cons_zero, Option.some.injEq] at hc
      subst hc
      simp only [pathbiasCountCircsInStates, List.modify_zero_cons, List.countP_cons]
      omega
    | succ i =>
      simp only [List.getElem?_cons_succ] at hc
      have := ih hc
      simp only [pathbiasCountCircsInStates, List.modify_succ_cons, List.countP_cons] at this ⊢
      omega

end Counting

section Slack

variable (cfg : Config) {circs : List OriginCircuit} {i : ℕ} {c : OriginCircuit}
  (hc : circs[i]? = some c) (f : OriginCircuit → OriginCircuit) (d : Digest) (g : EntryGuard)
include hc

theorem closeSlack_modify :
    closeSlack cfg (circs.modify f i) d g = closeSlack cfg circs d g +
      (if openCircInStates cfg.options d .buildAttempted .buildAttempted c then 1 else 0) -
      (if openCircInStates cfg.options d .buildAttempted .buildAttempted (f c) then 1 else 0) := by
  have h := congrArg (Nat.cast : ℕ → ℚ)
    (countCircsInStates_modify cfg.options d .buildAttempted .buildAttempted hc f)
  push_cast at h
  simp only [closeSlack]
  linarith

theorem useSlack_modify :
    useSlack cfg (circs.modify f i) d g = useSlack cfg circs d g +
      (if openCircInStates cfg.options d .useAttempted .useSucceeded c then 1 else 0) -
      (if openCircInStates cfg.options d .useAttempted .useSucceeded (f c) then 1 else 0) := by
  have h := congrArg (Nat.cast : ℕ → ℚ)
    (countCircsInStates_modify cfg.options d .useAttempted .useSucceeded hc f)
  push_cast at h
  simp only [useSlack]
  linarith

end Slack

/-- The per-circuit half of the books. -/
structure CircBooks (cfg : Config) (sys : Sys) (c : OriginCircuit) : Prop where
  length : c.cpath.length = c.buildState.desiredPathLen
  nonempty : c.cpath ≠ []
  multihop : c.buildState.onehopTunnel = false → 2 ≤ c.buildState.desiredPathLen
  testing : c.markedForClose = false → c.purpose = .pathBiasTesting → c.hasOpened = true
  fresh : c.markedForClose = false → c.hasOpened = false →
    c.pathState = .newCirc ∨ c.pathState = .buildAttempted
  attempted : c.markedForClose = false → c.hasOpened = false →
    pathbiasShouldCount cfg.options c = true → (guardOf sys c).isSome →
    c.cpath[1]?.map (·.state) = some .open → c.pathState = .buildAttempted
  opened : c.markedForClose = false → c.hasOpened = true →
    pathbiasShouldCount cfg.options c = true → (guardOf sys c).isSome →
    c.pathState = .buildSucceeded ∨ c.pathState = .useAttempted ∨ c.pathState = .useSucceeded

/-- The books balance at the guards `P`, for builds, and `Q`, for uses: every circuit keeps its
half, the close slack of every guard in `P` and the use slack of every guard in `Q` are
nonnegative. -/
structure Books (cfg : Config) (P Q : Digest → Prop) (sys : Sys) : Prop where
  circuits : ∀ (j : ℕ) (c : OriginCircuit), sys.circuits[j]? = some c → CircBooks cfg sys c
  close : ∀ d g, sys.guards d = some g → P d → 0 ≤ closeSlack cfg sys.circuits d g
  use : ∀ d g, sys.guards d = some g → Q d → 0 ≤ useSlack cfg sys.circuits d g

theorem guardOf_isSome_congr {sys sys' : Sys}
    (hdom : ∀ d, (sys'.guards d).isSome = (sys.guards d).isSome) (c : OriginCircuit) :
    (guardOf sys' c).isSome = (guardOf sys c).isSome := by
  unfold guardOf
  cases firstHopId c with
  | none => rfl
  | some d => simpa using hdom d

theorem CircBooks.congr {cfg : Config} {sys sys' : Sys}
    (hdom : ∀ d, (sys'.guards d).isSome = (sys.guards d).isSome) {c : OriginCircuit}
    (h : CircBooks cfg sys c) : CircBooks cfg sys' c :=
  { h with
    attempted := fun hl ho hc hg => h.attempted hl ho hc (guardOf_isSome_congr hdom c ▸ hg)
    opened := fun hl ho hc hg => h.opened hl ho hc (guardOf_isSome_congr hdom c ▸ hg) }

section Update

variable {cfg : Config} {P Q : Digest → Prop}

theorem indicator_le_one (p : Bool) : (if p then 1 else 0 : ℚ) ≤ 1 := by
  cases p <;> simp

theorem indicator_le {p q : Bool} (h : p = true → q = true) :
    (if p then 1 else 0 : ℚ) ≤ if q then 1 else 0 := by
  cases p <;> cases q <;> simp_all

theorem Books.of_modify {sys sys' : Sys} (h : Books cfg P Q sys) {i : ℕ} {c : OriginCircuit}
    (hc : sys.circuits[i]? = some c) {f : OriginCircuit → OriginCircuit}
    (hcircs : sys'.circuits = sys.circuits.modify f i)
    (hdom : ∀ d, (sys'.guards d).isSome = (sys.guards d).isSome)
    (hf : CircBooks cfg sys' (f c))
    (hclose : ∀ d g, sys'.guards d = some g → P d → 0 ≤ closeSlack cfg sys'.circuits d g)
    (huse : ∀ d g, sys'.guards d = some g → Q d → 0 ≤ useSlack cfg sys'.circuits d g) :
    Books cfg P Q sys' := by
  refine ⟨fun j cj hj => ?_, hclose, huse⟩
  rw [hcircs, List.getElem?_modify] at hj
  by_cases hji : i = j
  · subst hji
    simp only [hc, if_true, Option.map_eq_map, Option.map_some', Option.some.injEq] at hj
    exact hj ▸ hf
  · simp only [hji, if_false, Option.map_eq_map, Option.map_id'] at hj
    exact (h.circuits j cj hj).congr hdom

theorem Books.modifyCirc_none {sys : Sys} (h : Books cfg P Q sys) {i : ℕ}
    (hc : sys.circuits[i]? = none) (f : OriginCircuit → OriginCircuit) :
    Books cfg P Q (sys.modifyCirc i f) := by
  have heq : sys.modifyCirc i f = sys := by
    rw [Sys.modifyCirc, List.modify_eq_self (List.getElem?_eq_none_iff.mp hc)]
  rwa [heq]

theorem Books.setGuard {sys : Sys} (h : Books cfg P Q sys) {d : Digest} {g g' : EntryGuard}
    (hg : sys.guards d = some g) (hclose : P d → 0 ≤ closeSlack cfg sys.circuits d g')
    (huse : Q d → 0 ≤ useSlack cfg sys.circuits d g') : Books cfg P Q (sys.setGuard d g') where
  circuits j c hj := (h.circuits j c hj).congr (frame_setGuard sys hg).guards
  close d' g'' hd' := by
    by_cases hdd : d' = d
    · subst hdd
      simp only [setGuard_guards, if_true, Option.some.injEq] at hd'
      exact hd' ▸ hclose
    · simp only [setGuard_guards, hdd, if_false] at hd'
      exact h.close d' g'' hd'
  use d' g'' hd' := by
    by_cases hdd : d' = d
    · subst hdd
      simp only [setGuard_guards, if_true, Option.some.injEq] at hd'
      exact hd' ▸ huse
    · simp only [setGuard_guards, hdd, if_false] at hd'
      exact h.use d' g'' hd'

theorem Books.bump_other {sys : Sys} (h : Books cfg P Q sys) {d : Digest} {g : EntryGuard}
    (hg : sys.guards d = some g) {k : Counter} (hk : k ≠ .circAttempts ∧ k ≠ .circSuccesses ∧
      k ≠ .useAttempts ∧ k ≠ .useSuccesses) : Books cfg P Q (sys.setGuard d (g.bump k)) :=
  h.setGuard hg (by simpa [hk.1, hk.2.1] using h.close d g hg)
    (by simpa [hk.2.2.1, hk.2.2.2] using h.use d g hg)

theorem Books.modifyCirc_of_le {sys : Sys} (h : Books cfg P Q sys) {i : ℕ} {c : OriginCircuit}
    (hc : sys.circuits[i]? = some c) {f : OriginCircuit → OriginCircuit}
    (hf : CircBooks cfg (sys.modifyCirc i f) (f c))
    (hba : ∀ d g, sys.guards d = some g →
      openCircInStates cfg.options d .buildAttempted .buildAttempted (f c) = true →
      openCircInStates cfg.options d .buildAttempted .buildAttempted c = true)
    (hu : ∀ d g, sys.guards d = some g →
      openCircInStates cfg.options d .useAttempted .useSucceeded (f c) = true →
      openCircInStates cfg.options d .useAttempted .useSucceeded c = true) :
    Books cfg P Q (sys.modifyCirc i f) := by
  refine h.of_modify hc rfl (fun _ => rfl) hf (fun d g hg hP => ?_) (fun d g hg hQ => ?_)
  · rw [modifyCirc_circuits, closeSlack_modify cfg hc]
    linarith [h.close d g hg hP, indicator_le (hba d g hg)]
  · rw [modifyCirc_circuits, useSlack_modify cfg hc]
    linarith [h.use d g hg hQ, indicator_le (hu d g hg)]

theorem Books.modifyCirc_setGuard {sys : Sys} (h : Books cfg P Q sys) {i : ℕ} {c : OriginCircuit}
    (hc : sys.circuits[i]? = some c) {d : Digest} {g : EntryGuard} (hd : firstHopId c = some d)
    (hg : sys.guards d = some g) {f : OriginCircuit → OriginCircuit}
    (hcp : (f c).cpath = c.cpath) {g' : EntryGuard} (hf : CircBooks cfg sys (f c))
    (hclose : P d → 0 ≤ closeSlack cfg (sys.circuits.modify f i) d g')
    (huse : Q d → 0 ≤ useSlack cfg (sys.circuits.modify f i) d g') :
    Books cfg P Q ((sys.modifyCirc i f).setGuard d g') := by
  have hd' : firstHopId (f c) = some d := by simpa [firstHopId, hcp] using hd
  have hdom := (@frame_setGuard (sys.modifyCirc i f) d g g' hg).guards
  refine h.of_modify hc rfl hdom (@CircBooks.congr cfg sys _ hdom _ hf)
    (fun d'' g'' hg'' hP => ?_) (fun d'' g'' hg'' hQ => ?_)
  all_goals
    by_cases hdd : d'' = d
    · subst hdd
      simp only [setGuard_guards, if_true, Option.some.injEq] at hg''
      subst hg''
      first | exact hclose hP | exact huse hQ
    simp only [setGuard_guards, hdd, if_false, modifyCirc_guards] at hg''
  · rw [setGuard_circuits, modifyCirc_circuits, closeSlack_modify cfg hc,
      openCircInStates_of_firstHopId_ne _ _ _ _ hd hdd,
      openCircInStates_of_firstHopId_ne _ _ _ _ hd' hdd]
    simpa using h.close d'' g'' hg'' hP
  · rw [setGuard_circuits, modifyCirc_circuits, useSlack_modify cfg hc,
      openCircInStates_of_firstHopId_ne _ _ _ _ hd hdd,
      openCircInStates_of_firstHopId_ne _ _ _ _ hd' hdd]
    simpa using h.use d'' g'' hg'' hQ

theorem Books.modifyCirc_marked {sys : Sys} (h : Books cfg P Q sys) (i : ℕ)
    {f : OriginCircuit → OriginCircuit}
    (hf : ∀ c, (f c).cpath = c.cpath ∧ (f c).buildState = c.buildState ∧
      (f c).markedForClose = true) : Books cfg P Q (sys.modifyCirc i f) := by
  cases hc : sys.circuits[i]? with
  | none => exact h.modifyCirc_none hc f
  | some c =>
    obtain ⟨hcp, hbs, hm⟩ := hf c
    have hb := h.circuits i c hc
    refine h.modifyCirc_of_le hc ⟨hcp ▸ hbs ▸ hb.length, hcp ▸ hb.nonempty, hbs ▸ hb.multihop,
        fun h => by simp [hm] at h, fun h => by simp [hm] at h, fun h => by simp [hm] at h,
        fun h => by simp [hm] at h⟩ (fun d _ _ => ?_) (fun d _ _ => ?_) <;>
      simp [openCircInStates_of_marked _ _ _ _ hm]

/-- The mark circuit_mark_for_close sets. -/
def markClosed (sys : Sys) (i : ℕ) : Sys :=
  sys.modifyCirc i fun c => { c with markedForClose := true }

theorem Books.marked {sys : Sys} (h : Books cfg P Q sys) (i : ℕ) : Books cfg P Q (markClosed sys i) :=
  h.modifyCirc_marked i fun _ => ⟨rfl, rfl, rfl⟩

theorem Books.marked_setPathState {sys : Sys} (h : Books cfg P Q sys) (i : ℕ) (s : PathState) :
    Books cfg P Q (markClosed (sys.setPathState i s) i) := by
  rw [markClosed, setPathState, modifyCirc_modifyCirc]
  exact h.modifyCirc_marked i fun _ => ⟨rfl, rfl, rfl⟩

theorem openCircInStates_of_guardOf_none {sys : Sys} {c : OriginCircuit}
    (hnone : guardOf sys c = none) {d : Digest} {g : EntryGuard} (hg : sys.guards d = some g)
    (lo hi : PathState) : openCircInStates cfg.options d lo hi c = false := by
  rw [← Bool.not_eq_true, openCircInStates_eq_true]
  rintro ⟨-, hd, -⟩
  simp [guardOf, hd, hg] at hnone

/-- Rewriting fields the books do not read, such as the purpose and the probe fields, keeps
them balanced, provided a live PATH_BIAS_TESTING circuit has opened and no ignored circuit
becomes counted. -/
theorem Books.modifyCirc_unread {sys : Sys} (h : Books cfg P Q sys) {i : ℕ} {c : OriginCircuit}
    (hc : sys.circuits[i]? = some c) {f : OriginCircuit → OriginCircuit}
    (hsame : (f c).cpath = c.cpath ∧ (f c).buildState = c.buildState ∧
      (f c).markedForClose = c.markedForClose ∧ (f c).hasOpened = c.hasOpened ∧
      (f c).pathState = c.pathState)
    (htesting : (f c).markedForClose = false → (f c).purpose = .pathBiasTesting →
      (f c).hasOpened = true)
    (hcount : pathbiasShouldCount cfg.options (f c) = true →
      pathbiasShouldCount cfg.options c = true) : Books cfg P Q (sys.modifyCirc i f) := by
  obtain ⟨hcp, hbs, hm, ho, hps⟩ := hsame
  have hb := h.circuits i c hc
  have hguard : (guardOf (sys.modifyCirc i f) (f c)).isSome = (guardOf sys c).isSome := by
    simp [guardOf, firstHopId, hcp]
  have hind : ∀ d lo hi, openCircInStates cfg.options d lo hi (f c) = true →
      openCircInStates cfg.options d lo hi c = true := by
    intro d lo hi hf
    rw [openCircInStates_eq_true] at hf ⊢
    obtain ⟨h1, h2, h3, h4, h5⟩ := hf
    exact ⟨hm ▸ h1, by simpa [firstHopId, hcp] using h2, hcount h3, hps ▸ h4, hps ▸ h5⟩
  refine h.modifyCirc_of_le hc ⟨?_, ?_, ?_, htesting, ?_, ?_, ?_⟩ (fun d _ _ => hind d _ _)
    (fun d _ _ => hind d _ _)
  · rw [hcp, hbs]; exact hb.length
  · rw [hcp]; exact hb.nonempty
  · rw [hbs]; exact hb.multihop
  · rw [hm, ho, hps]; exact hb.fresh
  · rw [hguard, hm, ho, hps, hcp]
    exact fun hl hop hcnt => hb.attempted hl hop (hcount hcnt)
  · rw [hguard, hm, ho, hps]
    exact fun hl hop hcnt => hb.opened hl hop (hcount hcnt)

theorem Books.append {sys : Sys} (h : Books cfg P Q sys) {c : OriginCircuit}
    (hb : CircBooks cfg sys c) (hps : c.pathState = .newCirc) :
    Books cfg P Q { sys with circuits := sys.circuits ++ [c] } := by
  have hcount : ∀ d lo hi, lo = .buildAttempted ∨ lo = .useAttempted →
      pathbiasCountCircsInStates cfg.options (sys.circuits ++ [c]) d lo hi =
        pathbiasCountCircsInStates cfg.options sys.circuits d lo hi := by
    intro d lo hi hlo
    have := openCircInStates_of_not_mem cfg.options d lo hi (c := c)
      (by rcases hlo with rfl | rfl <;> simp [hps, PathState.toNat])
    simp [pathbiasCountCircsInStates, List.countP_append, this]
  refine ⟨fun j cj hj => ?_, fun d g hg hP => ?_, fun d g hg hQ => ?_⟩
  · refine @CircBooks.congr cfg sys { sys with circuits := sys.circuits ++ [c] } (fun _ => rfl) cj ?_
    rcases Nat.lt_or_ge j sys.circuits.length with hlt | hge
    · rw [List.getElem?_append_left hlt] at hj
      exact h.circuits j cj hj
    · rw [List.getElem?_append_right hge] at hj
      obtain ⟨_, rfl⟩ := List.getElem?_eq_some_iff.mp hj
      simpa using hb
  · simpa [closeSlack, hcount d _ _ (.inl rfl)] using h.close d g hg hP
  · simpa [useSlack, hcount d _ _ (.inr rfl)] using h.use d g hg hQ

theorem Books.setState {sys : Sys} (h : Books cfg P Q sys) (i : ℕ) (st : CircuitState) :
    Books cfg P Q (sys.modifyCirc i fun c => { c with state := st }) := by
  cases hc : sys.circuits[i]? with
  | none => exact h.modifyCirc_none hc _
  | some c => exact h.modifyCirc_unread hc ⟨rfl, rfl, rfl, rfl, rfl⟩ (h.circuits i c hc).testing id

end Update

/-! ## The accountant's functions and the close -/

section Ops

variable {cfg : Config} {P Q : Digest → Prop}

theorem Books.countClose {sys : Sys} (h : Books cfg P Q sys) (i : ℕ) {k : Counter}
    (hk : k ≠ .circAttempts ∧ k ≠ .circSuccesses ∧ k ≠ .useAttempts ∧ k ≠ .useSuccesses) :
    Books cfg P Q (pathbiasCountClose cfg sys i k) := by
  unfold pathbiasCountClose
  repeat' split
  all_goals first
    | exact h
    | exact h.bump_other (guardOf_eq_some (by assumption)).2 hk

theorem Books.countTimeout {sys : Sys} (h : Books cfg P Q sys) (i : ℕ) :
    Books cfg P Q (pathbiasCountTimeout cfg sys i) := by
  unfold pathbiasCountTimeout
  repeat' split
  all_goals first
    | exact h
    | exact h.bump_other (guardOf_eq_some (by assumption)).2 (by decide)

theorem Books.countUseSuccess_marked {sys : Sys} (h : Books cfg P Q sys) {i : ℕ} {c : OriginCircuit}
    (hc : sys.circuits[i]? = some c) (hlive : c.markedForClose = false)
    (hus : c.pathState = .useSucceeded) :
    Books cfg P Q (markClosed ((pathbiasCountUseSuccess cfg sys i).setPathState i .alreadyCounted) i) := by
  unfold pathbiasCountUseSuccess
  rw [hc]
  dsimp only
  split_ifs with hcount hne
  · exact h.marked_setPathState i _
  · exact absurd hus hne
  · cases hg : guardOf sys c with
    | none => exact h.marked_setPathState i _
    | some dg =>
      obtain ⟨d, g⟩ := dg
      obtain ⟨hd, hgd⟩ := guardOf_eq_some hg
      have hb := h.marked_setPathState i .alreadyCounted
      have heq : markClosed ((sys.setGuard d (g.bump .useSuccesses)).setPathState i .alreadyCounted) i =
          (markClosed (sys.setPathState i .alreadyCounted) i).setGuard d (g.bump .useSuccesses) := rfl
      rw [heq]
      have hcirc : (markClosed (sys.setPathState i .alreadyCounted) i).circuits =
          sys.circuits.modify
          (fun c => { c with pathState := .alreadyCounted, markedForClose := true }) i := by
        simp only [markClosed, setPathState, modifyCirc_modifyCirc, modifyCirc_circuits]
        rfl
      have hin : openCircInStates cfg.options d .useAttempted .useSucceeded c = true := by
        rw [openCircInStates_eq_true, hus]
        exact ⟨hlive, hd, by simpa using hcount, by decide, by decide⟩
      refine hb.setGuard hgd ?_ ?_
      · simpa using hb.close d g hgd
      · intro hQ
        rw [useSlack_bump, hcirc, useSlack_modify cfg hc, hin,
          openCircInStates_of_marked _ _ _ _ rfl]
        simp only [if_true, Bool.false_eq_true, if_false, reduceCtorEq]
        linarith [h.use d g hgd hQ]

theorem Books.sendUsableProbe {markForClose : Sys → Sys}
    (hm : ∀ s, Books cfg P Q s → Books cfg P Q (markForClose s)) {sys : Sys} (h : Books cfg P Q sys)
    {i : ℕ} {c : OriginCircuit} (hc : sys.circuits[i]? = some c)
    (hlive : c.markedForClose = false) (hua : c.pathState = .useAttempted)
    (hcount : pathbiasShouldCount cfg.options c = true) (o : ProbeOracle) :
    Books cfg P Q (pathbiasSendUsableProbe markForClose sys i o).2 := by
  have hopened : c.hasOpened = true := by
    cases ho : c.hasOpened
    · rcases (h.circuits i c hc).fresh hlive ho with hps | hps <;> simp [hps] at hua
    · rfl
  have hprobe : Books cfg P Q (sys.modifyCirc i fun c =>
      { c with purpose := .pathBiasTesting, pathbiasProbeNonce := o.rand &&& 0xffffff,
               pathbiasProbeId := o.streamId }) :=
    h.modifyCirc_unread hc ⟨rfl, rfl, rfl, rfl, rfl⟩ (fun _ _ => hopened) (fun _ => hcount)
  rcases pathbiasSendUsableProbe_cases markForClose sys i o with he | he | he | ⟨-, he⟩ <;> rw [he]
  · exact h
  · exact hprobe
  · exact hm _ hprobe
  · exact hprobe

theorem countClose_circuits (sys : Sys) (i : ℕ) (k : Counter) :
    (pathbiasCountClose cfg sys i k).circuits = sys.circuits := by
  unfold pathbiasCountClose
  repeat' split
  all_goals rfl

theorem Books.checkClose {markForClose : Sys → Sys}
    (hm : ∀ s, Books cfg P Q s → Books cfg P Q (markForClose s)) {sys : Sys} (h : Books cfg P Q sys)
    {i : ℕ} {c : OriginCircuit} (hc : sys.circuits[i]? = some c)
    (hlive : c.markedForClose = false) (reason : CloseReason) (o : CloseOracle) :
    ((pathbiasCheckClose cfg markForClose sys i reason o).1 = -1 →
      Books cfg P Q (pathbiasCheckClose cfg markForClose sys i reason o).2) ∧
    ((pathbiasCheckClose cfg markForClose sys i reason o).1 ≠ -1 →
      Books cfg P Q (markClosed (pathbiasCheckClose cfg markForClose sys i reason o).2 i)) := by
  have other : ∀ k : Counter, k ≠ .circAttempts ∧ k ≠ .circSuccesses ∧ k ≠ .useAttempts ∧
      k ≠ .useSuccesses → ∀ s, Books cfg P Q s →
      Books cfg P Q (markClosed ((pathbiasCountClose cfg s i k).setPathState i .alreadyCounted) i) :=
    fun k hk s hs => (hs.countClose i hk).marked_setPathState i _
  unfold pathbiasCheckClose
  rw [hc]
  dsimp only
  by_cases hcount : (!pathbiasShouldCount cfg.options c) = true
  · rw [if_pos hcount]
    exact ⟨fun h => by simp at h, fun _ => h.marked i⟩
  rw [if_neg hcount]
  have counted : Books cfg P Q (markClosed (sys.setPathState i .alreadyCounted) i) :=
    h.marked_setPathState i _
  cases hps : c.pathState with
  | buildSucceeded =>
    dsimp only
    split_ifs <;> exact ⟨fun h => by simp at h, fun _ => other _ (by decide) sys h⟩
  | useAttempted =>
    have hprobe := h.sendUsableProbe hm hc hlive hps (by simpa using hcount) o.probe
    dsimp only
    split_ifs
    · exact ⟨fun _ => hprobe, fun h => absurd rfl h⟩
    · exact ⟨fun h => by simp at h, fun _ => other _ (by decide) _ hprobe⟩
  | useSucceeded =>
    have hs := h.countClose i (k := .successfulCircuitsClosed) (by decide)
    refine ⟨fun h => by simp at h, fun _ => hs.countUseSuccess_marked ?_ hlive hps⟩
    rw [countClose_circuits, hc]
  | useFailed => exact ⟨fun h => by simp at h, fun _ => other _ (by decide) sys h⟩
  | newCirc => exact ⟨fun h => by simp at h, fun _ => counted⟩
  | buildAttempted => exact ⟨fun h => by simp at h, fun _ => counted⟩
  | alreadyCounted => exact ⟨fun h => by simp at h, fun _ => counted⟩

theorem Books.markForCloseDepth (cfg : Config) (i : ℕ) :
    ∀ (depth : ℕ) (sys : Sys) (reason : CloseReason) (o : CloseOracle), Books cfg P Q sys →
      Books cfg P Q (circuitMarkForCloseDepth cfg depth sys i reason o)
  | 0, _, _, _, h => h
  | depth + 1, sys, reason, o, h => by
    unfold circuitMarkForCloseDepth
    cases hc : sys.circuits[i]? with
    | none => exact h
    | some c =>
      dsimp only
      by_cases hmarked : c.markedForClose = true
      · rw [if_pos hmarked]
        exact h
      rw [if_neg hmarked]
      have hcheck := h.checkClose
        (fun s hs => Books.markForCloseDepth cfg i depth s ⟨.internal, false⟩ o hs) hc
        (by simpa using hmarked) reason o
      split_ifs with hr
      · exact hcheck.1 hr
      · exact hcheck.2 hr

theorem Books.markForClose {sys : Sys} (h : Books cfg P Q sys) (i : ℕ) (reason : CloseReason)
    (o : CloseOracle) : Books cfg P Q (circuitMarkForClose cfg sys i reason o) :=
  Books.markForCloseDepth cfg i 2 sys reason o h

theorem shouldCount_multihop {o : PathBiasOptions} {c : OriginCircuit}
    (h : pathbiasShouldCount o c = true) :
    c.buildState.onehopTunnel = false ∧ c.buildState.desiredPathLen ≠ 1 := by
  unfold pathbiasShouldCount at h
  split_ifs at h with h1 h2
  simp_all

theorem CircBooks.hasOpened_of {cfg : Config} {sys : Sys} {c : OriginCircuit}
    (hb : CircBooks cfg sys c) (hlive : c.markedForClose = false)
    (hps : c.pathState ≠ .newCirc ∧ c.pathState ≠ .buildAttempted) : c.hasOpened = true := by
  cases ho : c.hasOpened
  · rcases hb.fresh hlive ho with h | h <;> simp [h] at hps
  · rfl

theorem Books.countUseAttempt {sys : Sys} (h : Books cfg P Q sys) (i : ℕ) :
    Books cfg P Q (pathbiasCountUseAttempt cfg sys i) := by
  unfold pathbiasCountUseAttempt
  cases hc : sys.circuits[i]? with
  | none => exact h
  | some c =>
  dsimp only
  by_cases hcount : (!pathbiasShouldCount cfg.options c) = true
  · rw [if_pos hcount]; exact h
  rw [if_neg hcount]
  by_cases hlo : c.pathState.toNat < PathState.buildSucceeded.toNat
  · rw [if_pos hlo]; exact h
  rw [if_neg hlo]
  by_cases hhi : c.pathState.toNat < PathState.useAttempted.toNat
  swap
  · rw [if_neg hhi]; exact h
  rw [if_pos hhi]
  have hbs : c.pathState = .buildSucceeded := by
    revert hlo hhi; cases c.pathState <;> decide
  have hb := h.circuits i c hc
  have hf : CircBooks cfg sys { c with pathState := .useAttempted } :=
    ⟨hb.length, hb.nonempty, hb.multihop, hb.testing,
      fun hl ho => absurd (hb.hasOpened_of hl (by simp [hbs])) (by simp_all),
      fun hl ho => absurd (hb.hasOpened_of hl (by simp [hbs])) (by simp_all),
      fun _ _ _ _ => by simp⟩
  have hba : ∀ d, openCircInStates cfg.options d .buildAttempted .buildAttempted c = false :=
    fun d => openCircInStates_of_not_mem _ _ _ _ (by rw [hbs]; decide)
  have hba' : ∀ d, openCircInStates cfg.options d .buildAttempted .buildAttempted
      { c with pathState := .useAttempted } = false :=
    fun d => openCircInStates_of_not_mem _ _ _ _ (by simp [PathState.toNat])
  have hu : ∀ d, openCircInStates cfg.options d .useAttempted .useSucceeded c = false :=
    fun d => openCircInStates_of_not_mem _ _ _ _ (by rw [hbs]; decide)
  split
  · rename_i d g hg
    obtain ⟨hd, hgd⟩ := guardOf_eq_some hg
    change Books cfg P Q ((sys.modifyCirc i fun c => { c with pathState := .useAttempted }).setGuard d _)
    obtain ⟨t, ht0, ht1, hscale⟩ := useSlack_scaleUseRates cfg sys.circuits d
      (pathbiasMeasureUseRate cfg sys.circuits d g)
    refine h.modifyCirc_setGuard hc hd hgd rfl hf ?_ ?_
    · rw [closeSlack_bump, closeSlack_scaleUseRates, closeSlack_measureUseRate,
        closeSlack_modify cfg hc, hba, hba']
      simpa using h.close d g hgd
    · intro hQ
      rw [useSlack_bump, useSlack_modify cfg hc, hscale, useSlack_measureUseRate, hu]
      have := mul_nonneg ht0 (h.use d g hgd hQ)
      have := indicator_le_one (openCircInStates cfg.options d .useAttempted .useSucceeded
        { c with pathState := .useAttempted })
      simp only [Bool.false_eq_true, reduceCtorEq, if_false, if_true, add_zero]
      linarith
  · rename_i hnone
    have hnone' : guardOf sys { c with pathState := .useAttempted } = none := hnone
    refine h.modifyCirc_of_le hc
      (@CircBooks.congr cfg sys (sys.modifyCirc i fun c => { c with pathState := .useAttempted })
        (fun _ => rfl) _ hf)
      (fun d g hg hin => ?_) (fun d g hg hin => ?_)
    all_goals
      rw [openCircInStates_of_guardOf_none hnone' hg] at hin
      cases hin

theorem Books.setPathState_use {sys : Sys} (h : Books cfg P Q sys) {i : ℕ} {c : OriginCircuit}
    (hc : sys.circuits[i]? = some c) (hopen : c.markedForClose = false → c.hasOpened = true)
    (hprev : c.markedForClose = false → pathbiasShouldCount cfg.options c = true →
      (guardOf sys c).isSome → c.pathState = .useAttempted ∨ c.pathState = .useSucceeded)
    {s : PathState} (hs : s = .useAttempted ∨ s = .useSucceeded) :
    Books cfg P Q (sys.setPathState i s) := by
  have hb := h.circuits i c hc
  have hs' : s ≠ .newCirc ∧ s ≠ .buildAttempted := by rcases hs with rfl | rfl <;> decide
  refine h.modifyCirc_of_le hc ⟨hb.length, hb.nonempty, hb.multihop, hb.testing,
      fun hl ho => by simp [hopen hl] at ho, fun hl ho => by simp [hopen hl] at ho,
      fun _ _ _ _ => by rcases hs with rfl | rfl <;> simp⟩
    (fun d _ _ hin => ?_) (fun d g hg hin => ?_)
  · rw [openCircInStates_eq_true] at hin
    rcases hs with rfl | rfl <;> simp [PathState.toNat] at hin
  · rw [openCircInStates_eq_true] at hin ⊢
    obtain ⟨hl, hd, hcount, -⟩ := hin
    have hd' : firstHopId c = some d := hd
    have hguard : (guardOf sys c).isSome := by simp [guardOf, hd', hg]
    rcases hprev hl hcount hguard with hps | hps <;>
      exact ⟨hl, hd, hcount, by simp [hps, PathState.toNat], by simp [hps, PathState.toNat]⟩

theorem pathbiasCountUseAttempt_of_ne {sys : Sys} {i : ℕ} {c : OriginCircuit}
    (hc : sys.circuits[i]? = some c) (hps : c.pathState ≠ .buildSucceeded) :
    pathbiasCountUseAttempt cfg sys i = sys := by
  unfold pathbiasCountUseAttempt
  rw [hc]
  dsimp only
  split_ifs with h1 h2 h3
  · rfl
  · rfl
  · exact absurd (by revert h2 h3; cases c.pathState <;> decide) hps
  · rfl

theorem pathbiasCountUseAttempt_getElem {sys : Sys} {i : ℕ} {c : OriginCircuit}
    (hc : sys.circuits[i]? = some c) (hcount : pathbiasShouldCount cfg.options c = true)
    (hps : c.pathState = .buildSucceeded) :
    (pathbiasCountUseAttempt cfg sys i).circuits[i]? = some { c with pathState := .useAttempted } := by
  unfold pathbiasCountUseAttempt
  rw [hc]
  simp only [hcount, hps, Bool.not_true, Bool.false_eq_true, if_false]
  rw [if_neg (by decide), if_pos (by decide)]
  split <;> simp [setPathState, List.getElem?_modify, hc]

theorem Books.markUseSuccess {sys : Sys} (h : Books cfg P Q sys) {i : ℕ} {c : OriginCircuit}
    (hc : sys.circuits[i]? = some c) (hopen : c.markedForClose = false → c.hasOpened = true) :
    Books cfg P Q (pathbiasMarkUseSuccess cfg sys i) := by
  have hb := h.circuits i c hc
  unfold pathbiasMarkUseSuccess
  rw [hc]
  dsimp only
  by_cases hcount : (!pathbiasShouldCount cfg.options c) = true
  · rw [if_pos hcount]; exact h
  rw [if_neg hcount]
  replace hcount : pathbiasShouldCount cfg.options c = true := by simpa using hcount
  by_cases hbs : c.pathState = .buildSucceeded
  · rw [if_pos (by rw [hbs]; decide)]
    exact (h.countUseAttempt i).setPathState_use
      (pathbiasCountUseAttempt_getElem hc hcount hbs) hopen (fun _ _ _ => .inl rfl) (.inr rfl)
  have hprev : c.markedForClose = false → pathbiasShouldCount cfg.options c = true →
      (guardOf sys c).isSome → c.pathState = .useAttempted ∨ c.pathState = .useSucceeded :=
    fun hl hcnt hg => (hb.opened hl (hopen hl) hcnt hg).resolve_left hbs
  split_ifs
  · rw [pathbiasCountUseAttempt_of_ne hc hbs]
    exact h.setPathState_use hc hopen hprev (.inr rfl)
  · exact h.setPathState_use hc hopen hprev (.inr rfl)

theorem Books.markUseRollback {sys : Sys} (h : Books cfg P Q sys) {i : ℕ} {c : OriginCircuit}
    (hc : sys.circuits[i]? = some c) (hopen : c.markedForClose = false → c.hasOpened = true) :
    Books cfg P Q (pathbiasMarkUseRollback sys i) := by
  by_cases hus : c.pathState = .useSucceeded
  · have heq : pathbiasMarkUseRollback sys i = sys.setPathState i .useAttempted :=
      modifyCirc_congr hc (if_pos hus)
    rw [heq]
    exact h.setPathState_use hc hopen (fun _ _ _ => .inr hus) (.inl rfl)
  · have heq : pathbiasMarkUseRollback sys i = sys.modifyCirc i id := modifyCirc_congr hc (if_neg hus)
    simpa [heq, Sys.modifyCirc, List.modify_id] using h

theorem Books.checkProbeResponse {sys : Sys} (h : Books cfg P Q sys) {i : ℕ} {c : OriginCircuit}
    (hc : sys.circuits[i]? = some c) (hlive : c.markedForClose = false)
    (htesting : c.purpose = .pathBiasTesting) (cell : RelayCell) (o : CloseOracle) :
    Books cfg P Q (pathbiasCheckProbeResponse cfg sys i cell o).2 := by
  have hopened := (h.circuits i c hc).testing hlive htesting
  unfold pathbiasCheckProbeResponse
  rw [hc]
  dsimp only
  split_ifs
  all_goals first
    | exact h
    | exact (h.markUseSuccess hc fun _ => hopened).markForClose i _ _

/-- pathbias_count_build_attempt either leaves everything alone, and then it had no attempt to
count, or moves a counted, never-opened circuit from NEW_CIRC to BUILD_ATTEMPTED and then either
gives up on a guard the close-rate check leaves disabled or scales and counts the attempt. -/
theorem pathbiasCountBuildAttempt_cases {sys : Sys} {i : ℕ} {c : OriginCircuit}
    (hc : sys.circuits[i]? = some c) :
    (pathbiasCountBuildAttempt cfg sys i = (none, sys) ∧
      (pathbiasShouldCount cfg.options c = true → pathbiasIsNewCircAttempt c = true →
        c.hasOpened = false → (guardOf sys c).isSome → c.pathState ≠ .newCirc)) ∨
    ∃ d g, guardOf sys c = some (d, g) ∧ pathbiasShouldCount cfg.options c = true ∧
      c.hasOpened = false ∧ c.pathState = .newCirc ∧
      (pathbiasCountBuildAttempt cfg sys i = (some .torProtocol,
          (sys.setPathState i .buildAttempted).setGuard d
            (pathbiasMeasureCloseRate cfg (sys.setPathState i .buildAttempted).circuits d g)) ∨
        pathbiasCountBuildAttempt cfg sys i = (none,
          (sys.setPathState i .buildAttempted).setGuard d
            ((pathbiasScaleCloseRates cfg (sys.setPathState i .buildAttempted).circuits d
              (pathbiasMeasureCloseRate cfg (sys.setPathState i .buildAttempted).circuits d g)).bump
                .circAttempts))) := by
  unfold pathbiasCountBuildAttempt
  rw [hc]
  dsimp only
  by_cases hcount : pathbiasShouldCount cfg.options c = true
  swap
  · left; simp [hcount]
  by_cases hnew : pathbiasIsNewCircAttempt c = true ∧ c.hasOpened = false
  swap
  · left
    simp only [hcount, Bool.not_true, Bool.false_eq_true, if_false, Bool.not_eq_true']
    rw [if_neg hnew]
    exact ⟨rfl, fun _ h1 h2 => absurd ⟨h1, h2⟩ hnew⟩
  rw [if_neg (by simp [hcount]), if_pos (by simpa using hnew)]
  cases hg : guardOf sys c with
  | none => exact .inl ⟨rfl, fun _ _ _ h => by simp [hg] at h⟩
  | some dg =>
    obtain ⟨d, g⟩ := dg
    obtain ⟨-, hgd⟩ := guardOf_eq_some hg
    dsimp only
    by_cases hps : c.pathState = .newCirc
    · rw [if_pos hps]
      simp only [setPathState, modifyCirc_guards, hgd]
      refine .inr ⟨d, g, rfl, hcount, hnew.2, hps, ?_⟩
      rcases entryGuardIncCircAttemptCount_cases cfg
        (sys.modifyCirc i fun c => { c with pathState := .buildAttempted }).circuits d g with he | he <;>
        rw [he] <;> simp
    · rw [if_neg hps]
      exact .inl ⟨rfl, fun _ _ _ _ => hps⟩


/-- pathbias_count_build_attempt keeps the books when it returns 0. The scan that scales the
guard already finds the circuit in BUILD_ATTEMPTED, so the scaling can take the close slack
down to the ratio times one less, and the counted attempt brings it back. -/
theorem Books.countBuildAttempt {sys : Sys} (h : Books cfg P Q sys) {i : ℕ} {c : OriginCircuit}
    (hc : sys.circuits[i]? = some c) (hr : (pathbiasCountBuildAttempt cfg sys i).1 = none) :
    Books cfg P Q (pathbiasCountBuildAttempt cfg sys i).2 := by
  rcases pathbiasCountBuildAttempt_cases hc with ⟨he, -⟩ | ⟨d, g, hg, -, hopened, hps, he | he⟩ <;>
    rw [he] at hr ⊢
  · exact h
  · cases hr
  obtain ⟨hd, hgd⟩ := guardOf_eq_some hg
  have hb := h.circuits i c hc
  have hnew : ∀ lo hi, lo = .buildAttempted ∨ lo = .useAttempted →
      openCircInStates cfg.options d lo hi c = false := fun lo hi hlo =>
    openCircInStates_of_not_mem _ _ _ _ (by rcases hlo with rfl | rfl <;> simp [hps, PathState.toNat])
  simp only [setPathState, modifyCirc_circuits]
  refine h.modifyCirc_setGuard hc hd hgd rfl
    ⟨hb.length, hb.nonempty, hb.multihop, hb.testing, fun _ _ => .inr rfl, fun _ _ _ _ _ => rfl,
      fun _ ho => by simp [hopened] at ho⟩ ?_ ?_
  · intro hP
    obtain ⟨t, ht0, ht1, hscale⟩ := closeSlack_scaleCloseRates cfg
      (sys.circuits.modify (fun c => { c with pathState := .buildAttempted }) i) d
      (pathbiasMeasureCloseRate cfg
        (sys.circuits.modify (fun c => { c with pathState := .buildAttempted }) i) d g)
    rw [closeSlack_bump, hscale, closeSlack_measureCloseRate, closeSlack_modify cfg hc,
      hnew _ _ (.inl rfl)]
    simp only [Bool.false_eq_true, if_true, reduceCtorEq, if_false, add_zero]
    have hind := indicator_le_one (openCircInStates cfg.options d .buildAttempted .buildAttempted
      { c with pathState := .buildAttempted })
    have := mul_le_mul_of_nonneg_left (show (-1 : ℚ) ≤ closeSlack cfg sys.circuits d g -
      (if openCircInStates cfg.options d .buildAttempted .buildAttempted
        { c with pathState := .buildAttempted } then 1 else 0) by linarith [h.close d g hgd hP]) ht0
    linarith
  · rw [useSlack_bump, useSlack_scaleCloseRates, useSlack_measureCloseRate, useSlack_modify cfg hc,
      hnew _ _ (.inr rfl), openCircInStates_of_not_mem _ _ _ _ (by simp [PathState.toNat])]
    simpa using h.use d g hgd

/-- What pathbias_count_build_attempt leaves of the circuit when it returns 0: only its path
state may change, and a live, counted, never-opened circuit at a known guard whose second hop
awaits keys ends in BUILD_ATTEMPTED. -/
theorem Books.countBuildAttempt_circuit {sys : Sys} (h : Books cfg P Q sys) {i : ℕ}
    {c : OriginCircuit} (hc : sys.circuits[i]? = some c)
    (hr : (pathbiasCountBuildAttempt cfg sys i).1 = none) :
    ∃ ps, (pathbiasCountBuildAttempt cfg sys i).2.circuits[i]? = some { c with pathState := ps } ∧
      (c.markedForClose = false → pathbiasIsNewCircAttempt c = true → c.hasOpened = false →
        pathbiasShouldCount cfg.options c = true → (guardOf sys c).isSome →
        ps = .buildAttempted) := by
  rcases pathbiasCountBuildAttempt_cases hc with ⟨he, hnot⟩ | ⟨d, g, -, -, -, -, he | he⟩ <;>
    rw [he] at hr ⊢
  · refine ⟨c.pathState, hc, fun hl hnew ho hcount hg => ?_⟩
    exact ((h.circuits i c hc).fresh hl ho).resolve_left (hnot hcount hnew ho hg)
  · cases hr
  · exact ⟨.buildAttempted, getElem?_modifyCirc_self hc _, fun _ _ _ _ _ => rfl⟩

theorem circuitMarkForClose_of_buildAttempted {sys : Sys} {i : ℕ} {c : OriginCircuit}
    (hc : sys.circuits[i]? = some c) (hlive : c.markedForClose = false)
    (hcount : pathbiasShouldCount cfg.options c = true) (hps : c.pathState = .buildAttempted)
    (reason : CloseReason) (o : CloseOracle) :
    circuitMarkForClose cfg sys i reason o = markClosed (sys.setPathState i .alreadyCounted) i := by
  simp [circuitMarkForClose, circuitMarkForCloseDepth, pathbiasCheckClose, hc, hlive, hcount, hps,
    markClosed]

theorem Books.countBuildAttempt_close {sys : Sys} (h : Books cfg P Q sys) {i : ℕ} {c : OriginCircuit}
    (hc : sys.circuits[i]? = some c) (hlive : c.markedForClose = false) {r : EndCircReason}
    (hr : (pathbiasCountBuildAttempt cfg sys i).1 = some r) (reason : CloseReason)
    (o : CloseOracle) :
    Books cfg P Q (circuitMarkForClose cfg (pathbiasCountBuildAttempt cfg sys i).2 i reason o) := by
  rcases pathbiasCountBuildAttempt_cases hc with ⟨he, -⟩ | ⟨d, g, hg, hcount, -, -, he | he⟩ <;>
    rw [he] at hr ⊢
  · cases hr
  · obtain ⟨-, hgd⟩ := guardOf_eq_some hg
    rw [circuitMarkForClose_of_buildAttempted (c := { c with pathState := .buildAttempted })
      (by simp [setPathState, List.getElem?_modify, hc]) hlive hcount rfl]
    have hb := h.marked_setPathState i .alreadyCounted
    have heq : markClosed (((sys.setPathState i .buildAttempted).setGuard d
        (pathbiasMeasureCloseRate cfg (sys.setPathState i .buildAttempted).circuits d g)).setPathState
          i .alreadyCounted) i =
        (markClosed (sys.setPathState i .alreadyCounted) i).setGuard d
          (pathbiasMeasureCloseRate cfg (sys.setPathState i .buildAttempted).circuits d g) := by
      simp only [markClosed, setPathState, setGuard_modifyCirc, modifyCirc_modifyCirc]
      rfl
    rw [heq]
    exact hb.setGuard hgd (by simpa using hb.close d g hgd) (by simpa using hb.use d g hgd)
  · cases hr

theorem Books.setHasOpened {sys : Sys} (h : Books cfg P Q sys) {i : ℕ} {c : OriginCircuit}
    (hc : sys.circuits[i]? = some c)
    (hps : c.markedForClose = false → pathbiasShouldCount cfg.options c = true →
      (guardOf sys c).isSome → c.pathState = .buildSucceeded ∨ c.pathState = .useAttempted ∨
        c.pathState = .useSucceeded) :
    Books cfg P Q (sys.modifyCirc i fun c => { c with hasOpened := true }) := by
  have hb := h.circuits i c hc
  exact h.modifyCirc_of_le hc ⟨hb.length, hb.nonempty, hb.multihop, fun _ _ => rfl,
    fun _ ho => (by cases ho), fun _ ho => (by cases ho), fun hl _ hcnt hg => hps hl hcnt hg⟩
    (fun _ _ _ => id) (fun _ _ _ => id)

theorem CircBooks.second_open {sys : Sys} {c : OriginCircuit} (hb : CircBooks cfg sys c)
    (hcount : pathbiasShouldCount cfg.options c = true)
    (hopen : ∀ hop ∈ c.cpath, hop.state = .open) : c.cpath[1]?.map (·.state) = some .open := by
  have hlen : 1 < c.cpath.length := by
    have := hb.multihop (shouldCount_multihop hcount).1
    have := hb.length
    omega
  rw [List.getElem?_eq_getElem hlen, Option.map_some', hopen _ (List.getElem_mem hlen)]

/-- pathbias_count_build_success and the mark of has_opened, on a live circuit whose hops are
all open. A counted circuit at a known guard is in BUILD_ATTEMPTED, by the books; it moves to
BUILD_SUCCEEDED as its guard's successes grow by one. -/
theorem Books.countBuildSuccess_opened {sys : Sys} (h : Books cfg P Q sys) {i : ℕ}
    {c : OriginCircuit} (hc : sys.circuits[i]? = some c) (hlive : c.markedForClose = false)
    (hopen : ∀ hop ∈ c.cpath, hop.state = .open) :
    Books cfg P Q ((pathbiasCountBuildSuccess cfg sys i).modifyCirc i
      fun c => { c with hasOpened := true }) := by
  have hb := h.circuits i c hc
  unfold pathbiasCountBuildSuccess
  rw [hc]
  dsimp only
  by_cases hcount : pathbiasShouldCount cfg.options c = true
  swap
  · rw [if_pos (by simpa using hcount)]
    exact h.setHasOpened hc fun _ hcnt => absurd hcnt hcount
  rw [if_neg (by simpa using hcount)]
  cases hop : c.hasOpened
  swap
  · exact h.setHasOpened hc fun hl hcnt hg => hb.opened hl hop hcnt hg
  simp only [Bool.not_false, if_true]
  cases hg : guardOf sys c with
  | none => exact h.setHasOpened hc fun _ _ hg' => by simp [hg] at hg'
  | some dg =>
    obtain ⟨d, g⟩ := dg
    obtain ⟨hd, hgd⟩ := guardOf_eq_some hg
    have hba : c.pathState = .buildAttempted :=
      hb.attempted hlive hop hcount (by simp [hg]) (hb.second_open hcount hopen)
    dsimp only
    rw [if_pos hba, setGuard_modifyCirc, setPathState, modifyCirc_modifyCirc]
    refine h.modifyCirc_setGuard hc hd hgd rfl ⟨hb.length, hb.nonempty, hb.multihop,
      fun _ _ => rfl, fun _ ho => (by cases ho), fun _ ho => (by cases ho),
      fun _ _ _ _ => .inl rfl⟩ ?_ ?_
    · intro hP
      have hin : openCircInStates cfg.options d .buildAttempted .buildAttempted c = true := by
        rw [openCircInStates_eq_true, hba]
        exact ⟨hlive, hd, hcount, le_rfl, le_rfl⟩
      rw [closeSlack_bump, closeSlack_modify cfg hc, hin,
        openCircInStates_of_not_mem _ _ _ _ (by simp [PathState.toNat])]
      simp only [if_true, reduceCtorEq, if_false, Bool.false_eq_true]
      linarith [h.close d g hgd hP]
    · rw [useSlack_bump, useSlack_modify cfg hc,
        openCircInStates_of_not_mem _ _ _ _ (by simp [hba, PathState.toNat]),
        openCircInStates_of_not_mem _ _ _ _ (by simp [PathState.toNat])]
      simpa using h.use d g hgd

end Ops

end TorCircuitBuild.PathBias
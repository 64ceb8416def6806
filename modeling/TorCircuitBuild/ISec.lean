import Mathlib.Data.List.Basic
import TorCircuitBuild.BuildMachine

set_option autoImplicit false

/-!
# The iSec lines of this fork

This fork of Tor adds two things to path selection. Each relay picked as entry, middle or exit
has its address and consensus bandwidth written into the circuit (onion_pick_cpath_exit and
onion_extend_cpath). circuit_establish_circuit then logs them in one ALL-IN-ONE-CREATE line.
Here path selection is modelled again with those writes. The bandwidth is read through
node->rs, which the fork never checks, so a chosen relay without a routerstatus is a NULL
dereference (`Fault.nullRs`). Short of that the recording never changes which path is built:
forgetting the records gives the `PathSelection` model back. The fields a built circuit holds
are characterized, the CIRC-ID the line prints is the id the first create took, and the line
splits at its colons back into its fields whenever no address in it holds a colon.
-/

namespace TorCircuitBuild.ISec

open PathSelection PathBias Build CircId

/-- What the iSec lines read of a chosen relay: node_get_address_string and rs->bandwidth_kb. -/
structure NodeRecord where
  ip : String
  bw : ℕ
  deriving DecidableEq, Repr

/-- The fields the fork adds to circuit_t; origin_circuit_new allocates the circuit zeroed. -/
structure ISecFields where
  entryIp : String
  gbw : ℕ
  middleIp : String
  mbw : ℕ
  exitIp : String
  ebw : ℕ
  deriving DecidableEq, Repr

def ISecFields.zero : ISecFields := ⟨"", 0, "", 0, "", 0⟩

/-- How the fork's path selection fails besides returning -1: the iSec lines read
node->rs->bandwidth_kb of a chosen relay whose routerstatus is NULL. -/
inductive Fault
  | nullRs
  deriving DecidableEq, Repr

/-- The node choices of path selection, each with the record of the node it chose; the record
is none when the node's rs is NULL. -/
structure RecSelectors where
  exit : Purpose → CpathBuildState → Option (ExtendInfo × Option NodeRecord)
  entry : Purpose → CpathBuildState → Option (ExtendInfo × Option NodeRecord)
  middle : Purpose → CpathBuildState → List CryptPath → ℕ → Option (ExtendInfo × Option NodeRecord)

/-- The same choices without the records. -/
def RecSelectors.forget (sel : RecSelectors) : Selectors where
  exit p s := (sel.exit p s).map (·.1)
  entry p s := (sel.entry p s).map (·.1)
  middle p s cpath n := (sel.middle p s cpath n).map (·.1)

/-- A relay the choice returns has a routerstatus. -/
def HasRs (c : Option (ExtendInfo × Option NodeRecord)) : Prop :=
  ∀ e r, c = some (e, r) → r.isSome

/-- Every relay the choices return has a routerstatus. -/
structure RecSelectors.RsKnown (sel : RecSelectors) : Prop where
  exit : ∀ p s, HasRs (sel.exit p s)
  entry : ∀ p s, HasRs (sel.entry p s)
  middle : ∀ p s cpath n, HasRs (sel.middle p s cpath n)

/-- A choice and the iSec lines after it: no relay, the relay with its record written by
`write`, or the NULL dereference of its rs. -/
def recordChoice (c : Option (ExtendInfo × Option NodeRecord)) (write : NodeRecord → ISecFields) :
    Except Fault (Option (ExtendInfo × ISecFields)) :=
  match c with
  | none => .ok none
  | some (e, some r) => .ok (some (e, write r))
  | some (_, none) => .error .nullRs

/-- onion_pick_cpath_exit: a chosen exit is recorded, a requested one is not. -/
def onionPickCpathExit (sel : RecSelectors) (nodes : List Node) (circ : OriginCircuit)
    (f : ISecFields) (exit : Option ExtendInfo) :
    Except Fault (Option (OriginCircuit × ISecFields)) :=
  match pickRouteLen circ exit nodes with
  | none => .ok none
  | some len =>
    let state := { circ.buildState with desiredPathLen := len }
    let chosen : Except Fault (Option (ExtendInfo × ISecFields)) := match exit with
      | some e => .ok (some (e, f))
      | none => recordChoice (sel.exit circ.purpose state) fun r =>
          { f with exitIp := r.ip, ebw := r.bw }
    chosen.map <| Option.map fun c =>
      ({ circ with buildState := { state with chosenExit := some c.1 } }, c.2)

/-- The hop onion_extend_cpath picks, with the record it writes: the entry's or a middle's,
none for the last hop, which is the chosen exit. -/
def hopChoice (sel : RecSelectors) (purpose : Purpose) (state : CpathBuildState)
    (cpath : List CryptPath) (f : ISecFields) : Except Fault (Option (ExtendInfo × ISecFields)) :=
  if cpath.length = state.desiredPathLen - 1 then .ok (state.chosenExit.map (·, f))
  else if cpath.length = 0 then
    recordChoice (sel.entry purpose state) fun r => { f with entryIp := r.ip, gbw := r.bw }
  else recordChoice (sel.middle purpose state cpath cpath.length) fun r =>
    { f with middleIp := r.ip, mbw := r.bw }

def onionExtendCpath (sel : RecSelectors) (circ : OriginCircuit) (f : ISecFields) :
    Except Fault (ℤ × OriginCircuit × ISecFields) :=
  if circ.buildState.desiredPathLen ≤ circ.cpath.length then .ok (1, circ, f)
  else (hopChoice sel circ.purpose circ.buildState circ.cpath f).map fun
    | none => (-1, circ, f)
    | some (info, f) => (0, { circ with cpath := PathSelection.onionAppendHop circ.cpath info }, f)

def onionPopulateCpath (sel : RecSelectors) :
    ℕ → OriginCircuit → ISecFields → Except Fault (Option (ℤ × OriginCircuit × ISecFields))
  | 0, _, _ => .ok none
  | fuel + 1, circ, f =>
    match onionExtendCpath sel circ f with
    | .error e => .error e
    | .ok r =>
      if r.1 < 0 then .ok (some (-1, r.2))
      else if r.1 = 0 then onionPopulateCpath sel fuel r.2.1 r.2.2
      else .ok (some (0, r.2))

/-- The path part of circuit_establish_circuit, with the fields the circuit ends with. -/
def circuitEstablishPath (sel : RecSelectors) (nodes : List Node) (purpose : Purpose)
    (exit : Option ExtendInfo) (flags : LaunchFlags) : Except Fault (PathResult × ISecFields) :=
  match onionPickCpathExit sel nodes (originCircuitInit purpose flags) .zero exit with
  | .error e => .error e
  | .ok none => .ok (.noPath, .zero)
  | .ok (some (circ, f)) =>
    match onionPopulateCpath sel (circ.buildState.desiredPathLen + 1) circ f with
    | .error e => .error e
    | .ok none => .ok (.running, f)
    | .ok (some (r, circ, f)) => .ok (if r < 0 then (.noPath, f) else (.built circ, f))

/-! ## The records change no choice -/

theorem map_eq_ok {α β : Type} {g : α → β} {r : Except Fault α} {x : β} (h : r.map g = .ok x) :
    ∃ y, r = .ok y ∧ x = g y := by
  cases r with
  | error e => cases h
  | ok y => exact ⟨y, rfl, (Except.ok.inj h).symm⟩

section Forget

variable (sel : RecSelectors)

theorem recordChoice_forget {c : Option (ExtendInfo × Option NodeRecord)}
    {write : NodeRecord → ISecFields} {x : Option (ExtendInfo × ISecFields)}
    (h : recordChoice c write = .ok x) : x.map (·.1) = c.map (·.1) := by
  rcases c with _ | ⟨e, _ | r⟩ <;> cases h <;> rfl

theorem onionPickCpathExit_forget {nodes : List Node} {circ : OriginCircuit} {f : ISecFields}
    {exit : Option ExtendInfo} {x : Option (OriginCircuit × ISecFields)}
    (h : onionPickCpathExit sel nodes circ f exit = .ok x) :
    x.map (·.1) = PathSelection.onionPickCpathExit sel.forget nodes circ exit := by
  unfold onionPickCpathExit at h
  unfold PathSelection.onionPickCpathExit
  cases hlen : pickRouteLen circ exit nodes with
  | none => rw [hlen] at h; cases h; rfl
  | some len =>
    rw [hlen] at h
    obtain ⟨y, hy, rfl⟩ := map_eq_ok h
    cases exit with
    | some e => cases hy; rfl
    | none =>
      dsimp only at hy
      simp only [Option.some_bind, RecSelectors.forget]
      rw [← recordChoice_forget hy, Option.map_map, Option.map_map]
      rfl

theorem hopChoice_forget {purpose : Purpose} {state : CpathBuildState} {cpath : List CryptPath}
    {f : ISecFields} {x : Option (ExtendInfo × ISecFields)}
    (h : hopChoice sel purpose state cpath f = .ok x) :
    x.map (·.1) = PathSelection.hopChoice sel.forget purpose state cpath := by
  unfold hopChoice at h
  unfold PathSelection.hopChoice
  split_ifs at h ⊢
  · cases h
    cases state.chosenExit <;> rfl
  · exact recordChoice_forget h
  · exact recordChoice_forget h

theorem onionExtendCpath_forget {circ : OriginCircuit} {f : ISecFields}
    {x : ℤ × OriginCircuit × ISecFields} (h : onionExtendCpath sel circ f = .ok x) :
    (x.1, x.2.1) = PathSelection.onionExtendCpath sel.forget circ := by
  unfold onionExtendCpath at h
  unfold PathSelection.onionExtendCpath
  split_ifs at h ⊢
  · cases h
    rfl
  · obtain ⟨y, hy, rfl⟩ := map_eq_ok h
    rw [← hopChoice_forget sel hy]
    rcases y with _ | ⟨info, f'⟩ <;> rfl

theorem onionPopulateCpath_forget : ∀ (fuel : ℕ) (circ : OriginCircuit) (f : ISecFields)
    {x : Option (ℤ × OriginCircuit × ISecFields)}, onionPopulateCpath sel fuel circ f = .ok x →
    x.map (fun r => (r.1, r.2.1)) = PathSelection.onionPopulateCpath sel.forget fuel circ
  | 0, _, _, _, h => by cases h; rfl
  | fuel + 1, circ, f, x, h => by
    rw [onionPopulateCpath] at h
    cases hr : onionExtendCpath sel circ f with
    | error e => rw [hr] at h; cases h
    | ok r =>
      rw [hr] at h
      rw [PathSelection.onionPopulateCpath, ← onionExtendCpath_forget sel hr]
      dsimp only at h ⊢
      split_ifs at h ⊢
      · cases h
        rfl
      · exact onionPopulateCpath_forget fuel _ _ h
      · cases h
        rfl

/-- A path selection the iSec lines let finish decides what the unforked one decides. -/
theorem circuitEstablishPath_forget {nodes : List Node} {purpose : Purpose}
    {exit : Option ExtendInfo} {flags : LaunchFlags} {x : PathResult × ISecFields}
    (h : circuitEstablishPath sel nodes purpose exit flags = .ok x) :
    x.1 = PathSelection.circuitEstablishPath sel.forget nodes purpose exit flags := by
  unfold circuitEstablishPath at h
  unfold PathSelection.circuitEstablishPath
  cases hp : onionPickCpathExit sel nodes (originCircuitInit purpose flags) .zero exit with
  | error e => rw [hp] at h; cases h
  | ok y =>
    rw [hp] at h
    rw [← onionPickCpathExit_forget sel hp]
    rcases y with _ | ⟨circ, f⟩
    · cases h
      rfl
    dsimp only [Option.map_some'] at h ⊢
    cases hq : onionPopulateCpath sel (circ.buildState.desiredPathLen + 1) circ f with
    | error e => rw [hq] at h; cases h
    | ok z =>
      rw [hq] at h
      rw [← onionPopulateCpath_forget sel _ _ _ hq]
      rcases z with _ | ⟨r, circ', f'⟩
      · cases h
        rfl
      · cases h
        dsimp only [Option.map_some']
        split_ifs <;> rfl

end Forget

/-! ## No fault while every chosen relay has a routerstatus -/

section NoFault

theorem recordChoice_of_hasRs {c : Option (ExtendInfo × Option NodeRecord)} (hc : HasRs c)
    (write : NodeRecord → ISecFields) :
    recordChoice c write = .ok (c.bind fun c => c.2.map fun r => (c.1, write r)) := by
  rcases c with _ | ⟨e, _ | r⟩
  · rfl
  · exact absurd (hc e none rfl) Bool.false_ne_true
  · rfl

variable {sel : RecSelectors} (hrs : sel.RsKnown)
include hrs

theorem onionPickCpathExit_ok (nodes : List Node) (circ : OriginCircuit) (f : ISecFields)
    (exit : Option ExtendInfo) : ∃ x, onionPickCpathExit sel nodes circ f exit = .ok x := by
  unfold onionPickCpathExit
  cases pickRouteLen circ exit nodes with
  | none => exact ⟨_, rfl⟩
  | some len =>
    cases exit with
    | some e => exact ⟨_, rfl⟩
    | none =>
      dsimp only
      rw [recordChoice_of_hasRs (hrs.exit _ _)]
      exact ⟨_, rfl⟩

theorem onionExtendCpath_ok (circ : OriginCircuit) (f : ISecFields) :
    ∃ x, onionExtendCpath sel circ f = .ok x := by
  unfold onionExtendCpath hopChoice
  split_ifs
  · exact ⟨_, rfl⟩
  · exact ⟨_, rfl⟩
  · rw [recordChoice_of_hasRs (hrs.entry _ _)]
    exact ⟨_, rfl⟩
  · rw [recordChoice_of_hasRs (hrs.middle _ _ _ _)]
    exact ⟨_, rfl⟩

theorem onionPopulateCpath_ok : ∀ (fuel : ℕ) (circ : OriginCircuit) (f : ISecFields),
    ∃ x, onionPopulateCpath sel fuel circ f = .ok x
  | 0, _, _ => ⟨_, rfl⟩
  | fuel + 1, circ, f => by
    obtain ⟨r, hr⟩ := onionExtendCpath_ok hrs circ f
    rw [onionPopulateCpath, hr]
    dsimp only
    split_ifs
    · exact ⟨_, rfl⟩
    · exact onionPopulateCpath_ok fuel _ _
    · exact ⟨_, rfl⟩

theorem circuitEstablishPath_ok (nodes : List Node) (purpose : Purpose)
    (exit : Option ExtendInfo) (flags : LaunchFlags) :
    ∃ x, circuitEstablishPath sel nodes purpose exit flags = .ok x := by
  unfold circuitEstablishPath
  obtain ⟨y, hy⟩ := onionPickCpathExit_ok hrs nodes (originCircuitInit purpose flags) .zero exit
  rw [hy]
  rcases y with _ | ⟨circ, f⟩
  · exact ⟨_, rfl⟩
  obtain ⟨z, hz⟩ := onionPopulateCpath_ok hrs (circ.buildState.desiredPathLen + 1) circ f
  dsimp only
  rw [hz]
  rcases z with _ | ⟨r, circ', f'⟩ <;> exact ⟨_, rfl⟩

end NoFault

/-! ## What a built circuit records -/

/-- The choice `c` picked the relay of `hop`, and the record written is that relay's. -/
def HasRecord (c : Option (ExtendInfo × Option NodeRecord)) (hop : CryptPath) (ip : String)
    (bw : ℕ) : Prop :=
  ∃ r, c = some (hop.extendInfo, some r) ∧ ip = r.ip ∧ bw = r.bw

/-- The records once the hops `cpath` are chosen, from the fields `f₀` the exit choice left: the
exit's fields are not written again, the entry's are the first hop's once it was picked as an
entry, and the middle's are those of the last middle hop picked. -/
structure Recorded (sel : RecSelectors) (purpose : Purpose) (state : CpathBuildState)
    (f₀ : ISecFields) (cpath : List CryptPath) (f : ISecFields) : Prop where
  exit : f.exitIp = f₀.exitIp ∧ f.ebw = f₀.ebw
  entryOff : cpath = [] ∨ state.desiredPathLen < 2 → f.entryIp = f₀.entryIp ∧ f.gbw = f₀.gbw
  entryOn : ∀ hop, cpath.head? = some hop → 2 ≤ state.desiredPathLen →
    HasRecord (sel.entry purpose state) hop f.entryIp f.gbw
  middleOff : cpath.length < 2 ∨ state.desiredPathLen < 3 → f.middleIp = f₀.middleIp ∧ f.mbw = f₀.mbw
  middleOn : 2 ≤ cpath.length → 3 ≤ state.desiredPathLen →
    let k := min (cpath.length - 1) (state.desiredPathLen - 2)
    ∀ hop, cpath[k]? = some hop → HasRecord (sel.middle purpose state (cpath.take k) k) hop f.middleIp f.mbw

section Records

variable {sel : RecSelectors} {purpose : Purpose} {state : CpathBuildState}
  {cpath : List CryptPath} {f f' : ISecFields} {info : ExtendInfo}

theorem recordChoice_eq_some {c : Option (ExtendInfo × Option NodeRecord)}
    {write : NodeRecord → ISecFields} (hc : recordChoice c write = .ok (some (info, f'))) :
    ∃ r, c = some (info, some r) ∧ f' = write r := by
  rcases c with _ | ⟨e, _ | r⟩ <;> cases hc
  exact ⟨r, rfl, rfl⟩

theorem hopChoice_cases (hc : hopChoice sel purpose state cpath f = .ok (some (info, f'))) :
    (cpath.length = state.desiredPathLen - 1 ∧ f' = f) ∨
      (cpath.length ≠ state.desiredPathLen - 1 ∧ cpath.length = 0 ∧
        ∃ r, sel.entry purpose state = some (info, some r) ∧
          f' = { f with entryIp := r.ip, gbw := r.bw }) ∨
      (cpath.length ≠ state.desiredPathLen - 1 ∧ cpath.length ≠ 0 ∧
        ∃ r, sel.middle purpose state cpath cpath.length = some (info, some r) ∧
          f' = { f with middleIp := r.ip, mbw := r.bw }) := by
  unfold hopChoice at hc
  split_ifs at hc with hlast hzero
  · obtain ⟨e, -, he⟩ := Option.map_eq_some'.mp (Except.ok.inj hc)
    exact .inl ⟨hlast, (Prod.mk.inj he).2.symm⟩
  · exact .inr (.inl ⟨hlast, hzero, recordChoice_eq_some hc⟩)
  · exact .inr (.inr ⟨hlast, hzero, recordChoice_eq_some hc⟩)

theorem Recorded.step {f₀ : ISecFields} (h : Recorded sel purpose state f₀ cpath f)
    (hlt : cpath.length < state.desiredPathLen)
    (hc : hopChoice sel purpose state cpath f = .ok (some (info, f'))) :
    Recorded sel purpose state f₀ (PathSelection.onionAppendHop cpath info) f' := by
  have hlen : (PathSelection.onionAppendHop cpath info).length = cpath.length + 1 := by
    simp [PathSelection.onionAppendHop]
  have hhead : cpath ≠ [] → (PathSelection.onionAppendHop cpath info).head? = cpath.head? := by
    intro hne
    obtain ⟨a, as, rfl⟩ := List.exists_cons_of_ne_nil hne
    rfl
  have hget : ∀ k, k < cpath.length → (PathSelection.onionAppendHop cpath info)[k]? = cpath[k]? :=
    fun k hk => List.getElem?_append_left hk
  have htake : ∀ k, k ≤ cpath.length → (PathSelection.onionAppendHop cpath info).take k =
      cpath.take k := fun k hk => List.take_append_of_le_length hk
  have hne : PathSelection.onionAppendHop cpath info ≠ [] := by simp [PathSelection.onionAppendHop]
  rcases hopChoice_cases hc with ⟨hlast, rfl⟩ | ⟨hlast, hzero, r, hr, rfl⟩ |
    ⟨hlast, hzero, r, hr, rfl⟩
  · -- the exit: the records stay, and the last middle is still the one before it
    refine ⟨h.exit, fun hoff => h.entryOff (.inr (hoff.resolve_left hne)), fun hop hh h2 => ?_,
      fun hoff => h.middleOff (by omega), fun h2 h3 hop hh => ?_⟩
    · have hcne : cpath ≠ [] := fun e => by simp [e] at hlast; omega
      exact h.entryOn hop (by rwa [← hhead hcne]) h2
    · have hk : min (cpath.length + 1 - 1) (state.desiredPathLen - 2) =
          min (cpath.length - 1) (state.desiredPathLen - 2) := by
        rw [Nat.min_eq_right (by omega), Nat.min_eq_right (by omega)]
      simp only [hlen, hk] at hh ⊢
      rw [hget _ (by omega)] at hh
      rw [htake _ (by omega)]
      exact h.middleOn (by omega) h3 hop hh
  · -- the entry
    have hnil : cpath = [] := List.length_eq_zero.mp hzero
    subst hnil
    refine ⟨h.exit, fun hoff => ?_, fun hop hh _ => ⟨r, ?_, rfl, rfl⟩,
      fun _ => h.middleOff (.inl (by simp)), fun h2 => by simp [PathSelection.onionAppendHop] at h2⟩
    · exact absurd (hoff.resolve_left hne) (by simp at hlast; omega)
    · simp only [PathSelection.onionAppendHop, List.nil_append, List.head?_cons,
        Option.some.injEq] at hh
      rw [hr, ← hh]
  · -- a middle: it becomes the last middle
    have hcne : cpath ≠ [] := fun e => hzero (by simp [e])
    refine ⟨h.exit, fun hoff => absurd (hoff.resolve_left hne) (by omega), fun hop hh h2 => ?_,
      fun hoff => absurd hoff (by omega), fun _ _ hop hh => ⟨r, ?_, rfl, rfl⟩⟩
    · exact h.entryOn hop (by rwa [← hhead hcne]) h2
    · have hk : min ((PathSelection.onionAppendHop cpath info).length - 1)
          (state.desiredPathLen - 2) = cpath.length := by
        rw [hlen, Nat.add_sub_cancel, Nat.min_eq_left (by omega)]
      simp only [hk] at hh ⊢
      rw [htake _ le_rfl, List.take_length]
      simp only [PathSelection.onionAppendHop, List.getElem?_concat_length, Option.some.injEq] at hh
      rw [hr, ← hh]

theorem onionExtendCpath_cases {circ : OriginCircuit} {x : ℤ × OriginCircuit × ISecFields}
    (h : onionExtendCpath sel circ f = .ok x) :
    (circ.buildState.desiredPathLen ≤ circ.cpath.length ∧ x = (1, circ, f)) ∨
      (hopChoice sel circ.purpose circ.buildState circ.cpath f = .ok none ∧ x = (-1, circ, f)) ∨
      (circ.cpath.length < circ.buildState.desiredPathLen ∧ ∃ info f',
        hopChoice sel circ.purpose circ.buildState circ.cpath f = .ok (some (info, f')) ∧
        x = (0, { circ with cpath := PathSelection.onionAppendHop circ.cpath info }, f')) := by
  unfold onionExtendCpath at h
  split_ifs at h with hle
  · exact .inl ⟨hle, (Except.ok.inj h).symm⟩
  · obtain ⟨y, hy, rfl⟩ := map_eq_ok h
    rcases y with _ | ⟨info, f'⟩
    · exact .inr (.inl ⟨hy, rfl⟩)
    · exact .inr (.inr ⟨Nat.lt_of_not_le hle, info, f', hy, rfl⟩)

theorem recorded_nil (sel : RecSelectors) (purpose : Purpose) (state : CpathBuildState)
    (f : ISecFields) : Recorded sel purpose state f [] f :=
  ⟨⟨rfl, rfl⟩, fun _ => ⟨rfl, rfl⟩, fun _ h => (nomatch h), fun _ => ⟨rfl, rfl⟩,
    fun h => absurd h (by simp)⟩

theorem onionPopulateCpath_recorded (sel : RecSelectors) {f₀ : ISecFields} :
    ∀ (fuel : ℕ) (circ : OriginCircuit) (f : ISecFields) {r : ℤ} {circ' : OriginCircuit}
      {f' : ISecFields}, onionPopulateCpath sel fuel circ f = .ok (some (r, circ', f')) → ¬r < 0 →
      Recorded sel circ.purpose circ.buildState f₀ circ.cpath f →
      circ' = { circ with cpath := circ'.cpath } ∧
        Recorded sel circ.purpose circ.buildState f₀ circ'.cpath f'
  | 0, _, _, _, _, _, h, _, _ => nomatch h
  | fuel + 1, circ, f, r, circ', f', h, hr, hrec => by
    rw [onionPopulateCpath] at h
    cases hx : onionExtendCpath sel circ f with
    | error e => rw [hx] at h; cases h
    | ok x =>
    rw [hx] at h
    dsimp only at h
    rcases onionExtendCpath_cases hx with ⟨-, rfl⟩ | ⟨-, rfl⟩ | ⟨hlt, info, f₁, hc, rfl⟩
    · -- the path is complete
      simp only [Int.reduceLT, Int.reduceEq, if_false, Except.ok.injEq, Option.some.injEq,
        Prod.mk.injEq] at h
      obtain ⟨-, rfl, rfl⟩ := h
      exact ⟨rfl, hrec⟩
    · simp only [Int.reduceNeg, Int.reduceLT, if_true, Except.ok.injEq, Option.some.injEq,
        Prod.mk.injEq] at h
      exact absurd (h.1 ▸ Int.negSucc_lt_zero 0) hr
    · simp only [lt_self_iff_false, if_false, if_true] at h
      obtain ⟨he, hrec'⟩ := onionPopulateCpath_recorded sel fuel _ _ h hr (hrec.step hlt hc)
      exact ⟨he, hrec'⟩

/-- What the fields of a circuit built by circuit_establish_circuit hold, and so what its
ALL-IN-ONE-CREATE line logs. EXIT-IP and EXIT-BW stay empty when the exit was requested, and hold
the exit's record when path selection chose it. ENTRY-IP and ENTRY-BW hold the first hop's
record on any path of two hops or more. MIDDLE-IP and MIDDLE-BW hold the record of the hop just
before the exit on a path of three hops or more, so a longer path logs only its last middle. -/
structure BuiltRecords (sel : RecSelectors) (purpose : Purpose) (exit : Option ExtendInfo)
    (circ : OriginCircuit) (f : ISecFields) : Prop where
  exitRequested : exit.isSome → f.exitIp = "" ∧ f.ebw = 0
  exitChosen : exit = none → ∃ e r, circ.buildState.chosenExit = some e ∧
    sel.exit purpose { circ.buildState with chosenExit := none } = some (e, some r) ∧
    f.exitIp = r.ip ∧ f.ebw = r.bw
  entryOff : circ.buildState.desiredPathLen < 2 → f.entryIp = "" ∧ f.gbw = 0
  entryOn : 2 ≤ circ.buildState.desiredPathLen → ∃ hop, circ.cpath.head? = some hop ∧
    HasRecord (sel.entry purpose circ.buildState) hop f.entryIp f.gbw
  middleOff : circ.buildState.desiredPathLen < 3 → f.middleIp = "" ∧ f.mbw = 0
  middleOn : 3 ≤ circ.buildState.desiredPathLen →
    ∃ hop, circ.cpath[circ.buildState.desiredPathLen - 2]? = some hop ∧
      HasRecord (sel.middle purpose circ.buildState
        (circ.cpath.take (circ.buildState.desiredPathLen - 2))
        (circ.buildState.desiredPathLen - 2)) hop f.middleIp f.mbw

theorem establishPath_built_forget {sel : RecSelectors} {nodes : List Node} {purpose : Purpose}
    {exit : Option ExtendInfo} {flags : LaunchFlags} {circ : OriginCircuit} {f : ISecFields}
    (h : circuitEstablishPath sel nodes purpose exit flags = .ok (.built circ, f)) :
    PathSelection.circuitEstablishPath sel.forget nodes purpose exit flags = .built circ :=
  (circuitEstablishPath_forget sel h).symm

theorem onionPickCpathExit_eq_some {sel : RecSelectors} {nodes : List Node}
    {circ start : OriginCircuit} {f f₀ : ISecFields} {exit : Option ExtendInfo}
    (h : onionPickCpathExit sel nodes circ f exit = .ok (some (start, f₀))) :
    ∃ len e, pickRouteLen circ exit nodes = some len ∧
      start = { circ with buildState :=
        { circ.buildState with desiredPathLen := len, chosenExit := some e } } ∧
      ((exit = some e ∧ f₀ = f) ∨
        (exit = none ∧ ∃ r, sel.exit circ.purpose { circ.buildState with desiredPathLen := len } =
          some (e, some r) ∧ f₀ = { f with exitIp := r.ip, ebw := r.bw })) := by
  unfold onionPickCpathExit at h
  cases hlen : pickRouteLen circ exit nodes with
  | none => rw [hlen] at h; cases h
  | some len =>
    rw [hlen] at h
    obtain ⟨y, hy, hx⟩ := map_eq_ok h
    obtain ⟨⟨e, f₁⟩, rfl, he⟩ := Option.map_eq_some'.mp hx.symm
    obtain ⟨rfl, rfl⟩ := Prod.mk.inj he
    refine ⟨len, e, rfl, rfl, ?_⟩
    cases exit with
    | some e' => cases hy; exact .inl ⟨rfl, rfl⟩
    | none =>
      obtain ⟨r, hr, rfl⟩ := recordChoice_eq_some hy
      exact .inr ⟨rfl, r, hr, rfl⟩

theorem builtRecords_of_establishPath {sel : RecSelectors} {nodes : List Node}
    {purpose : Purpose} {exit : Option ExtendInfo} {flags : LaunchFlags} {circ : OriginCircuit}
    {f : ISecFields} (h : circuitEstablishPath sel nodes purpose exit flags = .ok (.built circ, f)) :
    BuiltRecords sel purpose exit circ f := by
  have hlen : circ.cpath.length = circ.buildState.desiredPathLen :=
    (circuitEstablishPath_built (establishPath_built_forget h)).2.2.1
  unfold circuitEstablishPath at h
  cases hpick : onionPickCpathExit sel nodes (originCircuitInit purpose flags) .zero exit with
  | error e => rw [hpick] at h; cases h
  | ok y =>
  rw [hpick] at h
  rcases y with _ | ⟨start, f₁⟩
  · cases h
  dsimp only at h
  cases hpop : onionPopulateCpath sel (start.buildState.desiredPathLen + 1) start f₁ with
  | error e => rw [hpop] at h; cases h
  | ok z =>
  rw [hpop] at h
  rcases z with _ | ⟨r, circ₁, f₂⟩
  · cases h
  dsimp only at h
  split_ifs at h with hr
  · cases h
  obtain ⟨hc, rfl⟩ := Prod.mk.inj (Except.ok.inj h)
  cases hc
  -- what the exit choice left
  obtain ⟨len, e, -, rfl, hchosen⟩ := onionPickCpathExit_eq_some hpick
  obtain ⟨hshape, hrec⟩ := onionPopulateCpath_recorded sel _ _ _ hpop hr (recorded_nil _ _ _ _)
  rw [hshape] at hlen ⊢
  dsimp only at hrec hlen ⊢
  have hf₁ : f₁.entryIp = "" ∧ f₁.gbw = 0 ∧ f₁.middleIp = "" ∧ f₁.mbw = 0 := by
    rcases hchosen with ⟨-, rfl⟩ | ⟨-, r, -, rfl⟩ <;> exact ⟨rfl, rfl, rfl, rfl⟩
  refine ⟨fun hs => ?_, fun hn => ?_, fun h2 => ?_, fun h2 => ?_, fun h3 => ?_, fun h3 => ?_⟩ <;>
    dsimp only at *
  · rcases hchosen with ⟨-, rfl⟩ | ⟨rfl, -⟩
    · exact hrec.exit
    · cases hs
  · rcases hchosen with ⟨rfl, -⟩ | ⟨-, r, hr', rfl⟩
    · cases hn
    · exact ⟨e, r, rfl, hr', hrec.exit.1, hrec.exit.2⟩
  · obtain ⟨h1, h2⟩ := hrec.entryOff (.inr h2)
    exact ⟨h1.trans hf₁.1, h2.trans hf₁.2.1⟩
  · have hne := List.ne_nil_of_length_pos (show 0 < circ.cpath.length by omega)
    exact ⟨_, List.head?_eq_head hne, hrec.entryOn _ (List.head?_eq_head hne) h2⟩
  · obtain ⟨h1, h2⟩ := hrec.middleOff (.inr h3)
    exact ⟨h1.trans hf₁.2.2.1, h2.trans hf₁.2.2.2⟩
  · have hk : min (circ.cpath.length - 1) (len - 2) = len - 2 := by omega
    have hlt : len - 2 < circ.cpath.length := by omega
    have hmid := hrec.middleOn (by omega) h3
    simp only [hk] at hmid
    rw [List.getElem?_eq_getElem hlt] at hmid ⊢
    exact ⟨_, rfl, hmid _ rfl⟩

/-- The exit chosen by path selection for a built circuit, and the record it wrote. -/
theorem circuitEstablishPath_records {sel : RecSelectors} {nodes : List Node}
    {purpose : Purpose} {exit : Option ExtendInfo} {flags : LaunchFlags} {circ : OriginCircuit}
    {f : ISecFields} (h : circuitEstablishPath sel nodes purpose exit flags = .ok (.built circ, f)) :
    BuiltRecords sel purpose exit circ f :=
  builtRecords_of_establishPath h

/-- A relay with both onion keys, known by its digest. -/
def relayInfo (d : Digest) : ExtendInfo := ⟨d, true, true, .inet⟩

/-- Entry, middle and exit choices told apart by their records. -/
def threeRelaySel : RecSelectors where
  exit _ _ := some (relayInfo 3, some ⟨"10.0.0.3", 300⟩)
  entry _ _ := some (relayInfo 1, some ⟨"10.0.0.1", 100⟩)
  middle _ _ _ _ := some (relayInfo 2, some ⟨"10.0.0.2", 200⟩)

def clientFlags : LaunchFlags := ⟨false, false, false, false⟩

/-- The general circuit through relays 1, 2 and 3. -/
def threeHopCircuit : OriginCircuit :=
  { originCircuitInit .cGeneral clientFlags with
    cpath := [1, 2, 3].map fun d => ⟨relayInfo d, .closed, none⟩
    buildState := ⟨3, false, false, false, false, some (relayInfo 3)⟩ }

def threeHopFields : ISecFields := ⟨"10.0.0.1", 100, "10.0.0.2", 200, "10.0.0.3", 300⟩

theorem threeHopCircuit_records :
    circuitEstablishPath threeRelaySel ([1, 2, 3].map relayNode) .cGeneral none clientFlags =
        .ok (.built threeHopCircuit, threeHopFields) ∧
      BuiltRecords threeRelaySel .cGeneral none threeHopCircuit threeHopFields :=
  ⟨rfl, @circuitEstablishPath_records threeRelaySel ([1, 2, 3].map relayNode) .cGeneral none
    clientFlags threeHopCircuit threeHopFields rfl⟩

end Records

/-! ## The ALL-IN-ONE-CREATE line -/

/-- What the line prints besides the circuit's fields and id: getOurIP and the circuit's
rand_no, both set outside circuitbuild.c. -/
structure LogEnv where
  source : String
  randNo : ℤ

/-- The circuit's n_circ_id once circuit_handle_first_hop has returned 0: the id
circuit_deliver_create_cell took on the open channel to the entry (circuit_set_n_circid_chan),
or 0, as origin_circuit_new left it, while that channel is still connecting. -/
def nCircIdAfterFirstHop (o : FirstHopOracle) : ℕ :=
  if o.chanOpen then ((getUniqueCircIdByChan o.skin.chan).map (·.1)).getD 0 else 0

/-- The fields of the line in the order of its format string, each %u and %d in decimal. -/
def allInOneCreateFields (env : LogEnv) (f : ISecFields) (circId : ℕ) : List String :=
  ["@iSec", env.source, "ALL-IN-ONE-CREATE", "Client-IP", env.source, "ENTRY-IP", f.entryIp,
    "ENTRY-BW", toString f.gbw, "MIDDLE-IP", f.middleIp, "MIDDLE-BW", toString f.mbw,
    "EXIT-IP", f.exitIp, "EXIT-BW", toString f.ebw, "RAND-ID", toString env.randNo,
    "CIRC-ID", toString circId, "Done"]

/-- The line tor_log writes: the fields joined by the colons of the format string. -/
def allInOneCreate (env : LogEnv) (f : ISecFields) (circId : ℕ) : String :=
  ⟨[':'].intercalate ((allInOneCreateFields env f circId).map String.data)⟩

/-- A reader of the log takes the line apart at every colon. -/
def splitFields (line : String) : List String :=
  (line.data.splitOn ':').map String.mk

/-- The guard of the log: a client's circuit that is neither internal nor a one-hop tunnel. -/
def logsAllInOneCreate (clientOnly : Bool) (state : CpathBuildState) : Bool :=
  !state.isInternal && !state.onehopTunnel && clientOnly

/-- circuit_establish_circuit of this fork: the build machine's step, and the line logged once
the first hop is handled without error. none where the process dies: a failed tor_assert of
circuit_handle_first_hop, or the NULL dereference of a chosen relay's rs. -/
def circuitEstablishCircuit (opt : Options) (sys : Sys) (sel : RecSelectors)
    (nodes : List Node) (purpose : Purpose) (exit : Option ExtendInfo) (flags : LaunchFlags)
    (o : FirstHopOracle) (clientOnly : Bool) (env : LogEnv) : Option (Sys × Option String) :=
  match circuitEstablishPath sel nodes purpose exit flags with
  | .error _ => none
  | .ok (.built circ, f) =>
    let i := sys.circuits.length
    let sys := { sys with circuits := sys.circuits ++ [circ] }
    (circuitHandleFirstHop opt sys i o).map fun
      | (some r, sys) => (closeOnError opt i o.skin.close (some r, sys), none)
      | (none, sys) =>
        (sys, if logsAllInOneCreate clientOnly circ.buildState
          then some (allInOneCreate env f (nCircIdAfterFirstHop o)) else none)
  | .ok _ => some (sys, none)

/-- Logging changes nothing the build machine does while every chosen relay has a routerstatus:
forgetting the records and the line gives the build machine's circuit_establish_circuit back. -/
theorem circuitEstablishCircuit_forget (opt : Options) (sys : Sys) {sel : RecSelectors}
    (hrs : sel.RsKnown) (nodes : List Node) (purpose : Purpose) (exit : Option ExtendInfo)
    (flags : LaunchFlags) (o : FirstHopOracle) (clientOnly : Bool) (env : LogEnv) :
    (circuitEstablishCircuit opt sys sel nodes purpose exit flags o clientOnly env).map Prod.fst =
      Build.circuitEstablishCircuit opt sys sel.forget nodes purpose exit flags o := by
  obtain ⟨x, hx⟩ := circuitEstablishPath_ok hrs nodes purpose exit flags
  unfold circuitEstablishCircuit Build.circuitEstablishCircuit
  rw [hx, ← circuitEstablishPath_forget sel hx]
  obtain ⟨_ | circ | _, f⟩ := x
  · rfl
  · dsimp only
    rw [Option.map_map]
    cases circuitHandleFirstHop opt { sys with circuits := sys.circuits ++ [circ] }
      sys.circuits.length o with
    | none => rfl
    | some p => obtain ⟨_ | r, s⟩ := p <;> rfl
  · rfl

theorem threeRelaySel_rsKnown : threeRelaySel.RsKnown :=
  ⟨fun _ _ _ _ h => by cases h; rfl, fun _ _ _ _ h => by cases h; rfl,
    fun _ _ _ _ _ _ h => by cases h; rfl⟩

/-- An exit chosen without a routerstatus kills the fork at onion_pick_cpath_exit. -/
theorem circuitEstablishCircuit_exitWithoutRs {opt : Options} {sys : Sys} {sel : RecSelectors}
    {nodes : List Node} {purpose : Purpose} {flags : LaunchFlags} {len : ℕ} {e : ExtendInfo}
    (hlen : pickRouteLen (originCircuitInit purpose flags) none nodes = some len)
    (hexit : sel.exit purpose { (originCircuitInit purpose flags).buildState with
      desiredPathLen := len } = some (e, none))
    (o : FirstHopOracle) (clientOnly : Bool) (env : LogEnv) :
    circuitEstablishCircuit opt sys sel nodes purpose none flags o clientOnly env = none := by
  have hpick : onionPickCpathExit sel nodes (originCircuitInit purpose flags) .zero none =
      .error .nullRs := by
    unfold onionPickCpathExit
    rw [hlen]
    dsimp only
    rw [show (originCircuitInit purpose flags).purpose = purpose from rfl, hexit]
    rfl
  unfold circuitEstablishCircuit circuitEstablishPath
  rw [hpick]

/-- What circuit_establish_circuit did when it logs: it built a circuit and handled its first
hop without error, on a client, for a circuit neither internal nor a one-hop tunnel, and the
line prints that circuit's fields and its n_circ_id. -/
theorem circuitEstablishCircuit_some_line {opt : Options} {sys sys' : Sys} {sel : RecSelectors}
    {nodes : List Node} {purpose : Purpose} {exit : Option ExtendInfo} {flags : LaunchFlags}
    {o : FirstHopOracle} {clientOnly : Bool} {env : LogEnv} {line : String}
    (h : circuitEstablishCircuit opt sys sel nodes purpose exit flags o clientOnly env =
      some (sys', some line)) :
    ∃ circ f, circuitEstablishPath sel nodes purpose exit flags = .ok (.built circ, f) ∧
      circuitHandleFirstHop opt { sys with circuits := sys.circuits ++ [circ] }
        sys.circuits.length o = some (none, sys') ∧
      logsAllInOneCreate clientOnly circ.buildState = true ∧
      line = allInOneCreate env f (nCircIdAfterFirstHop o) := by
  unfold circuitEstablishCircuit at h
  rcases hpath : circuitEstablishPath sel nodes purpose exit flags with _ | ⟨_ | circ | _, f⟩ <;>
    rw [hpath] at h <;> try cases h
  dsimp only at h
  obtain ⟨⟨_ | r, s⟩, hfirst, hres⟩ := Option.map_eq_some'.mp h
  · obtain ⟨rfl, hline⟩ := Prod.mk.inj hres
    split at hline
    · exact ⟨circ, f, rfl, hfirst, ‹_›, (Option.some.inj hline).symm⟩
    · cases hline
  · cases (Prod.mk.inj hres).2

/-- A logged line comes from a built circuit whose first hop was handled without error, a
client's circuit that is neither internal nor a one-hop tunnel. It prints that circuit's
fields, and its ENTRY-IP and ENTRY-BW are always the first hop's record. -/
theorem circuitEstablishCircuit_logged {opt : Options} {sys sys' : Sys} {sel : RecSelectors}
    {nodes : List Node} {purpose : Purpose} {exit : Option ExtendInfo} {flags : LaunchFlags}
    {o : FirstHopOracle} {clientOnly : Bool} {env : LogEnv} {line : String}
    (h : circuitEstablishCircuit opt sys sel nodes purpose exit flags o clientOnly env =
      some (sys', some line)) :
    ∃ circ f, circuitEstablishPath sel nodes purpose exit flags = .ok (.built circ, f) ∧
      circuitHandleFirstHop opt { sys with circuits := sys.circuits ++ [circ] }
        sys.circuits.length o = some (none, sys') ∧
      clientOnly = true ∧ circ.buildState.isInternal = false ∧ flags.onehopTunnel = false ∧
      line = allInOneCreate env f (nCircIdAfterFirstHop o) ∧
      ∃ hop, circ.cpath.head? = some hop ∧
        HasRecord (sel.entry purpose circ.buildState) hop f.entryIp f.gbw := by
  obtain ⟨circ, f, hpath, hfirst, hlog, hline⟩ := circuitEstablishCircuit_some_line h
  simp only [logsAllInOneCreate, Bool.and_eq_true, Bool.not_eq_true'] at hlog
  obtain ⟨⟨hint, hone⟩, hclient⟩ := hlog
  obtain ⟨-, hflag, -, -, -, htwo⟩ := circuitEstablishPath_built (establishPath_built_forget hpath)
  have hflag' : flags.onehopTunnel = false := hflag ▸ hone
  exact ⟨circ, f, hpath, hfirst, hclient, hint, hflag', hline,
    (builtRecords_of_establishPath hpath).entryOn (htwo hflag')⟩

theorem circuitHandleFirstHop_delivered {opt : Options} {sys sys' : Sys} {i : ℕ}
    {circ : OriginCircuit} {o : FirstHopOracle} (hc : sys.circuits[i]? = some circ)
    (hclosed : ∀ hop ∈ circ.cpath, hop.state = .closed) (hopen : o.chanOpen = true)
    (h : circuitHandleFirstHop opt sys i o = some (none, sys')) :
    0 ≤ circuitDeliverCreateCell o.skin.chan o.skin.formatOk := by
  unfold circuitHandleFirstHop at h
  rw [hc] at h
  simp only [hopen, Bool.not_true, Bool.false_eq_true, if_false] at h
  split_ifs at h
  unfold circuitSendNextOnionSkin at h
  rw [hc] at h
  dsimp only at h
  rcases hcp : circ.cpath with _ | ⟨head, tail⟩
  · rw [hcp] at h
    cases h
  rw [hcp] at h
  dsimp only at h
  rw [if_pos (hclosed head (hcp ▸ List.mem_cons_self _ _))] at h
  split_ifs at h <;> first | omega | cases h

/-- On a logged line whose first hop found the channel open, CIRC-ID is the nonzero id the
first create took on that channel; while the channel is still connecting it is 0. -/
theorem circuitEstablishCircuit_circId {opt : Options} {sys sys' : Sys} {sel : RecSelectors}
    {nodes : List Node} {purpose : Purpose} {exit : Option ExtendInfo} {flags : LaunchFlags}
    {o : FirstHopOracle} {clientOnly : Bool} {env : LogEnv} {line : String}
    (h : circuitEstablishCircuit opt sys sel nodes purpose exit flags o clientOnly env =
      some (sys', some line)) :
    (o.chanOpen = true → ∃ chan', getUniqueCircIdByChan o.skin.chan =
      some (nCircIdAfterFirstHop o, chan') ∧ nCircIdAfterFirstHop o ≠ 0) ∧
    (o.chanOpen = false → nCircIdAfterFirstHop o = 0) := by
  refine ⟨fun hopen => ?_, fun hclosed => by simp [nCircIdAfterFirstHop, hclosed]⟩
  obtain ⟨circ, f, hpath, hfirst, -, -⟩ := circuitEstablishCircuit_some_line h
  have hdel := circuitHandleFirstHop_delivered (by simp) (circuitEstablishPath_built
    (establishPath_built_forget hpath)).2.2.2.1 hopen hfirst
  have hid : ∃ id chan', getUniqueCircIdByChan o.skin.chan = some (id, chan') ∧ id ≠ 0 := by
    unfold circuitDeliverCreateCell at hdel
    cases hg : getUniqueCircIdByChan o.skin.chan with
    | none => rw [hg] at hdel; simp at hdel
    | some p =>
      rw [hg] at hdel
      refine ⟨p.1, p.2, rfl, fun h0 => ?_⟩
      simp [h0] at hdel
  obtain ⟨id, chan', hid, h0⟩ := hid
  simp only [nCircIdAfterFirstHop, hopen, if_true, hid, Option.map_some', Option.getD_some]
  exact ⟨chan', rfl, h0⟩

def connectingFirstHop : FirstHopOracle :=
  ⟨false, false, true, ⟨⟨1, false, .lower, fun _ => false⟩, true, true, true,
    ⟨false, ⟨true, 0, 1, false⟩⟩⟩⟩

/-- A client whose first hop is still connecting: no create cell went out, so n_circ_id is 0. -/
def clientEnv : LogEnv := ⟨"192.0.2.7", 42⟩

theorem threeHopCircuit_logged :
    circuitEstablishCircuit unsetOptions ⟨[], fun _ => none⟩ threeRelaySel
        ([1, 2, 3].map relayNode) .cGeneral none clientFlags connectingFirstHop true clientEnv =
      some (⟨[threeHopCircuit], fun _ => none⟩,
        some (allInOneCreate clientEnv threeHopFields 0)) ∧
    ∃ circ f, circuitEstablishPath threeRelaySel ([1, 2, 3].map relayNode) .cGeneral none
        clientFlags = .ok (.built circ, f) ∧
      circuitHandleFirstHop unsetOptions ⟨[circ], fun _ => none⟩ 0 connectingFirstHop =
        some (none, ⟨[threeHopCircuit], fun _ => none⟩) ∧
      true = true ∧ circ.buildState.isInternal = false ∧ clientFlags.onehopTunnel = false ∧
      allInOneCreate clientEnv threeHopFields 0 =
        allInOneCreate clientEnv f (nCircIdAfterFirstHop connectingFirstHop) ∧
      ∃ hop, circ.cpath.head? = some hop ∧
        HasRecord (threeRelaySel.entry .cGeneral circ.buildState) hop f.entryIp f.gbw :=
  ⟨rfl, @circuitEstablishCircuit_logged unsetOptions ⟨[], fun _ => none⟩
    ⟨[threeHopCircuit], fun _ => none⟩ threeRelaySel ([1, 2, 3].map relayNode) .cGeneral none
    clientFlags connectingFirstHop true clientEnv (allInOneCreate clientEnv threeHopFields 0) rfl⟩

theorem threeRelaySel_forget :
    threeRelaySel.RsKnown ∧
      (circuitEstablishCircuit unsetOptions ⟨[], fun _ => none⟩ threeRelaySel
        ([1, 2, 3].map relayNode) .cGeneral none clientFlags connectingFirstHop true clientEnv).map
          Prod.fst =
        Build.circuitEstablishCircuit unsetOptions ⟨[], fun _ => none⟩ threeRelaySel.forget
          ([1, 2, 3].map relayNode) .cGeneral none clientFlags connectingFirstHop :=
  ⟨threeRelaySel_rsKnown, circuitEstablishCircuit_forget unsetOptions ⟨[], fun _ => none⟩
    threeRelaySel_rsKnown ([1, 2, 3].map relayNode) .cGeneral none clientFlags connectingFirstHop
    true clientEnv⟩

section Line

theorem digitChar_ne_colon : ∀ d < 10, Nat.digitChar d ≠ ':' := by decide

theorem colon_not_mem_toDigitsCore (fuel n : ℕ) :
    ∀ acc : List Char, ':' ∉ acc → ':' ∉ Nat.toDigitsCore 10 fuel n acc := by
  induction fuel generalizing n with
  | zero => exact fun _ h => h
  | succ fuel ih =>
    intro acc hacc
    have hd : ':' ∉ Nat.digitChar (n % 10) :: acc :=
      List.not_mem_cons_of_ne_of_not_mem (digitChar_ne_colon _ (Nat.mod_lt n (by decide))).symm hacc
    change ':' ∉ if n / 10 = 0 then Nat.digitChar (n % 10) :: acc
      else Nat.toDigitsCore 10 fuel (n / 10) (Nat.digitChar (n % 10) :: acc)
    split
    · exact hd
    · exact ih _ _ hd

theorem colon_not_mem_toString_nat (n : ℕ) : ':' ∉ (toString n).data :=
  colon_not_mem_toDigitsCore _ _ [] (List.not_mem_nil _)

theorem colon_not_mem_toString_int (i : ℤ) : ':' ∉ (toString i).data := by
  cases i with
  | ofNat n => exact colon_not_mem_toString_nat n
  | negSucc n =>
    exact List.not_mem_append (by decide) (colon_not_mem_toString_nat (n + 1))

theorem splitFields_allInOneCreate (env : LogEnv) (f : ISecFields) (circId : ℕ)
    (hs : ':' ∉ env.source.data) (he : ':' ∉ f.entryIp.data) (hm : ':' ∉ f.middleIp.data)
    (hx : ':' ∉ f.exitIp.data) :
    splitFields (allInOneCreate env f circId) = allInOneCreateFields env f circId := by
  unfold splitFields allInOneCreate
  rw [List.splitOn_intercalate _ ':' ?_ (by simp [allInOneCreateFields]), List.map_map]
  · exact List.map_id _
  · intro l hl
    simp only [allInOneCreateFields, List.map_cons, List.map_nil, List.mem_cons,
      List.not_mem_nil, or_false] at hl
    rcases hl with rfl | rfl | rfl | rfl | rfl | rfl | rfl | rfl | rfl | rfl | rfl | rfl |
      rfl | rfl | rfl | rfl | rfl | rfl | rfl | rfl | rfl | rfl <;>
      first
      | assumption
      | exact colon_not_mem_toString_nat _
      | exact colon_not_mem_toString_int _
      | decide

example : splitFields (allInOneCreate clientEnv threeHopFields 7) =
    allInOneCreateFields clientEnv threeHopFields 7 :=
  splitFields_allInOneCreate _ _ _ (by decide) (by decide) (by decide) (by decide)

end Line

end TorCircuitBuild.ISec

import TorCircuitBuild.BuildMachine
import TorCircuitBuild.Frame

set_option autoImplicit false

/-!
# The hop states of a circuit under construction

Read from the head, the hop states of every circuit have the shape
OPEN* AWAITING_KEYS? CLOSED*, and while the circuit is live its state says which parts are
there: a CHAN_WAIT circuit has only closed hops, a BUILDING one exactly one hop awaiting keys,
an OPEN one only open hops. Each build event keeps this; the accountant and the close only
touch what `SameBuild` leaves free. So on every reachable state the `tor_assert` in
circuit_finish_handshake, that the hop a reply opens awaits keys, holds.
-/

namespace TorCircuitBuild.Build

open PathBias PathSelection Sys

/-- OPEN* AWAITING_KEYS? CLOSED*, by the length of each run: at most one hop awaits keys. -/
structure HopProfile where
  opened : ℕ
  awaiting : ℕ
  closed : ℕ
  awaiting_le_one : awaiting ≤ 1

namespace HopProfile

def states (p : HopProfile) : List CpathState :=
  List.replicate p.opened .open ++ List.replicate p.awaiting .awaitingKeys ++
    List.replicate p.closed .closed

/-- What the circuit state says of the hops. -/
def Fits (p : HopProfile) : CircuitState → Prop
  | .chanWait => p.opened = 0 ∧ p.awaiting = 0
  | .building => p.awaiting = 1
  | .open => p.awaiting = 0 ∧ p.closed = 0

/-- The reply opens the hop awaiting keys. -/
def openNext (p : HopProfile) : HopProfile := ⟨p.opened + 1, 0, p.closed, Nat.zero_le 1⟩

/-- A create or extend goes out for the first closed hop. -/
def awaitNext (p : HopProfile) : HopProfile := ⟨p.opened, 1, p.closed - 1, le_rfl⟩

def appendClosed (p : HopProfile) : HopProfile :=
  ⟨p.opened, p.awaiting, p.closed + 1, p.awaiting_le_one⟩

theorem states_of_awaiting {p : HopProfile} (h : p.awaiting = 1) :
    p.states = List.replicate p.opened .open ++
      .awaitingKeys :: List.replicate p.closed .closed := by
  simp [states, h]

theorem states_of_closed {p : HopProfile} (h : p.awaiting = 0) {b : ℕ} (hb : p.closed = b + 1) :
    p.states = List.replicate p.opened .open ++ .closed :: List.replicate b .closed := by
  simp [states, h, hb, List.replicate_succ]

theorem states_eq_nil {p : HopProfile} : p.states = [] ↔ p.opened + p.awaiting + p.closed = 0 := by
  simp [states]
  omega

theorem modify_replicate_append {α : Type} (f : α → α) (x y : α) (rest : List α) (n : ℕ) :
    (List.replicate n x ++ y :: rest).modify f n = List.replicate n x ++ f y :: rest := by
  induction n with
  | zero => rfl
  | succ n ih => simp only [List.replicate_succ, List.cons_append, List.modify_succ_cons, ih]

theorem replicate_append_cons {α : Type} (x : α) (rest : List α) (n : ℕ) :
    List.replicate n x ++ x :: rest = List.replicate (n + 1) x ++ rest := by
  induction n with
  | zero => rfl
  | succ n ih => simp only [List.replicate_succ, List.cons_append, ih]

theorem states_openNext {p : HopProfile} (h : p.awaiting = 1) :
    p.states.modify (fun _ => .open) p.opened = p.openNext.states := by
  rw [states_of_awaiting h, modify_replicate_append, replicate_append_cons]
  simp [openNext, states]

theorem states_awaitNext {p : HopProfile} (h : p.awaiting = 0) (hb : 1 ≤ p.closed) :
    p.states.modify (fun _ => .awaitingKeys) p.opened = p.awaitNext.states := by
  obtain ⟨b, hb'⟩ : ∃ b, p.closed = b + 1 := ⟨p.closed - 1, by omega⟩
  rw [states_of_closed h hb', modify_replicate_append]
  simp [awaitNext, states, hb']

theorem states_appendClosed (p : HopProfile) :
    p.states ++ [.closed] = p.appendClosed.states := by
  simp only [appendClosed, states, List.append_assoc, ← List.append_replicate_replicate]
  rfl

theorem findIdx_states (p : HopProfile) :
    p.states.findIdx? (fun s => decide (s ≠ .open)) =
      if p.awaiting + p.closed = 0 then none else some p.opened := by
  rcases Nat.eq_zero_or_pos p.awaiting with ha | ha
  · rcases Nat.eq_zero_or_pos p.closed with hb | hb
    · simp [states, ha, hb, List.findIdx?_replicate]
    · obtain ⟨b, hb'⟩ : ∃ b, p.closed = b + 1 := ⟨p.closed - 1, by omega⟩
      simp [states_of_closed ha hb', List.findIdx?_append, List.findIdx?_replicate,
        List.findIdx?_cons, hb']
  · have ha1 : p.awaiting = 1 := by have := p.awaiting_le_one; omega
    simp [states_of_awaiting ha1, List.findIdx?_append, List.findIdx?_replicate,
      List.findIdx?_cons, ha1]

theorem getElem?_states (p : HopProfile) (k : ℕ) :
    p.states[k]? = if k < p.opened then some .open
      else if k < p.opened + p.awaiting then some .awaitingKeys
      else if k < p.opened + p.awaiting + p.closed then some .closed else none := by
  simp only [states, List.getElem?_append, List.getElem?_replicate, List.length_append,
    List.length_replicate]
  split_ifs <;> first | rfl | omega

theorem getElem_states_opened_of_awaiting {p : HopProfile} (h : p.awaiting = 1) :
    p.states[p.opened]? = some .awaitingKeys := by
  rw [states_of_awaiting h, List.getElem?_append_right (by simp)]
  simp

theorem getElem_states_opened_of_closed {p : HopProfile} (h : p.awaiting = 0)
    (hb : 1 ≤ p.closed) : p.states[p.opened]? = some .closed := by
  obtain ⟨b, hb'⟩ : ∃ b, p.closed = b + 1 := ⟨p.closed - 1, by omega⟩
  rw [states_of_closed h hb', List.getElem?_append_right (by simp)]
  simp

theorem getLast_states_of_closed {p : HopProfile} (hb : 1 ≤ p.closed) :
    p.states.getLast? = some .closed := by
  simp [states, List.getLast?_append, List.getLast?_replicate]
  omega

end HopProfile

/-! ## The invariant on one circuit -/

/-- The hop states read from the head. -/
def hopStates (c : OriginCircuit) : List CpathState := c.cpath.map (·.state)

/-- The build machine's invariant on one circuit: a nonempty cpath of shape
OPEN* AWAITING_KEYS? CLOSED*, with the parts the circuit state asks for while it is live. -/
structure HopsWellFormed (hops : List CpathState) (state : CircuitState) (marked : Bool) :
    Prop where
  nonempty : hops ≠ []
  shape : ∃ p : HopProfile, hops = p.states ∧ (marked = false → p.Fits state)

abbrev HopsOk (c : OriginCircuit) : Prop :=
  HopsWellFormed (hopStates c) c.state c.markedForClose

/-- Every circuit in the list keeps the invariant. -/
abbrev HopInv (sys : Sys) : Prop :=
  ∀ (j : ℕ) (c : OriginCircuit), sys.circuits[j]? = some c → HopsOk c

/-- Every circuit but `i` keeps it: the state halfway through an event on `i`. -/
abbrev HopInvOff (sys : Sys) (i : ℕ) : Prop :=
  ∀ (j : ℕ) (c : OriginCircuit), j ≠ i → sys.circuits[j]? = some c → HopsOk c

theorem map_modify_of_comm {α β : Type} (f : α → α) (g : α → β) (h : β → β)
    (hfg : ∀ a, g (f a) = h (g a)) :
    ∀ (l : List α) (k : ℕ), (l.modify f k).map g = (l.map g).modify h k
  | [], k => by cases k <;> rfl
  | _ :: _, 0 => by simp [hfg]
  | a :: l, k + 1 => by simp [map_modify_of_comm f g h hfg l k]

@[simp] theorem map_state_setState (l : List CryptPath) (k : ℕ) (s : CpathState) :
    (l.modify (fun h => { h with state := s }) k).map (·.state) =
      (l.map (·.state)).modify (fun _ => s) k :=
  map_modify_of_comm (fun h => { h with state := s }) (·.state) (fun _ => s) (fun _ => rfl) l k

@[simp] theorem map_state_setHandshake (l : List CryptPath) (k : ℕ) (x : Option HandshakeType) :
    (l.modify (fun h => { h with handshakeState := x }) k).map (·.state) = l.map (·.state) := by
  have h := map_modify_of_comm (fun h : CryptPath => { h with handshakeState := x }) (·.state) id
    (fun _ => rfl) l k
  rw [List.modify_id] at h
  exact h

theorem hopsOk_of {c : OriginCircuit} {p : HopProfile} (hp : hopStates c = p.states)
    (hne : p.states ≠ []) (hfits : c.markedForClose = false → p.Fits c.state) : HopsOk c :=
  ⟨hp ▸ hne, p, hp, hfits⟩

theorem head_state_eq {c : OriginCircuit} {head : CryptPath} {tail : List CryptPath}
    (hcp : c.cpath = head :: tail) {p : HopProfile} (hp : hopStates c = p.states) :
    some head.state = p.states[0]? := by
  rw [← hp]
  simp [hopStates, hcp]

theorem getElem_state_eq {c : OriginCircuit} {p : HopProfile} (hp : hopStates c = p.states)
    (k : ℕ) : c.cpath[k]?.map (·.state) = p.states[k]? := by
  rw [← hp]
  simp [hopStates]

theorem onionNextHopInCpath_eq {c : OriginCircuit} {p : HopProfile} (hp : hopStates c = p.states) :
    onionNextHopInCpath c.cpath = if p.awaiting + p.closed = 0 then none else some p.opened := by
  rw [← HopProfile.findIdx_states, ← hp, hopStates, List.findIdx?_map]
  rfl

theorem hopsOk_of_sameBuild {c c' : OriginCircuit} (h : SameBuild c c') (hc : HopsOk c) :
    HopsOk c' := by
  obtain ⟨hne, p, hp, hfits⟩ := hc
  refine ⟨?_, p, ?_, fun hlive => ?_⟩
  · simpa [hopStates, h.cpath] using hne
  · simpa [hopStates, h.cpath] using hp
  · rw [h.state]
    exact hfits (h.live hlive)

theorem hopsOk_of_marked {c : OriginCircuit} (hne : hopStates c ≠ []) {p : HopProfile}
    (hp : hopStates c = p.states) (hmarked : c.markedForClose = true) : HopsOk c :=
  ⟨hne, p, hp, fun h => by simp [h] at hmarked⟩

theorem HopInv.frame {sys sys' : Sys} (h : Frame sys sys') (hinv : HopInv sys) : HopInv sys' :=
  fun j _ hj => by
    obtain ⟨c, hc, hsame⟩ := h.circuits j _ hj
    exact hopsOk_of_sameBuild hsame (hinv j c hc)

theorem HopInvOff.frame {sys sys' : Sys} {i : ℕ} (h : Frame sys sys') (hoff : HopInvOff sys i) :
    HopInvOff sys' i :=
  fun j _ hji hj => by
    obtain ⟨c, hc, hsame⟩ := h.circuits j _ hj
    exact hopsOk_of_sameBuild hsame (hoff j c hji hc)

theorem HopInv.modifyCirc_of {sys : Sys} (hinv : HopInv sys) (i : ℕ)
    {f : OriginCircuit → OriginCircuit} (hf : ∀ c, HopsOk c → HopsOk (f c)) :
    HopInv (sys.modifyCirc i f) := by
  intro j cj hj
  simp only [modifyCirc_circuits, List.getElem?_modify, Option.map_eq_map, Option.map_eq_some'] at hj
  obtain ⟨c, hc, rfl⟩ := hj
  split
  · exact hf c (hinv j c hc)
  · exact hinv j c hc

theorem HopInv.off {sys : Sys} (hinv : HopInv sys) (i : ℕ) : HopInvOff sys i :=
  fun j c _ hj => hinv j c hj

theorem HopInvOff.modifyCirc {sys : Sys} {i : ℕ} (hoff : HopInvOff sys i)
    (f : OriginCircuit → OriginCircuit) : HopInvOff (sys.modifyCirc i f) i :=
  fun j c hji hj => by
    simp [List.getElem?_modify, Ne.symm hji] at hj
    exact hoff j c hji hj

theorem HopInvOff.close {sys : Sys} {i : ℕ} (hoff : HopInvOff sys i) (cfg : Config)
    (reason : CloseReason) (o : CloseOracle) :
    HopInvOff (circuitMarkForClose cfg sys i reason o) i :=
  hoff.frame (circuitMarkForClose_frame cfg sys i reason o)

theorem hopInv_modifyCirc {sys : Sys} {i : ℕ} {c : OriginCircuit} (hoff : HopInvOff sys i)
    (hc : sys.circuits[i]? = some c) {f : OriginCircuit → OriginCircuit} (hf : HopsOk (f c)) :
    HopInv (sys.modifyCirc i f) := fun j c' hj => by
  by_cases hji : j = i
  · subst hji
    rw [getElem?_modifyCirc_self hc, Option.some.injEq] at hj
    exact hj ▸ hf
  · exact hoff.modifyCirc f j c' hji hj

theorem hopInv_close_of_closed_last (cfg : Config) {sys : Sys} {i : ℕ} {c : OriginCircuit}
    (hoff : HopInvOff sys i) (hc : sys.circuits[i]? = some c) (hne : hopStates c ≠ [])
    {p : HopProfile} (hp : hopStates c = p.states) (hclosed : 1 ≤ p.closed)
    (reason : CloseReason) (o : CloseOracle) : HopInv (circuitMarkForClose cfg sys i reason o) := by
  have hlast : c.cpath.getLast?.map (·.state) ≠ some .open := by
    rw [← List.getLast?_map]
    change (hopStates c).getLast? ≠ _
    rw [hp, HopProfile.getLast_states_of_closed hclosed]
    simp
  obtain ⟨c', hc', hmarked, hsame⟩ := circuitMarkForClose_marks cfg hc hlast reason o
  intro j cj hj
  by_cases hji : j = i
  · subst hji
    rw [hc', Option.some.injEq] at hj
    subst hj
    have hstates : hopStates c' = hopStates c := by simp [hopStates, hsame.cpath]
    exact hopsOk_of_marked (hstates ▸ hne) (hstates ▸ hp) hmarked
  · exact hoff.close cfg reason o j cj hji hj

theorem HopInv.setHandshake {sys : Sys} (hinv : HopInv sys) (i k : ℕ) (x : Option HandshakeType) :
    HopInv (setHop sys i k fun h => { h with handshakeState := x }) :=
  hinv.modifyCirc_of i fun c hc => by simpa [HopsOk, hopStates] using hc

theorem HopInvOff.setHandshake {sys : Sys} {i : ℕ} (hoff : HopInvOff sys i) (k : ℕ)
    (x : Option HandshakeType) : HopInvOff (setHop sys i k fun h => { h with handshakeState := x }) i :=
  hoff.modifyCirc _

theorem HopInv.close {sys : Sys} (hinv : HopInv sys) (cfg : Config) (i : ℕ) (reason : CloseReason)
    (o : CloseOracle) : HopInv (circuitMarkForClose cfg sys i reason o) :=
  hinv.frame (circuitMarkForClose_frame cfg sys i reason o)

/-! ## The build events -/

section Events

variable (opt : Options)

theorem closeOnError_some (i : ℕ) (o : CloseOracle) (r : EndCircReason) (sys : Sys) :
    closeOnError opt i o (some r, sys) = circuitMarkForClose opt.pathBias sys i ⟨r, false⟩ o := rfl

theorem closeOnError_none (i : ℕ) (o : CloseOracle) (sys : Sys) :
    closeOnError opt i o (none, sys) = sys := rfl

theorem hopInv_sendNext_chanWait {sys : Sys} {i : ℕ} {c : OriginCircuit} (hinv : HopInv sys)
    (hc : sys.circuits[i]? = some c) (hlive : c.markedForClose = false)
    (hwait : c.state = .chanWait) {o : SkinOracle} {res : Option EndCircReason × Sys}
    (h : circuitSendNextOnionSkin opt sys i o = some res) :
    HopInv (closeOnError opt i o.close res) := by
  obtain ⟨hne, p, hp, hfits⟩ := hinv i c hc
  obtain ⟨hopened, hawait⟩ : p.opened = 0 ∧ p.awaiting = 0 := by
    have := hfits hlive
    rwa [hwait] at this
  have hclosed : 1 ≤ p.closed := by
    have := mt HopProfile.states_eq_nil.mpr (hp ▸ hne)
    omega
  obtain ⟨head, tail, hcp⟩ := List.exists_cons_of_ne_nil
    (by simpa [hopStates] using hne : c.cpath ≠ [])
  have hhead : head.state = .closed := by
    have := head_state_eq hcp hp
    rw [HopProfile.getElem?_states, if_neg (by omega), if_neg (by omega), if_pos (by omega)] at this
    exact Option.some.inj this
  unfold circuitSendNextOnionSkin at h
  rw [hc] at h
  dsimp only at h
  rw [hcp] at h
  dsimp only at h
  rw [if_pos hhead] at h
  by_cases hskin : (!o.skinOk) = true
  · rw [if_pos hskin] at h
    cases h
    exact hinv.close _ i _ _
  rw [if_neg hskin] at h
  by_cases hdeliver : circuitDeliverCreateCell o.chan o.formatOk < 0
  · rw [if_pos hdeliver] at h
    cases h
    exact (hinv.setHandshake i 0 _).close _ i _ _
  · rw [if_neg hdeliver] at h
    cases h
    rw [closeOnError_none, setHop_eq, setHop_eq, modifyCirc_modifyCirc, modifyCirc_modifyCirc]
    refine hopInv_modifyCirc (hinv.off i) hc (hopsOk_of (p := p.awaitNext) ?_ ?_ fun _ => rfl)
    · simp only [Function.comp, hopStates, map_state_setState, map_state_setHandshake]
      rw [← hopStates, hp, ← hopened, HopProfile.states_awaitNext hawait hclosed]
    · rw [ne_eq, HopProfile.states_eq_nil]
      simp [HopProfile.awaitNext]

/-- The next onion skin after a reply opened a hop: with no hop left the circuit opens;
otherwise the first closed hop awaits keys, or the circuit is closed with that hop still
closed. -/
theorem hopInv_sendNext_building {sys : Sys} {i : ℕ} {c : OriginCircuit} (hoff : HopInvOff sys i)
    (hc : sys.circuits[i]? = some c) (hbuilding : c.state = .building) {p : HopProfile}
    (hp : hopStates c = p.states) (hawait : p.awaiting = 0) (hopen : 1 ≤ p.opened)
    {o : SkinOracle} {res : Option EndCircReason × Sys}
    (h : circuitSendNextOnionSkin opt sys i o = some res) :
    HopInv (closeOnError opt i o.close res) := by
  have hne : hopStates c ≠ [] := by
    rw [hp, ne_eq, HopProfile.states_eq_nil]
    omega
  obtain ⟨head, tail, hcp⟩ := List.exists_cons_of_ne_nil
    (by simpa [hopStates] using hne : c.cpath ≠ [])
  have hhead : head.state = .open := by
    have := head_state_eq hcp hp
    rw [HopProfile.getElem?_states, if_pos (by omega)] at this
    exact Option.some.inj this
  unfold circuitSendNextOnionSkin at h
  rw [hc] at h
  dsimp only at h
  rw [hcp] at h
  dsimp only at h
  rw [if_neg (by simp [hhead]), if_neg (by simp [hhead, hbuilding]), ← hcp,
    onionNextHopInCpath_eq hp, hawait, Nat.zero_add] at h
  by_cases hclosed : p.closed = 0
  · -- no hop is left: the circuit opens
    rw [if_pos hclosed] at h
    dsimp only at h
    cases h
    rw [closeOnError_none]
    have hopened : HopInv (sys.modifyCirc i fun c => { c with state := .open }) :=
      hopInv_modifyCirc hoff hc
        (hopsOk_of hp (hp ▸ hne) fun _ => ⟨hawait, hclosed⟩)
    have hhas := (hopened.frame (pathbiasCountBuildSuccess_frame opt.pathBias _ i)).modifyCirc_of i
      (f := fun c => { c with hasOpened := true }) fun _ hc => hc
    split_ifs
    · exact hhas.close _ i _ _
    · exact hhas
  rw [if_neg hclosed] at h
  obtain ⟨hop, hhop, hclosedHop⟩ : ∃ hop, c.cpath[p.opened]? = some hop ∧ hop.state = .closed := by
    have hk := getElem_state_eq hp p.opened
    rw [HopProfile.getElem_states_opened_of_closed hawait (by omega), Option.map_eq_some'] at hk
    exact hk
  dsimp only at h
  rw [hhop] at h
  dsimp only at h
  have hclose := hopInv_close_of_closed_last opt.pathBias hoff hc hne hp (by omega)
  by_cases haddr : hop.extendInfo.addrFamily ≠ .inet
  · rw [if_pos haddr] at h
    cases h
    exact hclose _ _
  rw [if_neg haddr] at h
  by_cases hskin : (!o.skinOk) = true
  · rw [if_pos hskin] at h
    cases h
    exact hclose _ _
  rw [if_neg hskin] at h
  -- the hop's handshake state is filled in; its state is still closed
  set c₁ : OriginCircuit := { c with cpath := c.cpath.modify (fun h => { h with
    handshakeState := some (circuitPickCreateHandshake opt.build hop.extendInfo) }) p.opened }
  have hc₁ := getElem?_modifyCirc_self hc (fun c => { c with cpath := c.cpath.modify (fun h => { h with
    handshakeState := some (circuitPickCreateHandshake opt.build hop.extendInfo) }) p.opened })
  have hp₁ : hopStates c₁ = p.states := by simpa [c₁, hopStates] using hp
  have hoff₁ := hoff.setHandshake p.opened (some (circuitPickCreateHandshake opt.build hop.extendInfo))
  rw [← setHop_eq] at hc₁
  have hclose₁ := hopInv_close_of_closed_last opt.pathBias hoff₁ hc₁ (hp₁ ▸ hp ▸ hne) hp₁
    (by omega)
  by_cases hformat : (!o.formatOk) = true
  · rw [if_pos hformat] at h
    cases h
    exact hclose₁ _ _
  rw [if_neg hformat] at h
  by_cases hrelay : (!o.relayOk) = true
  · rw [if_pos hrelay] at h
    cases h
    exact hclose₁ _ _
  rw [if_neg hrelay] at h
  cases h
  rw [closeOnError_none, setHop_eq]
  refine hopInv_modifyCirc hoff₁ hc₁ (hopsOk_of (p := p.awaitNext) ?_ ?_ fun _ => ?_)
  · refine (map_state_setState c₁.cpath p.opened .awaitingKeys).trans ?_
    rw [show c₁.cpath.map (·.state) = hopStates c₁ from rfl, hp₁,
      HopProfile.states_awaitNext hawait (by omega)]
  · rw [ne_eq, HopProfile.states_eq_nil]
    simp [HopProfile.awaitNext]
  · simp [hbuilding, c₁, HopProfile.Fits, HopProfile.awaitNext]

theorem replyHop_of_building {c : OriginCircuit} {head : CryptPath} {tail : List CryptPath}
    (hcp : c.cpath = head :: tail) {p : HopProfile} (hp : hopStates c = p.states)
    (hawait : p.awaiting = 1) :
    (if head.state = .awaitingKeys then some 0 else onionNextHopInCpath c.cpath) = some p.opened := by
  have hhead := head_state_eq hcp hp
  rw [HopProfile.getElem?_states] at hhead
  by_cases ho : p.opened = 0
  · rw [if_neg (by omega), if_pos (by omega)] at hhead
    rw [if_pos (Option.some.inj hhead), ho]
  · rw [if_pos (by omega)] at hhead
    rw [if_neg (by rw [Option.some.inj hhead]; decide), onionNextHopInCpath_eq hp, if_neg (by omega)]

/-- A reply reaches a live circuit whose first create went out. The handler never fails an
assertion: it opens the hop awaiting keys, leaving a BUILDING circuit with no hop awaiting,
or it answers with an error and the hops as they were. -/
theorem circuitFinishHandshake_hops {sys : Sys} {i : ℕ} {c : OriginCircuit} (hinv : HopInv sys)
    (hc : sys.circuits[i]? = some c) (hlive : c.markedForClose = false)
    (hsent : c.state ≠ .chanWait) (reply : ReplyOracle) :
    ∃ r sys', circuitFinishHandshake opt sys i reply = some (r, sys') ∧
      (r.isSome → HopInv sys') ∧
      (r = none → HopInvOff sys' i ∧ ∃ (c' : OriginCircuit) (p : HopProfile), sys'.circuits[i]? = some c' ∧
        c'.state = .building ∧ hopStates c' = p.states ∧ p.awaiting = 0 ∧ 1 ≤ p.opened) := by
  obtain ⟨err, sys₀, hcount⟩ : ∃ err sys₀,
      pathbiasCountBuildAttempt opt.pathBias sys i = (err, sys₀) := ⟨_, _, rfl⟩
  have hframe : Frame sys sys₀ := by
    have := pathbiasCountBuildAttempt_frame opt.pathBias sys i
    rwa [hcount] at this
  have hinv₀ := hinv.frame hframe
  obtain ⟨c₀, hc₀, hsame⟩ := hframe.get_some hc
  unfold circuitFinishHandshake
  rw [hcount]
  cases err with
  | some r => exact ⟨some r, sys₀, rfl, fun _ => hinv₀, fun h => by cases h⟩
  | none =>
  dsimp only
  rw [hc₀]
  dsimp only
  obtain ⟨hne, p, hp, hfits⟩ := hinv i c hc
  have hp₀ : hopStates c₀ = p.states := by rw [← hp]; simp [hopStates, hsame.cpath]
  obtain ⟨head, tail, hcp⟩ := List.exists_cons_of_ne_nil
    (by simpa [hopStates, hsame.cpath] using hne : c₀.cpath ≠ [])
  have hfit := hfits hlive
  cases hstate : c.state with
  | chanWait => exact absurd hstate hsent
  | «open» =>
    -- every hop is open: no hop is waiting for this reply
    rw [hstate] at hfit
    obtain ⟨hawait, hclosed⟩ := hfit
    have hhead := head_state_eq hcp hp₀
    rw [HopProfile.getElem?_states, if_pos (by have := mt HopProfile.states_eq_nil.mpr (hp ▸ hne); omega)] at hhead
    rw [hcp]
    dsimp only
    rw [if_neg (by rw [Option.some.inj hhead]; decide), ← hcp, onionNextHopInCpath_eq hp₀,
      if_pos (by omega)]
    exact ⟨some .torProtocol, sys₀, rfl, fun _ => hinv₀, fun h => by cases h⟩
  | building =>
    rw [hstate] at hfit
    have hchoice := replyHop_of_building hcp hp₀ hfit
    rw [hcp] at hchoice ⊢
    dsimp only
    rw [hchoice, ← hcp]
    dsimp only
    obtain ⟨hop, hhop, hawaitHop⟩ : ∃ hop, c₀.cpath[p.opened]? = some hop ∧
        hop.state = .awaitingKeys := by
      have hk := getElem_state_eq hp₀ p.opened
      rw [HopProfile.getElem_states_opened_of_awaiting hfit, Option.map_eq_some'] at hk
      exact hk
    rw [hhop]
    dsimp only
    rw [if_neg (by simp [hawaitHop])]
    by_cases hhand : (!reply.handshakeOk) = true
    · rw [if_pos hhand]
      exact ⟨some .torProtocol, sys₀, rfl, fun _ => hinv₀, fun h => by cases h⟩
    rw [if_neg hhand]
    have hinv₁ := hinv₀.setHandshake i p.opened none
    by_cases hcrypto : (!reply.cryptoOk) = true
    · rw [if_pos hcrypto]
      exact ⟨some .torProtocol, _, rfl, fun _ => hinv₁, fun h => by cases h⟩
    rw [if_neg hcrypto]
    refine ⟨none, _, rfl, fun h => (by cases h), fun _ => ⟨(hinv₁.off i).modifyCirc _, _, p.openNext,
      by rw [setHop_eq, setHop_eq, modifyCirc_modifyCirc, getElem?_modifyCirc_self hc₀],
      by simp [hsame.state, hstate], ?_, rfl, by simp [HopProfile.openNext]⟩⟩
    simp only [Function.comp, hopStates, map_state_setState, map_state_setHandshake]
    rw [show c₀.cpath.map (·.state) = hopStates c₀ from rfl, hp₀, HopProfile.states_openNext hfit]

theorem hopInv_handleFirstHop {sys : Sys} {i : ℕ} {c : OriginCircuit} (hinv : HopInv sys)
    (hc : sys.circuits[i]? = some c) (hlive : c.markedForClose = false)
    (hwait : c.state = .chanWait) {o : FirstHopOracle} {res : Option EndCircReason × Sys}
    (h : circuitHandleFirstHop opt sys i o = some res) :
    HopInv (closeOnError opt i o.skin.close res) := by
  unfold circuitHandleFirstHop at h
  rw [hc] at h
  dsimp only at h
  split_ifs at h
  all_goals first
    | exact hopInv_sendNext_chanWait opt hinv hc hlive hwait h
    | (cases h; exact hinv.close _ i _ _)
    | (cases h; exact hinv)

theorem hopsOk_built {sel : Selectors} {nodes : List Node} {purpose : Purpose}
    {exit : Option ExtendInfo} {flags : LaunchFlags} {c : OriginCircuit}
    (h : circuitEstablishPath sel nodes purpose exit flags = .built c) :
    HopsOk c ∧ c.markedForClose = false ∧ c.state = .chanWait := by
  obtain ⟨hinit, -, hlen, hclosed, hpos, -⟩ := circuitEstablishPath_built h
  have hmarked : c.markedForClose = false := by rw [hinit]; rfl
  have hstate : c.state = .chanWait := by rw [hinit]; rfl
  have hp : hopStates c = (⟨0, 0, c.cpath.length, Nat.zero_le 1⟩ : HopProfile).states := by
    simp only [HopProfile.states, List.replicate_zero, List.nil_append]
    rw [← List.length_map c.cpath (·.state)]
    exact List.eq_replicate_of_mem fun s hs => by
      obtain ⟨hop, hmem, rfl⟩ := List.mem_map.mp hs
      exact hclosed hop hmem
  refine ⟨hopsOk_of hp ?_ fun _ => by simp [hstate, HopProfile.Fits], hmarked, hstate⟩
  rw [ne_eq, HopProfile.states_eq_nil]
  dsimp only
  omega

theorem hopInv_step {policy : PurposePolicy} {sys sys' : Sys} (hinv : HopInv sys)
    (hstep : Step opt policy sys sys') : HopInv sys' := by
  cases hstep with
  | establish sel nodes purpose exit flags o _ h =>
    unfold circuitEstablishCircuit at h
    split at h
    · rename_i c hbuilt
      obtain ⟨hok, hlive, hwait⟩ := hopsOk_built hbuilt
      dsimp only at h
      obtain ⟨res, hres, rfl⟩ := Option.map_eq_some'.mp h
      have hinv₁ : HopInv { sys with circuits := sys.circuits ++ [c] } := by
        intro j cj hj
        rcases Nat.lt_or_ge j sys.circuits.length with hlt | hge
        · rw [List.getElem?_append_left hlt] at hj
          exact hinv j cj hj
        · rw [List.getElem?_append_right hge] at hj
          obtain ⟨-, rfl⟩ := List.getElem?_eq_some_iff.mp hj
          simpa using hok
      exact hopInv_handleFirstHop opt hinv₁ (List.getElem?_concat_length _ _) hlive hwait hres
    all_goals
      cases h
      exact hinv
  | chanDone i status o hwait h =>
    obtain ⟨c, hc, hlive, hstate⟩ := hwait
    unfold circuitNChanDone at h
    split_ifs at h
    · cases h
      exact hinv.close _ i _ _
    · obtain ⟨res, hres, rfl⟩ := Option.map_eq_some'.mp h
      exact hopInv_sendNext_chanWait opt hinv hc hlive hstate hres
  | reply i reply o hsent h =>
    obtain ⟨c, hc, hlive, hstate⟩ := hsent
    obtain ⟨r, sys₀, hfin, hsome, hnone⟩ := circuitFinishHandshake_hops opt hinv hc hlive hstate reply
    unfold circuitHandleReply at h
    rw [hfin, Option.some_bind] at h
    cases r with
    | some reason =>
      cases h
      exact (hsome rfl).close _ i _ _
    | none =>
      obtain ⟨hoff, c', p, hc', hbuilding, hp, hawait, hopen⟩ := hnone rfl
      obtain ⟨res, hres, rfl⟩ := Option.map_eq_some'.mp h
      exact hopInv_sendNext_building opt hoff hc' hbuilding hp hawait hopen hres
  | extendToNewExit i exit o hopen h =>
    obtain ⟨c, hc, hlive, hstate⟩ := hopen
    obtain ⟨hne, p, hp, hfits⟩ := hinv i c hc
    obtain ⟨hawait, hclosed⟩ : p.awaiting = 0 ∧ p.closed = 0 := by
      have := hfits hlive
      rwa [hstate] at this
    unfold circuitExtendToNewExit at h
    obtain ⟨res, hres, rfl⟩ := Option.map_eq_some'.mp h
    refine hopInv_sendNext_building opt ((hinv.off i).modifyCirc _) (getElem?_modifyCirc_self hc _)
      rfl (p := p.appendClosed) ?_ hawait ?_ hres
    · simp only [hopStates, circuitAppendNewExit, onionAppendHop, List.map_append]
      rw [← HopProfile.states_appendClosed, ← hp]
      rfl
    · have := mt HopProfile.states_eq_nil.mpr (hp ▸ hne)
      simp only [HopProfile.appendClosed]
      omega
  | useAttempt i _ => exact hinv.frame (pathbiasCountUseAttempt_frame _ _ _)
  | useSuccess i _ => exact hinv.frame (pathbiasMarkUseSuccess_frame _ _ _)
  | useRollback i _ => exact hinv.frame (pathbiasMarkUseRollback_frame _ _)
  | probeResponse i cell o _ => exact hinv.frame (pathbiasCheckProbeResponse_frame _ _ _ _ _)
  | timeout i _ => exact hinv.frame (pathbiasCountTimeout_frame _ _ _)
  | close i reason o _ => exact hinv.close _ i _ _
  | changePurpose i p _ _ => exact hinv.frame (frame_modifyCirc _ _ fun _ => ⟨rfl, rfl, rfl, rfl, id⟩)

theorem hopInv_reachable {policy : PurposePolicy} {init sys : Sys} (hinit : HopInv init)
    (h : Reachable opt policy init sys) : HopInv sys := by
  induction h with
  | init => exact hinit
  | step _ hstep ih => exact hopInv_step opt ih hstep

end Events

/-- Whatever channel callbacks, replies (duplicated, unexpected or late ones included),
extensions, accountant events and closes happen, every circuit's hop states read from the
head are OPEN* AWAITING_KEYS? CLOSED*; a live CHAN_WAIT circuit has only closed hops, a
BUILDING one exactly one hop awaiting keys and an OPEN one only open hops; and a reply to a
live circuit whose first create went out never fails an assertion of
circuit_finish_handshake. -/
theorem reachable_hopsWellFormed {opt : Options} {policy : PurposePolicy} {init sys : Sys}
    (hinit : init.circuits = []) (hreach : Reachable opt policy init sys) (i : ℕ)
    (c : OriginCircuit) (hc : sys.circuits[i]? = some c) :
    HopsWellFormed (hopStates c) c.state c.markedForClose ∧
      (c.markedForClose = false → c.state ≠ .chanWait →
        ∀ reply, (circuitFinishHandshake opt sys i reply).isSome) := by
  have hinv := hopInv_reachable opt (fun j c h => by simp [hinit] at h) hreach
  refine ⟨hinv i c hc, fun hlive hsent reply => ?_⟩
  obtain ⟨r, sys', hfin, -⟩ := circuitFinishHandshake_hops opt hinv hc hlive hsent reply
  simp [hfin]

end TorCircuitBuild.Build

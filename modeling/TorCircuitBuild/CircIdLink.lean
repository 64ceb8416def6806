import Mathlib.Data.List.Nodup
import TorCircuitBuild.CircId

set_option autoImplicit false

/-!
# Circuit ids from both ends of a channel

Either end of a channel may create circuits on it, and each picks their ids with
get_unique_circ_id_by_chan, looking only at the ids it knows to be in use: those of its own
circuits, and those of the CREATE cells that have arrived from the peer. circuit_deliver_create_cell
gives up on id 0 and otherwise registers the id with the channel (circuit_set_n_circid_chan in
circuitlist.c), which circuit_id_in_use_on_channel then reports in use; freeing a circuit drops
its id again.

The two ends have different circ_id_types: one HIGHER and one LOWER, or one a client end of
type NEITHER that creates no circuits. So the side bit keeps their ids apart, and over any
interleaving of creations, arrivals of the peer's cells and circuits freed at either end, no id
is held by two open circuits of the channel, although neither end waits for the other.
-/

namespace TorCircuitBuild.CircId

/-- The two ends of a channel. -/
inductive End
  | initiator
  | responder
  deriving DecidableEq, Repr

/-- circuit_set_n_circid_chan: the id is in use on the channel from now on. -/
def Channel.setCircId (chan : Channel) (id : ℕ) : Channel :=
  { chan with circIdInUse := fun x => x == id || chan.circIdInUse x }

/-- A circuit freed: its id is no longer in use on the channel. -/
def Channel.clearCircId (chan : Channel) (id : ℕ) : Channel :=
  { chan with circIdInUse := fun x => x != id && chan.circIdInUse x }

/-- A channel seen from both its ends: each end's circuit-id state, and the ids of the open
circuits that end created. -/
structure Link where
  chan : End → Channel
  ids : End → List ℕ

namespace Link

/-- End `e` with a new channel state and open circuits. -/
def set (L : Link) (e : End) (c : Channel) (l : List ℕ) : Link :=
  ⟨fun e' => if e' = e then c else L.chan e', fun e' => if e' = e then l else L.ids e'⟩

/-- The id part of circuit_deliver_create_cell at end `e`: the allocator's id, refused when it
is 0, and otherwise registered with the channel. -/
def createCircuit (L : Link) (e : End) : Option (ℕ × Link) :=
  match getUniqueCircIdByChan (L.chan e) with
  | none => none
  | some (id, chan') =>
    if id = 0 then none else some (id, L.set e (chan'.setCircId id) (id :: L.ids e))

/-- One event on the channel: a circuit created at end `e`; a CREATE cell of the peer arriving
at `e`, whose id `e` then knows in use; or a circuit freed at `e`, which is one of `e`'s own when
its id is among them. -/
inductive Step : Link → Link → Prop
  | create {L L' : Link} (e : End) {id : ℕ} (h : L.createCircuit e = some (id, L')) : Step L L'
  | arrive (L : Link) (e : End) (id : ℕ) : Step L (L.set e ((L.chan e).setCircId id) (L.ids e))
  | free (L : Link) (e : End) (id : ℕ) :
      Step L (L.set e ((L.chan e).clearCircId id) ((L.ids e).erase id))

inductive Reachable (init : Link) : Link → Prop
  | init : Reachable init init
  | step {L L' : Link} : Reachable init L → Step L L' → Reachable init L'

end Link

/-! ## The allocator's side of the channel -/

/-- An id on the side of the channel that its end allocates from. -/
def OnSide (chan : Channel) (id : ℕ) : Prop :=
  chan.circIdType ≠ .neither ∧ (2 ^ circIdWidth chan ≤ id ↔ chan.circIdType = .higher)

section Alloc

variable {chan chan' : Channel} {id : ℕ}

theorem getUniqueCircIdByChan_chan (h : getUniqueCircIdByChan chan = some (id, chan')) :
    chan' = { chan with nextCircId := chan'.nextCircId } := by
  unfold getUniqueCircIdByChan at h
  split at h
  · cases h
    rfl
  · obtain ⟨r, -, hr⟩ := Option.map_eq_some'.mp h
    cases hr
    rfl

theorem getUniqueCircIdByChan_fresh (h : getUniqueCircIdByChan chan = some (id, chan'))
    (hid : id ≠ 0) : chan.circIdInUse id = false ∧ OnSide chan id := by
  obtain ⟨id', c, hrun, hfree, -⟩ := getUniqueCircIdByChan_spec chan
  rw [hrun] at h
  cases h
  refine ⟨(hfree hid).1, fun hn => hid ?_, getUniqueCircIdByChan_side chan id chan' hrun hid⟩
  rw [getUniqueCircIdByChan, if_pos hn] at hrun
  exact (Prod.mk.inj (Option.some.inj hrun)).1.symm

end Alloc

/-! ## What holds on every reachable channel -/

namespace Link

/-- Both ends use the same width, their circ_id_types differ, and each end knows its own open
ids in use, holds none twice, and holds only ids on its side. -/
structure Ok (L : Link) : Prop where
  width : (L.chan .initiator).wideCircIds = (L.chan .responder).wideCircIds
  types : (L.chan .initiator).circIdType ≠ (L.chan .responder).circIdType
  inUse : ∀ e, ∀ id ∈ L.ids e, (L.chan e).circIdInUse id = true
  nodup : ∀ e, (L.ids e).Nodup
  side : ∀ e, ∀ id ∈ L.ids e, OnSide (L.chan e) id

variable {L : Link} {e e' : End} {c : Channel} {l : List ℕ}

theorem set_chan : (L.set e c l).chan e' = if e' = e then c else L.chan e' := rfl

theorem set_ids : (L.set e c l).ids e' = if e' = e then l else L.ids e' := rfl

theorem Ok.not_onSide_both (h : L.Ok) {id : ℕ} (he : e ≠ e') (hx : OnSide (L.chan e) id)
    (hx' : OnSide (L.chan e') id) : False := by
  have hw : circIdWidth (L.chan e) = circIdWidth (L.chan e') := by
    cases e <;> cases e' <;> simp only [circIdWidth, h.width]
  have ht : (L.chan e).circIdType ≠ (L.chan e').circIdType := by
    cases e <;> cases e' <;> first | exact absurd rfl he | exact h.types | exact Ne.symm h.types
  obtain ⟨hn, hs⟩ := hx
  obtain ⟨hn', hs'⟩ := hx'
  rw [hw, hs'] at hs
  revert ht hn hn' hs
  cases (L.chan e).circIdType <;> cases (L.chan e').circIdType <;> simp

theorem Ok.set (h : L.Ok) (hw : c.wideCircIds = (L.chan e).wideCircIds)
    (ht : c.circIdType = (L.chan e).circIdType) (hin : ∀ id ∈ l, c.circIdInUse id = true)
    (hnd : l.Nodup) (hside : ∀ id ∈ l, OnSide c id) : (L.set e c l).Ok := by
  have hw' : ∀ e', ((L.set e c l).chan e').wideCircIds = (L.chan e').wideCircIds := fun e' => by
    rw [set_chan]; split <;> simp only [hw, *]
  have ht' : ∀ e', ((L.set e c l).chan e').circIdType = (L.chan e').circIdType := fun e' => by
    rw [set_chan]; split <;> simp only [ht, *]
  refine ⟨by rw [hw', hw', h.width], by rw [ht', ht']; exact h.types, fun e' => ?_,
    fun e' => ?_, fun e' => ?_⟩ <;> simp only [set_ids, set_chan] <;> split
  exacts [hin, h.inUse e', hnd, h.nodup e', hside, h.side e']

theorem createCircuit_cases {id : ℕ} {L' : Link} (hc : L.createCircuit e = some (id, L')) :
    ∃ chan', getUniqueCircIdByChan (L.chan e) = some (id, chan') ∧ id ≠ 0 ∧
      L' = L.set e (chan'.setCircId id) (id :: L.ids e) := by
  unfold Link.createCircuit at hc
  split at hc
  · cases hc
  rename_i id₀ chan' hg
  split at hc
  · cases hc
  cases hc
  exact ⟨chan', hg, ‹_›, rfl⟩

theorem Ok.create (h : L.Ok) {id : ℕ} {L' : Link} (hc : L.createCircuit e = some (id, L')) :
    L'.Ok := by
  obtain ⟨chan', hg, hid, rfl⟩ := createCircuit_cases hc
  have hch := getUniqueCircIdByChan_chan hg
  obtain ⟨hfree, hs⟩ := getUniqueCircIdByChan_fresh hg hid
  have hsame : ∀ x,
      (chan'.setCircId id).circIdInUse x = (x == id || (L.chan e).circIdInUse x) := by
    intro x; rw [hch]; rfl
  have hside : ∀ x, OnSide (chan'.setCircId id) x ↔ OnSide (L.chan e) x := by
    intro x; rw [hch]; rfl
  refine h.set (by rw [hch]; rfl) (by rw [hch]; rfl) ?_ ?_ ?_
  · intro x hx
    rw [hsame]
    rcases List.mem_cons.mp hx with rfl | hx
    · simp
    · simp [h.inUse e x hx]
  · exact List.nodup_cons.mpr ⟨fun hm => by simp [h.inUse e id hm] at hfree, h.nodup e⟩
  · intro x hx
    rw [hside]
    rcases List.mem_cons.mp hx with rfl | hx
    exacts [hs, h.side e x hx]

theorem Ok.step (h : L.Ok) {L' : Link} (hs : Step L L') : L'.Ok := by
  cases hs with
  | create e hc => exact h.create hc
  | arrive e id =>
    exact h.set rfl rfl (fun x hx => by simp [Channel.setCircId, h.inUse e x hx]) (h.nodup e)
      (h.side e)
  | free e id =>
    refine h.set rfl rfl (fun x hx => ?_) ((h.nodup e).erase id) fun x hx => h.side e x
      (List.mem_of_mem_erase hx)
    obtain ⟨hne, hx⟩ := (List.Nodup.mem_erase_iff (h.nodup e)).mp hx
    simp [Channel.clearCircId, hne, h.inUse e x hx]

theorem Ok.reachable {init : Link} (hinit : init.Ok) (hr : Reachable init L) : L.Ok := by
  induction hr with
  | init => exact hinit
  | step _ hs ih => exact ih.step hs

theorem Ok.createCircuit_fresh (h : L.Ok) {id : ℕ} {L' : Link}
    (hc : L.createCircuit e = some (id, L')) (e' : End) : id ∉ L.ids e' := by
  obtain ⟨chan', hg, hid, -⟩ := createCircuit_cases hc
  obtain ⟨hfree, hs⟩ := getUniqueCircIdByChan_fresh hg hid
  intro hm
  by_cases he : e = e'
  · subst he
    simp [h.inUse e id hm] at hfree
  · exact h.not_onSide_both he hs (h.side e' id hm)

/-- From a channel whose ends agree on the width and differ in circ_id_type, and where each end
knows its own open ids in use, over any interleaving of circuits created at either end, CREATE
cells arriving from the peer and circuits freed: no id is held by two open circuits of the
channel, whichever ends created them, and a circuit created next at either end gets an id that
no open circuit holds. -/
theorem reachable_circIds_unique {init : Link} (hinit : init.Ok) (hr : Reachable init L) :
    (L.ids .initiator ++ L.ids .responder).Nodup ∧
      ∀ e id L', L.createCircuit e = some (id, L') → ∀ e', id ∉ L.ids e' := by
  have h := hinit.reachable hr
  refine ⟨List.nodup_append.mpr ⟨h.nodup _, h.nodup _, fun x hx hx' => ?_⟩,
    fun e _ _ hc => h.createCircuit_fresh hc⟩
  exact h.not_onSide_both (by decide) (h.side _ x hx) (h.side _ x hx')

end Link

/-- A new channel end, counting ids from 1, with none in use. -/
def freshEnd (t : CircIdType) : Channel := ⟨1, false, t, fun _ => false⟩

/-- A new channel whose initiator allocates the high ids. -/
def freshLink : Link :=
  ⟨fun e => match e with
    | .initiator => freshEnd .higher
    | .responder => freshEnd .lower, fun _ => []⟩

/-- The initiator's first circuit: id 1 with the side bit 2^15. -/
def initiatorCircuit : Link :=
  freshLink.set .initiator (({ freshEnd .higher with nextCircId := 2 } : Channel).setCircId 32769)
    [32769]

/-- Then the responder's first circuit: id 1. -/
def bothCircuits : Link :=
  initiatorCircuit.set .responder (({ freshEnd .lower with nextCircId := 2 } : Channel).setCircId 1)
    [1]

theorem bothCircuits_unique :
    freshLink.Ok ∧ Link.Reachable freshLink bothCircuits ∧
      ((bothCircuits.ids .initiator ++ bothCircuits.ids .responder).Nodup ∧
        ∀ e id L', bothCircuits.createCircuit e = some (id, L') →
          ∀ e', id ∉ bothCircuits.ids e') :=
  have hok : freshLink.Ok :=
    ⟨rfl, by decide, fun _ _ h => (nomatch h), fun _ => List.nodup_nil,
      fun _ _ h => (nomatch h)⟩
  have hr : Link.Reachable freshLink bothCircuits :=
    .step (.step .init (@Link.Step.create freshLink initiatorCircuit .initiator 32769 rfl))
      (.create .responder rfl)
  ⟨hok, hr, Link.reachable_circIds_unique hok hr⟩

end TorCircuitBuild.CircId

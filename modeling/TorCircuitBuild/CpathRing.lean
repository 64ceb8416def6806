import Mathlib.Data.List.Nodup
import TorCircuitBuild.BuildMachine

set_option autoImplicit false

/-!
# The cpath as a ring of cells

In `circuitbuild.c` the cpath of an origin circuit is a circular doubly linked list of
`crypt_path_t` cells, reached through the circuit's pointer to its first hop.
`onion_append_to_cpath` links a fresh cell in just before the head, and each reader walks
`next` from the head, with a do-while loop that stops when it is back at the head or with a
counted loop. The other modules take the cpath as the list of its hops. Here the cells and
their links are modelled, every run of appends is shown to keep them one ring in append order
(`IsCpath`), and the walks over such a ring are shown to read that list.

Memory is a total map from addresses to cells. The head pointer and a cell's extend_info are
the pointers that can be NULL: the head is an `Option`, and a cell records whether its
extend_info is set beside the info it then points to. The walks take fuel; the results say how much is enough, and
that the walk which only records its visits needs all of it.
-/

namespace TorCircuitBuild.CpathRing

/-- Addresses of crypt_path_t cells. -/
abbrev Ptr := ℕ

/-- A crypt_path_t in memory: the hop, whether its extend_info pointer is set (it then points to
the hop's extend info; NULL otherwise), and its two ring links. -/
structure CryptPathCell where
  hop : CryptPath
  extendInfoSet : Bool
  next : Ptr
  prev : Ptr

/-- The cells, by address. -/
abbrev Heap := Ptr → CryptPathCell

/-- The circuit's cpath pointer, NULL for an empty cpath, and the cells it reaches. -/
structure RingState where
  head : Option Ptr
  heap : Heap

/-! ## Stores -/

/-- The store `p->next = q`. -/
def setNext (heap : Heap) (p q : Ptr) : Heap :=
  Function.update heap p { heap p with next := q }

/-- The store `p->prev = q`. -/
def setPrev (heap : Heap) (p q : Ptr) : Heap :=
  Function.update heap p { heap p with prev := q }

/-- The stores to the fields of the hop itself, which leave its links alone. -/
def setHop (heap : Heap) (p : Ptr) (hop : CryptPath) : Heap :=
  Function.update heap p { heap p with hop := hop }

/-- The store of a non-NULL extend_info pointer into the cell `p`. -/
def setExtendInfoSet (heap : Heap) (p : Ptr) : Heap :=
  Function.update heap p { heap p with extendInfoSet := true }

section Stores

variable (heap : Heap) (p q r : Ptr)

@[simp] theorem setNext_next : (setNext heap p q r).next = if r = p then q else (heap r).next := by
  by_cases h : r = p <;> simp [setNext, Function.update_apply, h]

@[simp] theorem setNext_prev : (setNext heap p q r).prev = (heap r).prev := by
  by_cases h : r = p <;> simp [setNext, Function.update_apply, h]

@[simp] theorem setPrev_next : (setPrev heap p q r).next = (heap r).next := by
  by_cases h : r = p <;> simp [setPrev, Function.update_apply, h]

@[simp] theorem setPrev_prev : (setPrev heap p q r).prev = if r = p then q else (heap r).prev := by
  by_cases h : r = p <;> simp [setPrev, Function.update_apply, h]

@[simp] theorem setHop_next (hop : CryptPath) : (setHop heap p hop r).next = (heap r).next := by
  by_cases h : r = p <;> simp [setHop, Function.update_apply, h]

@[simp] theorem setHop_prev (hop : CryptPath) : (setHop heap p hop r).prev = (heap r).prev := by
  by_cases h : r = p <;> simp [setHop, Function.update_apply, h]

@[simp] theorem setNext_hop : (setNext heap p q r).hop = (heap r).hop := by
  by_cases h : r = p <;> simp [setNext, Function.update_apply, h]

@[simp] theorem setPrev_hop : (setPrev heap p q r).hop = (heap r).hop := by
  by_cases h : r = p <;> simp [setPrev, Function.update_apply, h]

@[simp] theorem setHop_hop (hop : CryptPath) :
    (setHop heap p hop r).hop = if r = p then hop else (heap r).hop := by
  by_cases h : r = p <;> simp [setHop, Function.update_apply, h]

@[simp] theorem setExtendInfoSet_next : (setExtendInfoSet heap p r).next = (heap r).next := by
  by_cases h : r = p <;> simp [setExtendInfoSet, Function.update_apply, h]

@[simp] theorem setExtendInfoSet_prev : (setExtendInfoSet heap p r).prev = (heap r).prev := by
  by_cases h : r = p <;> simp [setExtendInfoSet, Function.update_apply, h]

@[simp] theorem setExtendInfoSet_hop : (setExtendInfoSet heap p r).hop = (heap r).hop := by
  by_cases h : r = p <;> simp [setExtendInfoSet, Function.update_apply, h]

@[simp] theorem setExtendInfoSet_extendInfoSet :
    (setExtendInfoSet heap p r).extendInfoSet = if r = p then true else (heap r).extendInfoSet := by
  by_cases h : r = p <;> simp [setExtendInfoSet, Function.update_apply, h]

@[simp] theorem setNext_extendInfoSet : (setNext heap p q r).extendInfoSet = (heap r).extendInfoSet := by
  by_cases h : r = p <;> simp [setNext, Function.update_apply, h]

@[simp] theorem setPrev_extendInfoSet : (setPrev heap p q r).extendInfoSet = (heap r).extendInfoSet := by
  by_cases h : r = p <;> simp [setPrev, Function.update_apply, h]

@[simp] theorem setHop_extendInfoSet (hop : CryptPath) :
    (setHop heap p hop r).extendInfoSet = (heap r).extendInfoSet := by
  by_cases h : r = p <;> simp [setHop, Function.update_apply, h]

end Stores

/-! ## Appending -/

/-- onion_append_to_cpath: link `newHop` in at the end of the ring, just before the head, or
make it the whole ring when the cpath is empty. Each store reads the cells as the stores before
it left them. -/
def onionAppendToCpath (s : RingState) (newHop : Ptr) : RingState :=
  match s.head with
  | some head =>
    let heap := setNext s.heap newHop head
    let heap := setPrev heap newHop (heap head).prev
    let heap := setNext heap (heap head).prev newHop
    ⟨some head, setPrev heap head newHop⟩
  | none =>
    let heap := setNext s.heap newHop newHop
    ⟨some newHop, setPrev heap newHop newHop⟩

/-- onion_append_hop: the zeroed cell from tor_malloc_zero is linked in at the end, then becomes
a closed hop with no handshake pending, whose extend_info is a copy of `choice`. The magic number
and the windows are not modelled. -/
def onionAppendHop (s : RingState) (hop : Ptr) (choice : ExtendInfo) : RingState :=
  let s := onionAppendToCpath s hop
  let heap := setHop s.heap hop { extendInfo := choice, state := .closed, handshakeState := none }
  ⟨s.head, setExtendInfoSet heap hop⟩

/-! ## Walks -/

/-- The do-while loop over the ring that the readers of a cpath share
(onion_next_hop_in_cpath, circuit_list_path_impl, circuit_rep_hist_note_result): run the body
on the hop, stop if it breaks, else step to `next` and go on while that is not the head.
`none` means the fuel ran out. -/
def cpathDoWhile {σ : Type} (heap : Heap) (head : Ptr) (body : Ptr → σ → ForInStep σ) :
    ℕ → Ptr → σ → Option σ
  | 0, _, _ => none
  | fuel + 1, hop, acc =>
    match body hop acc with
    | .done acc => some acc
    | .yield acc =>
      if (heap hop).next ≠ head then cpathDoWhile heap head body fuel (heap hop).next acc
      else some acc

/-- onion_next_hop_in_cpath: the first hop from `cpath` on whose state is not open, or
`some none` for NULL once the walk is back at `cpath`. -/
def onionNextHopInCpath (heap : Heap) (cpath : Ptr) (fuel : ℕ) : Option (Option Ptr) :=
  cpathDoWhile heap cpath
    (fun hop _ => if (heap hop).hop.state ≠ .open then .done (some hop) else .yield none)
    fuel cpath none

/-- The cells the loop of choose_good_middle_server visits,
`for (i = 0, cpath = head; i < cur_len; ++i, cpath = cpath->next)`. -/
def cpathPrefix (heap : Heap) : ℕ → Ptr → List Ptr
  | 0, _ => []
  | curLen + 1, cpath => cpath :: cpathPrefix heap curLen (heap cpath).next

/-! ## The ring invariant -/

/-- Following `next` from the `j`-th hop of `ps` gives the next one, and from the last the
first. -/
def NextLinks (heap : Heap) (ps : List Ptr) : Prop :=
  ∀ j p, ps[j]? = some p → ps[(j + 1) % ps.length]? = some (heap p).next

/-- `prev` undoes `next` on every hop of `ps`. -/
def PrevLinks (heap : Heap) (ps : List Ptr) : Prop :=
  ∀ p ∈ ps, (heap (heap p).next).prev = p

/-- The cpath is a ring of the distinct cells `ps`, in order from its head. -/
structure IsCpath (s : RingState) (ps : List Ptr) : Prop where
  nodup : ps.Nodup
  head : s.head = ps.head?
  next : NextLinks s.heap ps
  prev : PrevLinks s.heap ps

theorem nextLinks_congr {heap heap' : Heap} {ps : List Ptr}
    (h : ∀ q, (heap' q).next = (heap q).next) (hn : NextLinks heap ps) : NextLinks heap' ps :=
  fun j p hj => h p ▸ hn j p hj

theorem NextLinks.getElem?_succ {heap : Heap} {ps : List Ptr} (hn : NextLinks heap ps) {j : ℕ}
    {p : Ptr} (hj : ps[j]? = some p) (hl : j + 1 < ps.length) :
    ps[j + 1]? = some (heap p).next := by
  simpa [Nat.mod_eq_of_lt hl] using hn j p hj

theorem NextLinks.next_eq_head_iff {heap : Heap} {ps : List Ptr} {head : Ptr}
    (hn : NextLinks heap ps) (hnd : ps.Nodup) (h0 : ps[0]? = some head) {j : ℕ} {p : Ptr}
    (hj : ps[j]? = some p) : (heap p).next = head ↔ j + 1 = ps.length := by
  have hlt : j < ps.length := (List.getElem?_eq_some_iff.mp hj).1
  rcases Nat.lt_or_ge (j + 1) ps.length with hl | hl
  · refine ⟨fun he => ?_, by omega⟩
    have := List.getElem?_inj hl hnd ((hn.getElem?_succ hj hl).trans (he ▸ h0.symm))
    omega
  · have hj1 : j + 1 = ps.length := by omega
    have hnext := hn j p hj
    rw [hj1, Nat.mod_self, h0, Option.some.injEq] at hnext
    exact ⟨fun _ => hj1, fun _ => hnext.symm⟩

theorem mem_of_getElem?_eq_some {ps : List Ptr} {j : ℕ} {p : Ptr} (h : ps[j]? = some p) : p ∈ ps :=
  List.mem_iff_getElem?.mpr ⟨j, h⟩

theorem eq_of_getElem?_singleton {a b : Ptr} {j : ℕ} (h : [a][j]? = some b) : j = 0 ∧ a = b := by
  rcases j with _ | j
  · exact ⟨rfl, Option.some.inj h⟩
  · simp at h

theorem eq_last_iff {ps : List Ptr} (hnd : ps.Nodup) {l : Ptr} (hl : ps[ps.length - 1]? = some l)
    {j : ℕ} {q : Ptr} (hj : ps[j]? = some q) : q = l ↔ j + 1 = ps.length := by
  have hjn := (List.getElem?_eq_some_iff.mp hj).1
  refine ⟨fun e => ?_, fun e => ?_⟩
  · have := List.getElem?_inj hjn hnd (hj.trans (e ▸ hl.symm))
    omega
  · rw [show j = ps.length - 1 by omega, hl] at hj
    exact (Option.some.inj hj).symm

theorem IsCpath.getLast {s : RingState} {ps : List Ptr} (hc : IsCpath s ps) {h : Ptr}
    (hs : s.head = some h) : ps[ps.length - 1]? = some (s.heap h).prev := by
  have h0 : ps[0]? = some h := by rw [← List.head?_eq_getElem?, ← hc.head, hs]
  have hpos : 0 < ps.length := (List.getElem?_eq_some_iff.mp h0).1
  obtain ⟨x, hx⟩ : ∃ x, ps[ps.length - 1]? = some x :=
    ⟨_, List.getElem?_eq_getElem (by omega)⟩
  have hxh : (s.heap x).next = h := (hc.next.next_eq_head_iff hc.nodup h0 hx).mpr (by omega)
  rw [hx, ← hxh, hc.prev x (mem_of_getElem?_eq_some hx)]

theorem onionAppendToCpath_of_some {s : RingState} {head : Ptr} (hs : s.head = some head)
    {newHop : Ptr} (hne : head ≠ newHop) :
    (onionAppendToCpath s newHop).head = some head ∧ ∀ r,
      ((onionAppendToCpath s newHop).heap r).next =
        (if r = (s.heap head).prev then newHop else if r = newHop then head else (s.heap r).next) ∧
      ((onionAppendToCpath s newHop).heap r).prev =
        (if r = head then newHop else if r = newHop then (s.heap head).prev
          else (s.heap r).prev) := by
  simp [onionAppendToCpath, hs, hne]

theorem onionAppendToCpath_of_none {s : RingState} (hs : s.head = none) (newHop : Ptr) :
    (onionAppendToCpath s newHop).head = some newHop ∧
      ((onionAppendToCpath s newHop).heap newHop).next = newHop ∧
      ((onionAppendToCpath s newHop).heap newHop).prev = newHop := by
  simp [onionAppendToCpath, hs]

theorem IsCpath.appendToCpath {s : RingState} {ps : List Ptr} (hc : IsCpath s ps) {p : Ptr}
    (hp : p ∉ ps) : IsCpath (onionAppendToCpath s p) (ps ++ [p]) := by
  have hnd : (ps ++ [p]).Nodup := List.nodup_append.mpr
    ⟨hc.nodup, List.nodup_singleton p, fun q hq hq' => hp (List.mem_singleton.mp hq' ▸ hq)⟩
  rcases hs : s.head with _ | h
  case none =>
    -- the first cell is a ring of one
    obtain rfl : ps = [] := List.head?_eq_none_iff.mp (hc.head ▸ hs)
    obtain ⟨hhead, hnext, hprev⟩ := onionAppendToCpath_of_none hs p
    refine ⟨hnd, by simp [hhead], fun j q hj => ?_, fun q hq => ?_⟩
    · obtain ⟨rfl, rfl⟩ := eq_of_getElem?_singleton hj
      simp [hnext]
    · obtain rfl : p = q := (List.mem_singleton.mp hq).symm
      rw [hnext, hprev]
  case some =>
    -- the new cell goes between the last cell, the head's old prev, and the head
    have h0 : ps[0]? = some h := by rw [← List.head?_eq_getElem?, ← hc.head, hs]
    have hlast := hc.getLast hs
    set l := (s.heap h).prev
    have hph : h ≠ p := fun e => hp (e ▸ mem_of_getElem?_eq_some h0)
    have hpl : p ≠ l := fun e => hp (e ▸ mem_of_getElem?_eq_some hlast)
    obtain ⟨hhead, hheap⟩ := onionAppendToCpath_of_some hs hph
    refine ⟨hnd, by rw [hhead, List.head?_append, List.head?_eq_getElem?, h0]; rfl, ?_, ?_⟩
    · intro j q hj
      rcases Nat.lt_or_ge j ps.length with hjn | hjn
      · rw [List.getElem?_append_left hjn] at hj
        rw [List.length_append, List.length_singleton, Nat.mod_eq_of_lt (by omega), (hheap q).1]
        by_cases hjl : j + 1 = ps.length
        · -- the old last cell now leads to the new one
          rw [if_pos ((eq_last_iff hc.nodup hlast hj).mpr hjl), hjl, List.getElem?_concat_length]
        · have hql : q ≠ l := fun e => hjl ((eq_last_iff hc.nodup hlast hj).mp e)
          have hqp : q ≠ p := fun e => hp (e ▸ mem_of_getElem?_eq_some hj)
          rw [if_neg hql, if_neg hqp, List.getElem?_append_left (by omega)]
          exact hc.next.getElem?_succ hj (by omega)
      · -- the new cell leads back to the head
        rw [List.getElem?_append_right hjn] at hj
        obtain ⟨hj0, rfl⟩ := eq_of_getElem?_singleton hj
        obtain rfl : j = ps.length := by omega
        rw [List.length_append, List.length_singleton, Nat.mod_self, (hheap p).1, if_neg hpl,
          if_pos rfl, List.getElem?_append_left (List.getElem?_eq_some_iff.mp h0).1, h0]
    · intro q hq
      rcases List.mem_append.mp hq with hq | hq
      · obtain ⟨j, hj⟩ := List.mem_iff_getElem?.mp hq
        by_cases hql : q = l
        · -- the old last cell and the new one
          subst hql
          rw [(hheap _).1, if_pos rfl, (hheap p).2, if_neg hph.symm, if_pos rfl]
        · have hqp : q ≠ p := fun e => hp (e ▸ hq)
          have hjn : j + 1 ≠ ps.length := fun e => hql ((eq_last_iff hc.nodup hlast hj).mpr e)
          have hrh : (s.heap q).next ≠ h :=
            fun e => hjn ((hc.next.next_eq_head_iff hc.nodup h0 hj).mp e)
          have hjlt : j + 1 < ps.length := by
            have := (List.getElem?_eq_some_iff.mp hj).1
            omega
          have hrp : (s.heap q).next ≠ p := fun e =>
            hp (e ▸ mem_of_getElem?_eq_some (hc.next.getElem?_succ hj hjlt))
          rw [(hheap q).1, if_neg hql, if_neg hqp, (hheap _).2, if_neg hrh, if_neg hrp,
            hc.prev q hq]
      · -- the new cell and the head
        obtain rfl : p = q := (List.mem_singleton.mp hq).symm
        rw [(hheap p).1, if_neg hpl, if_pos rfl, (hheap h).2, if_pos rfl]

theorem IsCpath.empty {s : RingState} (hs : s.head = none) : IsCpath s [] :=
  ⟨List.nodup_nil, hs, fun _ _ h => by simp at h, fun _ h => by simp at h⟩

theorem IsCpath.setHop {s : RingState} {ps : List Ptr} (hc : IsCpath s ps) (q : Ptr)
    (hop : CryptPath) : IsCpath ⟨s.head, setHop s.heap q hop⟩ ps :=
  ⟨hc.nodup, hc.head, nextLinks_congr (fun _ => setHop_next _ _ _ _) hc.next,
    fun r hr => by simpa using hc.prev r hr⟩

theorem IsCpath.setExtendInfoSet {s : RingState} {ps : List Ptr} (hc : IsCpath s ps) (q : Ptr) :
    IsCpath ⟨s.head, setExtendInfoSet s.heap q⟩ ps :=
  ⟨hc.nodup, hc.head, nextLinks_congr (fun _ => setExtendInfoSet_next _ _ _) hc.next,
    fun r hr => by simpa using hc.prev r hr⟩

theorem IsCpath.appendHop {s : RingState} {ps : List Ptr} (hc : IsCpath s ps) {p : Ptr}
    (hp : p ∉ ps) (choice : ExtendInfo) : IsCpath (onionAppendHop s p choice) (ps ++ [p]) :=
  ((hc.appendToCpath hp).setHop p _).setExtendInfoSet p

theorem IsCpath.foldl_appendHop (hops : List (Ptr × ExtendInfo)) :
    ∀ {s : RingState} {ps : List Ptr}, IsCpath s ps → (ps ++ hops.map Prod.fst).Nodup →
      IsCpath (hops.foldl (fun s hop => onionAppendHop s hop.1 hop.2) s)
        (ps ++ hops.map Prod.fst) := by
  induction hops with
  | nil => intro s ps hc _; simpa using hc
  | cons hop hops ih =>
    intro s ps hc hnd
    have hp : hop.1 ∉ ps := fun h => (List.nodup_append.mp hnd).2.2 h (List.mem_cons_self _ _)
    simpa using ih (hc.appendHop hp hop.2) (by simpa using hnd)

/-! ## The walks over a ring -/

section Walks

variable {heap : Heap} {ps : List Ptr} {head : Ptr}

theorem cpathDoWhile_eq_forIn {σ : Type} (body : Ptr → σ → ForInStep σ)
    (hn : NextLinks heap ps) (hnd : ps.Nodup) (h0 : ps[0]? = some head) (fuel : ℕ) :
    ∀ (j : ℕ) (p : Ptr) (acc : σ), ps[j]? = some p → ps.length ≤ j + fuel →
      cpathDoWhile heap head body fuel p acc =
        some (Id.run (forIn (ps.drop j) acc fun q a => pure (body q a))) := by
  induction fuel with
  | zero =>
    intro j p acc hj hf
    have := (List.getElem?_eq_some_iff.mp hj).1
    omega
  | succ fuel ih =>
    intro j p acc hj hf
    obtain ⟨hlt, hget⟩ := List.getElem?_eq_some_iff.mp hj
    have hhead := hn.next_eq_head_iff hnd h0 hj
    rw [cpathDoWhile, List.drop_eq_getElem_cons hlt, hget, List.forIn_cons]
    cases body p acc with
    | done a => rfl
    | yield a =>
      dsimp only
      by_cases hl : j + 1 = ps.length
      · -- back at the head after the last hop
        rw [if_neg (not_not.mpr (hhead.mpr hl)), hl, List.drop_length]
        rfl
      · exact (if_pos fun e => hl (hhead.mp e)).trans
          (ih (j + 1) _ a (hn.getElem?_succ hj (by omega)) (by omega))

theorem cpathDoWhile_eq_none {σ : Type} (body : Ptr → σ → ForInStep σ)
    (hbody : ∀ q a, ∃ a', body q a = .yield a') (hn : NextLinks heap ps) (hnd : ps.Nodup)
    (h0 : ps[0]? = some head) (fuel : ℕ) :
    ∀ (j : ℕ) (p : Ptr) (acc : σ), ps[j]? = some p → j + fuel < ps.length →
      cpathDoWhile heap head body fuel p acc = none := by
  induction fuel with
  | zero => intro _ _ _ _ _; rfl
  | succ fuel ih =>
    intro j p acc hj hf
    obtain ⟨a, ha⟩ := hbody p acc
    rw [cpathDoWhile, ha]
    exact (if_pos fun e => absurd ((hn.next_eq_head_iff hnd h0 hj).mp e) (by omega)).trans
      (ih (j + 1) _ a (hn.getElem?_succ hj (by omega)) (by omega))

theorem cpathPrefix_eq_take (hn : NextLinks heap ps) (curLen : ℕ) :
    ∀ (j : ℕ) (p : Ptr), ps[j]? = some p → j + curLen ≤ ps.length →
      cpathPrefix heap curLen p = (ps.drop j).take curLen := by
  induction curLen with
  | zero => intro _ _ _ _; rfl
  | succ curLen ih =>
    intro j p hj hf
    obtain ⟨hlt, hget⟩ := List.getElem?_eq_some_iff.mp hj
    rw [cpathPrefix, List.drop_eq_getElem_cons hlt, hget, List.take_succ_cons]
    rcases curLen with _ | curLen
    · rfl
    · rw [ih (j + 1) _ (hn.getElem?_succ hj (by omega)) (by omega)]

end Walks

theorem forIn_visits (l acc : List Ptr) :
    Id.run (forIn l acc fun q seen => pure (ForInStep.yield (seen ++ [q]))) = acc ++ l := by
  induction l generalizing acc with
  | nil => simp [Id.run]
  | cons q l ih =>
    rw [List.forIn_cons]
    exact (ih (acc ++ [q])).trans (by simp)

theorem forIn_nextHop (heap : Heap) (l : List Ptr) :
    Id.run (forIn l none fun q (_ : Option Ptr) =>
        pure (if (heap q).hop.state ≠ .open then ForInStep.done (some q) else .yield none)) =
      l.find? fun q => (heap q).hop.state ≠ .open := by
  induction l with
  | nil => rfl
  | cons q l ih =>
    rw [List.forIn_cons, List.find?_cons]
    by_cases h : (heap q).hop.state = .open
    · simpa [h] using ih
    · simp [h, Id.run]

section Head

variable {heap : Heap} {ps : List Ptr} {head : Ptr}

theorem cpathDoWhile_visits (hn : NextLinks heap ps) (hnd : ps.Nodup) (h0 : ps[0]? = some head)
    (fuel : ℕ) :
    cpathDoWhile heap head (fun q seen => .yield (seen ++ [q])) fuel head [] =
      if ps.length ≤ fuel then some ps else none := by
  by_cases hf : ps.length ≤ fuel
  · rw [if_pos hf, cpathDoWhile_eq_forIn _ hn hnd h0 fuel 0 head [] h0 (by omega), List.drop_zero,
      forIn_visits, List.nil_append]
  · exact (cpathDoWhile_eq_none _ (fun _ _ => ⟨_, rfl⟩) hn hnd h0 fuel 0 head [] h0
      (by omega)).trans (if_neg hf).symm

theorem onionNextHopInCpath_eq_find? (hn : NextLinks heap ps) (hnd : ps.Nodup)
    (h0 : ps[0]? = some head) {fuel : ℕ} (hf : ps.length ≤ fuel) :
    onionNextHopInCpath heap head fuel = some (ps.find? fun q => (heap q).hop.state ≠ .open) := by
  rw [onionNextHopInCpath, cpathDoWhile_eq_forIn _ hn hnd h0 fuel 0 head none h0 (by omega),
    List.drop_zero]
  exact congrArg some (forIn_nextHop heap ps)

end Head

/-- Any run of onion_append_hop calls on an empty cpath with distinct fresh cells h₁ … hₙ leaves
the ring h₁ → … → hₙ → h₁ at the head h₁, with `prev` undoing `next` and the head's `prev` the
last cell. Whatever the hops' fields become later, as long as the links stay: every do-while
walk from the head runs as the for loop over the cells in append order, and the one that only
records its visits sees each cell once, in that order, and ends after exactly `n` steps;
onion_next_hop_in_cpath returns the first cell in append order that is not open, NULL exactly
when all are; and the loop of choose_good_middle_server visits the first `cur_len` cells. -/
theorem onionAppendHop_ring (s₀ : RingState) (hempty : s₀.head = none) (h₁ : Ptr)
    (e₁ : ExtendInfo) (rest : List (Ptr × ExtendInfo))
    (hfresh : (h₁ :: rest.map Prod.fst).Nodup) :
    let s := ((h₁, e₁) :: rest).foldl (fun s hop => onionAppendHop s hop.1 hop.2) s₀
    let ps := h₁ :: rest.map Prod.fst
    s.head = some h₁ ∧ NextLinks s.heap ps ∧ PrevLinks s.heap ps ∧
      ps.getLast? = some (s.heap h₁).prev ∧ (s.heap (s.heap h₁).prev).next = h₁ ∧
      ∀ heap : Heap, (∀ q, (heap q).next = (s.heap q).next) →
        (∀ (σ : Type) (body : Ptr → σ → ForInStep σ) (acc : σ) (fuel : ℕ), ps.length ≤ fuel →
          cpathDoWhile heap h₁ body fuel h₁ acc =
            some (Id.run (forIn ps acc fun q a => pure (body q a)))) ∧
        (∀ fuel, cpathDoWhile heap h₁ (fun q seen => .yield (seen ++ [q])) fuel h₁ [] =
          if ps.length ≤ fuel then some ps else none) ∧
        (∀ fuel, ps.length ≤ fuel → onionNextHopInCpath heap h₁ fuel =
          some (ps.find? fun q => (heap q).hop.state ≠ .open)) ∧
        (∀ fuel, ps.length ≤ fuel →
          (onionNextHopInCpath heap h₁ fuel = some none ↔ ∀ q ∈ ps, (heap q).hop.state = .open)) ∧
        ∀ curLen ≤ ps.length, cpathPrefix heap curLen h₁ = ps.take curLen := by
  intro s ps
  have hc : IsCpath s ps := (IsCpath.empty hempty).foldl_appendHop ((h₁, e₁) :: rest) hfresh
  have h0 : ps[0]? = some h₁ := List.getElem?_cons_zero
  have hlast := hc.getLast hc.head
  refine ⟨hc.head, hc.next, hc.prev, by rw [List.getLast?_eq_getElem?, hlast],
    (hc.next.next_eq_head_iff hc.nodup h0 hlast).mpr (Nat.sub_add_cancel (Nat.succ_pos _)),
    fun heap hheap => ?_⟩
  have hn := nextLinks_congr hheap hc.next
  have hfind {fuel : ℕ} (hf : ps.length ≤ fuel) := onionNextHopInCpath_eq_find? hn hc.nodup h0 hf
  refine ⟨fun σ body acc fuel hf => ?_, cpathDoWhile_visits hn hc.nodup h0, fun _ => hfind,
    fun fuel hf => ?_, fun curLen hf => ?_⟩
  · simpa using cpathDoWhile_eq_forIn body hn hc.nodup h0 fuel 0 h₁ acc h0 (by omega)
  · simp [hfind hf, List.find?_eq_none]
  · simpa using cpathPrefix_eq_take hn curLen 0 h₁ h0 (by omega)

/-- No cpath yet, over zeroed cells. -/
def emptyCpath : RingState := ⟨none, fun _ => ⟨hopAt 0 .closed, false, 0, 0⟩⟩

/-- The second and third hops, in cells 2 and 3. -/
def laterHops : List (Ptr × ExtendInfo) :=
  [(2, (hopAt 2 .closed).extendInfo), (3, (hopAt 3 .closed).extendInfo)]

theorem threeHops_ring :
    emptyCpath.head = none ∧ (1 :: laterHops.map Prod.fst).Nodup ∧
    let s := ((1, (hopAt 1 .closed).extendInfo) :: laterHops).foldl
      (fun s hop => onionAppendHop s hop.1 hop.2) emptyCpath
    let ps := 1 :: laterHops.map Prod.fst
    s.head = some 1 ∧ NextLinks s.heap ps ∧ PrevLinks s.heap ps ∧
      ps.getLast? = some (s.heap 1).prev ∧ (s.heap (s.heap 1).prev).next = 1 ∧
      ∀ heap : Heap, (∀ q, (heap q).next = (s.heap q).next) →
        (∀ (σ : Type) (body : Ptr → σ → ForInStep σ) (acc : σ) (fuel : ℕ), ps.length ≤ fuel →
          cpathDoWhile heap 1 body fuel 1 acc =
            some (Id.run (forIn ps acc fun q a => pure (body q a)))) ∧
        (∀ fuel, cpathDoWhile heap 1 (fun q seen => .yield (seen ++ [q])) fuel 1 [] =
          if ps.length ≤ fuel then some ps else none) ∧
        (∀ fuel, ps.length ≤ fuel → onionNextHopInCpath heap 1 fuel =
          some (ps.find? fun q => (heap q).hop.state ≠ .open)) ∧
        (∀ fuel, ps.length ≤ fuel →
          (onionNextHopInCpath heap 1 fuel = some none ↔ ∀ q ∈ ps, (heap q).hop.state = .open)) ∧
        ∀ curLen ≤ ps.length, cpathPrefix heap curLen 1 = ps.take curLen :=
  ⟨rfl, by decide,
    onionAppendHop_ring emptyCpath rfl 1 (hopAt 1 .closed).extendInfo laterHops (by decide)⟩

/-! ## The list model of the cpath

The other modules take the cpath as the list of its hops. Read along the ring, the cells hold
that list, the appends build it as the list model's `onion_append_hop` does, and the readers
of the ring answer as the list model's readers do. -/

/-- The hops held by the cells `ps`, in order. -/
def cpathHops (heap : Heap) (ps : List Ptr) : List CryptPath :=
  ps.map fun q => (heap q).hop

@[simp] theorem onionAppendToCpath_hop (s : RingState) (p r : Ptr) :
    ((onionAppendToCpath s p).heap r).hop = (s.heap r).hop := by
  unfold onionAppendToCpath
  cases s.head <;> simp

@[simp] theorem onionAppendToCpath_extendInfoSet (s : RingState) (p r : Ptr) :
    ((onionAppendToCpath s p).heap r).extendInfoSet = (s.heap r).extendInfoSet := by
  unfold onionAppendToCpath
  cases s.head <;> simp

theorem cpathHops_appendHop (s : RingState) {ps : List Ptr} {p : Ptr} (hp : p ∉ ps)
    (choice : ExtendInfo) :
    cpathHops (onionAppendHop s p choice).heap (ps ++ [p]) =
      PathSelection.onionAppendHop (cpathHops s.heap ps) choice := by
  simp only [cpathHops, onionAppendHop, PathSelection.onionAppendHop, List.map_append,
    List.map_singleton, setExtendInfoSet_hop, setHop_hop, onionAppendToCpath_hop, if_pos rfl]
  exact congrArg (· ++ _) (List.map_congr_left fun q hq => by
    rw [if_neg (fun (e : q = p) => hp (e ▸ hq))])

theorem cpathHops_foldl_appendHop (hops : List (Ptr × ExtendInfo)) :
    ∀ {s : RingState} {ps : List Ptr}, (ps ++ hops.map Prod.fst).Nodup →
      cpathHops (hops.foldl (fun s hop => onionAppendHop s hop.1 hop.2) s).heap
          (ps ++ hops.map Prod.fst) =
        hops.foldl (fun cpath hop => PathSelection.onionAppendHop cpath hop.2)
          (cpathHops s.heap ps) := by
  induction hops with
  | nil => intro s ps _; simp
  | cons hop hops ih =>
    intro s ps hnd
    have hp : hop.1 ∉ ps := fun h => (List.nodup_append.mp hnd).2.2 h (List.mem_cons_self _ _)
    have := @ih (onionAppendHop s hop.1 hop.2) (ps ++ [hop.1]) (by simpa using hnd)
    simpa [cpathHops_appendHop s hp] using this

/-- Every cell of `ps` has its extend_info set, as every cell onion_append_hop links in does;
a cell that onion_append_to_cpath links in by itself may not. -/
def HasExtendInfo (heap : Heap) (ps : List Ptr) : Prop :=
  ∀ q ∈ ps, (heap q).extendInfoSet = true

theorem HasExtendInfo.setHop {heap : Heap} {ps : List Ptr} (h : HasExtendInfo heap ps) (q : Ptr)
    (hop : CryptPath) : HasExtendInfo (setHop heap q hop) ps :=
  fun r hr => by simpa using h r hr

theorem HasExtendInfo.appendHop {s : RingState} {ps : List Ptr} (h : HasExtendInfo s.heap ps)
    (p : Ptr) (choice : ExtendInfo) : HasExtendInfo (onionAppendHop s p choice).heap (ps ++ [p]) := by
  intro q hq
  simp only [onionAppendHop, setExtendInfoSet_extendInfoSet, setHop_extendInfoSet,
    onionAppendToCpath_extendInfoSet]
  split_ifs with hqp
  · rfl
  · exact h q ((List.mem_append.mp hq).resolve_right (by simpa using hqp))

/-- Every cell a run of onion_append_hop calls links in has its extend_info. -/
theorem hasExtendInfo_foldl_appendHop (hops : List (Ptr × ExtendInfo)) :
    ∀ {s : RingState} {ps : List Ptr}, HasExtendInfo s.heap ps →
      HasExtendInfo (hops.foldl (fun s hop => onionAppendHop s hop.1 hop.2) s).heap
        (ps ++ hops.map Prod.fst) := by
  induction hops with
  | nil => intro s ps h; simpa using h
  | cons hop hops ih => intro s ps h; simpa using ih (h.appendHop hop.1 hop.2)

theorem find?_eq_onionNextHopInCpath (heap : Heap) (ps : List Ptr) :
    (ps.find? fun q => (heap q).hop.state ≠ .open) =
      (Build.onionNextHopInCpath (cpathHops heap ps)).bind fun i => ps[i]? := by
  induction ps with
  | nil => rfl
  | cons q ps ih =>
    simp only [Build.onionNextHopInCpath, cpathHops, List.map_cons, List.find?_cons,
      List.findIdx?_cons, List.findIdx?_succ] at ih ⊢
    by_cases h : (heap q).hop.state = .open
    · simp only [h, ne_eq, not_true_eq_false, decide_False, Bool.false_eq_true, if_false,
        Option.bind_map, Function.comp_def, List.getElem?_cons_succ] at ih ⊢
      exact ih
    · simp only [h, ne_eq, not_false_eq_true, decide_True, if_true, Option.some_bind,
        List.getElem?_cons_zero]

/-- The ring refines the list model of the cpath: a run of onion_append_hop calls with fresh
cells on an empty cpath holds, read in ring order, the list the list model's appends build;
and over the same links with any later hops, onion_next_hop_in_cpath returns the cell at the
index the list model's onion_next_hop_in_cpath gives, and the loop of choose_good_middle_server
reads the first `cur_len` hops of the list. -/
theorem cpathHops_refines (s₀ : RingState) (hempty : s₀.head = none)
    (hops : List (Ptr × ExtendInfo)) (hfresh : (hops.map Prod.fst).Nodup) :
    let s := hops.foldl (fun s hop => onionAppendHop s hop.1 hop.2) s₀
    let ps := hops.map Prod.fst
    cpathHops s.heap ps = hops.foldl (fun cpath hop => PathSelection.onionAppendHop cpath hop.2) [] ∧
      ∀ heap : Heap, (∀ q, (heap q).next = (s.heap q).next) → ∀ head ∈ s.head,
        (∀ fuel, ps.length ≤ fuel → onionNextHopInCpath heap head fuel =
          some ((Build.onionNextHopInCpath (cpathHops heap ps)).bind fun i => ps[i]?)) ∧
        ∀ curLen ≤ ps.length,
          (cpathPrefix heap curLen head).map (fun q => (heap q).hop) =
            (cpathHops heap ps).take curLen := by
  intro s ps
  have hc : IsCpath s ps := (IsCpath.empty hempty).foldl_appendHop hops hfresh
  have hlist := @cpathHops_foldl_appendHop hops s₀ [] hfresh
  refine ⟨hlist, fun heap hheap head hhead => ?_⟩
  have h0 : ps[0]? = some head := by rw [← List.head?_eq_getElem?, ← hc.head]; exact hhead
  have hn := nextLinks_congr hheap hc.next
  refine ⟨fun fuel hf => ?_, fun curLen hf => ?_⟩
  · rw [onionNextHopInCpath_eq_find? hn hc.nodup h0 hf, find?_eq_onionNextHopInCpath]
  · simpa [cpathHops, List.map_take] using
      congrArg (List.map fun q => (heap q).hop) (cpathPrefix_eq_take hn curLen 0 head h0 (by omega))

theorem threeHops_refines :
    emptyCpath.head = none ∧ (((1, (hopAt 1 .closed).extendInfo) :: laterHops).map Prod.fst).Nodup ∧
    let hops := (1, (hopAt 1 .closed).extendInfo) :: laterHops
    let s := hops.foldl (fun s hop => onionAppendHop s hop.1 hop.2) emptyCpath
    let ps := hops.map Prod.fst
    cpathHops s.heap ps = hops.foldl (fun cpath hop => PathSelection.onionAppendHop cpath hop.2) [] ∧
      ∀ heap : Heap, (∀ q, (heap q).next = (s.heap q).next) → ∀ head ∈ s.head,
        (∀ fuel, ps.length ≤ fuel → onionNextHopInCpath heap head fuel =
          some ((Build.onionNextHopInCpath (cpathHops heap ps)).bind fun i => ps[i]?)) ∧
        ∀ curLen ≤ ps.length,
          (cpathPrefix heap curLen head).map (fun q => (heap q).hop) =
            (cpathHops heap ps).take curLen :=
  ⟨rfl, by decide, cpathHops_refines emptyCpath rfl _ (by decide)⟩

end TorCircuitBuild.CpathRing

import LotusReport.Persistence.ConnectionProvider

/-!
# Clean, exclusive connections

The locked slots are those that a thread has borrowed, each by one thread. A thread
changes the slot that it has borrowed or that is free, and no other. So what a thread
knows about its own slot stays true while others move, and a connection has one
borrower. It is handed out clean as long as it is returned clean.
-/

namespace LotusReport.Persistence

open StateMachine

variable {maxSize : Nat}

/-- The slot whose lock the thread holds. -/
def Phase.owns : Phase maxSize → Option (Fin maxSize)
  | .finishing _ i => some i
  | .admitting _ i => some i
  | .disposing i => some i
  | .holding _ i _ _ => some i
  | .committing i _ => some i
  | .rollingBack i _ => some i
  | .releasing i _ => i
  | _ => none

/-- The connection that the thread has borrowed. -/
def Phase.holds : Phase maxSize → Option Nat
  | .holding _ _ _ c => some c
  | .committing _ c => some c
  | .rollingBack _ c => some c
  | .releasing (some _) c => some c
  | _ => none

namespace Provider

/-- `charged_connections`. -/
def chargedConnections (s : Provider maxSize) : Nat :=
  (List.finRange maxSize).countP fun i =>
    (s.slots i).locked || (s.slots i).state != .empty && (s.slots i).state != .closed

/-- No connection has two borrowers, the slots suffice, and no connection was handed out with an
open transaction. -/
structure Sound (s : Provider maxSize) : Prop where
  exclusive : ∀ t u c, (s.threads t).holds = some c → (s.threads u).holds = some c → t = u
  /-- The charged slots are among the `max_size` slots that the provider is built with, as in the
  source: no step adds one. -/
  charged : s.chargedConnections ≤ maxSize
  clean : ∀ handed ∈ s.received, handed.2 ≠ .live true

/-- The connection has no open transaction, or it will not be lent again. -/
def Settled (s : Provider maxSize) (c : Nat) : Prop := s.links c ≠ .live true ∨ s.closing = true

/-- What has to hold of an action of a thread at some point so that connections stay clean. -/
def OrderlyAt (s : Provider maxSize) : Phase maxSize → Action maxSize → Prop
  | .holding .raw _ _ c, .release => s.Settled c
  | .holding .block _ _ c, .leave (some .baseException) => s.Settled c
  | .committing _ _, .commit (.raised .baseException link) => link ≠ .live true ∨ s.closing = true
  | .rollingBack _ _, .rollback (.raised _ link) => link ≠ .live true ∨ s.closing = true
  | .holding .strict _ _ c, .releaseStrict true false false _ => s.Settled c
  | .releasing none c, .giveBack => s.legacy c = none
  | _, _ => True

/-- Transactions are ended before a connection is returned, and only borrowers return one. -/
def Orderly (s : Provider maxSize) : PoolEvent maxSize → Prop
  | .thread t action => s.OrderlyAt (s.threads t) action
  | .lost _ => True

/-- A free slot that counts as idle has a connection that can be lent. -/
def Free (s : Provider maxSize) (i : Fin maxSize) : Prop :=
  (s.slots i).state = .idle → ∃ c, (s.slots i).connection = some c ∧ s.Settled c

/-- What a thread knows about the slot it has borrowed. -/
def Knows (s : Provider maxSize) : Phase maxSize → Prop
  | .finishing _ i => (s.slots i).state ≠ .creating →
      ∃ c, (s.slots i).connection = some c ∧ s.links c ≠ .live true
  | .admitting _ i => ∃ c, (s.slots i).connection = some c ∧ s.links c ≠ .live true
  | .holding .strict i _ c => (s.slots i).connection = some c
  | .holding _ i _ c => (s.slots i).connection = some c ∧ s.legacy c = some i
  | .committing i c => (s.slots i).connection = some c ∧ s.legacy c = some i
  | .rollingBack i c => (s.slots i).connection = some c ∧ s.legacy c = some i
  | .releasing (some i) c => (s.slots i).connection = some c ∧ s.legacy c = some i ∧ s.Settled c
  | _ => True

/-- The invariant of the pool. -/
structure Kept (s : Provider maxSize) : Prop where
  locked : ∀ i, (s.slots i).locked = true ↔ ∃ t, (s.threads t).owns = some i
  one : ∀ t u i, (s.threads t).owns = some i → (s.threads u).owns = some i → t = u
  distinct : ∀ i j c, (s.slots i).connection = some c → (s.slots j).connection = some c → i = j
  fresh : ∀ i c, (s.slots i).connection = some c → c < s.created
  knows : ∀ t, s.Knows (s.threads t)
  free : ∀ i, (s.slots i).locked = false → s.Free i
  clean : ∀ handed ∈ s.received, handed.2 ≠ .live true

section Frame

variable {s s' : Provider maxSize} {t : Nat} {slot : Option (Fin maxSize)}

/-- What others see of a step of a thread on one slot, or on none. -/
structure Change (t : Nat) (slot : Option (Fin maxSize)) (s s' : Provider maxSize) : Prop where
  threads : ∀ u, u ≠ t → s'.threads u = s.threads u
  slots : ∀ j, slot ≠ some j → s'.slots j = s.slots j
  links : ∀ j, slot ≠ some j → ∀ c, (s.slots j).connection = some c →
    s.links c ≠ .live true → s'.links c ≠ .live true
  legacy : ∀ j, slot ≠ some j → ∀ c, (s.slots j).connection = some c → s'.legacy c = s.legacy c
  closing : s.closing = true → s'.closing = true
  created : s.created ≤ s'.created
  connection : ∀ i, slot = some i → ∀ c, (s'.slots i).connection = some c →
    (s.slots i).connection = some c ∨ s.created ≤ c ∧ c < s'.created

/-- A thread keeps its knowledge while other slots change. -/
theorem Change.knows (h : Change t slot s s') {phase : Phase maxSize} (hslot : ∀ i,
    phase.owns = some i → slot ≠ some i) (hknows : s.Knows phase) : s'.Knows phase := by
  have hclean : ∀ i, slot ≠ some i → (∃ c, (s.slots i).connection = some c ∧ s.links c ≠ .live true) →
      ∃ c, (s.slots i).connection = some c ∧ s'.links c ≠ .live true := by
    rintro i hi ⟨c, hc, hlink⟩
    exact ⟨c, hc, h.links i hi c hc hlink⟩
  cases phase with
  | finishing client i =>
      have hi := hslot i rfl
      rw [Knows, h.slots i hi]
      exact fun hstate => hclean i hi (hknows hstate)
  | admitting client i =>
      have hi := hslot i rfl
      rw [Knows, h.slots i hi]
      exact hclean i hi hknows
  | holding client i generation c =>
      have hi := hslot i rfl
      cases client with
      | raw =>
          obtain ⟨hc, hlegacy⟩ := hknows
          rw [Knows, h.slots i hi, h.legacy i hi c hc]
          · exact ⟨hc, hlegacy⟩
          · exact fun h => nomatch h
      | block =>
          obtain ⟨hc, hlegacy⟩ := hknows
          rw [Knows, h.slots i hi, h.legacy i hi c hc]
          · exact ⟨hc, hlegacy⟩
          · exact fun h => nomatch h
      | strict =>
          rw [Knows, h.slots i hi]
          exact hknows
  | committing i c =>
      have hi := hslot i rfl
      obtain ⟨hc, hlegacy⟩ := hknows
      rw [Knows, h.slots i hi, h.legacy i hi c hc]
      exact ⟨hc, hlegacy⟩
  | rollingBack i c =>
      have hi := hslot i rfl
      obtain ⟨hc, hlegacy⟩ := hknows
      rw [Knows, h.slots i hi, h.legacy i hi c hc]
      exact ⟨hc, hlegacy⟩
  | releasing lease c =>
      cases lease with
      | none => trivial
      | some i =>
          have hi := hslot i rfl
          obtain ⟨hc, hlegacy, hsettled⟩ := hknows
          rw [Knows, h.slots i hi, h.legacy i hi c hc]
          exact ⟨hc, hlegacy, hsettled.imp (h.links i hi c hc) h.closing⟩
  | _ => trivial

/-- A step of a thread on a slot that it has borrowed or that is free keeps the invariant when the
thread leaves the slot in order. -/
theorem Kept.change (h : s.Kept) (hchange : Change t slot s s')
    (hbefore : (s.threads t).owns = slot ∨
      (s.threads t).owns = none ∧ ∀ i, slot = some i → (s.slots i).locked = false)
    (hafter : (s'.threads t).owns = slot ∧ (∀ i, slot = some i → (s'.slots i).locked = true) ∨
      (s'.threads t).owns = none ∧ ∀ i, slot = some i → (s'.slots i).locked = false ∧ s'.Free i)
    (hknows : s'.Knows (s'.threads t)) (hclean : ∀ handed ∈ s'.received, handed.2 ≠ .live true) :
    s'.Kept := by
  -- nobody else has the slot, and the thread has no other
  have hothers : ∀ u i, slot = some i → u ≠ t → (s.threads u).owns ≠ some i := by
    intro u i hslot hne howns
    rcases hbefore with hmine | ⟨-, hfree⟩
    · exact hne (h.one u t i howns (hmine.trans hslot))
    · have hlocked := (h.locked i).mpr ⟨u, howns⟩
      rw [hfree i hslot] at hlocked
      cases hlocked
  have hbefore' : ∀ i, (s.threads t).owns = some i → slot = some i := by
    intro i howns
    rcases hbefore with hmine | ⟨hnone, -⟩
    · exact hmine.symm.trans howns
    · rw [hnone] at howns
      cases howns
  have hafter' : ∀ i, (s'.threads t).owns = some i → slot = some i := by
    intro i howns
    rcases hafter with ⟨hmine, -⟩ | ⟨hnone, -⟩
    · exact hmine.symm.trans howns
    · rw [hnone] at howns
      cases howns
  refine ⟨fun i => ?_, fun u v i hu hv => ?_, fun i j c hi hj => ?_, fun i c hi => ?_, fun u => ?_,
    fun i hi => ?_, hclean⟩
  · by_cases hslot : slot = some i
    · constructor
      · intro hlocked
        rcases hafter with ⟨hmine, -⟩ | ⟨-, hfree⟩
        · exact ⟨t, hmine.trans hslot⟩
        · rw [(hfree i hslot).1] at hlocked
          cases hlocked
      · rintro ⟨u, hu⟩
        by_cases hne : u = t
        · rcases hafter with ⟨-, hlocked⟩ | ⟨hnone, -⟩
          · exact hlocked i hslot
          · rw [hne, hnone] at hu
            cases hu
        · rw [hchange.threads u hne] at hu
          exact absurd hu (hothers u i hslot hne)
    · rw [hchange.slots i hslot, h.locked i]
      constructor
      · rintro ⟨u, hu⟩
        refine ⟨u, ?_⟩
        rwa [hchange.threads u]
        rintro rfl
        exact hslot (hbefore' i hu)
      · rintro ⟨u, hu⟩
        refine ⟨u, ?_⟩
        rwa [hchange.threads u] at hu
        rintro rfl
        exact hslot (hafter' i hu)
  · by_cases hne : u = t
    · by_cases hne' : v = t
      · rw [hne, hne']
      · rw [hne] at hu
        rw [hchange.threads v hne'] at hv
        exact absurd hv (hothers v i (hafter' i hu) hne')
    · rw [hchange.threads u hne] at hu
      by_cases hne' : v = t
      · rw [hne'] at hv
        exact absurd hu (hothers u i (hafter' i hv) hne)
      · rw [hchange.threads v hne'] at hv
        exact h.one u v i hu hv
  · have hold : ∀ i, (s'.slots i).connection = some c →
        (s.slots i).connection = some c ∨ slot = some i ∧ s.created ≤ c := by
      intro i hi
      by_cases hslot : slot = some i
      · exact (hchange.connection i hslot c hi).imp id fun hnew => ⟨hslot, hnew.1⟩
      · rw [hchange.slots i hslot] at hi
        exact .inl hi
    rcases hold i hi with hi | ⟨hi, hnew⟩
    · rcases hold j hj with hj | ⟨hj, hnew⟩
      · exact h.distinct i j c hi hj
      · exact absurd (h.fresh i c hi) (by omega)
    · rcases hold j hj with hj | ⟨hj, -⟩
      · exact absurd (h.fresh j c hj) (by omega)
      · exact Option.some.inj (hi.symm.trans hj)
  · by_cases hslot : slot = some i
    · rcases hchange.connection i hslot c hi with hold | hnew
      · exact (h.fresh i c hold).trans_le hchange.created
      · exact hnew.2
    · rw [hchange.slots i hslot] at hi
      exact (h.fresh i c hi).trans_le hchange.created
  · by_cases hne : u = t
    · rw [hne]
      exact hknows
    · rw [hchange.threads u hne]
      refine hchange.knows (fun i hi hslot => ?_) (h.knows u)
      exact hothers u i hslot hne hi
  · by_cases hslot : slot = some i
    · rcases hafter with ⟨-, hlocked⟩ | ⟨-, hfree⟩
      · rw [hlocked i hslot] at hi
        cases hi
      · exact (hfree i hslot).2
    · rw [Free, hchange.slots i hslot]
      rw [hchange.slots i hslot] at hi
      intro hidle
      obtain ⟨c, hc, hsettled⟩ := h.free i hi hidle
      exact ⟨c, hc, hsettled.imp (hchange.links i hslot c hc) hchange.closing⟩

end Frame

section Changes

variable {s s' s'' : Provider maxSize} {t c : Nat} {slot : Option (Fin maxSize)} {i : Fin maxSize}
  {phase : Phase maxSize}

theorem Change.trans (h : Change t slot s s') (h' : Change t slot s' s'') : Change t slot s s'' := by
  have hslots : ∀ j, slot ≠ some j → ∀ c, (s.slots j).connection = some c →
      (s'.slots j).connection = some c := by
    intro j hj c hc
    rwa [h.slots j hj]
  refine ⟨fun u hu => (h'.threads u hu).trans (h.threads u hu),
    fun j hj => (h'.slots j hj).trans (h.slots j hj), fun j hj c hc hlink => ?_,
    fun j hj c hc => ?_, fun hclosing => h'.closing (h.closing hclosing), h.created.trans h'.created,
    fun i hi c hc => ?_⟩
  · exact h'.links j hj c (hslots j hj c hc) (h.links j hj c hc hlink)
  · exact (h'.legacy j hj c (hslots j hj c hc)).trans (h.legacy j hj c hc)
  · have hcreated := h.created
    have hcreated' := h'.created
    rcases h'.connection i hi c hc with hc | hnew
    · rcases h.connection i hi c hc with hc | hnew
      · exact .inl hc
      · exact .inr ⟨hnew.1, by omega⟩
    · exact .inr ⟨by omega, hnew.2⟩

theorem change_refl (t : Nat) (slot : Option (Fin maxSize)) (s : Provider maxSize) :
    Change t slot s s where
  threads := fun _ _ => rfl
  slots := fun _ _ => rfl
  links := fun _ _ _ _ hlink => hlink
  legacy := fun _ _ _ _ => rfl
  closing := id
  created := le_rfl
  connection := fun _ _ _ hc => .inl hc

theorem change_goes (t : Nat) (slot : Option (Fin maxSize)) (s : Provider maxSize)
    (phase : Phase maxSize) : Change t slot s (s.goes t phase) where
  threads := fun _ hu => threads_goes_of_ne s t hu phase
  slots := fun _ _ => rfl
  links := fun _ _ _ _ hlink => hlink
  legacy := fun _ _ _ _ => rfl
  closing := id
  created := le_rfl
  connection := fun _ _ _ hc => .inl hc

theorem change_reslot {new : Slot}
    (hnew : ∀ c, new.connection = some c → (s.slots i).connection = some c) :
    Change t (some i) s (s.reslot i new) where
  threads := fun _ _ => rfl
  slots := fun _ hj => slots_reslot_of_ne s (fun heq => hj (congrArg some heq.symm)) new
  links := fun _ _ _ _ hlink => hlink
  legacy := fun _ _ _ _ => rfl
  closing := id
  created := le_rfl
  connection := by
    rintro j ⟨⟩ c hc
    rw [slots_reslot] at hc
    exact .inl (hnew c hc)

theorem change_terminal (t : Nat) (s : Provider maxSize) (i : Fin maxSize) (state : SlotState) :
    Change t (some i) s (s.terminal i state) := change_reslot fun _ hc => hc

/-- A connection belongs to no other slot. -/
theorem Kept.ne_of_connection (h : s.Kept) (hc : (s.slots i).connection = some c) {j : Fin maxSize}
    (hj : some i ≠ some j) {c' : Nat} (hc' : (s.slots j).connection = some c') : c' ≠ c := by
  rintro rfl
  exact hj (congrArg some (h.distinct i j c' hc hc'))

theorem Kept.change_relink (h : s.Kept) (hc : (s.slots i).connection = some c) (link : Link) :
    Change t (some i) s (s.relink c link) where
  threads := fun _ _ => rfl
  slots := fun _ _ => rfl
  links := fun j hj c' hc' hlink => by
    rw [links_relink_of_ne s (h.ne_of_connection hc hj hc')]
    exact hlink
  legacy := fun _ _ _ _ => rfl
  closing := id
  created := le_rfl
  connection := fun _ _ _ hc => .inl hc

theorem Kept.change_legacy (h : s.Kept) (hc : (s.slots i).connection = some c)
    (entry : Option (Fin maxSize)) :
    Change t (some i) s { s with legacy := Function.update s.legacy c entry } where
  threads := fun _ _ => rfl
  slots := fun _ _ => rfl
  links := fun _ _ _ _ hlink => hlink
  legacy := fun _ hj _ hc' => Function.update_of_ne (h.ne_of_connection hc hj hc') entry s.legacy
  closing := id
  created := le_rfl
  connection := fun _ _ _ hc => .inl hc

theorem knows_of_owns (h : phase.owns = none) : s.Knows phase := by
  cases phase with
  | releasing lease c =>
      cases lease with
      | none => trivial
      | some i => cases h
  | holding => cases h
  | finishing => cases h
  | admitting => cases h
  | committing => cases h
  | rollingBack => cases h
  | _ => trivial

/-- A thread that has borrowed a slot goes on with it, or returns it. -/
theorem Kept.goes_on (h : s.Kept) (howns : (s.threads t).owns = some i)
    (hchange : Change t (some i) s s') (hlocked : (s'.slots i).locked = true)
    (hphase : phase.owns = some i) (hknows : s'.Knows phase)
    (hclean : ∀ handed ∈ s'.received, handed.2 ≠ .live true) : (s'.goes t phase).Kept := by
  refine h.change (hchange.trans (change_goes t _ _ phase)) (.inl howns) (.inl ⟨?_, ?_⟩) ?_ hclean
  · rw [threads_goes, hphase]
  · rintro j ⟨⟩
    exact hlocked
  · rw [threads_goes]
    exact hknows

/-- A thread stays with the slot that it has borrowed, or without one. -/
theorem Kept.goes (h : s.Kept) (howns : phase.owns = (s.threads t).owns) (hknows : s.Knows phase) :
    (s.goes t phase).Kept := by
  refine h.change (change_goes t (s.threads t).owns s phase) (.inl rfl) (.inl ⟨?_, ?_⟩) ?_ h.clean
  · rw [threads_goes, howns]
  · exact fun i hi => (h.locked i).mpr ⟨t, hi⟩
  · rw [threads_goes]
    exact hknows

theorem Kept.leaves (h : s.Kept) (hchange : Change t (some i) s s')
    (hbefore : (s.threads t).owns = some i ∨
      (s.threads t).owns = none ∧ (s.slots i).locked = false)
    (hlocked : (s'.slots i).locked = false) (hfree : s'.Free i) (hphase : phase.owns = none)
    (hclean : ∀ handed ∈ s'.received, handed.2 ≠ .live true) : (s'.goes t phase).Kept := by
  refine h.change (hchange.trans (change_goes t _ _ phase)) ?_ (.inr ⟨?_, ?_⟩) ?_ hclean
  · refine hbefore.imp id fun ⟨hnone, hunlocked⟩ => ⟨hnone, ?_⟩
    rintro j ⟨⟩
    exact hunlocked
  · rw [threads_goes, hphase]
  · rintro j ⟨⟩
    exact ⟨hlocked, hfree⟩
  · rw [threads_goes]
    exact knows_of_owns hphase

theorem Kept.terminal (h : s.Kept) (howns : (s.threads t).owns = some i) (state : SlotState)
    (hidle : state = .idle → ∃ c, (s.slots i).connection = some c ∧ s.Settled c)
    (hphase : phase.owns = none) : ((s.terminal i state).goes t phase).Kept := by
  have hslot : (s.terminal i state).slots i = { s.slots i with state := state, locked := false } :=
    slots_reslot s i _
  apply h.leaves (change_terminal t s i state) (.inl howns) _ _ hphase h.clean
  · rw [hslot]
  · rw [Free, hslot]
    exact hidle

end Changes

section Steps

variable {s : Provider maxSize} {t : Nat} {i : Fin maxSize} {c : Nat} {client : Client}

theorem firstFree_eq_some {contended : SlotState → Fin maxSize → Bool} {desired : List SlotState}
    (h : s.firstFree contended desired = some i) :
    (s.slots i).locked = false ∧ (s.slots i).state ∈ desired := by
  have hi := List.find?_some h
  simp only [Bool.and_eq_true, Bool.not_eq_true', decide_eq_true_eq] at hi
  exact ⟨hi.1.1, hi.2⟩

/-- `_reserve_slot` reserves a free slot, an idle one or one for a new connection. -/
theorem reserveSlot_eq_some {contended : SlotState → Fin maxSize → Bool} {allowCreate : Bool}
    {state : SlotState} (h : s.reserveSlot contended allowCreate = some (i, state)) :
    (s.slots i).locked = false ∧ ((s.slots i).state = .idle ∨ state = .creating) := by
  unfold reserveSlot at h
  split at h
  · rename_i j hj
    cases h
    obtain ⟨hfree, hstate⟩ := firstFree_eq_some hj
    exact ⟨hfree, .inl (List.mem_singleton.mp hstate)⟩
  · split at h
    · obtain ⟨j, hj, hpair⟩ := Option.map_eq_some_iff.mp h
      cases hpair
      exact ⟨(firstFree_eq_some hj).1, .inr rfl⟩
    · cases h

theorem Kept.borrow (h : s.Kept) (hphase : s.threads t = .borrowing client)
    (contended : SlotState → Fin maxSize → Bool) : (s.borrow t client contended).Kept := by
  have howns : (s.threads t).owns = none := by rw [hphase]; rfl
  unfold Provider.borrow
  split
  · exact h.goes howns.symm trivial
  · rename_i hopen
    split
    · exact h
    · rename_i i state hreserve
      obtain ⟨hfree, hstate⟩ := reserveSlot_eq_some hreserve
      refine h.change (Change.trans (change_reslot ?_) (change_goes t (some i) _ _))
        (.inr ⟨howns, ?_⟩) (.inl ⟨?_, ?_⟩) ?_ h.clean
      · exact fun _ hc => hc
      · rintro j ⟨⟩
        exact hfree
      · rw [threads_goes]
        rfl
      · rintro j ⟨⟩
        rw [Provider.goes, slots_reslot]
      · rw [threads_goes]
        intro hcreating
        rw [Provider.goes, slots_reslot] at hcreating ⊢
        obtain ⟨c, hc, hsettled⟩ := h.free i hfree (hstate.resolve_right hcreating)
        exact ⟨c, hc, hsettled.resolve_right hopen⟩

theorem Kept.finishBorrow (h : s.Kept) (hphase : s.threads t = .finishing client i)
    (answer : ConnectAnswer) : (s.finishBorrow t client i answer).Kept := by
  have howns : (s.threads t).owns = some i := by rw [hphase]; rfl
  have hlocked : (s.slots i).locked = true := (h.locked i).mpr ⟨t, howns⟩
  have hknows := h.knows t
  rw [hphase] at hknows
  unfold Provider.finishBorrow
  split
  · cases answer with
    | some raised =>
        refine h.leaves (change_reslot fun _ hc => by cases hc) (.inl howns) ?_ ?_ rfl h.clean
        · rw [slots_reslot]
        · intro hidle
          rw [slots_reslot] at hidle
          cases hidle
    | none =>
        -- the new connection belongs to no slot yet
        have hchange : Change t (some i) s
            { ((s.reslot i { s.slots i with connection := some s.created }).relink s.created
              (.live false)) with created := s.created + 1 } := by
          refine ⟨fun _ _ => rfl, fun j hj => ?_, fun j hj c' hc' hlink => ?_, fun _ _ _ _ => rfl, id,
            Nat.le_succ _, ?_⟩
          · exact slots_reslot_of_ne s (fun heq => hj (congrArg some heq.symm)) _
          · have hne : c' ≠ s.created := (h.fresh j c' hc').ne
            rw [links_relink_of_ne _ hne]
            exact hlink
          · rintro j ⟨⟩ c' hc'
            rw [relink, slots_reslot] at hc'
            cases hc'
            exact .inr ⟨le_rfl, Nat.lt_succ_self _⟩
        refine h.goes_on howns hchange ?_ rfl ⟨s.created, ?_, ?_⟩ h.clean
        · rw [relink, slots_reslot]
          exact hlocked
        · rw [relink, slots_reslot]
        · rw [links_relink]
          decide
  · rename_i hcreating
    obtain ⟨c, hc, hlink⟩ := hknows hcreating
    simp only [hc]
    split
    · exact h.terminal howns .closed (fun hidle => by cases hidle) rfl
    · exact h.goes howns.symm ⟨c, hc, hlink⟩

theorem Kept.handOver {s' : Provider maxSize} (h : s.Kept) (howns : (s.threads t).owns = some i)
    (hchange : Change t (some i) s s') (hlocked : (s'.slots i).locked = true)
    (hknows : s'.Knows (.holding client i (s'.slots i).generation c))
    (hclean : ∀ handed ∈ s'.received, handed.2 ≠ .live true) (hlink : s'.links c ≠ .live true) :
    (s'.handOver t client i c).Kept := by
  have hreceived : ∀ handed ∈ s'.received ++ [(c, s'.links c)], handed.2 ≠ .live true := by
    intro handed hmem
    rcases List.mem_append.mp hmem with hmem | hmem
    · exact hclean handed hmem
    · rw [List.mem_singleton.mp hmem]
      exact hlink
  have hrecorded : Change t (some i) s { s' with received := s'.received ++ [(c, s'.links c)] } :=
    ⟨hchange.threads, hchange.slots, hchange.links, hchange.legacy, hchange.closing, hchange.created,
      hchange.connection⟩
  refine h.goes_on howns hrecorded hlocked rfl ?_ hreceived
  cases client <;> exact hknows

theorem Kept.concludeBorrow (h : s.Kept) (hphase : s.threads t = .admitting client i) (expired : Bool) :
    (s.concludeBorrow t client i expired).Kept := by
  have howns : (s.threads t).owns = some i := by rw [hphase]; rfl
  have hlocked : (s.slots i).locked = true := (h.locked i).mpr ⟨t, howns⟩
  have hknows := h.knows t
  rw [hphase] at hknows
  obtain ⟨c, hc, hlink⟩ := hknows
  have hlegacy : ∀ client, client ≠ .strict → (s.admitLegacy t client i c).Kept := by
    intro client hclient
    unfold admitLegacy
    split
    · exact h.goes howns.symm trivial
    · have hchange : Change t (some i) s
          { s.reslot i { s.slots i with state := .acquired } with
            legacy := Function.update s.legacy c (some i) } := by
        refine Change.trans (h.change_legacy hc (some i)) (change_reslot ?_)
        exact fun _ hc => hc
      refine h.handOver howns hchange ?_ ?_ h.clean hlink
      · rw [slots_reslot]
        exact hlocked
      · have hheld : ((s.reslot i { s.slots i with state := .acquired }).slots i).connection = some c ∧
            Function.update s.legacy c (some i) c = some i := by
          rw [slots_reslot, Function.update_self]
          exact ⟨hc, rfl⟩
        cases client with
        | raw => exact hheld
        | block => exact hheld
        | strict => exact absurd rfl hclient
  unfold Provider.concludeBorrow
  simp only [hc]
  cases client with
  | raw => exact hlegacy .raw (fun h => nomatch h)
  | block => exact hlegacy .block (fun h => nomatch h)
  | strict =>
      dsimp only
      split
      · exact h.terminal howns .idle (fun _ => ⟨c, hc, .inl hlink⟩) rfl
      · exact h.handOver howns (change_refl t _ s) hlocked hc h.clean hlink

/-- A disposal leaves the slot unlocked, and not idle. -/
theorem dispose_spec (h : s.Kept) (t : Nat) (i : Fin maxSize) (answer : CloseAnswer) :
    Change t (some i) s (s.dispose i answer).1 ∧
      ((s.dispose i answer).1.slots i).locked = false ∧
      ((s.dispose i answer).1.slots i).state ≠ .idle ∧
      (s.dispose i answer).1.received = s.received := by
  have hterminal : ∀ (s' : Provider maxSize) (state : SlotState), Change t (some i) s s' →
      state ≠ .idle → s'.received = s.received →
      Change t (some i) s (s'.terminal i state) ∧ ((s'.terminal i state).slots i).locked = false ∧
        ((s'.terminal i state).slots i).state ≠ .idle ∧
        (s'.terminal i state).received = s.received := by
    intro s' state hchange hstate hreceived
    refine ⟨hchange.trans (change_terminal t s' i state), ?_, ?_, hreceived⟩
    · rw [Provider.terminal, slots_reslot]
    · rw [Provider.terminal, slots_reslot]
      exact hstate
  unfold Provider.dispose
  split
  · exact hterminal s .quarantined (change_refl t _ s) (by decide) rfl
  · rename_i c hc
    split
    · exact hterminal s .closed (change_refl t _ s) (by decide) rfl
    · have hclosed : Change t (some i) s (if answer.closed then s.relink c .closed else s) := by
        split
        · exact h.change_relink hc .closed
        · exact change_refl t _ s
      have hreceived : (if answer.closed then s.relink c .closed else s).received = s.received := by
        split <;> rfl
      dsimp only
      split
      · exact hterminal _ .closed hclosed (by decide) hreceived
      · exact hterminal _ .quarantined hclosed (by decide) hreceived

theorem Kept.dispose {phase : Phase maxSize} (h : s.Kept)
    (hbefore : (s.threads t).owns = some i ∨ (s.threads t).owns = none ∧ (s.slots i).locked = false)
    (answer : CloseAnswer) (hphase : phase.owns = none) :
    ((s.dispose i answer).1.goes t phase).Kept := by
  obtain ⟨hchange, hlocked, hstate, hreceived⟩ := dispose_spec h t i answer
  apply h.leaves hchange hbefore hlocked (fun hidle => absurd hidle hstate) hphase
  rw [hreceived]
  exact h.clean

/-- A driver call of the borrower changes nothing that others know. -/
theorem Kept.relink {phase : Phase maxSize} (h : s.Kept) (howns : (s.threads t).owns = some i)
    (hc : (s.slots i).connection = some c) (link : Link) (hphase : phase.owns = some i)
    (hknows : (s.relink c link).Knows phase) : ((s.relink c link).goes t phase).Kept :=
  h.goes_on howns (h.change_relink hc link) ((h.locked i).mpr ⟨t, howns⟩) hphase hknows h.clean

theorem goes_self (s : Provider maxSize) (t : Nat) : s.goes t (s.threads t) = s := by
  unfold Provider.goes
  rw [Function.update_eq_self]

theorem Kept.use {generation : Nat} (h : s.Kept)
    (hphase : s.threads t = .holding client i generation c) (action : Action maxSize) :
    (s.use c action).Kept := by
  have howns : (s.threads t).owns = some i := by rw [hphase]; rfl
  have hknows := h.knows t
  have hc : (s.slots i).connection = some c := by
    rw [hphase] at hknows
    cases client with
    | raw => exact hknows.1
    | block => exact hknows.1
    | strict => exact hknows
  have hrelink : ∀ link, (s.relink c link).Kept := by
    intro link
    have hsame : (s.relink c link).goes t (s.threads t) = s.relink c link :=
      goes_self (s.relink c link) t
    rw [← hsame]
    refine h.relink howns hc link howns ?_
    rw [hphase] at hknows ⊢
    cases client <;> exact hknows
  cases action with
  | execute => exact hrelink _
  | commit answer => exact hrelink _
  | rollback answer => exact hrelink _
  | _ => exact h

theorem Kept.leave {generation : Nat} (h : s.Kept)
    (hphase : s.threads t = .holding .block i generation c) {ending : Option Raised}
    (horderly : s.OrderlyAt (s.threads t) (.leave ending)) : (s.leave t i c ending).Kept := by
  have howns : (s.threads t).owns = some i := by rw [hphase]; rfl
  have hknows := h.knows t
  rw [hphase] at hknows horderly
  rcases ending with - | - | -
  · exact h.goes howns.symm hknows
  · exact h.goes howns.symm hknows
  · exact h.goes howns.symm ⟨hknows.1, hknows.2, horderly⟩

theorem settled_ne (link : Link) : link.settled ≠ .live true := by
  cases link <;> exact fun h => nomatch h

theorem Kept.commitBlock (h : s.Kept) (hphase : s.threads t = .committing i c) {answer : EndAnswer}
    (horderly : s.OrderlyAt (s.threads t) (.commit answer)) : (s.commitBlock t i c answer).Kept := by
  have howns : (s.threads t).owns = some i := by rw [hphase]; rfl
  have hknows := h.knows t
  rw [hphase] at hknows horderly
  obtain ⟨hc, hlegacy⟩ := hknows
  unfold Provider.commitBlock
  rcases answer with - | ⟨- | -, link⟩
  · refine h.relink howns hc _ rfl ⟨hc, hlegacy, .inl ?_⟩
    rw [links_relink]
    exact settled_ne _
  · exact h.relink howns hc _ rfl ⟨hc, hlegacy⟩
  · refine h.relink howns hc _ rfl ⟨hc, hlegacy, ?_⟩
    rw [Settled, links_relink]
    exact horderly

theorem Kept.rollbackBlock (h : s.Kept) (hphase : s.threads t = .rollingBack i c)
    {answer : EndAnswer} (horderly : s.OrderlyAt (s.threads t) (.rollback answer)) :
    (s.rollbackBlock t i c answer).Kept := by
  have howns : (s.threads t).owns = some i := by rw [hphase]; rfl
  have hknows := h.knows t
  rw [hphase] at hknows horderly
  obtain ⟨hc, hlegacy⟩ := hknows
  unfold Provider.rollbackBlock
  refine h.relink howns hc _ rfl ⟨hc, hlegacy, ?_⟩
  rw [Settled, links_relink]
  cases answer with
  | ended => exact .inl (settled_ne _)
  | raised raised link => exact horderly

theorem Kept.giveBack {lease : Option (Fin maxSize)} (h : s.Kept)
    (hphase : s.threads t = .releasing lease c)
    (horderly : s.OrderlyAt (s.threads t) .giveBack) : (s.giveBack t c).Kept := by
  have hknows := h.knows t
  rw [hphase] at hknows horderly
  unfold Provider.giveBack
  cases lease with
  | none =>
      simp only [show s.legacy c = none from horderly]
      refine h.goes ?_ trivial
      rw [hphase]
      rfl
  | some i =>
      have howns : (s.threads t).owns = some i := by rw [hphase]; rfl
      have hlocked : (s.slots i).locked = true := (h.locked i).mpr ⟨t, howns⟩
      obtain ⟨hc, hlegacy, hsettled⟩ := hknows
      have hpopped : Change t (some i) s { s with legacy := Function.update s.legacy c none } :=
        h.change_legacy hc none
      simp only [hlegacy, hc, ne_eq, not_true_eq_false, if_false]
      split
      · exact h.goes_on howns hpopped hlocked rfl trivial h.clean
      · refine h.leaves (hpopped.trans (change_terminal t _ i .idle)) (.inl howns) ?_ ?_ rfl h.clean
        · rw [Provider.terminal, slots_reslot]
        · rw [Free, Provider.terminal, slots_reslot]
          exact fun _ => ⟨c, hc, hsettled⟩

theorem Kept.releaseStrict {generation : Nat} (h : s.Kept)
    (hphase : s.threads t = .holding .strict i generation c)
    {reusable poisoned unreadable expired : Bool}
    (horderly : s.OrderlyAt (s.threads t) (.releaseStrict reusable poisoned unreadable expired)) :
    (s.releaseStrict t i generation c reusable poisoned unreadable expired).Kept := by
  have howns : (s.threads t).owns = some i := by rw [hphase]; rfl
  have hknows : s.Knows (s.threads t) := h.knows t
  rw [hphase] at hknows horderly
  have hnot : ∀ {state : SlotState}, state ≠ .idle → state = .idle →
      ∃ c, (s.slots i).connection = some c ∧ s.Settled c :=
    fun hne heq => absurd heq hne
  unfold Provider.releaseStrict
  split
  · exact h
  · split
    · exact h.terminal howns .quarantined (hnot (by decide)) rfl
    · split
      · rename_i hunreadable hclean
        simp only [Bool.and_eq_true, Bool.not_eq_true'] at hclean
        obtain ⟨⟨rfl, rfl⟩, -⟩ := hclean
        rw [Bool.not_eq_true] at hunreadable
        subst hunreadable
        exact h.terminal howns .idle (fun _ => ⟨c, hknows, horderly⟩) rfl
      · split
        · exact h.terminal howns .quarantined (hnot (by decide)) rfl
        · exact h.goes howns.symm trivial

/-- A thread without a slot goes to another point where it has none. -/
theorem Kept.wanders {phase : Phase maxSize} (h : s.Kept) (howns : (s.threads t).owns = none)
    (hphase : phase.owns = none) : (s.goes t phase).Kept :=
  h.goes (hphase.trans howns.symm) (knows_of_owns hphase)

theorem Kept.drainLock (h : s.Kept) (locked : Bool) :
    { s with drainLocked := locked }.Kept := by
  refine ⟨h.locked, h.one, h.distinct, h.fresh, fun t => ?_, h.free, h.clean⟩
  have hsame : Change t none s { s with drainLocked := locked } :=
    ⟨fun _ _ => rfl, fun _ _ => rfl, fun _ _ _ _ hlink => hlink, fun _ _ _ _ => rfl, id, le_rfl,
      fun _ hslot => nomatch hslot⟩
  exact hsame.knows (fun _ _ hslot => nomatch hslot) (h.knows t)

theorem Kept.close (h : s.Kept) (hphase : s.threads t = .outside) (deadline barrier : Bool) :
    (s.close t deadline barrier).Kept := by
  have howns : (s.threads t).owns = none := by rw [hphase]; rfl
  have hseal : Change t none s { s with closing := true } :=
    ⟨fun _ _ => rfl, fun _ _ => rfl, fun _ _ _ _ hlink => hlink, fun _ _ _ _ => rfl, fun _ => rfl,
      le_rfl, fun _ hslot => nomatch hslot⟩
  have hsealed : { s with closing := true }.Kept :=
    h.change hseal (.inl howns) (.inl ⟨howns, fun _ hslot => nomatch hslot⟩) (knows_of_owns howns)
      h.clean
  unfold Provider.close
  dsimp only
  split
  · split
    · exact hsealed.wanders howns rfl
    · exact hsealed
  · exact hsealed.wanders howns rfl

theorem Kept.closeSlot {phase : Phase maxSize} (h : s.Kept) (howns : (s.threads t).owns = none)
    (i : Fin maxSize) (contended : Bool) (answer : CloseAnswer) (hphase : phase.owns = none) :
    ((s.closeSlot i contended answer).1.goes t phase).Kept := by
  unfold Provider.closeSlot
  split
  · exact h.wanders howns hphase
  · rename_i hlock
    simp only [Bool.or_eq_true, not_or, Bool.not_eq_true] at hlock
    split
    · exact h.dispose (.inr ⟨howns, hlock.1⟩) answer hphase
    · exact h.wanders howns hphase

theorem Kept.closeIdleLegacy (h : s.Kept) (howns : (s.threads t).owns = none) (next : Nat)
    (contended : Bool) (answer : CloseAnswer) :
    (s.closeIdleLegacy t next contended answer).Kept := by
  unfold Provider.closeIdleLegacy
  split
  · rename_i hlt
    have hslot : ∀ phase : Phase maxSize, phase.owns = none →
        ((s.closeSlot ⟨next, hlt⟩ contended answer).1.goes t phase).Kept :=
      fun _ => h.closeSlot howns ⟨next, hlt⟩ contended answer
    split <;> rename_i heq <;> rw [heq] at hslot
    · exact hslot _ rfl
    · exact hslot _ rfl
  · exact h.wanders howns rfl

theorem Kept.leaveDrain (h : (s.goes t .outside).Kept) : (s.leaveDrain t).Kept :=
  h.drainLock false

theorem Kept.drainNext (h : s.Kept) (howns : (s.threads t).owns = none) (next : Nat)
    (pending contended : Bool) (answer : CloseAnswer) :
    (s.drainNext t next pending contended answer).Kept := by
  unfold Provider.drainNext
  split
  · rename_i hlt
    have hslot : ∀ phase : Phase maxSize, phase.owns = none →
        ((s.closeSlot ⟨next, hlt⟩ contended answer).1.goes t phase).Kept :=
      fun _ => h.closeSlot howns ⟨next, hlt⟩ contended answer
    split <;> rename_i heq <;> rw [heq] at hslot
    · exact Kept.leaveDrain (hslot _ rfl)
    · exact hslot _ rfl
  · split
    · exact h.wanders howns rfl
    · exact Kept.leaveDrain (h.wanders howns rfl)

theorem Kept.expire (h : s.Kept) : (s.expire t (s.threads t)).Kept := by
  cases hphase : s.threads t with
  | borrowing client =>
      refine h.wanders ?_ rfl
      rw [hphase]
      rfl
  | sealed =>
      refine h.wanders ?_ rfl
      rw [hphase]
      rfl
  | draining next pending =>
      refine Kept.leaveDrain (h.wanders ?_ rfl)
      rw [hphase]
      rfl
  | _ => exact h

theorem Kept.lost (h : s.Kept) (c : Nat) : (s.relink c .closed).Kept := by
  have hlinks : ∀ c', s.links c' ≠ .live true → (s.relink c .closed).links c' ≠ .live true := by
    intro c' hlink
    by_cases hne : c' = c
    · rw [hne, links_relink]
      exact fun h => nomatch h
    · rw [links_relink_of_ne s hne]
      exact hlink
  have hsame : ∀ t, Change t none s (s.relink c .closed) := fun t =>
    ⟨fun _ _ => rfl, fun _ _ => rfl, fun _ _ c' _ hlink => hlinks c' hlink, fun _ _ _ _ => rfl, id,
      le_rfl, fun _ hslot => nomatch hslot⟩
  refine ⟨h.locked, h.one, h.distinct, h.fresh, fun t => ?_, fun i hi hidle => ?_, h.clean⟩
  · exact (hsame t).knows (fun _ _ hslot => nomatch hslot) (h.knows t)
  · obtain ⟨c', hc', hsettled⟩ := h.free i hi hidle
    exact ⟨c', hc', hsettled.imp_left (hlinks c')⟩

/-- An orderly step keeps the invariant. -/
theorem Kept.act (h : s.Kept) {action : Action maxSize}
    (horderly : s.OrderlyAt (s.threads t) action) : (s.act t action).Kept := by
  unfold Provider.act
  split
  · rename_i hphase
    unfold Provider.acquire
    split
    · refine h.wanders ?_ rfl
      rw [hphase]
      rfl
    · exact h
  · rename_i hphase
    refine h.wanders ?_ rfl
    rw [hphase]
    rfl
  · rename_i hphase
    exact h.close hphase _ _
  · rename_i hphase
    exact h.borrow hphase _
  · rename_i hphase
    exact h.finishBorrow hphase _
  · rename_i hphase
    exact h.concludeBorrow hphase _
  · rename_i hphase
    refine h.dispose (.inl ?_) _ rfl
    rw [hphase]
    rfl
  · rename_i hphase
    have hknows := h.knows t
    rw [hphase] at hknows horderly
    refine h.goes ?_ ⟨hknows.1, hknows.2, horderly⟩
    rw [hphase]
    rfl
  · rename_i hphase
    exact h.leave hphase horderly
  · rename_i hphase
    exact h.releaseStrict hphase horderly
  · rename_i hphase _ _ _
    exact h.use hphase _
  · rename_i hphase
    exact h.commitBlock hphase horderly
  · rename_i hphase
    exact h.rollbackBlock hphase horderly
  · rename_i hphase
    exact h.giveBack hphase horderly
  · rename_i hphase
    split
    · exact h
    · refine Kept.drainLock (h.wanders ?_ rfl) true
      rw [hphase]
      rfl
  · rename_i hphase
    refine h.closeIdleLegacy ?_ _ _ _
    rw [hphase]
    rfl
  · rename_i hphase
    refine h.drainNext ?_ _ _ _ _
    rw [hphase]
    rfl
  · exact h.expire
  · exact h

end Steps

section Runs

theorem Kept.step {s : Provider maxSize} (h : s.Kept) {e : PoolEvent maxSize}
    (horderly : s.Orderly e) : (s.step e).Kept := by
  cases e with
  | thread t action => exact h.act horderly
  | lost c => exact h.lost c

theorem kept_opened (maxSize minSize : Nat) (strict : Bool) : (opened maxSize minSize strict).Kept := by
  have hconnection : ∀ i c, ((opened maxSize minSize strict).slots i).connection = some c →
      c = i.val ∧ i.val < minSize := by
    intro i c hc
    unfold opened at hc
    dsimp only at hc
    split at hc
    · rename_i hlt
      cases hc
      exact ⟨rfl, hlt⟩
    · cases hc
  refine ⟨fun i => ?_, (fun _ _ _ h => nomatch h), fun i j c hi hj => ?_, fun i c hc => ?_,
    fun _ => trivial, fun i _ hidle => ?_, fun _ h => nomatch h⟩
  · constructor
    · intro hlocked
      unfold opened at hlocked
      dsimp only at hlocked
      split at hlocked <;> cases hlocked
    · rintro ⟨t, ht⟩
      cases ht
  · apply Fin.ext
    exact (hconnection i c hi).1.symm.trans (hconnection j c hj).1
  · obtain ⟨rfl, hlt⟩ := hconnection i c hc
    exact hlt
  · unfold opened at hidle ⊢
    dsimp only at hidle ⊢
    split at hidle
    · rename_i hlt
      rw [if_pos hlt]
      exact ⟨i.val, rfl, .inl fun h => nomatch h⟩
    · cases hidle

theorem knows_connection {s : Provider maxSize} {phase : Phase maxSize} {c : Nat}
    (h : s.Knows phase) (hc : phase.holds = some c) :
    ∃ i, phase.owns = some i ∧ (s.slots i).connection = some c := by
  cases phase with
  | holding client i generation c' =>
      cases hc
      cases client with
      | raw => exact ⟨i, rfl, h.1⟩
      | block => exact ⟨i, rfl, h.1⟩
      | strict => exact ⟨i, rfl, h⟩
  | committing i c' =>
      cases hc
      exact ⟨i, rfl, h.1⟩
  | rollingBack i c' =>
      cases hc
      exact ⟨i, rfl, h.1⟩
  | releasing lease c' =>
      cases lease with
      | none => cases hc
      | some i =>
          cases hc
          exact ⟨i, rfl, h.1⟩
  | _ => cases hc

theorem Kept.sound {s : Provider maxSize} (h : s.Kept) : s.Sound where
  exclusive := by
    intro t u c ht hu
    obtain ⟨i, hi, hci⟩ := knows_connection (h.knows t) ht
    obtain ⟨j, hj, hcj⟩ := knows_connection (h.knows u) hu
    rw [h.distinct i j c hci hcj] at hi
    exact h.one t u j hi hj
  charged := by
    have hcount := List.countP_le_length (l := List.finRange maxSize) (p := fun i =>
      (s.slots i).locked || (s.slots i).state != .empty && (s.slots i).state != .closed)
    rwa [List.length_finRange] at hcount
  clean := h.clean

/-- In an orderly run every state that the pool passes is sound. -/
theorem sound_of_orderly (maxSize minSize : Nat) (strict : Bool) (events : List (PoolEvent maxSize))
    (horderly : Along step Orderly (opened maxSize minSize strict) events) :
    ∀ before, before <+: events → (run step (opened maxSize minSize strict) before).Sound := by
  rintro before ⟨after, rfl⟩
  apply Kept.sound
  exact run_invariant (fun _ _ hs he => hs.step he) (kept_opened maxSize minSize strict)
    (along_append.mp horderly).1

/-- A thread borrows the only connection. -/
def borrowed (t : Nat) (client : Client) : List (PoolEvent 1) :=
  [.thread t (.acquire client), .thread t (.borrow fun _ _ => false), .thread t (.finishBorrow none),
    .thread t (.concludeBorrow false)]

/-- A block that fails after a statement. -/
def failedBlock : List (PoolEvent 1) :=
  borrowed 0 .block ++ [.thread 0 .execute, .thread 0 (.leave (some .exception)), .thread 0 (.rollback .ended),
    .thread 0 .giveBack]

/-- The connection of a failed block is lent again without its transaction. -/
theorem sound_after_failed_block :
    (run step (opened 1 1 false) (failedBlock ++ borrowed 1 .raw)).received =
        [(0, .live false), (0, .live false)] ∧
      (run step (opened 1 1 false) (failedBlock ++ borrowed 1 .raw)).Sound := by
  refine ⟨by decide +kernel, ?_⟩
  refine sound_of_orderly 1 1 false (failedBlock ++ borrowed 1 .raw) ?_ _ List.prefix_rfl
  exact ⟨trivial, trivial, trivial, trivial, trivial, trivial, trivial, trivial, trivial, trivial,
    trivial, trivial, trivial⟩

/-- A block that is cancelled after a statement. -/
def cancelledBlock : List (PoolEvent 1) :=
  borrowed 0 .block ++ [.thread 0 .execute, .thread 0 (.leave (some .baseException)), .thread 0 .giveBack]

/-- The connection of a cancelled block is lent again in its transaction. -/
theorem dirty_after_cancelled_block :
    (run step (opened 1 1 false) (cancelledBlock ++ borrowed 1 .raw)).received =
        [(0, .live false), (0, .live true)] ∧
      ¬(run step (opened 1 1 false) (cancelledBlock ++ borrowed 1 .raw)).Sound := by
  have hreceived : (run step (opened 1 1 false) (cancelledBlock ++ borrowed 1 .raw)).received =
      [(0, .live false), (0, .live true)] := by decide +kernel
  refine ⟨hreceived, fun hsound => ?_⟩
  refine hsound.clean (0, .live true) ?_ rfl
  rw [hreceived]
  decide

end Runs

end Provider

end LotusReport.Persistence

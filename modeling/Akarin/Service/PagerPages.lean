/-
# Akarin.Service.PagerPages -- a resolved fault has a page

When `resolve_mapping_fault` returns `Ok` the VMO should have a committed page for the fault. The request
slot remembers that the page was fetched and never forgets, while the page itself can be decommitted or
cut off by `set_size`: a later fault on it is told that all is well and finds nothing
(`fetched_page_forgotten`). As long as no decommit covers and no change of size cuts off a page that a
request has fetched, the answer is right.
-/
import Akarin.Memory.VmoRanges
import Akarin.Service.Pager

namespace Akarin.Service

open List Lib Memory VmoSystem PagerState Function VmoHeap

/-! ## The property -/

/-- If the step returns `Ok` for a fault, the VMO has a committed page for it. -/
def Resolves (s : PagerState) (pc : PagerPc) : Prop :=
  ∀ fault, (pc.move s).2 = .returned fault (.ok ()) → pc ≠ .returned fault (.ok ()) →
    fault.vmo.Committed (pc.move s).1.system.heap fault.pageOffset

/-- A request has fetched the page: its slot says so, or is about to. -/
def Fetched (s : PagerState) (tasks : List PagerPc) (key : Nat × Nat) : Prop :=
  (s.slots key).state = .ready ∨ ∃ fault : PagerFault, fault.key = key ∧
    .publish fault (.ok ()) ∈ tasks

/-- No decommit covers and no change of size cuts off a page that has been fetched. -/
def Spares (pool : PagerPool) : Event PagerCall PagerChange → Prop
  | .environment (.decommitRange target start len) =>
    ∀ vmo offset, pool.shared.system.vmos[target]? = some vmo →
      Fetched pool.shared pool.tasks (vmo.id, offset) → ¬ (start ≤ offset ∧ offset < start + len)
  | .environment (.setSize target newSize) =>
    ∀ vmo offset, pool.shared.system.vmos[target]? = some vmo →
      Fetched pool.shared pool.tasks (vmo.id, offset) → offset < newSize
  | _ => True

/-! ## The invariant -/

/-- The invariant of fetched pages. -/
structure Backed (s : PagerState) (tasks : List PagerPc) : Prop where
  system : s.system.Sound
  /-- Tasks work for VMOs that exist. -/
  present : ∀ pc ∈ tasks, ∀ vmo ∈ pc.vmo?, vmo ∈ s.system.vmos
  /-- What has been fetched is there. -/
  fetched : ∀ vmo ∈ s.system.vmos, ∀ offset, Fetched s tasks (vmo.id, offset) →
    vmo.Holds s.system.heap offset
  /-- Between the commit and the copy the page is committed, or gone. -/
  filling : ∀ fault source, .fill fault source ∈ tasks → fault.vmo.Firm s.system.heap fault.pageOffset

variable {s s' : PagerState} {tasks : List PagerPc} {task : Nat} {pc pc' : PagerPc}

section

variable (h : Backed s tasks)
include h

lemma Backed.fault {fault : PagerFault} (hpc : pc ∈ tasks)
    (hvmo : pc.vmo? = some fault.vmo) (hfetched : Fetched s tasks fault.key) :
    fault.vmo.Holds s.system.heap fault.pageOffset :=
  h.fetched fault.vmo (h.present pc hpc fault.vmo hvmo) fault.pageOffset hfetched

/-- A step that leaves the pages there are alone. -/
lemma Backed.advance (hpc : tasks[task]? = some pc)
    (hsystem : s'.system.Sound) (hvmos : s'.system.vmos = s.system.vmos)
    (hholds : ∀ vmo ∈ s.system.vmos, ∀ offset, vmo.Holds s.system.heap offset →
      vmo.Holds s'.system.heap offset)
    (hfirm : ∀ vmo ∈ s.system.vmos, ∀ offset, vmo.Firm s.system.heap offset →
      vmo.Firm s'.system.heap offset) (hvmo : pc'.vmo? = none ∨ pc'.vmo? = pc.vmo?)
    (hready : ∀ key, (s'.slots key).state = .ready → Fetched s tasks key)
    (hpublish : ∀ fault, pc' = .publish fault (.ok ()) → fault.vmo.Holds s'.system.heap fault.pageOffset)
    (hfill : ∀ fault source, pc' = .fill fault source → fault.vmo.Firm s'.system.heap fault.pageOffset) :
    Backed s' (tasks.set task pc') := by
  have hmem := mem_of_getElem? hpc
  have hpresent : ∀ vmo ∈ pc'.vmo?, vmo ∈ s.system.vmos := by
    intro vmo hv
    rcases hvmo with hnone | hsame
    · rw [hnone] at hv
      cases hv
    · exact h.present pc hmem vmo (hsame ▸ hv)
  refine ⟨hsystem, fun t ht vmo hv => ?_, fun vmo hv offset hfetched => ?_, fun fault source ht => ?_⟩
  · rw [hvmos]
    rcases mem_or_eq_of_mem_set ht with hold | rfl
    · exact h.present t hold vmo hv
    · exact hpresent vmo hv
  · rw [hvmos] at hv
    rcases hfetched with hstate | ⟨fault, hkey, ht⟩
    · exact hholds vmo hv offset (h.fetched vmo hv offset (hready _ hstate))
    · rcases mem_or_eq_of_mem_set ht with hold | heq
      · exact hholds vmo hv offset (h.fetched vmo hv offset (.inr ⟨fault, hkey, hold⟩))
      · -- the page has just been filled; the VMO is the one with its id
        have hin : fault.vmo ∈ s.system.vmos := hpresent fault.vmo (by rw [← heq]; rfl)
        obtain ⟨hid, rfl⟩ := Prod.mk.inj hkey
        obtain rfl := h.system.id_inj hin hv hid
        exact hpublish fault heq.symm
  · rcases mem_or_eq_of_mem_set ht with hold | heq
    · exact hfirm fault.vmo (h.present _ hold fault.vmo rfl) _ (h.filling fault source hold)
    · exact hfill fault source heq.symm

/-- A step that does nothing to VMOs, fills nothing and declares nothing ready. -/
lemma Backed.pass (hpc : tasks[task]? = some pc)
    (hsystem : s'.system = s.system) (hready : ∀ key, (s'.slots key).state = .ready → Fetched s tasks key)
    (hvmo : pc'.vmo? = none ∨ pc'.vmo? = pc.vmo?) (hplain : pc'.Plain) : Backed s' (tasks.set task pc') := by
  refine h.advance hpc (hsystem ▸ h.system) (by rw [hsystem]) ?_ ?_ hvmo hready ?_ ?_
  · rw [hsystem]
    exact fun _ _ _ hholds => hholds
  · rw [hsystem]
    exact fun _ _ _ hfirm => hfirm
  · rintro fault rfl
    exact hplain.elim
  · rintro fault source rfl
    exact hplain.elim

/-! ## Steps -/

/-- `commit_range` for the page of a fault. -/
lemma Backed.commit {fault : PagerFault} {source : Nat}
    {result : Except (Lib.Fault VmoRangeOpError) Nat × VmoHeap} (hresult : fault.vmo.commitRange fault.pageOffset
      fault.vmo.pageSize fault.purpose s.system.heap = result) (hpc : tasks[task]? = some (.commit fault source))
    (hvmo : pc'.vmo? = none ∨ pc'.vmo? = some fault.vmo) (hfill : pc'.Plain ∧ pc'.Underway ∨
      pc' = .fill fault source ∧ ∃ len, result.1 = .ok len) :
    Backed (s.withHeap result.2) (tasks.set task pc') := by
  have hin : fault.vmo ∈ s.system.vmos := h.present _ (mem_of_getElem? hpc) fault.vmo rfl
  obtain ⟨target, htarget⟩ := mem_iff_getElem?.1 hin
  have hsystem : ({ s.system with heap := result.2 } : VmoSystem).Sound := by
    have hstep := h.system.step (.commitRange target fault.pageOffset fault.vmo.pageSize fault.purpose)
      fun vmo hvmo => by
        obtain rfl := Option.mem_unique htarget hvmo
        exact fault.vmo.commitSupplied_page _ _
    simpa only [step, onVmo, htarget, hresult] using hstep
  have htouch : s.system.heap.Touches result.2 fault.vmo.id := hresult ▸ Vmo.commitRange_touches _ _ _ _ _
  have hgains := hresult ▸
    fault.vmo.commitRange_gains fault.pageOffset fault.vmo.pageSize fault.purpose s.system.heap
  refine h.advance hpc hsystem rfl (fun vmo _ offset hholds => ?_) (fun vmo _ offset hfirm => ?_)
    hvmo (fun key hstate => .inl hstate) (fun fault' heq => ?_) fun fault' source' heq => ?_
  · by_cases hid : vmo.id = fault.vmo.id
    · exact hholds.gains (hid ▸ hgains)
    · exact hholds.of_inner (htouch.others vmo.id hid)
  · by_cases hid : vmo.id = fault.vmo.id
    · exact hfirm.won (hid ▸ hgains).won
    · exact hfirm.of_inner (htouch.others vmo.id hid)
  · subst heq
    rcases hfill with ⟨hplain, -⟩ | ⟨heq, -⟩
    · exact hplain.elim
    · cases heq
  · subst heq
    rcases hfill with ⟨hplain, -⟩ | ⟨heq, len, hok⟩
    · exact hplain.elim
    · cases heq
      subst hresult
      exact Vmo.commitRange_page_firm (h.system.inner _ hin) hok

end

/-- One slot changes, and says that its page is fetched only if it is. -/
lemma Fetched.of_setSlot {key key' : Nat × Nat} {slot : PagerRequestSlot}
    (hslot : slot.state = .ready → Fetched s tasks key)
    (h : ((s.setSlot key slot).slots key').state = .ready) : Fetched s tasks key' := by
  by_cases hkey : key' = key
  · rw [hkey, slots_setSlot_self] at h
    exact hkey ▸ hslot h
  · rw [slots_setSlot_ne s _ hkey] at h
    exact .inl h

lemma Backed.moves (h : Backed s tasks) (hpc : tasks[task]? = some pc) (hmove : pc.Moves s s' pc') :
    Backed s' (tasks.set task pc') := by
  have hmem := mem_of_getElem? hpc
  cases hmove with
  | idle state =>
    rw [state, set_same hpc]
    exact h
  | proceed system slots leads vmo plain underway =>
    exact h.pass hpc system (fun _ hstate => .inl (slots ▸ hstate)) vmo plain
  | answered outcome vmo state =>
    subst state
    exact h.pass hpc rfl (fun _ => .inl) (.inr vmo.symm) trivial
  | claim _ state | block _ state =>
    subst state
    exact h.pass hpc rfl (fun _ => .of_setSlot (nomatch ·)) (.inr rfl) trivial
  | commit leads vmo next state =>
    subst state
    exact h.commit rfl hpc vmo next
  | @fill fault source page found state =>
    subst state
    have hin := h.present _ hmem fault.vmo rfl
    refine h.advance hpc ?_ rfl (fun vmo _ offset hholds => hholds.of_inner rfl)
      (fun vmo _ offset hfirm => hfirm.of_inner rfl) (.inr rfl) (fun _ => .inl) ?_
      nofun
    · exact ⟨⟨h.system.ids_lt, h.system.ids_distinct, h.system.parents⟩, h.system.private_paged, h.system.inner⟩
    · rintro fault' heq
      cases heq
      exact ((h.filling fault source hmem).holds (h.system.inner _ hin) found).of_inner rfl
  | @publish fault result state =>
    subst state
    refine h.pass hpc rfl (fun _ => .of_setSlot fun hstate => ?_) (.inr rfl) trivial
    rcases result with error | ok
    · cases hstate
    · exact .inr ⟨fault, rfl, hmem⟩

/-- A task returns `Ok` when it has found the slot ready or published that it is. -/
lemma PagerPc.Moves.returned {fault : PagerFault} (h : pc.Moves s s' (.returned fault (.ok ())))
    (hne : pc ≠ .returned fault (.ok ())) : s'.system = s.system ∧ pc.vmo? = some fault.vmo ∧
      ((s.slots fault.key).state = .ready ∨ pc = .publish fault (.ok ())) := by
  cases h with
  | idle state => exact absurd rfl hne
  | proceed system slots leads vmo plain underway => exact underway.elim
  | answered outcome vmo state => exact ⟨by rw [state], vmo, .inl outcome⟩
  | commit leads vmo next state =>
    rcases next with ⟨-, underway⟩ | ⟨heq, -⟩
    · exact underway.elim
    · cases heq
  | publish state => exact ⟨by rw [state]; rfl, rfl, .inr rfl⟩

lemma Backed.resolves (h : Backed s tasks) (hpc : pc ∈ tasks) : Resolves s pc := by
  intro fault hreturned hne
  have hmove : pc.Moves s _ (.returned fault (.ok ())) := hreturned ▸ pc.move_moves s
  obtain ⟨hsystem, hvmo, hstate⟩ := hmove.returned hne
  have hfetched : Fetched s tasks fault.key := by
    rcases hstate with hready | rfl
    · exact .inl hready
    · exact .inr ⟨fault, rfl, hpc⟩
  rw [hsystem]
  exact (h.fault hpc hvmo hfetched).committed (h.system.inner _ (h.present pc hpc fault.vmo hvmo))

/-! ## Everything else -/

/-- An operation on a VMO that leaves fetched pages alone. -/
lemma Backed.operate (h : Backed s tasks) {system : VmoSystem} (hsystem : system.Sound)
    (hvmos : system.vmos = s.system.vmos)
    (hholds : ∀ vmo ∈ s.system.vmos, ∀ offset, Fetched s tasks (vmo.id, offset) →
      vmo.Holds s.system.heap offset → vmo.Holds system.heap offset)
    (hfirm : ∀ (vmo : Vmo) offset, vmo.Firm s.system.heap offset → vmo.Firm system.heap offset) :
    Backed { s with system := system } tasks := by
  refine ⟨hsystem, fun pc hpc vmo hv => ?_, fun vmo hv offset hfetched => ?_, fun fault source ht => ?_⟩
  · exact hvmos ▸ h.present pc hpc vmo hv
  · have hin : vmo ∈ s.system.vmos := hvmos ▸ hv
    exact hholds vmo hin offset hfetched (h.fetched vmo hin offset hfetched)
  · exact hfirm fault.vmo fault.pageOffset (h.filling fault source ht)

lemma onVmo_vmos (system : VmoSystem) (target : Nat) (f : Vmo → VmoHeap → VmoHeap) :
    (system.onVmo target f).vmos = system.vmos := by
  unfold onVmo
  split <;> rfl

lemma Backed.bindVmo (h : Backed s tasks) {vmo : Vmo} (hvmo : vmo ∈ s.system.vmos)
    (pager cookie : Nat) : Backed (s.bindVmo vmo pager cookie) tasks := by
  have hgains : ∀ other : Vmo, Vmo.Gains (s.system.heap.inner other.id)
      ((s.system.heap.setInner vmo.id { s.system.heap.inner vmo.id with
        pagerCookie := some cookie }).inner other.id) := by
    intro other
    by_cases hid : other.id = vmo.id
    · rw [hid, setInner_inner_self]
      exact ⟨rfl, fun _ hmem _ => hmem, fun _ hmem => .inl hmem⟩
    · rw [setInner_inner_of_ne _ _ hid]
      exact .refl _
  have hbound : Backed (s.withHeap (s.system.heap.setInner vmo.id { s.system.heap.inner vmo.id with
      pagerCookie := some cookie })) tasks := by
    refine h.operate ⟨⟨h.system.ids_lt, h.system.ids_distinct, h.system.parents⟩, h.system.private_paged, ?_⟩ rfl
      (fun other _ _ _ hholds => hholds.gains (hgains other))
      fun other _ hfirm => hfirm.won (hgains other).won
    intro other hother
    by_cases hid : other.id = vmo.id
    · obtain rfl := h.system.id_inj hother hvmo hid
      rw [setInner_inner_self]
      exact (h.system.inner other hother).of_placements rfl rfl
    · rw [setInner_inner_of_ne _ _ hid]
      exact h.system.inner other hother
  simp only [PagerState.bindVmo]
  split
  · exact h
  · split
    · exact hbound
    · exact ⟨hbound.system, hbound.present, hbound.fetched, hbound.filling⟩

lemma Backed.act {pool : PagerPool} (h : Backed pool.shared pool.tasks) (change : PagerChange)
    (hok : Spares pool (.environment change)) : Backed (pool.shared.act change) pool.tasks := by
  cases change with
  | decommitRange target start len =>
    refine h.operate (h.system.step _ trivial) (onVmo_vmos _ _ _) (fun vmo hv offset hf hholds => ?_)
      fun vmo offset hfirm => ?_
    · simp only [step, onVmo]
      split
      · exact hholds
      · rename_i vmo' htarget
        refine hholds.decommitRange vmo' fun hid => hok vmo' offset htarget ?_
        exact hid ▸ hf
    · simp only [step, onVmo]
      split
      · exact hfirm
      · exact hfirm.decommitRange _ _ _
  | setSize target newSize =>
    refine h.operate (h.system.step _ trivial) (onVmo_vmos _ _ _) (fun vmo hv offset hf hholds => ?_)
      fun vmo offset hfirm => ?_
    · simp only [step, onVmo]
      split
      · exact hholds
      · rename_i vmo' htarget
        exact hholds.setSize vmo' fun hid => hok vmo' offset htarget (hid ▸ hf)
    · simp only [step, onVmo]
      split
      · exact hfirm
      · exact hfirm.setSize _ _
  | bindVmo target pager cookie =>
    simp only [PagerState.act]
    split
    · exact h
    · exact h.bindVmo (mem_of_getElem? ‹_›) pager cookie
  | answer request result =>
    simp only [PagerState.act]
    split
    · exact ⟨h.system, h.present, h.fetched, h.filling⟩
    · exact h
  | offer pager slot source => exact ⟨h.system, h.present, h.fetched, h.filling⟩

/-! ## Runs -/

lemma Backed.step {pool : PagerPool} (h : Backed pool.shared pool.tasks)
    (event : Event PagerCall PagerChange) (hok : Spares pool event) :
    Backed (pool.step pagerRuntime event).shared (pool.step pagerRuntime event).tasks := by
  refine Pool.step_keeps (I := fun pool => Backed pool.shared pool.tasks) h ?_ ?_ ?_
  · intro call pc _ hpc
    simp only [pagerRuntime] at hpc
    split at hpc
    case isFalse => cases hpc
    case isTrue hin =>
      cases hpc
      refine ⟨h.system, fun pc hmem vmo hv => ?_, fun vmo hv offset hfetched => ?_,
        fun fault source hmem => ?_⟩
      · rcases mem_append.1 hmem with hold | hnew
        · exact h.present pc hold vmo hv
        · rw [mem_singleton.1 hnew] at hv
          cases hv
          exact hin
      · refine h.fetched vmo hv offset ?_
        rcases hfetched with hstate | ⟨fault, hkey, hmem⟩
        · exact .inl hstate
        · rcases mem_append.1 hmem with hold | hnew
          · exact .inr ⟨fault, hkey, hold⟩
          · cases mem_singleton.1 hnew
      · rcases mem_append.1 hmem with hold | hnew
        · exact h.filling fault source hold
        · cases mem_singleton.1 hnew
  · intro task pc _ hpc
    exact h.moves hpc (pc.move_moves pool.shared)
  · rintro change rfl
    exact h.act change hok

lemma backed_new {system : VmoSystem} (hsystem : system.Sound) (bindings : Nat → Option Nat)
    (sources : Nat → Nat → Option Vmo) : Backed (.new system bindings sources) [] := by
  refine ⟨hsystem, by simp, fun vmo _ offset hfetched => ?_,
    by simp⟩
  rcases hfetched with hstate | ⟨fault, -, hmem⟩
  · cases hstate
  · exact (not_mem_nil hmem).elim

/-- In every run that spares the pages that have been fetched, a fault that is told that all is well has
a committed page. -/
theorem run_resolves (system : VmoSystem) (hsystem : system.Sound) (bindings : Nat → Option Nat)
    (sources : Nat → Nat → Option Vmo) (schedule : List (Event PagerCall PagerChange))
    (hschedule : Meets (Pool.step pagerRuntime) Spares
      (Pool.idle (PagerState.new system bindings sources)) schedule) :
    Meets (Pool.step pagerRuntime) (Pool.OnSteps Resolves)
      (Pool.idle (PagerState.new system bindings sources)) schedule := by
  refine Meets.upgrade (I := fun pool : PagerPool => Backed pool.shared pool.tasks)
    (fun pool event h hok => ⟨?_, h.step event hok⟩) (backed_new hsystem bindings sources) hschedule
  cases event with
  | start | environment => trivial
  | step task =>
    intro pc hpc
    exact h.resolves (mem_of_getElem? hpc)

lemma pagedSystem_sound : pagedSystem.Sound :=
  run_invariant (fun _ op h hop => h.step op hop) (empty_sound _ _)
    (show Meets step VmoSystem.Supplied _ _ from
      ⟨trivial, trivial, fun _ _ => .inr fun _ _ => rfl, trivial⟩)

/-- A page is fetched, the other page of the VMO is decommitted, and the fetched page faults again. -/
def sparedPage : List (Event PagerCall PagerChange) :=
  (pagedSetup ++ pagedFetch 0 0) ++
    [.environment (.decommitRange 0 0x1000 0x1000), .start pagedCall, .step 1, .step 1, .step 1]

lemma sparedPage_spares : Meets (Pool.step pagerRuntime) Spares
    (Pool.idle (new pagedSystem (fun _ => none) fun _ _ => none)) sparedPage := by
  refine meets_append.2 ⟨⟨trivial, trivial, trivial, trivial, trivial, trivial, trivial, trivial,
    trivial, trivial, trivial, trivial, trivial, trivial⟩, ⟨?_, trivial, trivial, trivial, trivial,
    trivial⟩⟩
  rintro vmo offset htarget hfetched hrange
  obtain rfl : Vmo.root 0 0x1000 .paged = vmo := Option.some.inj htarget
  rcases hfetched with hstate | ⟨fault, -, hmem⟩
  · have hkey : ((Vmo.root 0 0x1000 .paged).id, offset) ≠ (0, 0) := by
      intro heq
      have := (Prod.mk.inj heq).2
      omega
    have hslot : (runOps (Pool.step pagerRuntime) (Pool.idle (new pagedSystem
        (fun _ => none) fun _ _ => none)) (pagedSetup ++ pagedFetch 0 0)).shared.slots =
        update (update (fun _ => .new) (0, 0) ⟨.inFlight, false⟩) (0, 0)
          ⟨.ready, false⟩ := rfl
    rw [hslot, update_of_ne hkey, update_of_ne hkey] at hstate
    cases hstate
  · cases mem_singleton.1 hmem

theorem run_resolves_sparedPage : Meets (Pool.step pagerRuntime) (Pool.OnSteps Resolves)
    (Pool.idle (PagerState.new pagedSystem (fun _ => none) fun _ _ => none)) sparedPage :=
  run_resolves pagedSystem pagedSystem_sound (fun _ => none) (fun _ _ => none) sparedPage
    sparedPage_spares

/-- A page is fetched, decommitted, and faults again. -/
def forgottenPage : List (Event PagerCall PagerChange) :=
  (pagedSetup ++ pagedFetch 0 0 ++ [.environment (.decommitRange 0 0 0x1000), .start pagedCall,
    .step 1, .step 1]) ++ [.step 1]

/-- The slot still says that the page was fetched: the fault returns `Ok`, and there is no page. -/
theorem fetched_page_forgotten : ¬ Meets (Pool.step pagerRuntime) (Pool.OnSteps Resolves)
    (Pool.idle (PagerState.new pagedSystem (fun _ => none) fun _ _ => none)) forgottenPage := by
  intro h
  have hlast := (meets_append.1 h).2.1
  obtain ⟨page, hpage, -⟩ := hlast (.look ⟨.root 0 0x1000 .paged, 0, 7, 0x400010, .read,
    .fileBacked⟩ 99) rfl ⟨.root 0 0x1000 .paged, 0, 7, 0x400010, .read, .fileBacked⟩ rfl
    nofun
  cases hpage

end Akarin.Service

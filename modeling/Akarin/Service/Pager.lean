/-
# Akarin.Service.Pager -- faults on pager-backed memory

`service/pager.rs`: a fault on a mapping of a pager-backed VMO asks the pager that the VMO is bound to
for the page, copies what the pager offers and remembers the outcome in a request slot. There is one
slot for each page of each VMO, made on first use and never removed; faults on the same page meet
there.

A step of a task is one critical section. `PagerRequestSlot.locked` says that the slot's lock is held
across steps: `resolve_mapping_fault` still holds it when it calls `wait_until_ready`. The call to
the pager object (`submit_fault`, modelled in `Akarin.Service.Dispatcher`) is seen from outside: the
request goes out, and at some time an answer is there. Which VMO a slot number of the pager's handle
table leads to is up to the pager.
-/
import Akarin.Memory.Vmar
import Akarin.Memory.VmoRuns
import Akarin.Service.Dispatcher

namespace Akarin.Service

open Lib Memory

/-! ## Requests -/

/-- `PagerRequestState`. -/
inductive PagerRequestState where
  | missing
  | inFlight
  | ready
  | failed (error : ServiceError)
  deriving DecidableEq

/-- The slot of a page, with its lock. -/
structure PagerRequestSlot where
  state : PagerRequestState
  locked : Bool

def PagerRequestSlot.new : PagerRequestSlot := ⟨.missing, false⟩

/-- The state an outcome is published as. -/
def PagerRequestState.outcome : Except ServiceError Unit → PagerRequestState
  | .ok () => .ready
  | .error error => .failed error

/-- `ServiceFrame::pager_fault_request`; the first word is `PagerRequestOp::Fault`. -/
def ServiceFrame.pagerFaultRequest
    (faultAddr accessFlags backingCookie pageOffset requestFlags : Nat) : ServiceFrame :=
  ⟨#v[1, faultAddr, accessFlags, backingCookie, pageOffset, requestFlags]⟩

/-- The VMOs, their pagers and slots. -/
structure PagerState where
  system : VmoSystem
  /-- The pager a VMO is bound to, by the VMO's id. -/
  bindings : Nat → Option Nat
  /-- The request slots, by the VMO's id and the offset of the page. -/
  slots : Nat × Nat → PagerRequestSlot
  /-- What a pager offers under a slot number of its handle table (`resolve_source_vmo`). -/
  sources : Nat → Nat → Option Vmo
  /-- The fault requests sent to pagers, in order. -/
  submitted : List ServiceFrame
  /-- What `submit_fault` has returned for them. -/
  answers : Nat → Option (Except ServiceError SyscallResult)

namespace PagerState

def setSlot (s : PagerState) (key : Nat × Nat) (slot : PagerRequestSlot) : PagerState :=
  { s with slots := Function.update s.slots key slot }

def withHeap (s : PagerState) (heap : VmoHeap) : PagerState :=
  { s with system := { s.system with heap := heap } }

end PagerState

section

variable (s : PagerState)

lemma slots_setSlot_self (key : Nat × Nat) (slot : PagerRequestSlot) :
    (s.setSlot key slot).slots key = slot := Function.update_self ..

lemma slots_setSlot_ne {key other : Nat × Nat} (slot : PagerRequestSlot)
    (h : other ≠ key) : (s.setSlot key slot).slots other = s.slots other :=
  Function.update_of_ne h ..

/-! ## Program counters -/

/-- A fault that is being resolved. -/
structure PagerFault where
  vmo : Vmo
  pageOffset : Nat
  pager : Nat
  addr : Nat
  access : MMUFlags
  purpose : VmoPagePurpose

/-- `PagerRequestKey`. -/
def PagerFault.key (fault : PagerFault) : Nat × Nat := (fault.vmo.id, fault.pageOffset)

/-- Where a fault handler is. -/
inductive PagerPc where
  | enter (mapping : VmarMapping) (addr : Nat) (access : MMUFlags) (purpose : VmoPagePurpose)
  | readCookie (fault : PagerFault)
  /-- The critical section of `resolve_mapping_fault`. -/
  | look (fault : PagerFault) (cookie : Nat)
  | submit (fault : PagerFault) (cookie : Nat)
  | awaitAnswer (fault : PagerFault) (request : Nat)
  /-- `install_reply_page`: find the page offered, commit the page, copy. -/
  | findSource (fault : PagerFault) (values : List Nat)
  | commit (fault : PagerFault) (source : Nat)
  | fill (fault : PagerFault) (source : Nat)
  | publish (fault : PagerFault) (result : Except ServiceError Unit)
  /-- `wait_until_ready`, and whether its caller still holds the lock of the slot. -/
  | waitUntilReady (fault : PagerFault) (holding : Bool)
  /-- Turned away before a slot was looked at. -/
  | refused (error : ServiceError)
  | returned (fault : PagerFault) (result : Except ServiceError Unit)
  | panicked

/-- The outcome of `fetch_page_from_pager` when `submit_fault` has returned. -/
def PagerFault.onAnswer (fault : PagerFault) : Except ServiceError SyscallResult → PagerPc
  | .error error => .publish fault (.error error)
  | .ok (.ok values) => .findSource fault values
  | .ok (.service error) => .publish fault (.error error)
  | .ok .failure => .publish fault (.error .protocolViolation)
  | .ok .unknown => .publish fault (.error .invalidState)

/-- The page a reply offers: the first value is a slot number, the second an offset. -/
def PagerState.sourcePage (fault : PagerFault) (values : List Nat) : Option VmoPageMetadata :=
  let slot := values.getD 0 0
  let offset := values.getD 1 0
  if slot < 2 ^ 32 then
    (s.sources fault.pager slot).bind fun source =>
      if fault.pageOffset % fault.vmo.pageSize ≠ 0 ∨ offset % fault.vmo.pageSize ≠ 0 ∨
          source.pageSize ≠ fault.vmo.pageSize then none
      else source.pageAt s.system.heap offset
  else none

/-- One critical section. -/
def PagerPc.move : PagerPc → PagerState × PagerPc
  | .enter mapping addr access purpose =>
    match mapping.vmoOffsetForAddr (addr &&& (usizeBound - 1 - (mapping.vmo.pageSize - 1))) with
    | none => (s, .refused .invalidArgument)
    | some pageOffset =>
      match s.bindings mapping.vmo.id with
      | none => (s, .refused .serviceUnavailable)
      | some pager => (s, .readCookie ⟨mapping.vmo, pageOffset, pager, addr, access, purpose⟩)
  | .readCookie fault =>
    match (s.system.heap.inner fault.vmo.id).pagerCookie with
    | none => (s, .refused .invalidState)
    | some cookie => (s, .look fault cookie)
  | .look fault cookie =>
    if (s.slots fault.key).locked = true then (s, .look fault cookie)
    else
      match (s.slots fault.key).state with
      | .ready => (s, .returned fault (.ok ()))
      | .failed error => (s, .returned fault (.error error))
      -- the guard of this section lives on in the caller's frame
      | .inFlight => (s.setSlot fault.key ⟨.inFlight, true⟩, .waitUntilReady fault true)
      | .missing => (s.setSlot fault.key ⟨.inFlight, false⟩, .submit fault cookie)
  | .submit fault cookie =>
    ({ s with submitted := s.submitted ++ [.pagerFaultRequest fault.addr fault.access.toNat cookie
        (fault.pageOffset / fault.vmo.pageSize) 0] },
      .awaitAnswer fault s.submitted.length)
  | .awaitAnswer fault request =>
    match s.answers request with
    | none => (s, .awaitAnswer fault request)
    | some answer => (s, fault.onAnswer answer)
  | .findSource fault values =>
    match s.sourcePage fault values with
    | none => (s, .publish fault (.error .protocolViolation))
    | some page => (s, .commit fault page.phys)
  | .commit fault source =>
    match fault.vmo.commitRange fault.pageOffset fault.vmo.pageSize fault.purpose s.system.heap with
    | (.ok _, heap) => (s.withHeap heap, .fill fault source)
    | (.error (.error _), heap) => (s.withHeap heap, .publish fault (.error .serviceUnavailable))
    | (.error .panic, heap) => (s.withHeap heap, .panicked)
  | .fill fault source =>
    match fault.vmo.pageAt s.system.heap fault.pageOffset with
    | none => (s, .publish fault (.error .serviceUnavailable))
    | some page =>
      (s.withHeap (s.system.heap.writePhys page.phys
        (s.system.heap.readPhys source fault.vmo.pageSize)), .publish fault (.ok ()))
  | .publish fault result =>
    if (s.slots fault.key).locked = true then (s, .publish fault result)
    else (s.setSlot fault.key ⟨.outcome result, false⟩, .returned fault result)
  | .waitUntilReady fault holding =>
    if (s.slots fault.key).locked = true then (s, .waitUntilReady fault holding)
    else
      match (s.slots fault.key).state with
      | .ready => (s, .returned fault (.ok ()))
      | .failed error => (s, .returned fault (.error error))
      | _ => (s, .waitUntilReady fault holding)
  | .refused error => (s, .refused error)
  | .returned fault result => (s, .returned fault result)
  | .panicked => (s, .panicked)

/-! ## What a step can do -/

/-- The task works on the request of the page, from its first look to publication. -/
def PagerPc.leads (key : Nat × Nat) : PagerPc → Nat
  | .submit fault _ => if fault.key = key then 1 else 0
  | .awaitAnswer fault _ => if fault.key = key then 1 else 0
  | .findSource fault _ => if fault.key = key then 1 else 0
  | .commit fault _ => if fault.key = key then 1 else 0
  | .fill fault _ => if fault.key = key then 1 else 0
  | .publish fault _ => if fault.key = key then 1 else 0
  | _ => 0

/-- The VMO a task works for. -/
def PagerPc.vmo? : PagerPc → Option Vmo
  | .enter mapping _ _ _ => some mapping.vmo
  | .readCookie fault => some fault.vmo
  | .look fault _ => some fault.vmo
  | .submit fault _ => some fault.vmo
  | .awaitAnswer fault _ => some fault.vmo
  | .findSource fault _ => some fault.vmo
  | .commit fault _ => some fault.vmo
  | .fill fault _ => some fault.vmo
  | .publish fault _ => some fault.vmo
  | .waitUntilReady fault _ => some fault.vmo
  | .returned fault _ => some fault.vmo
  | .refused _ => none
  | .panicked => none

/-- The task is still under way and does not wait. -/
def PagerPc.Underway : PagerPc → Prop
  | .waitUntilReady _ _ => False
  | .returned _ _ => False
  | _ => True

/-- The task has neither filled a page nor is it about to. -/
def PagerPc.Plain : PagerPc → Prop
  | .fill _ _ => False
  | .publish _ (.ok ()) => False
  | _ => True

/-- A step of a task, as far as VMOs and slots are concerned. -/
inductive PagerPc.Moves (s s' : PagerState) : PagerPc → PagerPc → Prop where
  | idle {pc} (state : s' = s) : Moves s s' pc pc
  | proceed {pc pc'} (system : s'.system = s.system) (slots : s'.slots = s.slots)
      (leads : ∀ key, pc'.leads key = pc.leads key) (vmo : pc'.vmo? = none ∨ pc'.vmo? = pc.vmo?)
      (plain : pc'.Plain) (underway : pc'.Underway) : Moves s s' pc pc'
  | answered {pc fault result} (outcome : (s.slots fault.key).state = .outcome result)
      (vmo : pc.vmo? = some fault.vmo) (state : s' = s) : Moves s s' pc (.returned fault result)
  | claim {fault cookie} (missing : (s.slots fault.key).state = .missing)
      (state : s' = s.setSlot fault.key ⟨.inFlight, false⟩) :
      Moves s s' (.look fault cookie) (.submit fault cookie)
  | block {fault cookie} (inFlight : (s.slots fault.key).state = .inFlight)
      (state : s' = s.setSlot fault.key ⟨.inFlight, true⟩) :
      Moves s s' (.look fault cookie) (.waitUntilReady fault true)
  | commit {fault source pc'} (leads : ∀ key, pc'.leads key ≤ (PagerPc.commit fault source).leads key)
      (vmo : pc'.vmo? = none ∨ pc'.vmo? = some fault.vmo)
      (next : pc'.Plain ∧ pc'.Underway ∨ pc' = .fill fault source ∧ ∃ len, (fault.vmo.commitRange
        fault.pageOffset fault.vmo.pageSize fault.purpose s.system.heap).1 = .ok len)
      (state : s' = s.withHeap (fault.vmo.commitRange fault.pageOffset fault.vmo.pageSize fault.purpose
        s.system.heap).2) : Moves s s' (.commit fault source) pc'
  | fill {fault source page} (found : fault.vmo.pageAt s.system.heap fault.pageOffset = some page)
      (state : s' = s.withHeap (s.system.heap.writePhys page.phys
        (s.system.heap.readPhys source fault.vmo.pageSize))) :
      Moves s s' (.fill fault source) (.publish fault (.ok ()))
  | publish {fault result} (state : s' = s.setSlot fault.key ⟨.outcome result, false⟩) :
      Moves s s' (.publish fault result) (.returned fault result)

lemma PagerFault.onAnswer_cases (fault : PagerFault) (answer : Except ServiceError SyscallResult) :
    (∃ values, fault.onAnswer answer = .findSource fault values) ∨
      ∃ error, fault.onAnswer answer = .publish fault (.error error) := by
  rcases answer with error | result
  · exact .inr ⟨_, rfl⟩
  · cases result with
    | ok values => exact .inl ⟨_, rfl⟩
    | service | failure | unknown => exact .inr ⟨_, rfl⟩

lemma PagerPc.move_moves (pc : PagerPc) : pc.Moves s (pc.move s).1 (pc.move s).2 := by
  -- the task goes on with its fault, or gives up
  have hgo : ∀ {pc pc' : PagerPc}, (∀ key, pc'.leads key = pc.leads key) →
      pc'.vmo? = none ∨ pc'.vmo? = pc.vmo? → pc'.Plain → pc'.Underway → pc.Moves s s pc' :=
    .proceed rfl rfl
  fun_cases PagerPc.move s pc with
  | case1 | case2 | case4 => exact hgo (fun _ => rfl) (.inl rfl) trivial trivial
  | case3 | case5 | case14 | case15 | case19 => exact hgo (fun _ => rfl) (.inr rfl) trivial trivial
  | case7 _ _ _ hstate | case24 _ _ _ hstate => exact .answered hstate rfl rfl
  | case8 _ _ _ _ hstate | case25 _ _ _ _ hstate => exact .answered hstate rfl rfl
  | case9 _ _ _ hstate => exact .block hstate rfl
  | case10 _ _ _ hstate => exact .claim hstate rfl
  | case11 => exact .proceed rfl rfl (fun _ => rfl) (.inr rfl) trivial trivial
  | case13 fault _ answer =>
    rcases fault.onAnswer_cases answer with ⟨_, heq⟩ | ⟨_, heq⟩
    all_goals
      rw [heq]
      exact hgo (fun _ => rfl) (.inr rfl) trivial trivial
  | case16 fault source len heap hres =>
    exact .commit (fun _ => le_rfl) (.inr rfl) (.inr ⟨rfl, len, by rw [hres]⟩) (by rw [hres])
  | case17 fault source error heap hres =>
    exact .commit (fun _ => le_rfl) (.inr rfl) (.inl ⟨trivial, trivial⟩) (by rw [hres])
  | case18 fault source heap hres =>
    exact .commit (fun _ => Nat.zero_le _) (.inl rfl) (.inl ⟨trivial, trivial⟩) (by rw [hres])
  | case20 => exact .fill ‹_› rfl
  | case22 => exact .publish rfl
  | _ => exact .idle rfl

end

/-! ## What else happens -/

/-- A call of `resolve_mapping_fault`. -/
structure PagerCall where
  mapping : VmarMapping
  addr : Nat
  access : MMUFlags
  purpose : VmoPagePurpose

/-- What happens around the faults; a VMO is picked by its position. -/
inductive PagerChange where
  | decommitRange (target offset len : Nat)
  | setSize (target newSize : Nat)
  | bindVmo (target pager cookie : Nat)
  | answer (request : Nat) (result : Except ServiceError SyscallResult)
  | offer (pager slot : Nat) (source : Option Vmo)

namespace PagerState

/-- `PagerRuntime::bind_vmo`: the cookie is recorded before the binding is looked for. -/
def bindVmo (s : PagerState) (vmo : Vmo) (pager cookie : Nat) : PagerState :=
  let inner := s.system.heap.inner vmo.id
  if vmo.isChild = true ∨ vmo.backing ≠ .paged ∨ inner.pagerCookie.isSome = true then s
  else
    let bound := s.withHeap (s.system.heap.setInner vmo.id { inner with pagerCookie := some cookie })
    match s.bindings vmo.id with
    | some _ => bound
    | none => { bound with bindings := Function.update s.bindings vmo.id (some pager) }

def act (s : PagerState) : PagerChange → PagerState
  | .decommitRange target offset len =>
    { s with system := s.system.step (.decommitRange target offset len) }
  | .setSize target newSize => { s with system := s.system.step (.setSize target newSize) }
  | .bindVmo target pager cookie =>
    match s.system.vmos[target]? with
    | none => s
    | some vmo => s.bindVmo vmo pager cookie
  | .answer request result =>
    if request < s.submitted.length ∧ s.answers request = none then
      { s with answers := Function.update s.answers request (some result) }
    else s
  | .offer pager slot source =>
    let table := Function.update (s.sources pager) slot source
    { s with sources := Function.update s.sources pager table }

/-- No request has been made yet. -/
def new (system : VmoSystem) (bindings : Nat → Option Nat) (sources : Nat → Nat → Option Vmo) :
    PagerState :=
  ⟨system, bindings, fun _ => .new, sources, [], fun _ => none⟩

end PagerState

/-- Faults are raised on mappings of VMOs that exist. -/
def pagerRuntime : Program PagerState PagerPc PagerCall PagerChange where
  enter := fun s call =>
    if call.mapping.vmo ∈ s.system.vmos then
      some (.enter call.mapping call.addr call.access call.purpose)
    else none
  move := PagerPc.move
  act := PagerState.act

abbrev PagerPool := Pool PagerState PagerPc

/-- A VMO of two pages; and another one, of a page the pager offers. -/
def pagedSystem : VmoSystem :=
  runOps VmoSystem.step (.empty VmoSystem.plentifulAllocator fun _ => 0)
    [.new 0x2000 0x1000 .resizable, .new 0x1000 0x1000 0,
      .commitRange 1 0 0x1000 .fileBacked]

/-- A read fault on the first page of the first. -/
def pagedCall : PagerCall :=
  ⟨⟨⟨0x400000, 0x402000, by decide⟩, 0, .user, .root 0 0x1000 .paged, 0⟩, 0x400010, .read,
    .fileBacked⟩

/-- The first VMO is bound to a pager, and the pager offers the second one under slot 5. -/
def pagedSetup : List (Event PagerCall PagerChange) :=
  [.environment (.bindVmo 0 7 99), .environment (.offer 7 5 (some (.root 1 0x1000 .paged)))]

/-- The fault is raised, the pager answers, the page is fetched and the fault returns; `task` is the
task that runs it and `request` the number of its request. -/
def pagedFetch (task request : Nat) : List (Event PagerCall PagerChange) :=
  [.start pagedCall, .step task, .step task, .step task, .step task,
    .environment (.answer request (.ok (.ok [5, 0]))), .step task, .step task, .step task,
    .step task, .step task]

end Akarin.Service

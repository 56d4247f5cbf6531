/-
# Akarin.Ipc.Receive -- ports, inboxes and the tasks that receive

All ports of a process deliver into its one inbox, each message under the numeric id of its port. A
task that receives on a port first looks into the map of pending messages, then takes messages out of
the inbox until one has the right id, and puts the others into the pending map. Looking into the
map, taking a message out of the inbox and putting one into the map are three atomic steps; between
them the task holds the message privately. The environment makes processes and ports, drops ports,
wires them and sends through them.

Histories: a queued message remembers the port it was sent through, and a mailbox remembers what has
entered it and what it has handed out.
-/
import Akarin.Lib.Tasks
import Akarin.Ipc.Port

namespace Akarin.Ipc

open Lib Objects

/-! ## Ids -/

/-- `IdAllocator<u64>` with step 1. -/
structure IdAllocator where
  next : Nat
  recycled : List Nat

namespace IdAllocator

/-- `allocate`. -/
def allocate (ids : IdAllocator) : Nat × IdAllocator :=
  match ids.recycled with
  | id :: rest => (id, { ids with recycled := rest })
  | [] => (ids.next, { ids with next := (ids.next + 1) % 2 ^ 64 })

/-- `recycle`. -/
def recycle (ids : IdAllocator) (id : Nat) : IdAllocator :=
  { ids with recycled := ids.recycled ++ [id] }

end IdAllocator

/-- No id that is in use or has been given back is handed out again as long as it is; `used` are those in use. -/
structure Allots (ids : IdAllocator) (used : List Nat) : Prop where
  recycled_lt : ∀ id ∈ ids.recycled, id < ids.next
  used_lt : ∀ id ∈ used, id < ids.next
  nodup : (ids.recycled ++ used).Nodup

namespace Allots

open List

variable {ids : IdAllocator} {used : List Nat}

lemma allocate (h : Allots ids used) (hwrap : ids.recycled = [] → ids.next + 1 < 2 ^ 64) :
    Allots ids.allocate.2 (ids.allocate.1 :: used) := by
  obtain ⟨next, recycled⟩ := ids
  cases recycled with
  | nil =>
    have hnext : (next + 1) % 2 ^ 64 = next + 1 := Nat.mod_eq_of_lt (hwrap rfl)
    have hused := h.used_lt
    refine ⟨by simp [IdAllocator.allocate], ?_, ?_⟩
    · intro id hid
      simp only [IdAllocator.allocate, hnext]
      rcases mem_cons.1 hid with rfl | hid
      · exact Nat.lt_succ_self _
      · exact Nat.lt_succ_of_lt (hused id hid)
    · simp only [IdAllocator.allocate, nil_append]
      exact nodup_cons.2 ⟨fun hmem => absurd (hused next hmem) (lt_irrefl next),
        (nodup_append.1 h.nodup).2.1⟩
  | cons id rest =>
    refine ⟨fun other hother => h.recycled_lt other (mem_cons_of_mem id hother), ?_, ?_⟩
    · intro other hother
      rcases mem_cons.1 hother with rfl | hother
      · exact h.recycled_lt _ mem_cons_self
      · exact h.used_lt other hother
    · have hperm : (rest ++ id :: used).Perm (id :: (rest ++ used)) := perm_middle
      exact hperm.nodup_iff.2 h.nodup

lemma recycle {id : Nat} {rest : List Nat} (h : Allots ids used) (hperm : used.Perm (id :: rest)) :
    Allots (ids.recycle id) rest := by
  refine ⟨?_, fun other hother => h.used_lt other (hperm.mem_iff.2 (mem_cons_of_mem id hother)), ?_⟩
  · intro other hother
    rcases mem_append.1 hother with hother | hother
    · exact h.recycled_lt other hother
    · obtain rfl := mem_singleton.1 hother
      exact h.used_lt _ (hperm.mem_iff.2 mem_cons_self)
  · have hnodup := ((List.Perm.refl ids.recycled).append hperm).nodup_iff.1 h.nodup
    simpa [IdAllocator.recycle] using hnodup

end Allots

/-! ## Mailboxes -/

/-- A message and the port it came by. -/
structure QueuedMessage where
  portId : Nat
  message : Message
  through : Nat
  deriving DecidableEq

/-- The inbox of a process and its pending messages. -/
structure Mailbox where
  queue : List QueuedMessage
  closed : Bool
  pending : Std.TreeMap Nat (List QueuedMessage)
  /-- What has entered the inbox, in order. -/
  entered : List QueuedMessage
  /-- What receives have returned, in order, with the port they were called on. -/
  returned : List (Nat × QueuedMessage)

namespace Mailbox

def new : Mailbox := ⟨[], false, {}, [], []⟩

section

variable (box : Mailbox)

/-- A message enters the inbox. -/
def push (portId through : Nat) (message : Message) : Mailbox :=
  { box with
    queue := box.queue ++ [⟨portId, message, through⟩]
    entered := box.entered ++ [⟨portId, message, through⟩] }

/-- The pending messages of a port. -/
def pendingFor (portId : Nat) : List QueuedMessage :=
  (box.pending[portId]?).getD []

/-- `pop_pending_message`, up to the message it returns. -/
def popPending (portId : Nat) : Option QueuedMessage × Mailbox :=
  match box.pending[portId]? with
  | none => (none, box)
  | some queue =>
    (queue.head?, { box with
      pending :=
        if queue.tail.isEmpty then box.pending.erase portId
        else box.pending.insert portId queue.tail })

/-- `push_pending_message`. -/
def pushPending (queued : QueuedMessage) : Mailbox :=
  { box with pending := box.pending.insert queued.portId (box.pendingFor queued.portId ++ [queued]) }

/-- Hand a message to a receive on `port`. -/
def handOut (port : Nat) (queued : QueuedMessage) : Mailbox :=
  { box with returned := box.returned ++ [(port, queued)] }

end

variable (box : Mailbox) (portId : Nat)

@[simp] lemma pendingFor_handOut (port : Nat) (queued : QueuedMessage) :
    (box.handOut port queued).pendingFor = box.pendingFor := rfl

lemma pendingFor_pushPending (queued : QueuedMessage) (id : Nat) : (box.pushPending queued).pendingFor id =
      if id = queued.portId then box.pendingFor id ++ [queued] else box.pendingFor id := by
  simp only [pendingFor, pushPending]
  rw [getElem?_insert]
  by_cases h : id = queued.portId
  · simp [h]
  · simp [h, Ne.symm h]

/-- The first pending message of the port is returned, and taken out. -/
lemma popPending_fst : (box.popPending portId).1 = (box.pendingFor portId).head? := by
  unfold popPending pendingFor
  split
  · rename_i h
    simp [h]
  · rename_i h
    simp [h]

lemma pendingFor_popPending (id : Nat) : (box.popPending portId).2.pendingFor id =
      if id = portId then (box.pendingFor id).tail else box.pendingFor id := by
  unfold popPending
  split
  · rename_i h
    split
    · rename_i hid
      subst hid
      simp [pendingFor, h]
    · rfl
  · rename_i queue h
    simp only [pendingFor]
    by_cases hid : id = portId
    · subst hid
      rw [if_pos rfl, h]
      split
      · rename_i hempty
        rw [getElem?_erase, if_pos rfl]
        exact (List.isEmpty_iff.1 hempty).symm
      · rw [getElem?_insert, if_pos rfl]
        rfl
    · rw [if_neg hid]
      split
      · rw [getElem?_erase, if_neg (Ne.symm hid)]
      · rw [getElem?_insert, if_neg (Ne.symm hid)]

/-- Taking a pending message out changes nothing else. -/
lemma popPending_rest :
    (box.popPending portId).2 = { box with pending := (box.popPending portId).2.pending } := by
  unfold popPending
  split <;> rfl

end Mailbox

/-! ## The system -/

/-- All ports and mailboxes. -/
structure IpcState where
  unicastIds : IdAllocator
  fanoutIds : IdAllocator
  /-- The ports ever made; `none` is a port that was dropped. -/
  ports : List (Option Port)
  mailboxes : List Mailbox

namespace IpcState

def new : IpcState := ⟨⟨1, []⟩, ⟨1, []⟩, [], []⟩

section

variable (s : IpcState)

/-- The port with number `uid`, if it is there. -/
def port? (uid : Nat) : Option Port := (s.ports[uid]?).join

/-- The mailbox of a process, empty while there is no such process. -/
def mailbox (inbox : Nat) : Mailbox := (s.mailboxes[inbox]?).getD .new

/-- Nobody receives from the inbox any more. -/
def closed (inbox : Nat) : Bool := (s.mailboxes[inbox]?).all (·.closed)

def setPort (uid : Nat) (port : Option Port) : IpcState :=
  { s with ports := s.ports.set uid port }

def onMailbox (inbox : Nat) (f : Mailbox → Mailbox) : IpcState :=
  { s with mailboxes := s.mailboxes.modify inbox f }

end

/-- Put the messages a port has sent into their inboxes. -/
def route (portId through : Nat) : List Delivery → IpcState → IpcState
  | [], s => s
  | delivery :: rest, s =>
    route portId through rest
      (s.onMailbox delivery.channel fun box => box.push portId through delivery.message)

/-- Change a port that is there. -/
def onPort (s : IpcState) (uid : Nat) (f : Port → Port) : IpcState :=
  match s.port? uid with
  | none => s
  | some port => s.setPort uid (some (f port))

/-- `Drop for UnicastPort`, `Drop for FanoutPort`. -/
def dropPort (s : IpcState) (uid : Nat) : IpcState :=
  match s.port? uid with
  | none => s
  | some (.unicast port) =>
    { s.setPort uid none with unicastIds := s.unicastIds.recycle port.id }
  | some (.broadcast port) =>
    { s.setPort uid none with fanoutIds := s.fanoutIds.recycle port.id }
  | some (.bus port) => { s.setPort uid none with fanoutIds := s.fanoutIds.recycle port.id }
  | some (.reply _) => s.setPort uid none

/-- `send`, `publish`. -/
def send (s : IpcState) (uid : Nat) (message : Message) (r : Registry) : IpcState :=
  match s.port? uid with
  | none => s
  | some port =>
    let result := port.send r message s.closed
    match port.id? with
    | none => s
    | some id => route id uid result.2.2 (s.setPort uid (some result.2.1))

end IpcState

/-- The kinds of port a process can make. -/
inductive PortKind where
  | unicast
  | broadcast
  | bus
  deriving DecidableEq

/-- What the environment does. -/
inductive PortEvent where
  | process
  | create (kind : PortKind)
  | drop (uid : Nat)
  | bind (uid : Nat) (route : Route)
  | rebind (uid : Nat) (route : Route)
  | subscribe (uid : Nat) (route : Route)
  | unsubscribe (uid pid : Nat)
  | freeze (uid : Nat)
  | close (uid : Nat)
  | send (uid : Nat) (message : Message) (r : Registry)
  | closeInbox (inbox : Nat)

namespace IpcState

/-- `UnicastPort::new`, `BroadcastPort::new`, `BusPort::new`. -/
def create (s : IpcState) : PortKind → IpcState
  | .unicast =>
    { s with
      unicastIds := s.unicastIds.allocate.2
      ports := s.ports ++ [some (.unicast (.new s.unicastIds.allocate.1))] }
  | .broadcast =>
    { s with
      fanoutIds := s.fanoutIds.allocate.2
      ports := s.ports ++ [some (.broadcast (.new s.fanoutIds.allocate.1))] }
  | .bus =>
    { s with
      fanoutIds := s.fanoutIds.allocate.2
      ports := s.ports ++ [some (.bus (.new s.fanoutIds.allocate.1))] }

def act (s : IpcState) : PortEvent → IpcState
  | .process => { s with mailboxes := s.mailboxes ++ [.new] }
  | .create kind => s.create kind
  | .drop uid => s.dropPort uid
  | .bind uid route => s.onPort uid fun
      | .unicast port => .unicast (port.bindReceiver route).2
      | port => port
  | .rebind uid route => s.onPort uid fun
      | .unicast port => .unicast (port.rebindReceiver route).2
      | port => port
  | .subscribe uid route => s.onPort uid fun
      | .broadcast port => .broadcast (port.subscribe route).2
      | .bus port => .bus (port.subscribe route).2
      | port => port
  | .unsubscribe uid pid => s.onPort uid fun
      | .broadcast port => .broadcast (port.unsubscribe pid).2
      | .bus port => .bus (port.unsubscribe pid).2
      | port => port
  | .freeze uid => s.onPort uid fun
      | .unicast port => .unicast port.freeze
      | .broadcast port => .broadcast port.freeze
      | .bus port => .bus port.freeze
      | port => port
  | .close uid => s.onPort uid fun
      | .unicast port => .unicast port.close
      | .broadcast port => .broadcast port.close
      | .bus port => .bus port.close
      | port => port
  | .send uid message r => s.send uid message r
  | .closeInbox inbox => s.onMailbox inbox fun box => { box with closed := true }

variable (s : IpcState)

lemma mailbox_onMailbox_ne {inbox b : Nat} (h : inbox ≠ b)
    (f : Mailbox → Mailbox) : (s.onMailbox inbox f).mailbox b = s.mailbox b := by
  simp [mailbox, onMailbox, h]

lemma mailbox_onMailbox_self {inbox : Nat} (h : inbox < s.mailboxes.length)
    (f : Mailbox → Mailbox) : (s.onMailbox inbox f).mailbox inbox = f (s.mailbox inbox) := by
  simp [mailbox, onMailbox, h]

lemma mailbox_eq_new {inbox : Nat} (h : s.mailboxes.length ≤ inbox) : s.mailbox inbox = .new := by
  simp [mailbox, h]

/-- A mailbox after an update: the update of it, or it as it was. -/
lemma mailbox_onMailbox (inbox b : Nat) (f : Mailbox → Mailbox) :
    (s.onMailbox inbox f).mailbox b = s.mailbox b ∨
      inbox = b ∧ b < s.mailboxes.length ∧ (s.onMailbox inbox f).mailbox b = f (s.mailbox b) := by
  by_cases hinbox : inbox = b
  · subst hinbox
    by_cases hlt : inbox < s.mailboxes.length
    · exact .inr ⟨rfl, hlt, s.mailbox_onMailbox_self hlt f⟩
    · refine .inl ?_
      rw [s.mailbox_eq_new (Nat.le_of_not_lt hlt), mailbox_eq_new]
      simpa [onMailbox] using hlt
  · exact .inl (s.mailbox_onMailbox_ne hinbox f)

/-- The environment sends through the port `uid`, which is wired to the inbox, under the id. -/
def Sends (s : IpcState) (change : PortEvent) (inbox id uid : Nat) : Prop :=
  ∃ message r port, change = .send uid message r ∧ s.port? uid = some port ∧
    port.id? = some id ∧ inbox ∈ port.channels

end IpcState

/-- What the environment does to a mailbox: messages enter it, each under an id and through a port
that `ok` admits, or it is closed. -/
inductive Mailbox.Fed (ok : Nat → Nat → Prop) (box : Mailbox) : Mailbox → Prop
  | same : Fed ok box box
  | push {box' : Mailbox} {id through : Nat} {message : Message} (h : Fed ok box box')
      (hok : ok id through) : Fed ok box (box'.push id through message)
  | close : Fed ok box { box with closed := true }

namespace IpcState

lemma route_fed {ok : Nat → Nat → Prop} {id uid b : Nat} {box : Mailbox}
    {deliveries : List Delivery} {s : IpcState}
    (hok : ∀ delivery ∈ deliveries, delivery.channel = b → ok id uid)
    (hfed : box.Fed ok (s.mailbox b)) : box.Fed ok ((route id uid deliveries s).mailbox b) := by
  induction deliveries generalizing s with
  | nil => exact hfed
  | cons delivery rest ih =>
    refine ih (fun d hd => hok d (List.mem_cons_of_mem _ hd)) ?_
    rcases s.mailbox_onMailbox delivery.channel b
      fun box => box.push id uid delivery.message with heq | ⟨hchannel, -, heq⟩
    · exact heq ▸ hfed
    · rw [heq]
      exact .push hfed (hok delivery List.mem_cons_self hchannel)

variable (s : IpcState)

lemma send_fed (uid : Nat) (message : Message) (r : Registry) (b : Nat) :
    (s.mailbox b).Fed (s.Sends (.send uid message r) b) ((s.send uid message r).mailbox b) := by
  fun_cases send s uid message r with
  | case3 port hport _ id hid =>
    refine route_fed ?_ .same
    rintro delivery hdelivery rfl
    exact ⟨message, r, port, rfl, hport, hid, Port.send_channel hdelivery⟩
  | _ => exact .same

/-- An act of the environment feeds the mailboxes. -/
lemma act_fed (change : PortEvent) (b : Nat) :
    (s.mailbox b).Fed (s.Sends change b) ((s.act change).mailbox b) := by
  have hport : ∀ uid f, (s.mailbox b).Fed (s.Sends change b) ((s.onPort uid f).mailbox b) := by
    intro uid f
    unfold onPort
    split <;> exact .same
  cases change with
  | process =>
    have hnew : (s.act .process).mailbox b = s.mailbox b := by
      show ((s.mailboxes ++ [.new])[b]?).getD .new = _
      rw [mailbox, List.getElem?_append]
      split
      · rfl
      · rename_i hlt
        rw [List.getElem?_eq_none (Nat.le_of_not_lt hlt), List.getElem?_singleton]
        split <;> rfl
    exact hnew ▸ .same
  | create kind => cases kind <;> exact .same
  | drop uid =>
    simp only [act, dropPort]
    split <;> exact .same
  | bind | rebind | subscribe | unsubscribe | freeze | close => exact hport _ _
  | send uid message r => exact s.send_fed uid message r b
  | closeInbox inbox =>
    rcases s.mailbox_onMailbox inbox b fun box => { box with closed := true } with heq | ⟨-, -, heq⟩
    · exact heq ▸ .same
    · exact heq ▸ .close

end IpcState

/-! ## Receiving -/

/-- Why nothing is received. -/
inductive RecvError where
  | empty
  | closed
  deriving DecidableEq

/-- Where a receive stands: in `inbox`, on the port `port` whose id is `id`. -/
inductive RecvPc where
  /-- `self.pop_pending_message(port_id)` -/
  | popPending (inbox port id : Nat)
  /-- `self.inbox.recv().await` -/
  | popInbox (inbox port id : Nat)
  /-- `self.push_pending_message(queued)` -/
  | pushPending (inbox port id : Nat) (queued : QueuedMessage)
  | returned (result : Except RecvError Message)
  deriving DecidableEq

/-- One step of `recv_message` and of `recv_async_for_port`. A task that finds the inbox empty waits
where it is. -/
def RecvPc.move (s : IpcState) : RecvPc → IpcState × RecvPc
  | .popPending inbox port id =>
    match s.mailboxes[inbox]? with
    | none => (s, .returned (.error .closed))
    | some box =>
      match (box.popPending id).1 with
      | none =>
        (s.onMailbox inbox fun box => (box.popPending id).2, .popInbox inbox port id)
      | some queued =>
        (s.onMailbox inbox fun box => (box.popPending id).2.handOut port queued,
          .returned (.ok queued.message))
  | .popInbox inbox port id =>
    match s.mailboxes[inbox]? with
    | none => (s, .returned (.error .closed))
    | some box =>
      match box.queue with
      | [] => if box.closed then (s, .returned (.error .closed)) else (s, .popInbox inbox port id)
      | queued :: rest =>
        if queued.portId = id then
          (s.onMailbox inbox fun box => { box with queue := rest }.handOut port queued,
            .returned (.ok queued.message))
        else
          (s.onMailbox inbox fun box => { box with queue := rest },
            .pushPending inbox port id queued)
  | .pushPending inbox port id queued =>
    (s.onMailbox inbox fun box => box.pushPending queued, .popInbox inbox port id)
  | .returned result => (s, .returned result)

/-- What a step of a receive can do. -/
inductive RecvPc.Moves (s : IpcState) : RecvPc → IpcState → RecvPc → Prop
  /-- The receive has ended, or it waits. -/
  | rest {pc : RecvPc} : Moves s pc s pc
  /-- There is no such process. -/
  | gone {inbox port id : Nat} : Moves s (.popPending inbox port id) s (.returned (.error .closed))
  /-- The inbox is empty and closed. -/
  | quit {inbox port id : Nat} : Moves s (.popInbox inbox port id) s (.returned (.error .closed))
  /-- Nothing is pending for the port. -/
  | miss {inbox port id : Nat} (hbox : inbox < s.mailboxes.length)
      (hpending : (s.mailbox inbox).pendingFor id = []) :
      Moves s (.popPending inbox port id) (s.onMailbox inbox fun box => (box.popPending id).2)
        (.popInbox inbox port id)
  /-- The first pending message is returned. -/
  | hit {inbox port id : Nat} {queued : QueuedMessage} {rest : List QueuedMessage}
      (hbox : inbox < s.mailboxes.length)
      (hpending : (s.mailbox inbox).pendingFor id = queued :: rest) :
      Moves s (.popPending inbox port id)
        (s.onMailbox inbox fun box => (box.popPending id).2.handOut port queued)
        (.returned (.ok queued.message))
  /-- The first message of the inbox is the port's, and is returned. -/
  | take {inbox port id : Nat} {queued : QueuedMessage} {rest : List QueuedMessage}
      (hbox : inbox < s.mailboxes.length) (hqueue : (s.mailbox inbox).queue = queued :: rest)
      (hid : queued.portId = id) :
      Moves s (.popInbox inbox port id)
        (s.onMailbox inbox fun box => { box with queue := rest }.handOut port queued)
        (.returned (.ok queued.message))
  /-- The first message of the inbox is another port's, and is held. -/
  | foreign {inbox port id : Nat} {queued : QueuedMessage} {rest : List QueuedMessage}
      (hbox : inbox < s.mailboxes.length) (hqueue : (s.mailbox inbox).queue = queued :: rest)
      (hid : queued.portId ≠ id) :
      Moves s (.popInbox inbox port id) (s.onMailbox inbox fun box => { box with queue := rest })
        (.pushPending inbox port id queued)
  /-- The held message becomes pending. -/
  | stash {inbox port id : Nat} {queued : QueuedMessage} : Moves s (.pushPending inbox port id queued)
        (s.onMailbox inbox fun box => box.pushPending queued) (.popInbox inbox port id)

lemma RecvPc.move_moves (s : IpcState) (pc : RecvPc) : Moves s pc (pc.move s).1 (pc.move s).2 := by
  have hmailbox : ∀ {inbox : Nat} {box : Mailbox}, s.mailboxes[inbox]? = some box →
      inbox < s.mailboxes.length ∧ s.mailbox inbox = box := fun h =>
    ⟨(List.getElem?_eq_some_iff.1 h).1, by rw [IpcState.mailbox, h]; rfl⟩
  fun_cases RecvPc.move s pc with
  | case1 => exact .gone
  | case2 _ _ _ box hget hpop =>
    obtain ⟨hbox, rfl⟩ := hmailbox hget
    rw [Mailbox.popPending_fst] at hpop
    exact .miss hbox (List.head?_eq_none_iff.1 hpop)
  | case3 _ _ _ box hget queued hpop =>
    obtain ⟨hbox, rfl⟩ := hmailbox hget
    rw [Mailbox.popPending_fst] at hpop
    obtain ⟨rest, hrest⟩ := List.head?_eq_some_iff.1 hpop
    exact .hit hbox hrest
  | case4 | case5 => exact .quit
  | case7 _ _ box hget queued rest hqueue =>
    obtain ⟨hbox, rfl⟩ := hmailbox hget
    exact .take hbox hqueue rfl
  | case8 _ _ _ box hget queued rest hqueue hid =>
    obtain ⟨hbox, rfl⟩ := hmailbox hget
    exact .foreign hbox hqueue hid
  | case9 => exact .stash
  | _ => exact .rest

/-- A receive: in which inbox, on which port. -/
structure RecvCall where
  inbox : Nat
  port : Nat

/-- The receives of the tasks of all processes. The port must be there when a receive begins. -/
def receives : Program IpcState RecvPc RecvCall PortEvent where
  enter s call := ((s.port? call.port).bind Port.id?).map (.popPending call.inbox call.port ·)
  move := RecvPc.move
  act := IpcState.act

end Akarin.Ipc

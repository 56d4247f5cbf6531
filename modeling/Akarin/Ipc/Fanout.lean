/-
# Akarin.Ipc.Fanout -- a send to many subscribers

A send on a broadcast or bus port makes the copies of the message first and then goes through the
subscribers in the order of the hash map. At the first closed inbox it removes that subscriber, counts a
failure and returns: whoever comes later gets nothing.
-/
import Akarin.Ipc.Port

namespace Akarin.Ipc

open List Objects

namespace FanoutPort

variable {port : FanoutPort} {r : Registry} {message clone : Message} {closed : Nat → Bool}

/-- Every subscriber whose inbox is open gets one copy, the closed subscriber that the send has met is
removed, and the send is counted once. -/
structure FanoutLaw (port : FanoutPort) (r : Registry) (message clone : Message) (closed : Nat → Bool) :
    Prop where
  delivered : (port.send r message closed).2.2.map (·.channel) =
    (port.subscribers.map (·.inbox)).filter (!closed ·)
  copies : ∀ delivery ∈ (port.send r message closed).2.2,
    delivery.message = message ∨ delivery.message = clone
  removed : (port.send r message closed).2.1.subscribers =
    port.subscribers.filter (port.subscribers.find? (closed ·.inbox) ≠ some ·)
  counted : (port.send r message closed).2.1.accepted = port.accepted + 1 ∧
      (port.send r message closed).2.1.failed = port.failed ∨
    (port.send r message closed).2.1.accepted = port.accepted ∧
      (port.send r message closed).2.1.failed = port.failed + 1

lemma plan_of_clone (hclone : message.tryCloneForFanout r = .ok clone) (routes : List Route) :
    ∃ planned, plan r message routes = .ok planned ∧ ∀ p ∈ planned, p.2 = message ∨ p.2 = clone := by
  induction routes with
  | nil => exact ⟨[], rfl, nofun⟩
  | cons route rest ih =>
    cases rest with
    | nil => exact ⟨[(route, message)], rfl, forall_mem_singleton.2 (.inl rfl)⟩
    | cons next rest =>
      obtain ⟨planned, hplan, hcopies⟩ := ih
      exact ⟨(route, clone) :: planned, by simp only [plan, hclone, hplan],
        forall_mem_cons.2 ⟨.inr rfl, hcopies⟩⟩

/-- What a list has before its first failing element is all that passes, exactly if nothing that passes comes
after a failing element. -/
lemma takeWhile_eq_filter_iff {α : Type} {p : α → Bool} {l : List α} :
    l.takeWhile p = l.filter p ↔ l.Pairwise fun a b => p a = false → p b = false := by
  induction l with
  | nil => simp
  | cons a l ih =>
    rw [pairwise_cons, ← ih]
    by_cases ha : p a = true
    · simp [ha]
    · rw [takeWhile_cons_of_neg ha, filter_cons_of_neg ha, eq_comm, filter_eq_nil_iff]
      simp only [Bool.not_eq_true] at ha ⊢
      refine ⟨fun hnone => ⟨fun b hb _ => hnone b hb, ih.2 ?_⟩, fun ⟨hfirst, _⟩ b hb => hfirst b hb ha⟩
      exact pairwise_of_forall_mem_list fun _ _ b hb _ => hnone b hb

/-- Of a map with one entry per process, the entry of a process is the route itself. -/
lemma filter_pid {routes : List Route} (hpids : (routes.map (·.pid)).Nodup) {route : Route}
    (hroute : route ∈ routes) : routes.filter (·.pid ≠ route.pid) = routes.filter (some route ≠ some ·) := by
  refine filter_congr fun other hother => ?_
  simp only [decide_eq_decide, ne_eq, Option.some.injEq, not_iff_not]
  exact ⟨fun heq => (inj_on_of_nodup_map hpids hother hroute heq).symm, fun heq => by rw [heq]⟩

/-- A send on an open port of a message that can be sent and cloned is complete exactly if no subscriber with
an open inbox comes after one whose inbox is closed. -/
theorem fanoutLaw_iff_closed_last (hopen : port.state = .opened)
    (hpids : (port.subscribers.map (·.pid)).Nodup) (hvalid : message.validate = .ok ())
    (hclone : message.tryCloneForFanout r = .ok clone) :
    port.FanoutLaw r message clone closed ↔
      (port.subscribers.map (·.inbox)).Pairwise fun a b => closed a = true → closed b = true := by
  obtain ⟨planned, hplan, hcopies⟩ := plan_of_clone hclone port.subscribers
  have hplanned : port.validateFanout r message = .ok planned := by
    simp [validateFanout, hopen, hvalid, hplan]
  have hdelivered : (port.send r message closed).2.2 = _ :=
    (send_delivered hplanned).trans (deliver_fst closed planned)
  have hmet := deliver_snd closed planned
  rw [plan_routes hplan] at hmet
  have hchannels : (port.send r message closed).2.2.map (·.channel) =
      (port.subscribers.map (·.inbox)).takeWhile (!closed ·) := by
    rw [hdelivered, ← plan_routes hplan]
    simp [takeWhile_map, Function.comp_def]
  have hlast := takeWhile_eq_filter_iff (p := (!closed ·)) (l := port.subscribers.map (·.inbox))
  simp only [Bool.not_eq_false'] at hlast
  -- only the deliveries depend on the order; the other three parts hold of every send
  refine ⟨fun h => hlast.1 (hchannels.symm.trans h.delivered), fun h => ⟨?_, ?_, ?_, ?_⟩⟩
  · exact hchannels.trans (hlast.2 h)
  · rw [hdelivered, forall_mem_map]
    exact fun p hp => hcopies p ((List.takeWhile_prefix _).subset hp)
  · simp only [send, hplanned]
    split
    · rename_i hdeliver
      rw [hdeliver] at hmet
      simp [← hmet]
    · rename_i route hdeliver
      rw [hdeliver] at hmet
      have hroute := mem_of_find?_eq_some hmet.symm
      have hsubscribed : port.isSubscribed route.pid = true := any_eq_true.2 ⟨route, hroute, by simp⟩
      rw [← hmet]
      simp only [unsubscribe, hsubscribed, if_true]
      exact filter_pid hpids hroute
  · simp only [send, hplanned, unsubscribe]
    split
    · exact .inl ⟨rfl, rfl⟩
    · right
      dsimp only
      split <;> exact ⟨rfl, rfl⟩

/-- A port with two subscribers. -/
def twoSubscribers : FanoutPort := ⟨3, .opened, 0, 0, [⟨1, 10⟩, ⟨2, 20⟩]⟩

theorem fanoutLaw_second_closed :
    twoSubscribers.FanoutLaw .new (.new ⟨0, 0, 0⟩) (.new ⟨0, 0, 0⟩) (· = 20) :=
  (fanoutLaw_iff_closed_last rfl (by decide) rfl rfl).2 (by decide)

/-- The first inbox is closed: the second subscriber gets nothing. -/
theorem fanoutLaw_fails : (Message.new ⟨0, 0, 0⟩).validate = .ok () ∧
    (Message.new ⟨0, 0, 0⟩).tryCloneForFanout .new = .ok (.new ⟨0, 0, 0⟩) ∧
    ¬ twoSubscribers.FanoutLaw .new (.new ⟨0, 0, 0⟩) (.new ⟨0, 0, 0⟩) (· = 10) :=
  ⟨rfl, rfl, fun h => absurd h.delivered (by decide)⟩

end FanoutPort

end Akarin.Ipc

/-
# Akarin.Lib.Gate -- calls that wait on an event for units of a resource

A call comes for a unit of a resource; if it finds none it observes the epoch of an event, parks if the
epoch is still that one, and comes again when it is notified. Who supplies a unit owes the event a
notification. `Covered` says that no unit is forgotten: as long as a call is parked, each unit has a
notification that is still to be made or a call that is on its way to it. A notification of one call
keeps it, because the call that is woken is on its way (`Covered.notify`).
-/
import Akarin.Lib.Tasks

namespace Akarin.Lib

open List

/-- Where a call is with respect to an event. -/
inductive Place where
  /-- On its way to the resource. -/
  | coming
  /-- It has observed the epoch, and not parked yet. -/
  | watching (seen : Nat)
  | parked
  | away
  deriving DecidableEq

/-- A call is on its way to the resource; it is so too if it has observed an epoch that is over. -/
def Place.weight (epoch : Nat) : Place → Nat
  | .coming => 1
  | .watching seen => if seen = epoch then 0 else 1
  | .parked => 0
  | .away => 0

/-- The call waits for the end of the epoch. -/
def Place.Awaits (epoch : Nat) (place : Place) : Prop := place = .parked ∨ place = .watching epoch

/-- The calls `ids` resume. -/
def resume {π : Type} (ids : List Nat) (f : π → π) (calls : List π) : List π :=
  calls.mapIdx fun i call => if i ∈ ids then f call else call

section Resume

variable {π ρ : Type} {ids : List Nat} {f : π → π} {calls : List π}

lemma getElem?_resume (i : Nat) :
    (resume ids f calls)[i]? = calls[i]?.map fun call => if i ∈ ids then f call else call := by
  simp [resume]

@[simp] lemma resume_nil : resume [] f calls = calls := by
  apply ext_getElem?
  intro i
  rw [getElem?_resume]
  simp

@[simp] lemma length_resume : (resume ids f calls).length = calls.length := by
  simp [resume]

lemma mem_resume {call : π} (h : call ∈ resume ids f calls) :
    call ∈ calls ∨ ∃ i ∈ ids, ∃ old, calls[i]? = some old ∧ call = f old := by
  obtain ⟨i, hi⟩ := mem_iff_getElem?.1 h
  rw [getElem?_resume] at hi
  obtain ⟨old, hold, heq⟩ := Option.map_eq_some_iff.1 hi
  by_cases hmem : i ∈ ids
  · rw [if_pos hmem] at heq
    exact .inr ⟨i, hmem, old, hold, heq.symm⟩
  · rw [if_neg hmem] at heq
    exact .inl (heq ▸ mem_of_getElem? hold)

/-- Resuming is seen through a view of the calls. -/
lemma map_resume {view : π → ρ} {g : ρ → ρ} (h : ∀ call, view (f call) = g (view call)) :
    (resume ids f calls).map view = resume ids g (calls.map view) := by
  apply ext_getElem?
  intro i
  rw [getElem?_resume, getElem?_map, getElem?_map, getElem?_resume]
  cases calls[i]? with
  | none => rfl
  | some call =>
    by_cases hmem : i ∈ ids
    · simp [hmem, h]
    · simp [hmem]

/-- One call after the others. -/
lemma resume_cons {i : Nat} {call : π} (hcall : calls[i]? = some call) :
    resume (i :: ids) f calls = (resume ids f calls).set i (f call) := by
  apply ext_getElem?
  intro j
  have hlt : i < (resume ids f calls).length := by
    rw [length_resume]
    exact (List.getElem?_eq_some_iff.1 hcall).1
  by_cases hij : i = j
  · subst hij
    rw [getElem?_set_self hlt, getElem?_resume, hcall]
    simp
  · rw [getElem?_set_ne hij, getElem?_resume, getElem?_resume]
    simp [mem_cons, Ne.symm hij]

/-- What the resumed calls weighed less before. -/
lemma weigh_resume {weight : π → Nat} (hnodup : ids.Nodup)
    (hids : ∀ i ∈ ids, ∃ call, calls[i]? = some call ∧ weight call + 1 = weight (f call)) :
    weigh weight (resume ids f calls) = weigh weight calls + ids.length := by
  induction ids with
  | nil => simp
  | cons i ids ih =>
    obtain ⟨hi, hrest⟩ := nodup_cons.1 hnodup
    obtain ⟨call, hcall, hone⟩ := hids i (mem_cons_self ..)
    have hold : (resume ids f calls)[i]? = some call := by
      rw [getElem?_resume, hcall]
      simp [hi]
    have hset := weigh_set weight hold (f call)
    have htail := ih hrest fun j hj => hids j (mem_cons_of_mem _ hj)
    rw [resume_cons hcall, length_cons]
    omega

/-- Resuming changes nothing that the resumed calls do not show. -/
lemma weigh_resume_same {weight : π → Nat}
    (h : ∀ i ∈ ids, ∀ call, calls[i]? = some call → weight (f call) = weight call) :
    weigh weight (resume ids f calls) = weigh weight calls := by
  have hmap : (resume ids f calls).map weight = calls.map weight := by
    apply ext_getElem?
    intro i
    rw [getElem?_map, getElem?_map, getElem?_resume]
    cases hcall : calls[i]? with
    | none => rfl
    | some call =>
      by_cases hmem : i ∈ ids
      · simp [hmem, h i hmem call hcall]
      · simp [hmem]
  rw [weigh, weigh, hmap]

end Resume

/-- The event and the calls around it, the parked ones in the order in which they are to be woken. -/
structure Gate where
  epoch : Nat
  parked : List Nat
  calls : List Place

namespace Gate

/-- How many calls are on their way to the resource. -/
def comers (g : Gate) : Nat := weigh (Place.weight g.epoch) g.calls

def park (g : Gate) (i : Nat) : Gate :=
  { g with parked := g.parked ++ [i], calls := g.calls.set i .parked }

/-- The epoch is over, and the first `n` parked calls come again. -/
def notify (g : Gate) (n : Nat) : Gate where
  epoch := g.epoch + 1
  parked := g.parked.drop n
  calls := resume (g.parked.take n) (fun _ => .coming) g.calls

/-- `units` are there to be taken, and `pending` notifications are still to be made. -/
structure Covered (g : Gate) (units pending : Nat) : Prop where
  nodup : g.parked.Nodup
  mem_parked : ∀ i, i ∈ g.parked ↔ g.calls[i]? = some .parked
  seen_le : ∀ seen, Place.watching seen ∈ g.calls → seen ≤ g.epoch
  parked_covered : g.parked ≠ [] → units ≤ pending + g.comers
  watched_covered : Place.watching g.epoch ∈ g.calls → units ≤ pending

namespace Covered

variable {g : Gate} {units units' pending pending' i : Nat} {a b : Place}

/-- There is no call yet. -/
lemma idle (epoch units pending : Nat) : Covered ⟨epoch, [], []⟩ units pending where
  nodup := nodup_nil
  mem_parked := by simp
  seen_le := by simp
  parked_covered := by simp
  watched_covered := by simp

section

variable (h : g.Covered units pending)
include h

/-- Units come with their notifications, go, or are used up. -/
lemma supply (hle : units' + pending ≤ units + pending' ∨ units' = 0) : g.Covered units' pending' where
  __ := h
  parked_covered hparked := by
    have := h.parked_covered hparked
    omega
  watched_covered hwatch := by
    have := h.watched_covered hwatch
    omega

/-- A new call, which has not observed anything. -/
lemma enter (hb : b = .coming ∨ b = .away) : Covered { g with calls := g.calls ++ [b] } units pending where
  nodup := h.nodup
  mem_parked j := by
    rw [h.mem_parked]
    rcases Nat.lt_trichotomy j g.calls.length with hlt | rfl | hgt
    · rw [getElem?_append_left hlt]
    · rcases hb with rfl | rfl <;> simp
    · rw [getElem?_eq_none (by omega), getElem?_eq_none (by simp; omega)]
  seen_le seen hseen := by
    rcases mem_append.1 hseen with hold | hnew
    · exact h.seen_le seen hold
    · rcases hb with rfl | rfl <;> simp at hnew
  parked_covered hparked := by
    have := h.parked_covered hparked
    simp only [comers, weigh_append] at this ⊢
    omega
  watched_covered hwatch := by
    rcases mem_append.1 hwatch with hold | hnew
    · exact h.watched_covered hold
    · rcases hb with rfl | rfl <;> simp at hnew

/-- A call moves between two places, neither of them the parking place. The units may change with it:
they do not outgrow the notifications, and a call that leaves takes one unit with it. -/
lemma move (ha : g.calls[i]? = some a) (hna : a ≠ .parked)
    (hnb : b ≠ .parked) (hseen : ∀ seen, b = .watching seen → seen ≤ g.epoch)
    (hwatch : b = .watching g.epoch → units' ≤ pending')
    (hle : units' + pending ≤ units + pending' ∨ units' = 0)
    (hcome : units' + pending + a.weight g.epoch ≤ units + pending' + b.weight g.epoch ∨ units' = 0) :
    Covered { g with calls := g.calls.set i b } units' pending' where
  nodup := h.nodup
  mem_parked j := by
    rw [h.mem_parked]
    by_cases hij : i = j
    · subst hij
      rw [ha, getElem?_set_self (List.getElem?_eq_some_iff.1 ha).1]
      simp [hna, hnb]
    · rw [getElem?_set_ne hij]
  seen_le seen hmem := by
    rcases mem_or_eq_of_mem_set hmem with hold | hnew
    · exact h.seen_le seen hold
    · exact hseen seen hnew.symm
  parked_covered hparked := by
    have hold := h.parked_covered hparked
    have hset := weigh_set (Place.weight g.epoch) ha b
    simp only [comers] at hold ⊢
    omega
  watched_covered hmem := by
    rcases mem_or_eq_of_mem_set hmem with hold | hnew
    · have := h.watched_covered hold
      omega
    · exact hwatch hnew.symm

/-- A call parks, the epoch being the one it has observed. -/
lemma park (ha : g.calls[i]? = some (.watching g.epoch)) : (g.park i).Covered units pending where
  nodup := by
    have hi : i ∉ g.parked := fun hmem => by
      rw [(h.mem_parked i).1 hmem] at ha
      cases ha
    exact nodup_append.2 ⟨h.nodup, by simp, fun x hx y hy => by
      obtain rfl := mem_singleton.1 hy
      exact fun heq => hi (heq ▸ hx)⟩
  mem_parked j := by
    show j ∈ g.parked ++ [i] ↔ (g.calls.set i .parked)[j]? = some .parked
    rw [mem_append, mem_singleton, h.mem_parked]
    by_cases hij : i = j
    · subst hij
      rw [getElem?_set_self (List.getElem?_eq_some_iff.1 ha).1]
      simp
    · rw [getElem?_set_ne hij]
      simp [Ne.symm hij]
  seen_le seen hmem := by
    rcases mem_or_eq_of_mem_set hmem with hold | hnew
    · exact h.seen_le seen hold
    · cases hnew
  -- the call had observed this epoch, so that every unit has its notification still to come
  parked_covered _ := by
    have := h.watched_covered (mem_of_getElem? ha)
    omega
  watched_covered hmem := by
    rcases mem_or_eq_of_mem_set hmem with hold | hnew
    · exact h.watched_covered hold
    · cases hnew

end

/-- A call that has observed an epoch that is over is on its way from then on. -/
lemma weight_le_of_seen {place : Place} {epoch : Nat} (h : ∀ seen, place = .watching seen → seen ≤ epoch) :
    place.weight epoch ≤ place.weight (epoch + 1) := by
  cases place with
  | watching seen =>
    have := h seen rfl
    simp only [Place.weight]
    split <;> split <;> omega
  | coming | parked | away => exact Nat.le_refl _

lemma weigh_epoch_le {epoch : Nat} {calls : List Place}
    (h : ∀ seen, Place.watching seen ∈ calls → seen ≤ epoch) :
    weigh (Place.weight epoch) calls ≤ weigh (Place.weight (epoch + 1)) calls := by
  induction calls with
  | nil => exact Nat.le_refl _
  | cons place calls ih =>
    have hhead : place.weight epoch ≤ place.weight (epoch + 1) :=
      weight_le_of_seen fun seen heq => h seen (heq ▸ mem_cons_self ..)
    have htail := ih fun seen hseen => h seen (mem_cons_of_mem _ hseen)
    simp only [weigh_cons]
    omega

/-- Every call that the notification wakes is on its way. -/
lemma comers_notify (h : g.Covered units pending) (n : Nat) :
    g.comers + (g.parked.take n).length ≤ (g.notify n).comers := by
  have hgrow := weigh_epoch_le h.seen_le
  have hwake : weigh (Place.weight (g.epoch + 1)) (resume (g.parked.take n) (fun _ => .coming) g.calls)
      = weigh (Place.weight (g.epoch + 1)) g.calls + (g.parked.take n).length := by
    apply weigh_resume (h.nodup.sublist (take_sublist n _))
    intro i hi
    exact ⟨.parked, (h.mem_parked i).1 (mem_of_mem_take hi), rfl⟩
  simp only [comers, Gate.notify]
  omega

/-- Who owes up to `n` notifications makes them all by notifying `n` calls. -/
lemma notify {n owed : Nat} (h : g.Covered units (pending + owed)) (hn : owed ≤ n) :
    (g.notify n).Covered units pending where
  nodup := h.nodup.sublist (drop_sublist n _)
  mem_parked i := by
    have hsplit := h.nodup
    rw [← take_append_drop n g.parked] at hsplit
    have hdisjoint := nodup_append.1 hsplit
    have hmem := h.mem_parked i
    show i ∈ g.parked.drop n ↔ (resume (g.parked.take n) (fun _ => Place.coming) g.calls)[i]? = _
    rw [getElem?_resume]
    constructor
    · intro hi
      have hnot : i ∉ g.parked.take n := fun htake => hdisjoint.2.2 i htake i hi rfl
      rw [hmem.1 (mem_of_mem_drop hi)]
      simp [hnot]
    · intro hi
      obtain ⟨place, hplace, heq⟩ := Option.map_eq_some_iff.1 hi
      by_cases htake : i ∈ g.parked.take n
      · rw [if_pos htake] at heq
        cases heq
      · rw [if_neg htake] at heq
        have hin := hmem.2 (heq ▸ hplace)
        rw [← take_append_drop n g.parked] at hin
        exact (mem_append.1 hin).resolve_left htake
  seen_le seen hmem := by
    rcases mem_resume hmem with hold | ⟨_, _, _, _, heq⟩
    · exact Nat.le_succ_of_le (h.seen_le seen hold)
    · cases heq
  parked_covered hparked := by
    have hlong : n < g.parked.length := by
      by_contra hle
      exact hparked (drop_eq_nil_of_le (Nat.not_lt.1 hle))
    have hsome : g.parked ≠ [] := ne_nil_of_length_pos (by omega)
    have hold := h.parked_covered hsome
    have hcome := h.comers_notify n
    rw [length_take, Nat.min_eq_left (Nat.le_of_lt hlong)] at hcome
    omega
  -- nobody has observed the new epoch yet
  watched_covered hmem := by
    rcases mem_resume hmem with hold | ⟨_, _, _, _, heq⟩
    · have := h.seen_le _ hold
      simp only [Gate.notify] at this
      omega
    · cases heq

end Covered

end Gate

end Akarin.Lib

import TownTraffic.Session.Registry
import Mathlib.Data.List.Induction
import Mathlib.Data.List.Nodup

/-!
# Who is registered

Sessions are numbered as they come, so no number is given twice. Along every history, the sessions
that are registered are those that have been accepted and not struck off. The sessions that have
ended are struck off in the order of their ends, each once, and those that have not been struck off
yet have their farewells in the queue.

* **`Registry.Move`** — what an event comes to; **`Registry.move_step`** every step follows a rule.
* **`Registry.after`**, **`Registry.notices`** — the registry after some events, and all notices
  that have been given; **`Registry.history_induction`** shows what holds of both, move by move.
* **`Registry.ended`** — the sessions that some events have made end.
* **`Registry.Tracks`** — a registry that keeps to what has happened; **`Registry.tracks_notices`**
  every registry does.
-/

namespace TownTraffic.Registry

/-! ## Moves -/

/-- The session that an event makes end, if it does: one that is registered and has not ended. -/
def ended? (r : Registry) : Event → Option Nat
  | .leave session => if r.isLive session then some session else none
  | _ => none

/-- **What an event comes to.** From a registry: the event, the notices and the registry
afterwards. -/
inductive Move (r : Registry) : Event → List Notice → Registry → Prop
  /-- A session is accepted. -/
  | accept (free : r.due = false) :
    r.Move .accept [.accepted r.next]
      { r with next := r.next + 1, sessions := r.sessions ++ [r.next] }
  /-- A session cannot begin, and its number is given up. -/
  | fail (free : r.due = false) : r.Move .fail [] { r with next := r.next + 1 }
  /-- A session ends and says farewell. -/
  | leave {session : Nat} (registered : session ∈ r.sessions) (silent : session ∉ r.farewells) :
    r.Move (.leave session) [] { r with farewells := r.farewells ++ [session] }
  /-- The session that said farewell first is struck off. -/
  | strike {session : Nat} {farewells : List Nat} (free : r.due = false)
    (first : r.farewells = session :: farewells) :
    r.Move .strike [.struck session]
      { r with
        sessions := r.sessions.erase session
        farewells
        due := (r.sessions.erase session).isEmpty }
  /-- The first who waits is told that nobody is left. -/
  | tell {asker : Nat} {waiting : List Nat} (due : r.due = true)
    (first : r.waiting = asker :: waiting) :
    r.Move .tell [.released asker] { r with due := false, waiting }
  /-- Nobody waits to be told, and a permit is kept. -/
  | keep (due : r.due = true) (alone : r.waiting = []) :
    r.Move .tell [] { r with due := false, permit := true }
  /-- One who asks is let through with the permit. -/
  | pass (permit : r.permit = true) :
    r.Move .ask [.released r.asked] { r with asked := r.asked + 1, permit := false }
  /-- One who asks waits. -/
  | wait (permit : r.permit = false) :
    r.Move .ask [] { r with asked := r.asked + 1, waiting := r.waiting ++ [r.asked] }
  /-- The event cannot happen now. -/
  | rest (e : Event) (other : e ≠ .ask) (stays : r.ended? e = none) : r.Move e [] r

/-- **Every step follows a rule.** -/
theorem move_step (r : Registry) (e : Event) : r.Move e (r.step e).1 (r.step e).2 := by
  -- While it is due to tell, a registry neither accepts nor strikes off.
  cases e with
  | accept =>
    cases hdue : r.due with
    | true => simpa [step, hdue] using Move.rest (r := r) .accept (by decide) rfl
    | false => simpa [step, hdue] using Move.accept hdue
  | fail =>
    cases hdue : r.due with
    | true => simpa [step, hdue] using Move.rest (r := r) .fail (by decide) rfl
    | false => simpa [step, hdue] using Move.fail hdue
  | leave session =>
    by_cases hlive : session ∈ r.sessions ∧ session ∉ r.farewells
    · simpa [step, isLive, hlive] using Move.leave hlive.1 hlive.2
    · simpa [step, isLive, hlive] using
        Move.rest (r := r) (.leave session) (by simp) (by simp [ended?, isLive, hlive])
  | strike =>
    cases hdue : r.due with
    | true => simpa [step, hdue] using Move.rest (r := r) .strike (by decide) rfl
    | false =>
      cases hfarewells : r.farewells with
      | nil => simpa [step, hdue, hfarewells] using Move.rest (r := r) .strike (by decide) rfl
      | cons session farewells =>
        simpa [step, hdue, hfarewells] using Move.strike hdue hfarewells
  | tell =>
    cases hdue : r.due with
    | false => simpa [step, hdue] using Move.rest (r := r) .tell (by decide) rfl
    | true =>
      cases hwaiting : r.waiting with
      | nil => simpa [step, release, hdue, hwaiting] using Move.keep hdue hwaiting
      | cons asker waiting => simpa [step, release, hdue, hwaiting] using Move.tell hdue hwaiting
  | ask =>
    cases hpermit : r.permit with
    | true => simpa [step, hpermit] using Move.pass hpermit
    | false => simpa [step, hpermit] using Move.wait hpermit

/-! ## Histories -/

/-- The registry after some events. -/
def after (r : Registry) (events : List Event) : Registry := (r.run events).2

/-- All notices that some events give. -/
def notices (r : Registry) (events : List Event) : List Notice := (r.run events).1.flatten

/-- The sessions that some events make end, in the order of their ends. -/
def ended (r : Registry) : List Event → List Nat
  | [] => []
  | e :: events => (r.ended? e).toList ++ (r.step e).2.ended events

section

variable (r : Registry) (e : Event) (events later : List Event)

/-- Without events a registry stays as it is. -/
@[simp] theorem after_nil : r.after [] = r := rfl

/-- What comes after an event happens to the registry that it leaves. -/
@[simp] theorem after_cons : r.after (e :: events) = (r.step e).2.after events := rfl

/-- Without events nobody is told. -/
@[simp] theorem notices_nil : r.notices [] = [] := rfl

/-- The notices of an event come before those of the others. -/
@[simp] theorem notices_cons :
    r.notices (e :: events) = (r.step e).1 ++ (r.step e).2.notices events := List.flatten_cons

/-- Without events no session ends. -/
@[simp] theorem ended_nil : r.ended [] = [] := rfl

/-- The session that an event ends has ended before those of the others. -/
@[simp] theorem ended_cons :
    r.ended (e :: events) = (r.ended? e).toList ++ (r.step e).2.ended events := rfl

/-- Later events go on with the registry that earlier ones have left. -/
theorem after_append : r.after (events ++ later) = (r.after events).after later := by
  induction events generalizing r with
  | nil => rfl
  | cons e events ih => exact ih _

/-- Later events give their own notices. -/
theorem run_append_fst :
    (r.run (events ++ later)).1 = (r.run events).1 ++ ((r.after events).run later).1 := by
  induction events generalizing r with
  | nil => rfl
  | cons e events ih => simp only [List.cons_append, run_cons, after_cons, ih]

/-- Later notices stand behind earlier ones. -/
theorem notices_append :
    r.notices (events ++ later) = r.notices events ++ (r.after events).notices later := by
  rw [notices, run_append_fst, List.flatten_append, notices, notices]

/-- Sessions that end later stand behind those that have ended earlier. -/
theorem ended_append :
    r.ended (events ++ later) = r.ended events ++ (r.after events).ended later := by
  induction events generalizing r with
  | nil => rfl
  | cons e events ih => simp only [List.cons_append, ended_cons, after_cons, ih, List.append_assoc]

end

/-- **What every move keeps holds after every history.** -/
theorem history_induction {motive : List Event → List Notice → Registry → Prop}
    (start : motive [] [] empty)
    (move : ∀ {events e more r}, motive events (empty.notices events) (empty.after events) →
      (empty.after events).Move e more r → motive (events ++ [e]) (empty.notices events ++ more) r)
    (events : List Event) : motive events (empty.notices events) (empty.after events) := by
  -- Events are added at the end, since a move extends a history there.
  induction events using List.reverseRecOn with
  | nil => exact start
  | append_singleton events e ih =>
    rw [notices_append, after_append, notices_cons, notices_nil, List.append_nil]
    exact move ih (move_step _ e)

/-! ## Sessions -/

/-- The session that is accepted, if one is. -/
def Notice.accepted? : Notice → Option Nat
  | accepted session => some session
  | _ => none

/-- The session that is struck off, if one is. -/
def Notice.struck? : Notice → Option Nat
  | struck session => some session
  | _ => none

/-- The sessions that have been accepted, in the order of their acceptance. -/
def accepted (notices : List Notice) : List Nat := notices.filterMap Notice.accepted?

/-- The sessions that have been struck off, in the order of their farewells. -/
def struck (notices : List Notice) : List Nat := notices.filterMap Notice.struck?

/-- Whether a connection comes. -/
def Event.isConnection : Event → Bool
  | accept | fail => true
  | _ => false

/-- **A registry that keeps to what has happened**: to the sessions that have ended, and to the
notices that have been given. -/
structure Tracks (r : Registry) (ended : List Nat) (notices : List Notice) : Prop where
  /-- Who has ended has been struck off, or has said farewell, in the order of the ends. -/
  ended_eq : ended = struck notices ++ r.farewells
  /-- Registered is who has been accepted and not struck off. -/
  sessions_eq : r.sessions = (accepted notices).filter (· ∉ struck notices)
  /-- Numbers go up, so none is given twice. -/
  increasing : (accepted notices).Pairwise (· < ·)
  below_next : ∀ session ∈ accepted notices, session < r.next
  struck_subset : ∀ session ∈ struck notices, session ∈ accepted notices
  /-- Nobody is struck off twice. -/
  struck_nodup : (struck notices).Nodup
  /-- Only registered sessions have said farewell, and each once. -/
  farewells_subset : ∀ session ∈ r.farewells, session ∈ r.sessions
  farewells_nodup : r.farewells.Nodup
  /-- While it is to be told that nobody is left, nobody is registered. -/
  sessions_of_due : r.due = true → r.sessions = []

namespace Tracks

variable {r : Registry} {gone : List Nat} {ns : List Notice}

/-- Nobody is registered twice. -/
theorem nodup (h : r.Tracks gone ns) : r.sessions.Nodup :=
  h.sessions_eq ▸ (h.increasing.imp Nat.ne_of_lt).filter _

/-- Accepting a session keeps a registry to its notices. -/
theorem accept (h : r.Tracks gone ns) (free : r.due = false) :
    Tracks { r with next := r.next + 1, sessions := r.sessions ++ [r.next] } gone
      (ns ++ [.accepted r.next]) := by
  have haccepted : accepted (ns ++ [.accepted r.next]) = accepted ns ++ [r.next] :=
    List.filterMap_append
  have hstruck : struck (ns ++ [.accepted r.next]) = struck ns := by
    rw [struck, List.filterMap_append]
    exact List.append_nil _
  -- The number is new, so nobody of that number has been struck off.
  have hfresh : r.next ∉ struck ns := fun hmem =>
    Nat.lt_irrefl _ (h.below_next _ (h.struck_subset _ hmem))
  constructor
  case ended_eq => rw [hstruck]; exact h.ended_eq
  case sessions_eq =>
    rw [haccepted, hstruck, List.filter_append, h.sessions_eq]
    simp [hfresh]
  case increasing =>
    rw [haccepted, List.pairwise_append]
    exact ⟨h.increasing, List.pairwise_singleton _ _, by simpa using h.below_next⟩
  case below_next =>
    rw [haccepted]
    intro session hmem
    obtain hold | rfl := by simpa using hmem
    · exact Nat.lt_succ_of_lt (h.below_next session hold)
    · exact Nat.lt_succ_self _
  case struck_subset =>
    rw [haccepted, hstruck]
    exact fun session hmem => List.mem_append_left _ (h.struck_subset session hmem)
  case struck_nodup => rw [hstruck]; exact h.struck_nodup
  case farewells_subset =>
    exact fun session hmem => List.mem_append_left _ (h.farewells_subset session hmem)
  case farewells_nodup => exact h.farewells_nodup
  case sessions_of_due =>
    intro hdue
    rw [free] at hdue
    cases hdue

/-- Striking off a session keeps a registry to its notices. -/
theorem strike (h : r.Tracks gone ns) {session : Nat} {farewells : List Nat}
    (first : r.farewells = session :: farewells) :
    Tracks { r with
        sessions := r.sessions.erase session
        farewells
        due := (r.sessions.erase session).isEmpty }
      gone (ns ++ [.struck session]) := by
  have haccepted : accepted (ns ++ [.struck session]) = accepted ns := by
    rw [accepted, List.filterMap_append]
    exact List.append_nil _
  have hstruck : struck (ns ++ [.struck session]) = struck ns ++ [session] :=
    List.filterMap_append
  -- The session in front is registered, so it has not been struck off before.
  have hregistered : session ∈ r.sessions := h.farewells_subset _ (first ▸ List.mem_cons_self)
  obtain ⟨hmem, hnew⟩ : session ∈ accepted ns ∧ session ∉ struck ns := by
    simpa [h.sessions_eq] using hregistered
  obtain ⟨hout, hnodup⟩ := List.nodup_cons.mp (first ▸ h.farewells_nodup)
  constructor
  case ended_eq => rw [hstruck, h.ended_eq, first, List.append_assoc, List.singleton_append]
  case sessions_eq =>
    rw [haccepted, hstruck]
    show r.sessions.erase session = _
    rw [h.nodup.erase_eq_filter, h.sessions_eq, List.filter_filter]
    refine List.filter_congr fun other _ => ?_
    by_cases hother : other = session <;> simp [hother, hnew]
  case increasing => rw [haccepted]; exact h.increasing
  case below_next => rw [haccepted]; exact h.below_next
  case struck_subset =>
    rw [haccepted, hstruck]
    intro other hother
    obtain hold | rfl := by simpa using hother
    · exact h.struck_subset other hold
    · exact hmem
  case struck_nodup =>
    rw [hstruck, ← List.concat_eq_append]
    exact h.struck_nodup.concat hnew
  case farewells_subset =>
    intro other hother
    have hne : other ≠ session := fun heq => hout (heq ▸ hother)
    exact (List.mem_erase_of_ne hne).mpr
      (h.farewells_subset other (first ▸ List.mem_cons_of_mem _ hother))
  case farewells_nodup => exact hnodup
  case sessions_of_due => exact List.isEmpty_iff.mp

/-- Those who ask and are told leave the sessions alone. -/
theorem asking (h : r.Tracks gone ns) {r' : Registry} {more : List Notice}
    (hmore : more = [] ∨ ∃ asker, more = [.released asker]) (hsessions : r'.sessions = r.sessions)
    (hfarewells : r'.farewells = r.farewells) (hnext : r'.next = r.next)
    (hdue : r'.due = true → r.due = true) : r'.Tracks gone (ns ++ more) := by
  have haccepted : accepted (ns ++ more) = accepted ns := by
    obtain rfl | ⟨asker, rfl⟩ := hmore <;> simp [accepted, Notice.accepted?]
  have hstruck : struck (ns ++ more) = struck ns := by
    obtain rfl | ⟨asker, rfl⟩ := hmore <;> simp [struck, Notice.struck?]
  constructor
  case ended_eq => rw [hstruck, hfarewells]; exact h.ended_eq
  case sessions_eq => rw [haccepted, hstruck, hsessions, h.sessions_eq]
  case increasing => rw [haccepted]; exact h.increasing
  case below_next => rw [haccepted, hnext]; exact h.below_next
  case struck_subset => rw [haccepted, hstruck]; exact h.struck_subset
  case struck_nodup => rw [hstruck]; exact h.struck_nodup
  case farewells_subset => rw [hfarewells, hsessions]; exact h.farewells_subset
  case farewells_nodup => rw [hfarewells]; exact h.farewells_nodup
  case sessions_of_due =>
    intro hd
    rw [hsessions]
    exact h.sessions_of_due (hdue hd)

/-- A farewell keeps a registry to what has happened. -/
theorem leave (h : r.Tracks gone ns) {session : Nat} (registered : session ∈ r.sessions)
    (silent : session ∉ r.farewells) :
    Tracks { r with farewells := r.farewells ++ [session] } (gone ++ [session]) ns := by
  refine { h with ended_eq := ?_, farewells_subset := fun other hmem => ?_, farewells_nodup := ?_ }
  · rw [h.ended_eq, List.append_assoc]
  · obtain hold | rfl := by simpa using hmem
    · exact h.farewells_subset other hold
    · exact registered
  · show (r.farewells ++ [session]).Nodup
    rw [← List.concat_eq_append]
    exact h.farewells_nodup.concat silent

/-- **Every move keeps a registry to what has happened.** -/
theorem move (h : r.Tracks gone ns) {e : Event} {more : List Notice} {r' : Registry}
    (hmove : r.Move e more r') : r'.Tracks (gone ++ (r.ended? e).toList) (ns ++ more) := by
  have stays (he : r.ended? e = none) (h' : r'.Tracks gone (ns ++ more)) :
      r'.Tracks (gone ++ (r.ended? e).toList) (ns ++ more) := by
    rwa [he, Option.toList_none, List.append_nil]
  -- A session ends with its farewell only.
  cases hmove with
  | leave registered silent =>
    simpa [ended?, isLive, registered, silent] using h.leave registered silent
  | accept free => exact stays rfl (h.accept free)
  | strike free first => exact stays rfl (h.strike first)
  | fail free =>
    have hbelow : ∀ session ∈ accepted ns, session < r.next + 1 := fun session hmem =>
      Nat.lt_succ_of_lt (h.below_next session hmem)
    exact stays rfl (by simpa using { h with below_next := hbelow })
  | tell due first => exact stays rfl (h.asking (.inr ⟨_, rfl⟩) rfl rfl rfl (by simp))
  | keep due alone => exact stays rfl (h.asking (.inl rfl) rfl rfl rfl (by simp))
  | pass permit => exact stays rfl (h.asking (.inr ⟨_, rfl⟩) rfl rfl rfl id)
  | wait permit => exact stays rfl (h.asking (.inl rfl) rfl rfl rfl id)
  | rest _ _ idle => exact stays idle (h.asking (.inl rfl) rfl rfl rfl id)

end Tracks

/-- **Every registry keeps to what has happened.** -/
theorem tracks_notices (events : List Event) :
    (empty.after events).Tracks (empty.ended events) (empty.notices events) := by
  induction events using history_induction with
  | start =>
    exact ⟨rfl, rfl, .nil, by simp [accepted], by simp [struck], .nil, by simp [empty], .nil,
      fun _ => rfl⟩
  | move h hmove =>
    rw [ended_append, ended_cons, ended_nil, List.append_nil]
    exact h.move hmove

/-- Numbers are given to connections only. -/
theorem next_after_le (events : List Event) :
    (empty.after events).next ≤ events.countP Event.isConnection := by
  induction events using history_induction with
  | start => exact Nat.le_refl _
  | move h hmove =>
    rw [List.countP_append]
    cases hmove with
    | accept | fail => exact Nat.add_le_add_right h 1
    | _ => exact Nat.le_add_right_of_le h

end TownTraffic.Registry

import TownTraffic.Proofs.Registrations
import Mathlib.Data.List.Infix

/-!
# Told that nobody is left

Who waits is told once the last session has been struck off, while the clerk does nothing else, so
it can be believed: nobody was registered a moment ago. If nobody waits at that moment, a permit is
kept until somebody asks. By then others may have come, and who is let through with the permit has
not seen an empty registry.

* **`Registry.Returns`**, **`Registry.SeesNobody`** — who asks next is told at the end of some
  events, and nobody is registered at one moment of them.
* **`Registry.KeepsPermit`** — a history that keeps a permit; **`Registry.permit_iff`** a registry
  has its permit from such a history.
* **`Registry.return_sees_nobody_iff`** — telling can be believed unless it is done with a permit
  that is out of date.
-/

namespace TownTraffic.Registry

/-! ## Who is told -/

/-- One who asked and has been told. -/
def Answered (r : Registry) (asker : Nat) : Prop := asker < r.asked ∧ asker ∉ r.waiting

section

variable {r r' : Registry} {e : Event} {more : List Notice} {asker : Nat}

/-- **Who is told** has a permit, or waits in front when it is told that nobody is left. -/
theorem Move.of_released (h : r.Move e more r') (htold : .released asker ∈ more) :
    (r.permit = true ∧ asker = r.asked) ∨ (r.due = true ∧ asker ∈ r.waiting) := by
  cases h with
  | tell due first =>
    obtain rfl : asker = _ := by simpa using htold
    exact .inr ⟨due, first ▸ List.mem_cons_self⟩
  | pass permit => exact .inl ⟨permit, by simpa using htold⟩
  | _ => simp at htold

/-- The numbers of those who ask go up. -/
theorem Move.asked_le (h : r.Move e more r') : r.asked ≤ r'.asked := by
  cases h with
  | pass | wait => exact Nat.le_succ _
  | _ => exact Nat.le_refl _

/-- Who has been told does not wait again. -/
theorem Move.answered (h : r.Move e more r') (ha : r.Answered asker) : r'.Answered asker := by
  obtain ⟨hasked, hwaiting⟩ := ha
  refine ⟨hasked.trans_le h.asked_le, ?_⟩
  cases h with
  | tell due first => exact fun hmem => hwaiting (first ▸ List.mem_cons_of_mem _ hmem)
  | wait permit => simpa [hwaiting] using hasked.ne
  | _ => exact hwaiting

/-- Who has been told is not told again. -/
theorem Move.not_released (h : r.Move e more r') (ha : r.Answered asker) :
    .released asker ∉ more := by
  intro htold
  obtain ⟨-, rfl⟩ | ⟨-, hmem⟩ := h.of_released htold
  · exact Nat.lt_irrefl _ ha.1
  · exact ha.2 hmem

/-- Only asking uses up a permit. -/
theorem Move.permit (h : r.Move e more r') (he : e ≠ .ask) (hpermit : r.permit = true) :
    r'.permit = true := by
  cases h with
  | keep => rfl
  | pass | wait => exact absurd rfl he
  | _ => exact hpermit

end

/-- Numbers for those who ask are not taken back. -/
theorem asked_le_after (r : Registry) (events : List Event) : r.asked ≤ (r.after events).asked := by
  induction events generalizing r with
  | nil => exact Nat.le_refl _
  | cons e events ih => exact (move_step r e).asked_le.trans (ih _)

/-- Who is told stays told. -/
theorem Answered.after {r : Registry} {asker : Nat} (h : r.Answered asker) (events : List Event) :
    (r.after events).Answered asker := by
  induction events generalizing r with
  | nil => exact h
  | cons e events ih => exact ih ((move_step r e).answered h)

/-- A permit is kept as long as nobody asks. -/
theorem permit_after {r : Registry} (hpermit : r.permit = true) {events : List Event}
    (hevents : .ask ∉ events) : (r.after events).permit = true := by
  induction events generalizing r with
  | nil => exact hpermit
  | cons e events ih =>
    obtain ⟨he, hevents⟩ : .ask ≠ e ∧ .ask ∉ events := by simpa using hevents
    exact ih ((move_step r e).permit he.symm hpermit) hevents

/-! ## Permits -/

/-- **A history that keeps a permit**: nobody waited when it was told that nobody is left, and
nobody has asked since. -/
def KeepsPermit (events : List Event) : Prop :=
  ∃ earlier later, events = earlier ++ .tell :: later ∧ (empty.after earlier).due = true ∧
    (empty.after earlier).waiting = [] ∧ .ask ∉ later

/-- Nobody waits while there is a permit. -/
theorem waiting_of_permit (events : List Event) :
    (empty.after events).permit = true → (empty.after events).waiting = [] := by
  induction events using history_induction with
  | start => exact fun _ => rfl
  | move ih hmove =>
    intro hpermit
    cases hmove with
    | tell due first => exact absurd (first.symm.trans (ih hpermit)) (by simp)
    | keep due alone => exact alone
    | pass => cases hpermit
    | wait permit => exact absurd (permit.symm.trans hpermit) (by decide)
    | _ => exact ih hpermit

/-- A history that keeps a permit still does when anything but asking happens. -/
theorem KeepsPermit.concat {events : List Event} (h : KeepsPermit events) {e : Event}
    (he : e ≠ .ask) : KeepsPermit (events ++ [e]) := by
  obtain ⟨earlier, later, rfl, hdue, halone, hlater⟩ := h
  exact ⟨earlier, later ++ [e], by simp, hdue, halone, by simp [hlater, he.symm]⟩

/-- **A registry has its permit from a history that keeps one.** -/
theorem permit_iff (events : List Event) :
    (empty.after events).permit = true ↔ KeepsPermit events := by
  constructor
  · induction events using history_induction with
    | start => exact fun h => nomatch h
    | @move events e more r' ih hmove =>
      intro hpermit
      cases hmove with
      | keep due alone => exact ⟨events, [], rfl, due, alone, List.not_mem_nil⟩
      | pass => cases hpermit
      | wait permit => exact absurd (permit.symm.trans hpermit) (by decide)
      | rest _ other => exact (ih hpermit).concat other
      | _ => exact (ih hpermit).concat (by simp)
  · rintro ⟨earlier, later, rfl, hdue, halone, hlater⟩
    have hkept : ((empty.after earlier).step .tell).2.permit = true := by
      simp [step, release, hdue, halone]
    rw [after_append, after_cons]
    exact permit_after hkept hlater

/-! ## Whether it can be believed -/

/-- **Who asks next is told** by the last of these events, that of asking included. -/
def Returns (r : Registry) (since : List Event) : Prop :=
  ∃ told ∈ (r.run (.ask :: since)).1.getLast?, .released r.asked ∈ told

/-- **Nobody is registered at one moment** from asking to the end of these events. -/
def SeesNobody (r : Registry) (since : List Event) : Prop :=
  ∃ upto ∈ (Event.ask :: since).inits, (r.after upto).count = 0

section

variable (r : Registry) (since : List Event)

/-- The last event of a run tells whether the one who asks is told. -/
instance : Decidable (r.Returns since) :=
  inferInstanceAs
    (Decidable (∃ told ∈ (r.run (.ask :: since)).1.getLast?, .released r.asked ∈ told))

/-- A run has finitely many moments, each of which can be looked at. -/
instance : Decidable (r.SeesNobody since) :=
  inferInstanceAs (Decidable (∃ upto ∈ (Event.ask :: since).inits, (r.after upto).count = 0))

/-- Asking leaves the sessions alone. -/
@[simp] theorem count_step_ask : (r.step .ask).2.count = r.count := by
  cases hpermit : r.permit <;> simp [step, count, hpermit]

/-- Asking gives out the next number. -/
@[simp] theorem asked_step_ask : (r.step .ask).2.asked = r.asked + 1 := by
  cases hpermit : r.permit <;> simp [step, hpermit]

/-- Who need not wait has a permit. -/
theorem returns_nil_iff : r.Returns [] ↔ r.permit = true := by
  cases hpermit : r.permit <;> simp [Returns, step, hpermit]

/-- Who need not wait sees whoever is registered. -/
theorem seesNobody_nil_iff : r.SeesNobody [] ↔ r.count = 0 := by
  simp [SeesNobody]

/-- Who waits is told by the last event. -/
theorem returns_concat_iff (e : Event) :
    r.Returns (since ++ [e]) ↔ .released r.asked ∈ ((r.after (.ask :: since)).step e).1 := by
  rw [Returns, ← List.cons_append, run_append_fst, run_cons _ e [], run_nil, List.getLast?_concat]
  simp

end

/-- **Who waits is told while nobody is registered**, and had no permit. -/
theorem of_returns_concat {before since : List Event} {e : Event}
    (h : (empty.after before).Returns (since ++ [e])) :
    (empty.after before).permit = false ∧ (empty.after (before ++ .ask :: since)).due = true := by
  rw [returns_concat_iff] at h
  have hmove := move_step ((empty.after before).after (.ask :: since)) e
  constructor
  · -- With a permit, the answer has been given at once, and is not given again.
    refine Bool.eq_false_iff.mpr fun hpermit => hmove.not_released (Answered.after ?_ since) h
    refine ⟨?_, ?_⟩ <;> simp [step, hpermit, waiting_of_permit before hpermit]
  · rw [after_append]
    obtain ⟨-, hasked⟩ | ⟨hdue, -⟩ := hmove.of_released h
    · -- Whoever asks later has another number.
      have hle := asked_le_after ((empty.after before).step .ask).2 since
      rw [asked_step_ask, ← after_cons, ← hasked] at hle
      exact absurd hle (Nat.not_succ_le_self _)
    · exact hdue

/-- **Telling can be believed unless the permit is out of date.** In every registry, registered is
who has been accepted and not struck off, under a number of its own that is not given again, and
sessions are struck off in the order of their ends; and when one who has asked is told, nobody was
registered at a moment since the asking, except with a permit that was kept when nobody waited,
while somebody is registered who came later. -/
theorem return_sees_nobody_iff (before : List Event) :
    (empty.after before).Tracks (empty.ended before) (empty.notices before) ∧
    (before.countP Event.isConnection < UInt32.size → (empty.after before).next < UInt32.size) ∧
    ∀ since, (empty.after before).Returns since →
      ((empty.after before).SeesNobody since ↔
        ¬(KeepsPermit before ∧ (empty.after before).count ≠ 0)) := by
  refine ⟨tracks_notices before, (next_after_le before).trans_lt, fun since hreturns => ?_⟩
  rw [← permit_iff]
  obtain rfl | ⟨waited, e, rfl⟩ := since.eq_nil_or_concat
  · have hpermit := (returns_nil_iff _).mp hreturns
    rw [seesNobody_nil_iff]
    simp [hpermit]
  · rw [List.concat_eq_append] at hreturns ⊢
    obtain ⟨hpermit, hdue⟩ := of_returns_concat hreturns
    have hnobody : (empty.after (before ++ .ask :: waited)).sessions = [] :=
      (tracks_notices _).sessions_of_due hdue
    refine iff_of_true ⟨.ask :: waited, ?_, ?_⟩ (by simp [hpermit])
    · exact (List.mem_inits _ _).mpr ⟨[e], rfl⟩
    · rw [count, ← after_append, hnobody, List.length_nil]

/-- Who waits for a session to end is told when nobody is left. Who asks after somebody has come and
gone and another has come is told at once. -/
theorem return_sees_nobody_iff_rounds :
    (empty.after [.accept]).next < UInt32.size ∧
    ((empty.after [.accept]).Returns [.leave 0, .strike, .tell] ∧
      (empty.after [.accept]).SeesNobody [.leave 0, .strike, .tell]) ∧
    (empty.after [.accept, .leave 0, .strike, .tell, .accept]).Returns [] ∧
      ¬(empty.after [.accept, .leave 0, .strike, .tell, .accept]).SeesNobody [] := by
  have hwaited : (empty.after [.accept]).Returns [.leave 0, .strike, .tell] := by decide
  have hstale : (empty.after [.accept, .leave 0, .strike, .tell, .accept]).Returns [] := by decide
  refine ⟨(return_sees_nobody_iff _).2.1 (by decide), ⟨hwaited, ?_⟩, hstale, ?_⟩
  · refine ((return_sees_nobody_iff [.accept]).2.2 _ hwaited).mpr fun h => ?_
    exact absurd ((permit_iff _).mpr h.1) (by decide)
  · refine fun h => ((return_sees_nobody_iff _).2.2 [] hstale).mp h ⟨?_, by decide⟩
    exact ⟨[.accept, .leave 0, .strike], [.accept], rfl, rfl, rfl, by decide⟩

/-- Being told does not mean that nobody has been registered since the asking. -/
theorem not_return_sees_nobody :
    ¬ ∀ before since, (empty.after before).Returns since → (empty.after before).SeesNobody since :=
  fun h => absurd (h [.accept, .leave 0, .strike, .tell, .accept] [] (by decide)) (by decide)

end TownTraffic.Registry

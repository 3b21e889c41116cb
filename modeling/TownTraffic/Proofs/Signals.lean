import TownTraffic.Proofs.Elapsed

/-!
# Lights take turns

A light goes from green to yellow, from yellow to red and from red to green. Its shortest signal is
yellow, so a clock that advances by no more than that never lets a light skip a signal, wherever in
its cycle the light is.

* **`Signal.next`**, **`Signal.LeadsTo`** — the order of the signals.
* **`Signal.due`** — what a light shows on a clock without end; **`Signal.shown_eq_due`** the town's
  clock is as good as long as it fits.
* **`Signal.leadsTo_due_add`** — no signal is skipped within the shortest one.
* **`Frame.lights`** — the lights of a frame; **`Episode.lights_frame`**,
  **`Episode.lights_frame_after`** what they show.
* **`Episode.lights_take_turns`** — along an episode, no light skips a signal, and each runs a
  quarter of a cycle ahead of the one before.
-/

namespace TownTraffic

/-! ## The order of the signals -/

namespace Signal

/-- The signal that comes after a signal. -/
def next : Signal → Signal
  | green => yellow
  | yellow => red
  | red => green

/-- **Whether a light may show one signal and then another** without skipping one. -/
def LeadsTo (before after : Signal) : Prop := after = before ∨ after = before.next

/-- What a light shows at a moment of its cycle, on a clock without end. -/
def due (moment : Nat) : Signal :=
  if moment % 23000 < 10000 then .green
  else if moment % 23000 < 13000 then .yellow
  else .red

variable {moment : Nat}

/-- A light is due to be green for the first ten seconds of its cycle. -/
theorem due_eq_green_iff : due moment = .green ↔ moment % 23000 < 10000 := by
  unfold due
  split
  · simp_all
  · split <;> simp_all

/-- A light is due to be yellow for three seconds after them. -/
theorem due_eq_yellow_iff :
    due moment = .yellow ↔ 10000 ≤ moment % 23000 ∧ moment % 23000 < 13000 := by
  unfold due
  split
  · simp only [reduceCtorEq, false_iff]
    omega
  · split <;> simp_all

/-- A light is due to be red for the rest of its cycle. -/
theorem due_eq_red_iff : due moment = .red ↔ 13000 ≤ moment % 23000 := by
  unfold due
  split
  · simp only [reduceCtorEq, false_iff]
    omega
  · split <;> simp_all

/-- **No signal is skipped** within the time of the shortest one. -/
theorem leadsTo_due_add (moment : Nat) {passed : Nat} (h : passed ≤ 3000) :
    (due moment).LeadsTo (due (moment + passed)) := by
  cases hbefore : due moment with
  | green =>
    have hphase := due_eq_green_iff.mp hbefore
    by_cases hstays : (moment + passed) % 23000 < 10000
    · exact .inl (due_eq_green_iff.mpr hstays)
    · exact .inr (due_eq_yellow_iff.mpr ⟨by omega, by omega⟩)
  | yellow =>
    have hphase := due_eq_yellow_iff.mp hbefore
    by_cases hstays : (moment + passed) % 23000 < 13000
    · exact .inl (due_eq_yellow_iff.mpr ⟨by omega, hstays⟩)
    · exact .inr (due_eq_red_iff.mpr (by omega))
  | red =>
    have hphase := due_eq_red_iff.mp hbefore
    by_cases hstays : 13000 ≤ (moment + passed) % 23000
    · exact .inl (due_eq_red_iff.mpr hstays)
    -- The cycle is over, and green lasts longer than what is left of the time.
    · exact .inr (due_eq_green_iff.mpr (by omega))

/-- A millisecond more is enough to skip a signal. -/
example : ¬ (due 9999).LeadsTo (due (9999 + 3001)) := by
  unfold LeadsTo
  decide

/-! ### On the town's clock -/

/-- On a clock that does not overflow, a light shows what it is due to show. -/
theorem shown_eq_due {time ahead : UInt64} (h : time.toNat + ahead.toNat < 2 ^ 64) :
    shown time ahead = due (time.toNat + ahead.toNat) := by
  have hsum : (time + ahead).toNat = time.toNat + ahead.toNat := by
    rw [UInt64.toNat_add, Nat.mod_eq_of_lt h]
  have hphase : ((time + ahead) % cycle).toNat = (time.toNat + ahead.toNat) % 23000 := by
    rw [UInt64.toNat_mod, hsum]
    rfl
  simp only [shown, UInt64.lt_iff_toNat_lt, hphase]
  rfl

/-- The last moment of each signal and the first of the next one. -/
example : shown 9999 0 = .green ∧ shown 10000 0 = .yellow ∧ shown 12999 0 = .yellow
    ∧ shown 13000 0 = .red ∧ shown 22999 0 = .red ∧ shown 23000 0 = .green := by decide

/-- Each light is a quarter of a cycle ahead of the one before. -/
theorem toNat_lead : ∀ corner < 4, (lead corner).toNat = 5750 * corner := by decide

end Signal

/-! ## The lights of a frame -/

variable {α : Type}

/-- The number of a light and what it shows; none for any other agent. -/
def Agent.light? (a : Agent α) : Option (UInt32 × Signal) :=
  match a.kind with
  | .trafficLight _ signal => some (a.id, signal)
  | _ => none

namespace Frame

/-- The lights of a frame: their numbers and what they show. -/
def lights (f : Frame α) : List (UInt32 × Signal) := f.agents.filterMap Agent.light?

/-- What the light at the corner with a given number shows. -/
def signalAt (f : Frame α) (corner : Nat) : Option Signal := (f.lights.map Prod.snd)[corner]?

end Frame

namespace Episode

variable [Scalar α]

/-- **What the lights of an episode show.** They are numbered on from what moves. -/
theorem lights_frame {e : Episode α} (h : e.InOrder) (now : Int64) :
    (e.frame now).lights = if e.reportsAgents then
      (List.range 4).map fun corner =>
        ((e.vehicles.length + e.pedestrians.length + corner).toUInt32,
          Signal.shown e.gameTime (Signal.lead corner))
      else [] := by
  -- Among the agents in a row only the lights have a signal.
  have hmoving {kinds : List (AgentKind α)} {first : Nat}
      (h : ∀ kind ∈ kinds, ∀ pose signal, kind ≠ .trafficLight pose signal) :
      (Agent.numbered first kinds).filterMap Agent.light? = [] := by
    refine List.filterMap_eq_nil_iff.mpr fun a ha => ?_
    have hkind := h _ (Agent.kind_mem_of_mem_numbered ha)
    unfold Agent.light?
    split
    next heq => exact absurd heq (hkind _ _)
    next => rfl
  rw [Frame.lights, agents_frame h]
  split
  · rw [List.filterMap_append, List.filterMap_append, hmoving (by simp), hmoving (by simp)]
    rfl
  · rfl

/-- What the light at a corner of the town shows. -/
theorem signalAt_frame {e : Episode α} (horder : e.InOrder) (now : Int64) {corner : Nat}
    (h : corner < 4) :
    (e.frame now).signalAt corner =
      if e.reportsAgents then some (.shown e.gameTime (Signal.lead corner)) else none := by
  rw [Frame.signalAt, lights_frame horder]
  split
  · rw [List.map_map, List.getElem?_map, List.getElem?_range h]
    rfl
  · rfl

/-! ## Lights along an episode -/

variable {town : Town α} {settings : Settings} {drawn : Seeds} {e : Episode α}

/-- A light shows what it is due to show after some ticks, as long as the clock fits. -/
theorem shown_after (hbegin : begin town settings drawn = some e) {ticks : List Duration}
    {corner : Nat} (hcorner : corner < 4)
    (hfits : Duration.counted ticks + 5750 * corner < 2 ^ 64) :
    Signal.shown (e.after ticks).gameTime (Signal.lead corner) =
      Signal.due (Duration.counted ticks + 5750 * corner) := by
  have htime : (e.after ticks).gameTime.toNat = Duration.counted ticks :=
    toNat_gameTime_after hbegin (by omega)
  have hlead := Signal.toNat_lead corner hcorner
  rw [Signal.shown_eq_due (by rw [htime, hlead]; exact hfits), htime, hlead]

/-- The lights of an episode after some ticks, as long as its clock fits. -/
theorem lights_frame_after (hbegin : begin town settings drawn = some e) {ticks : List Duration}
    (hfits : Duration.counted ticks + 17250 < 2 ^ 64) (now : Int64) :
    ((e.after ticks).frame now).lights = if settings.reportsAgents then
      (List.range 4).map fun corner =>
        ((settings.vehicles.toNat + settings.pedestrians.toNat + corner).toUInt32,
          Signal.due (Duration.counted ticks + 5750 * corner))
      else [] := by
  obtain ⟨-, -, hreports⟩ := drawn_of_begin hbegin
  rw [lights_frame ((inOrder_of_begin hbegin).after ticks), reportsAgents_after, hreports,
    vehicles_after, pedestrians_after, List.length_map, List.length_map,
    length_vehicles_of_begin hbegin, length_pedestrians_of_begin hbegin]
  split
  · refine List.map_congr_left fun corner hcorner => ?_
    have hlt : corner < 4 := List.mem_range.mp hcorner
    rw [shown_after hbegin hlt (by omega)]
  · rfl

/-- What the light at a corner shows after some ticks, as long as its clock fits. -/
theorem signalAt_after (hbegin : begin town settings drawn = some e) {ticks : List Duration}
    {corner : Nat} (hcorner : corner < 4)
    (hfits : Duration.counted ticks + 5750 * corner < 2 ^ 64) (now : Int64) :
    ((e.after ticks).frame now).signalAt corner = if settings.reportsAgents then
      some (.due (Duration.counted ticks + 5750 * corner)) else none := by
  obtain ⟨-, -, hreports⟩ := drawn_of_begin hbegin
  rw [signalAt_frame ((inOrder_of_begin hbegin).after ticks) _ hcorner, reportsAgents_after,
    hreports, shown_after hbegin hcorner hfits]

/-- **Lights take turns.** As long as no tick is longer than the shortest signal and the clock fits,
the lights of the frames before and after a tick are the same ones, and none of them skips a signal;
the time that a light is ahead always fits on the clock too; and what one light shows, the first one
shows when as many quarters of a cycle have passed as there are corners in between. Frames that
report agents at all report four lights. -/
theorem lights_take_turns (hbegin : begin town settings drawn = some e) {ticks : List Duration}
    (hshort : ∀ d ∈ ticks, d.millis ≤ 3000) (hfits : Duration.counted ticks + 17250 < 2 ^ 64) :
    (∀ earlier d, earlier ++ [d] <+: ticks → ∀ now again,
      List.Forall₂ (fun before after => before.1 = after.1 ∧ before.2.LeadsTo after.2)
        ((e.after earlier).frame now).lights ((e.after (earlier ++ [d])).frame again).lights)
      ∧ (∀ earlier, earlier <+: ticks →
        (e.after earlier).gameTime.toNat = Duration.counted earlier
          ∧ ∀ corner < 4,
            (e.after earlier).gameTime.toNat + (Signal.lead corner).toNat < 2 ^ 64)
      ∧ (∀ earlier, earlier <+: ticks → ∀ corner < 4, ∀ others now again,
        Duration.counted others = Duration.counted earlier + 5750 * corner →
          ((e.after earlier).frame now).signalAt corner
            = ((e.after others).frame again).signalAt 0)
      ∧ (settings.reportsAgents = true → ∀ earlier, earlier <+: ticks → ∀ now,
        ((e.after earlier).frame now).lights.length = 4) := by
  -- The clock fits at every moment before the end as well.
  have fits (earlier : List Duration) (h : earlier <+: ticks) :
      Duration.counted earlier + 17250 < 2 ^ 64 := by
    obtain ⟨later, rfl⟩ := h
    rw [Duration.counted_append] at hfits
    omega
  refine ⟨?turns, ?clock, ?ahead, ?four⟩
  case turns =>
    intro earlier d hfront now again
    have hd : d.millis ≤ 3000 := hshort d (hfront.subset (by simp))
    have hcounted : Duration.counted (earlier ++ [d]) = Duration.counted earlier + d.millis := by
      rw [Duration.counted_append, Duration.counted_cons, Duration.counted_nil, Nat.add_zero]
    rw [lights_frame_after hbegin (fits _ hfront), hcounted,
      lights_frame_after hbegin (fits _ ((List.prefix_append _ _).trans hfront))]
    split
    · rw [List.forall₂_map_left_iff, List.forall₂_map_right_iff]
      refine List.forall₂_same.mpr fun corner _ => ⟨rfl, ?_⟩
      show (Signal.due (Duration.counted earlier + 5750 * corner)).LeadsTo
        (Signal.due (Duration.counted earlier + d.millis + 5750 * corner))
      -- A corner is as far ahead after the tick as before it.
      rw [Nat.add_right_comm]
      exact Signal.leadsTo_due_add _ hd
    · exact .nil
  case clock =>
    intro earlier hfront
    have hfit := fits earlier hfront
    have htime : (e.after earlier).gameTime.toNat = Duration.counted earlier :=
      toNat_gameTime_after hbegin (by omega)
    refine ⟨htime, fun corner hcorner => ?_⟩
    rw [htime, Signal.toNat_lead corner hcorner]
    omega
  case ahead =>
    intro earlier hfront corner hcorner others now again hothers
    have hfit := fits earlier hfront
    rw [signalAt_after hbegin hcorner (by omega), signalAt_after hbegin (by decide) (by omega),
      hothers, Nat.mul_zero, Nat.add_zero]
  case four =>
    intro reports earlier hfront now
    rw [lights_frame_after hbegin (fits _ hfront), if_pos reports]
    rfl

/-! ### A whole cycle -/

/-- Over twenty-four seconds, in steps of three, the first light turns red and then green again. -/
theorem lights_take_turns_cycle : ∃ e,
    begin Town.served (.peopled 2 1) default = some e
      ∧ (∀ d ∈ List.replicate 8 (Duration.ofMillis 3000), d.millis ≤ 3000)
      ∧ Duration.counted (List.replicate 8 (.ofMillis 3000)) + 17250 < 2 ^ 64
      ∧ (∀ now again,
        List.Forall₂ (fun before after => before.1 = after.1 ∧ before.2.LeadsTo after.2)
          ((e.after (List.replicate 7 (.ofMillis 3000))).frame now).lights
          ((e.after (List.replicate 7 (.ofMillis 3000) ++ [.ofMillis 3000])).frame again).lights)
      ∧ (e.after (List.replicate 8 (.ofMillis 3000))).gameTime.toNat = 24000
      ∧ (∀ now again, ((e.after (List.replicate 8 (.ofMillis 3000))).frame now).signalAt 3
        = ((e.after [.ofMillis 41250]).frame again).signalAt 0)
      ∧ ∀ now, ((e.after (List.replicate 8 (.ofMillis 3000))).frame now).lights.length = 4 := by
  obtain ⟨e, hbegin⟩ := exists_begin_peopled
  have hshort : ∀ d ∈ List.replicate 8 (Duration.ofMillis 3000), d.millis ≤ 3000 := by decide
  have hfits : Duration.counted (List.replicate 8 (.ofMillis 3000)) + 17250 < 2 ^ 64 := by decide
  obtain ⟨turns, clock, ahead, four⟩ := lights_take_turns hbegin hshort hfits
  have hahead : Duration.counted [.ofMillis 41250]
      = Duration.counted (List.replicate 8 (.ofMillis 3000)) + 5750 * 3 := by decide
  refine ⟨e, hbegin, hshort, hfits, turns _ _ (List.prefix_refl _),
    (clock _ (List.prefix_refl _)).1, fun now again => ?_, four rfl _ (List.prefix_refl _)⟩
  exact ahead _ (List.prefix_refl _) 3 (by decide) _ now again hahead

end Episode

end TownTraffic

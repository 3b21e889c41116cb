import TownTraffic.Session.Message
import TownTraffic.Viewer.Prepare
import Mathlib.Data.List.Basic

/-!
# What ends a preparation

A preparation is told the town of its episode, reads the map of the town, scales the map to the
window, and takes its start spot. Each of these stages can fail; the first that does ends the
preparation, and nothing after it is asked of the simulator.

* **`Simulation.recorded`** — a record of what the simulator is asked for.
* **`Preparation`** — all that a preparation goes by.
* **`Preparation.Fails`**, **`Preparation.FailsFirst`** — what goes wrong at a stage, and what goes
  wrong first.
* **`Preparation.Ends`** — the rules of how a preparation ends.
* **`SessionFault.MayPass`** — the faults of the connection.
* **`Preparation.ends_at_first_failure`** — what is asked for, and what comes of it.
-/

namespace TownTraffic

variable {σ α : Type}

/-- The simulation with a record of all that it is asked for. -/
def Simulation.recorded (simulation : Simulation σ α) : Simulation (σ × List Request) α where
  configure settings w :=
    ((simulation.configure settings w.1).1, (simulation.configure settings w.1).2,
      w.2 ++ [.configure settings])
  startEpisode spot w :=
    ((simulation.startEpisode spot w.1).1, (simulation.startEpisode spot w.1).2,
      w.2 ++ [.startEpisode spot])

namespace Simulation

variable (simulation : Simulation σ α) (world : σ) (requests : List Request)

/-- A request for an episode is recorded. -/
@[simp] theorem configure_recorded (settings : Settings) :
    simulation.recorded.configure settings (world, requests)
      = ((simulation.configure settings world).1, (simulation.configure settings world).2,
        requests ++ [.configure settings]) := rfl

/-- A request for a spot is recorded. -/
@[simp] theorem startEpisode_recorded (spot : UInt64) :
    simulation.recorded.startEpisode spot (world, requests)
      = ((simulation.startEpisode spot world).1, (simulation.startEpisode spot world).2,
        requests ++ [.startEpisode spot]) := rfl

end Simulation

/-- What a preparation goes by. -/
structure Preparation (σ α : Type) where
  simulation : Simulation σ α
  maps : Folder
  options : ViewerOptions α
  /-- The seeds that are drawn for the episode. -/
  drawn : Seeds
  world : σ

namespace Preparation

/-! ## Stages -/

/-- The stages of a preparation. -/
inductive Stage where
  /-- The simulator tells the town of the episode. -/
  | town
  /-- The map of the town is read. -/
  | map
  /-- The map is scaled to the window. -/
  | scale
  /-- The player is put on its spot. -/
  | spot

/-- How many stages come before it. -/
def Stage.rank : Stage → Nat
  | town => 0
  | map => 1
  | scale => 2
  | spot => 3

/-- No two stages come at once. -/
theorem Stage.rank_injective {a b : Stage} (h : a.rank = b.rank) : a = b := by
  cases a <;> cases b <;> first | rfl | cases h

/-- The settings of the episode that is asked for. -/
def settings (p : Preparation σ α) : Settings := p.options.settings.seeded p.drawn

/-- The answer to the request for an episode. -/
def town (p : Preparation σ α) : Except SessionFault (TownDescription α) :=
  (p.simulation.configure p.settings p.world).1

/-- The answer that a request for the start spot gets once the episode has been asked for. -/
def spot (p : Preparation σ α) : Except SessionFault Unit :=
  (p.simulation.startEpisode p.options.spot (p.simulation.configure p.settings p.world).2).1

variable [Scalar α] [Json.Wire α]

/-- What comes of the preparation. -/
def result (p : Preparation σ α) : Except (ViewerFault α) (Prepared α) :=
  (prepare p.simulation p.maps p.options p.drawn p.world).1

/-- All that the simulator is asked for, in order. -/
def requests (p : Preparation σ α) : List Request :=
  (prepare p.simulation.recorded p.maps p.options p.drawn (p.world, [])).2.2

/-- What goes wrong at a stage, whatever has gone wrong before. A stage that lacks what an earlier
one should have found does not fail itself. -/
inductive Fails (p : Preparation σ α) : Stage → ViewerFault α → Prop
  | town {fault : SessionFault} (answer : p.town = .error fault) : Fails p .town (.session fault)
  | map {town : TownDescription α} {fault : SheetFault α} (answer : p.town = .ok town)
    (load : Sheet.load p.maps p.options.maps town.mapName = .error fault) :
    Fails p .map (.configuration (.sheet fault))
  | scale {town : TownDescription α} {sheet : Sheet α} {fault : ScaleFault α}
    (answer : p.town = .ok town)
    (load : Sheet.load p.maps p.options.maps town.mapName = .ok sheet)
    (between : ImageScale.between sheet.size p.options.window = .error fault) :
    Fails p .scale (.configuration (.scale fault))
  | spot {fault : SessionFault} (answer : p.spot = .error fault) : Fails p .spot (.session fault)

/-- What goes wrong at the first stage at which anything does. -/
structure FailsFirst (p : Preparation σ α) (stage : Stage) (fault : ViewerFault α) : Prop where
  fails : p.Fails stage fault
  first : ∀ earlier : Stage, earlier.rank < stage.rank → ∀ fault, ¬ p.Fails earlier fault

/-- What a preparation finds on its way to the start spot. -/
structure Finds (p : Preparation σ α) (town : TownDescription α) (sheet : Sheet α)
    (scale : ImageScale α) : Prop where
  answer : p.town = .ok town
  load : Sheet.load p.maps p.options.maps town.mapName = .ok sheet
  between : ImageScale.between sheet.size p.options.window = .ok scale

/-- What there is to be shown of what has been found. -/
def shown (p : Preparation σ α) (town : TownDescription α) (sheet : Sheet α)
    (scale : ImageScale α) : Prepared α :=
  let camera : Camera α := ⟨sheet.calibration, scale⟩
  ⟨sheet, camera, Overlay.build camera p.options.marked p.options.labelled town.startSpots⟩

end Preparation

/-! ## Finding a map -/

section FindMap

variable [Scalar α] [Json.Wire α] {maps : Folder} {options : ViewerOptions α}
  {town : TownDescription α} {sheet : Sheet α}

/-- No map is found without a readable sheet. -/
theorem findMap_of_unreadable {fault : SheetFault α}
    (load : Sheet.load maps options.maps town.mapName = .error fault) :
    findMap maps options town = .error (.sheet fault) := by
  rw [findMap, load]
  rfl

/-- No map is found that does not fit into the window. -/
theorem findMap_of_unscaled {fault : ScaleFault α}
    (load : Sheet.load maps options.maps town.mapName = .ok sheet)
    (between : ImageScale.between sheet.size options.window = .error fault) :
    findMap maps options town = .error (.scale fault) := by
  rw [findMap, load]
  show ((ImageScale.between sheet.size options.window).mapError _ >>= _) = _
  rw [between]
  rfl

/-- A map is found with its sheet and its scale. -/
theorem findMap_of_scaled {scale : ImageScale α}
    (load : Sheet.load maps options.maps town.mapName = .ok sheet)
    (between : ImageScale.between sheet.size options.window = .ok scale) :
    findMap maps options town = .ok (sheet, ⟨sheet.calibration, scale⟩) := by
  rw [findMap, load]
  show ((ImageScale.between sheet.size options.window).mapError _ >>= _) = _
  rw [between]
  rfl

end FindMap

/-! ## Endings -/

namespace Preparation

variable [Scalar α] [Json.Wire α]

/-- How a preparation ends: what the simulator has been asked for, and what has come of it. -/
inductive Ends (p : Preparation σ α) :
    List Request → Except (ViewerFault α) (Prepared α) → Prop
  /-- There is no episode. -/
  | refused {fault : SessionFault} (answer : p.town = .error fault) :
    Ends p [.configure p.settings] (.error (.session fault))
  /-- There is no map of the town. -/
  | unmapped {town : TownDescription α} {fault : SheetFault α} (answer : p.town = .ok town)
    (load : Sheet.load p.maps p.options.maps town.mapName = .error fault) :
    Ends p [.configure p.settings] (.error (.configuration (.sheet fault)))
  /-- The map does not scale to the window. -/
  | unscaled {town : TownDescription α} {sheet : Sheet α} {fault : ScaleFault α}
    (answer : p.town = .ok town)
    (load : Sheet.load p.maps p.options.maps town.mapName = .ok sheet)
    (between : ImageScale.between sheet.size p.options.window = .error fault) :
    Ends p [.configure p.settings] (.error (.configuration (.scale fault)))
  /-- All is found, but the player is not put on its spot. -/
  | unplaced {town : TownDescription α} {sheet : Sheet α} {scale : ImageScale α}
    {fault : SessionFault} (finds : p.Finds town sheet scale) (answer : p.spot = .error fault) :
    Ends p [.configure p.settings, .startEpisode p.options.spot] (.error (.session fault))
  /-- All is found, and the player stands on its spot. -/
  | ready {town : TownDescription α} {sheet : Sheet α} {scale : ImageScale α}
    (finds : p.Finds town sheet scale) (answer : p.spot = .ok ()) :
    Ends p [.configure p.settings, .startEpisode p.options.spot] (.ok (p.shown town sheet scale))

/-- **Every preparation ends by one of the rules.** -/
theorem ends (p : Preparation σ α) : p.Ends p.requests p.result := by
  -- The cases follow the stages: what a stage has found is what the next one starts from.
  cases hconfigure : p.simulation.configure p.settings p.world with
  | mk answer asked =>
    have htown : p.town = answer := by rw [town, hconfigure]
    rw [settings] at hconfigure
    cases answer with
    | error fault =>
      have h := Ends.refused htown
      simpa [requests, result, prepare, hconfigure, settings] using h
    | ok town =>
      cases load : Sheet.load (α := α) p.maps p.options.maps town.mapName with
      | error fault =>
        have h := Ends.unmapped htown load
        have hmap := findMap_of_unreadable load
        simpa [requests, result, prepare, hconfigure, hmap, settings] using h
      | ok sheet =>
        cases between : ImageScale.between sheet.size p.options.window with
        | error fault =>
          have h := Ends.unscaled htown load between
          have hmap := findMap_of_unscaled load between
          simpa [requests, result, prepare, hconfigure, hmap, settings] using h
        | ok scale =>
          have hmap := findMap_of_scaled load between
          cases hstart : p.simulation.startEpisode p.options.spot asked with
          | mk answer started =>
            have hspot : p.spot = answer := by rw [spot, settings, hconfigure, hstart]
            cases answer with
            | error fault =>
              have h := Ends.unplaced ⟨htown, load, between⟩ hspot
              simpa [requests, result, prepare, hconfigure, hmap, hstart, settings] using h
            | ok _ =>
              have h := Ends.ready ⟨htown, load, between⟩ hspot
              simpa [requests, result, prepare, hconfigure, hmap, hstart, settings, shown] using h

/-! ## Failures -/

section Failures

variable {p : Preparation σ α} {town : TownDescription α} {sheet : Sheet α}
  {scale : ImageScale α} {stage : Stage} {fault : ViewerFault α}

/-- A town that answers does not fail. -/
theorem not_fails_town (answer : p.town = .ok town) : ¬ p.Fails .town fault := by
  rintro ⟨refused⟩
  simp [answer] at refused

/-- A map that can be read does not fail. -/
theorem not_fails_map (answer : p.town = .ok town)
    (load : Sheet.load p.maps p.options.maps town.mapName = .ok sheet) : ¬ p.Fails .map fault := by
  rintro (_ | ⟨answer', unmapped⟩)
  cases answer.symm.trans answer'
  simp [load] at unmapped

/-- A map that fits into the window does not fail to be scaled. -/
theorem Finds.not_fails_scale (finds : p.Finds town sheet scale) : ¬ p.Fails .scale fault := by
  obtain ⟨answer, load, between⟩ := finds
  rintro (_ | _ | ⟨answer', load', unscaled⟩)
  cases answer.symm.trans answer'
  cases load.symm.trans load'
  simp [between] at unscaled

/-- A spot that is accepted does not fail. -/
theorem not_fails_spot (answer : p.spot = .ok ()) : ¬ p.Fails .spot fault := by
  rintro (_ | _ | _ | ⟨unplaced⟩)
  simp [answer] at unplaced

/-- Nothing fails if all is found and the player stands on its spot. -/
theorem Finds.none_fails (finds : p.Finds town sheet scale) (answer : p.spot = .ok ())
    (stage : Stage) (fault : ViewerFault α) : ¬ p.Fails stage fault := by
  cases stage with
  | town => exact not_fails_town finds.answer
  | map => exact not_fails_map finds.answer finds.load
  | scale => exact finds.not_fails_scale
  | spot => exact not_fails_spot answer

/-- There is only one way to find all that is needed. -/
theorem Finds.unique {town' : TownDescription α} {sheet' : Sheet α} {scale' : ImageScale α}
    (finds : p.Finds town sheet scale) (finds' : p.Finds town' sheet' scale') :
    town = town' ∧ sheet = sheet' ∧ scale = scale' := by
  cases finds.answer.symm.trans finds'.answer
  cases finds.load.symm.trans finds'.load
  cases finds.between.symm.trans finds'.between
  exact ⟨rfl, rfl, rfl⟩

/-- No stage fails in two ways. -/
theorem Fails.unique {fault' : ViewerFault α} (fails : p.Fails stage fault)
    (fails' : p.Fails stage fault') : fault = fault' := by
  cases fails with
  | town refused =>
    obtain ⟨refused'⟩ := fails'
    cases refused.symm.trans refused'
    rfl
  | map answer unmapped =>
    obtain _ | ⟨answer', unmapped'⟩ := fails'
    cases answer.symm.trans answer'
    cases unmapped.symm.trans unmapped'
    rfl
  | scale answer load unscaled =>
    obtain _ | _ | ⟨answer', load', unscaled'⟩ := fails'
    cases answer.symm.trans answer'
    cases load.symm.trans load'
    cases unscaled.symm.trans unscaled'
    rfl
  | spot unplaced =>
    obtain _ | _ | _ | ⟨unplaced'⟩ := fails'
    cases unplaced.symm.trans unplaced'
    rfl

/-- Only one stage fails first, and only in one way. -/
theorem FailsFirst.unique {stage' : Stage} {fault' : ViewerFault α}
    (fails : p.FailsFirst stage fault) (fails' : p.FailsFirst stage' fault') : fault = fault' := by
  have hnot : ¬ stage.rank < stage'.rank := fun h => fails'.first stage h fault fails.fails
  have hnot' : ¬ stage'.rank < stage.rank := fun h => fails.first stage' h fault' fails'.fails
  -- Neither comes before the other, so they are one stage.
  have hstage : stage = stage' := Stage.rank_injective (by omega)
  subst hstage
  exact fails.fails.unique fails'.fails

end Failures

namespace Ends

variable {p : Preparation σ α} {requests : List Request} {fault : ViewerFault α}
  {prepared : Prepared α} {result : Except (ViewerFault α) (Prepared α)}

/-! ## What is asked for -/

/-- The episode is asked for before the start spot. -/
theorem requests_prefix (ends : p.Ends requests result) :
    requests <+: [.configure p.settings, .startEpisode p.options.spot] := by
  cases ends with
  | unplaced | ready => exact List.prefix_rfl
  | _ => exact ⟨[.startEpisode p.options.spot], rfl⟩

/-- The episode is asked for once. -/
theorem count_configure (ends : p.Ends requests result) :
    requests.count (.configure p.settings) = 1 := by
  cases ends <;> simp

/-- The start spot is asked for if all is found that is needed to show the town. -/
theorem startEpisode_mem_iff (ends : p.Ends requests result) :
    .startEpisode p.options.spot ∈ requests ↔ ∃ town sheet scale, p.Finds town sheet scale := by
  cases ends with
  | refused refused =>
    refine iff_of_false (by simp) ?_
    rintro ⟨_, _, _, finds⟩
    exact not_fails_town finds.answer (.town refused)
  | unmapped answer unmapped =>
    refine iff_of_false (by simp) ?_
    rintro ⟨_, _, _, finds⟩
    exact not_fails_map finds.answer finds.load (.map answer unmapped)
  | unscaled answer load unscaled =>
    refine iff_of_false (by simp) ?_
    rintro ⟨_, _, _, finds⟩
    exact finds.not_fails_scale (.scale answer load unscaled)
  | unplaced finds | ready finds => exact iff_of_true (by simp) ⟨_, _, _, finds⟩

/-! ## What comes of it -/

/-- A fault that ends the preparation is that of the first stage that fails. -/
theorem failsFirst (ends : p.Ends requests (.error fault)) :
    ∃ stage, p.FailsFirst stage fault := by
  -- Each way to end badly names the stage, and what came before it succeeded.
  cases ends with
  | refused refused =>
    refine ⟨.town, .town refused, fun earlier early _ => ?_⟩
    exact absurd early (Nat.not_lt_zero _)
  | unmapped answer unmapped =>
    refine ⟨.map, .map answer unmapped, fun earlier early _ => ?_⟩
    cases earlier with
    | town => exact not_fails_town answer
    | _ => simp [Stage.rank] at early
  | unscaled answer load unscaled =>
    refine ⟨.scale, .scale answer load unscaled, fun earlier early _ => ?_⟩
    cases earlier with
    | town => exact not_fails_town answer
    | map => exact not_fails_map answer load
    | _ => simp [Stage.rank] at early
  | unplaced finds unplaced =>
    refine ⟨.spot, .spot unplaced, fun earlier early _ => ?_⟩
    cases earlier with
    | town => exact not_fails_town finds.answer
    | map => exact not_fails_map finds.answer finds.load
    | scale => exact finds.not_fails_scale
    | spot => exact absurd early (Nat.lt_irrefl _)

/-- A preparation that is ready has met with no failure. -/
theorem none_fails (ends : p.Ends requests (.ok prepared)) (stage : Stage)
    (fault : ViewerFault α) : ¬ p.Fails stage fault := by
  cases ends with
  | ready finds answer => exact finds.none_fails answer stage fault

/-- A preparation that is ready shows what it has found. -/
theorem eq_shown (ends : p.Ends requests (.ok prepared)) :
    p.spot = .ok () ∧ ∃ town sheet scale,
      p.Finds town sheet scale ∧ prepared = p.shown town sheet scale := by
  cases ends with
  | ready finds answer => exact ⟨answer, _, _, _, finds, rfl⟩

end Ends

/-- What ends a preparation is the first failure. -/
theorem result_eq_error_iff (p : Preparation σ α) (fault : ViewerFault α) :
    p.result = .error fault ↔ ∃ stage, p.FailsFirst stage fault := by
  have ends := p.ends
  constructor
  · intro hresult
    rw [hresult] at ends
    exact ends.failsFirst
  · -- Where some stage fails the result is a fault, and the first failure is the only one.
    rintro ⟨stage, fails⟩
    cases hresult : p.result with
    | ok prepared =>
      rw [hresult] at ends
      exact absurd fails.fails (ends.none_fails stage fault)
    | error fault' =>
      rw [hresult] at ends
      obtain ⟨stage', fails'⟩ := ends.failsFirst
      rw [fails.unique fails']

/-- A preparation is ready if nothing fails. -/
theorem exists_result_eq_ok_iff (p : Preparation σ α) :
    (∃ prepared, p.result = .ok prepared) ↔ ∀ stage fault, ¬ p.Fails stage fault := by
  constructor
  · rintro ⟨prepared, hresult⟩
    have ends := p.ends
    rw [hresult] at ends
    exact ends.none_fails
  · intro hnone
    cases hresult : p.result with
    | ok prepared => exact ⟨prepared, rfl⟩
    | error fault =>
      obtain ⟨stage, fails⟩ := (p.result_eq_error_iff fault).mp hresult
      exact absurd fails.fails (hnone stage fault)

/-- What is shown in the end is what has been found. -/
theorem result_eq_ok_iff (p : Preparation σ α) (prepared : Prepared α) :
    p.result = .ok prepared ↔ p.spot = .ok () ∧ ∃ town sheet scale,
      p.Finds town sheet scale ∧ prepared = p.shown town sheet scale := by
  constructor
  · intro hresult
    have ends := p.ends
    rw [hresult] at ends
    exact ends.eq_shown
  · rintro ⟨answer, town, sheet, scale, finds, rfl⟩
    obtain ⟨prepared, hresult⟩ := p.exists_result_eq_ok_iff.mpr (finds.none_fails answer)
    have ends := p.ends
    rw [hresult] at ends
    obtain ⟨-, town', sheet', scale', finds', rfl⟩ := ends.eq_shown
    obtain ⟨rfl, rfl, rfl⟩ := finds.unique finds'
    exact hresult

end Preparation

/-! ## Another try -/

/-- The faults that may pass by themselves. -/
inductive SessionFault.MayPass : SessionFault → Prop
  | connectivity (reason : String) : MayPass (.connectivity reason)
  | timeout (limit : Duration) : MayPass (.timeout limit)
  | disconnected : MayPass .disconnected

/-- The faults that are said to pass are those of the connection. -/
theorem SessionFault.isTransient_iff {fault : SessionFault} :
    fault.isTransient = true ↔ fault.MayPass := by
  constructor
  · intro transient
    cases fault with
    | connectivity reason => exact .connectivity reason
    | timeout limit => exact .timeout limit
    | disconnected => exact .disconnected
    | protocol => cases transient
  · rintro (_ | _ | _) <;> rfl

namespace Preparation

variable [Scalar α] [Json.Wire α]

/-- Another try is made after a fault of the connection to the simulator, and after no other. -/
theorem result_isTransient_iff (p : Preparation σ α) (fault : ViewerFault α) :
    p.result = .error fault ∧ fault.isTransient = true
      ↔ ∃ reason : SessionFault, reason.MayPass ∧ fault = .session reason
        ∧ (p.FailsFirst .town fault ∨ p.FailsFirst .spot fault) := by
  rw [result_eq_error_iff]
  constructor
  · rintro ⟨⟨stage, fails⟩, transient⟩
    -- Only the stages that ask the simulator fail for a reason that may pass.
    cases fails.fails with
    | town => exact ⟨_, SessionFault.isTransient_iff.mp transient, rfl, .inl fails⟩
    | spot => exact ⟨_, SessionFault.isTransient_iff.mp transient, rfl, .inr fails⟩
    | map | scale => cases transient
  · rintro ⟨reason, pass, rfl, fails⟩
    have transient : reason.isTransient = true := SessionFault.isTransient_iff.mpr pass
    exact ⟨fails.elim (⟨_, ·⟩) (⟨_, ·⟩), transient⟩

/-- **A preparation ends at its first failure.** The episode is asked for once, with the settings of
the viewer but for the seeds, and the start spot only if the town, its map and its scale are all
found. The result is the fault of the first stage that fails, and if none does, what has been found
is shown. Another try may succeed after a fault of the connection, and after no other. -/
theorem ends_at_first_failure (p : Preparation σ α) :
    p.settings = { p.options.settings with
      vehicleSeed := some p.drawn.vehicles, pedestrianSeed := some p.drawn.pedestrians }
    ∧ p.requests <+: [.configure p.settings, .startEpisode p.options.spot]
    ∧ p.requests.count (.configure p.settings) = 1
    ∧ (.startEpisode p.options.spot ∈ p.requests
      ↔ ∃ town sheet scale, p.Finds town sheet scale)
    ∧ (∀ fault, p.result = .error fault ↔ ∃ stage, p.FailsFirst stage fault)
    ∧ ((∃ prepared, p.result = .ok prepared) ↔ ∀ stage fault, ¬ p.Fails stage fault)
    ∧ (∀ prepared, p.result = .ok prepared ↔ p.spot = .ok () ∧ ∃ town sheet scale,
      p.Finds town sheet scale ∧ prepared = p.shown town sheet scale)
    ∧ ∀ fault, p.result = .error fault ∧ fault.isTransient = true
      ↔ ∃ reason : SessionFault, reason.MayPass ∧ fault = .session reason
        ∧ (p.FailsFirst .town fault ∨ p.FailsFirst .spot fault) := by
  have ends := p.ends
  refine ⟨rfl, ends.requests_prefix, ends.count_configure, ends.startEpisode_mem_iff, ?_⟩
  exact ⟨p.result_eq_error_iff, p.exists_result_eq_ok_iff, p.result_eq_ok_iff,
    p.result_isTransient_iff⟩

end Preparation

end TownTraffic

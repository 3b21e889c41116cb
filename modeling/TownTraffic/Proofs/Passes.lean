import TownTraffic.Screen.Playback
import Mathlib.Data.List.Basic

/-!
# What a playback draws

A playback passes through its loop again and again, whether it is let step or run, in a world that
may do anything meanwhile. All that it does to the world is, pass by pass, one of four things:
nothing if it is interrupted; a question if the window asks to stop; the map if the source fails;
and a whole frame.

* **`Act`**, **`Surface.recorded`** — what is done to the world, and a record of it.
* **`Cue`**, **`Performance`** — what a caller does with a playback, and how that goes on.
* **`Pass`** — what comes of a pass; **`Pass.acts`**, **`Pass.strokes`** what is done in it.
* **`Passed`**, **`Ran`**, **`Performed`** — the rules of a pass, of a run and of a performance.
* **`acts_of_cues`** — all that is done is what is done in the passes.
-/

namespace TownTraffic

variable {σ α ε : Type}

/-! ## Recording -/

/-- What a playback does to the outer world, with what it is told. -/
inductive Act (α ε : Type) where
  /-- The window is asked whether to stop. -/
  | poll (answer : Option Exit)
  | draw (stroke : Stroke α)
  /-- A frame is read. -/
  | read (answer : Except ε (Frame α))

namespace Act

/-- The stroke that is drawn. -/
def stroke? : Act α ε → Option (Stroke α)
  | draw stroke => some stroke
  | _ => none

/-- Whether a frame is shown. -/
def isPresent : Act α ε → Bool
  | draw .present => true
  | _ => false

/-- Whether a frame is read, and there is one. -/
def isFrame : Act α ε → Bool
  | read (.ok _) => true
  | _ => false

/-- Whether anything is drawn or read. -/
def isDeed : Act α ε → Bool
  | poll _ => false
  | _ => true

/-- A question draws nothing. -/
@[simp] theorem stroke?_poll (answer : Option Exit) : (poll answer : Act α ε).stroke? = none := rfl

/-- A stroke draws itself. -/
@[simp] theorem stroke?_draw (stroke : Stroke α) : (draw stroke : Act α ε).stroke? = some stroke :=
  rfl

/-- What is read draws nothing. -/
@[simp] theorem stroke?_read (answer : Except ε (Frame α)) : (read answer).stroke? = none := rfl

/-- Strokes that are drawn are drawn as they are. -/
@[simp] theorem stroke?_comp_draw : (stroke? : Act α ε → Option (Stroke α)) ∘ draw = some := rfl

end Act

/-- The surface of a world with a record of all that is done to it. -/
def Surface.recorded (surface : Surface σ α ε) : Surface (σ × List (Act α ε)) α ε where
  isInterrupted w := surface.isInterrupted w.1
  pollExit w :=
    ((surface.pollExit w.1).1, (surface.pollExit w.1).2, w.2 ++ [.poll (surface.pollExit w.1).1])
  draw stroke w := (surface.draw stroke w.1, w.2 ++ [.draw stroke])
  read w := ((surface.read w.1).1, (surface.read w.1).2, w.2 ++ [.read (surface.read w.1).1])

namespace Surface

variable (surface : Surface σ α ε) (world : σ) (acts : List (Act α ε))

/-- A recording does not change whether there is an interruption. -/
@[simp] theorem isInterrupted_recorded :
    surface.recorded.isInterrupted (world, acts) = surface.isInterrupted world := rfl

/-- A question is recorded with its answer. -/
@[simp] theorem pollExit_recorded :
    surface.recorded.pollExit (world, acts)
      = ((surface.pollExit world).1, (surface.pollExit world).2,
        acts ++ [.poll (surface.pollExit world).1]) := rfl

/-- A stroke is recorded. -/
@[simp] theorem draw_recorded (stroke : Stroke α) :
    surface.recorded.draw stroke (world, acts)
      = (surface.draw stroke world, acts ++ [.draw stroke]) := rfl

/-- What is read is recorded. -/
@[simp] theorem read_recorded :
    surface.recorded.read (world, acts)
      = ((surface.read world).1, (surface.read world).2,
        acts ++ [.read (surface.read world).1]) := rfl

end Surface

/-- Strokes are recorded in their order. -/
theorem Playback.drawAll_recorded (surface : Surface σ α ε) (strokes : List (Stroke α)) (world : σ)
    (acts : List (Act α ε)) :
    drawAll surface.recorded strokes (world, acts)
      = (drawAll surface strokes world, acts ++ strokes.map .draw) := by
  induction strokes generalizing world acts with
  | nil => simp
  | cons stroke strokes ih => simp [ih]

/-! ## Performances -/

/-- What a caller does with a playback. -/
inductive Cue (σ : Type) where
  /-- It lets the playback make one step. -/
  | step
  /-- It lets the playback run, for `bound` steps at most. -/
  | run (bound : Nat)
  /-- It does nothing, while the outer world changes. -/
  | meanwhile (change : σ → σ)

/-- What a caller is told. -/
inductive Answer (ε : Type) where
  /-- Of a step. -/
  | stepped (result : Except ε PlaybackState)
  /-- Of a run; none if it has not ended within its bound. -/
  | ran (result : Option (Except ε Exit))

/-- A playback in its world, with all that it has done there. -/
structure Performance (σ α ε : Type) where
  playback : Playback α
  world : σ
  acts : List (Act α ε)

namespace Performance

/-- A performance before anything has been done. -/
def opening (camera : Camera α) (overlay : List (Tile α)) (world : σ) : Performance σ α ε :=
  ⟨.start camera overlay, world, []⟩

variable [Scalar α]

/-- One cue, with what the caller is told. -/
def heed (surface : Surface σ α ε) (s : Performance σ α ε) :
    Cue σ → Option (Answer ε) × Performance σ α ε
  | .step =>
    match s.playback.step surface.recorded (s.world, s.acts) with
    | (result, p, world, acts) => (some (.stepped result), ⟨p, world, acts⟩)
  | .run bound =>
    match s.playback.run surface.recorded bound (s.world, s.acts) with
    | (result, p, world, acts) => (some (.ran result), ⟨p, world, acts⟩)
  | .meanwhile change => (none, { s with world := change s.world })

/-- One cue after the other. -/
def perform (surface : Surface σ α ε) (s : Performance σ α ε) :
    List (Cue σ) → List (Answer ε) × Performance σ α ε
  | [] => ([], s)
  | cue :: cues =>
    ((s.heed surface cue).1.toList ++ ((s.heed surface cue).2.perform surface cues).1,
      ((s.heed surface cue).2.perform surface cues).2)

/-- Without a cue nothing is done. -/
@[simp] theorem perform_nil (surface : Surface σ α ε) (s : Performance σ α ε) :
    s.perform surface [] = ([], s) := rfl

/-- What is done for the first cue comes before what is done for the others. -/
theorem perform_cons (surface : Surface σ α ε) (s : Performance σ α ε) (cue : Cue σ)
    (cues : List (Cue σ)) :
    s.perform surface (cue :: cues)
      = ((s.heed surface cue).1.toList ++ ((s.heed surface cue).2.perform surface cues).1,
        ((s.heed surface cue).2.perform surface cues).2) := rfl

end Performance

/-! ## Passes -/

/-- The stroke for a pedestrian; none for any other agent. -/
def Camera.pedestrianStroke? [Scalar α] (c : Camera α) (a : Agent α) : Option (Stroke α) :=
  match a.kind with
  | .pedestrian pose _ => some (.shape (.pedestrian (c.pedestrian pose.location)))
  | _ => none

/-- The stroke for a vehicle; none for any other agent. -/
def Camera.vehicleStroke? [Scalar α] (c : Camera α) (a : Agent α) : Option (Stroke α) :=
  match a.kind with
  | .vehicle pose _ => some (.shape (.vehicle (c.vehicle ⟨pose.location, pose.attitude.yaw⟩)))
  | _ => none

/-- What comes of a pass through the loop. -/
inductive Pass (α ε : Type) where
  /-- The viewer is interrupted. -/
  | interrupted
  /-- The window asks to stop. -/
  | left (reason : Exit)
  /-- There is no frame. -/
  | failed (fault : ε)
  | shown (frame : Frame α)

namespace Pass

/-- Why the playback stops. -/
def exit? : Pass α ε → Option Exit
  | interrupted => some .interrupted
  | left reason => some reason
  | _ => none

/-- Whether a frame is shown. -/
def isShown : Pass α ε → Bool
  | shown _ => true
  | _ => false

/-- What a step answers, if the playback was in a given state before. -/
def result (state : PlaybackState) : Pass α ε → Except ε PlaybackState
  | interrupted => .ok (.stopped .interrupted)
  | left reason => .ok (.stopped reason)
  | failed fault => .error fault
  | shown _ => .ok state

/-- The playback after a pass. -/
def after (p : Playback α) : Pass α ε → Playback α
  | interrupted => { p with state := .stopped .interrupted }
  | left reason => { p with state := .stopped reason }
  | failed _ => p
  | shown _ => { p with shown := p.shown + 1 }

/-- The strokes of the map: the background, then what lies over it. -/
def ground (overlay : List (Tile α)) : List (Stroke α) := .background :: overlay.map .tile

/-- What a playback draws first is the map. -/
theorem ground_eq (p : Playback α) : p.ground = ground p.overlay := rfl

variable [Scalar α]

/-- The strokes of a frame's agents: all pedestrians, then all vehicles. -/
def figures (camera : Camera α) (f : Frame α) : List (Stroke α) :=
  f.agents.filterMap camera.pedestrianStroke? ++ f.agents.filterMap camera.vehicleStroke?

/-- The strokes of a pass. -/
def strokes (camera : Camera α) (overlay : List (Tile α)) : Pass α ε → List (Stroke α)
  | interrupted | left _ => []
  | failed _ => ground overlay
  | shown f => ground overlay ++ figures camera f ++ [.present]

/-- All that is done in a pass. -/
def acts (camera : Camera α) (overlay : List (Tile α)) : Pass α ε → List (Act α ε)
  | interrupted => []
  | left reason => [.poll (some reason)]
  | failed fault => .poll none :: (ground overlay).map .draw ++ [.read (.error fault)]
  | shown f =>
    .poll none :: (ground overlay).map .draw
      ++ .read (.ok f) :: (figures camera f).map .draw ++ [.draw .present]

end Pass

/-- **The rules of a pass**, with the world afterwards. -/
inductive Passed [Scalar α] (surface : Surface σ α ε) (p : Playback α) (world : σ) :
    Pass α ε → σ → Prop
  /-- An interruption goes before anything the window has to say. -/
  | interrupted (stop : surface.isInterrupted world = true) :
    Passed surface p world .interrupted world
  /-- The window asks to stop. -/
  | left {reason : Exit} {world' : σ} (go : surface.isInterrupted world = false)
    (poll : surface.pollExit world = (some reason, world')) :
    Passed surface p world (.left reason) world'
  /-- The map has been drawn, but there is no frame. -/
  | failed {fault : ε} {polled world' : σ} (go : surface.isInterrupted world = false)
    (poll : surface.pollExit world = (none, polled))
    (read : surface.read (Playback.drawAll surface p.ground polled) = (.error fault, world')) :
    Passed surface p world (.failed fault) world'
  /-- The map has been drawn, and the agents of the frame are drawn over it. -/
  | shown {f : Frame α} {polled drawn : σ} (go : surface.isInterrupted world = false)
    (poll : surface.pollExit world = (none, polled))
    (read : surface.read (Playback.drawAll surface p.ground polled) = (.ok f, drawn)) :
    Passed surface p world (.shown f)
      (Playback.drawAll surface (p.agents f ++ [.present]) drawn)

variable [Scalar α]

/-- The agents of a frame are drawn pedestrians first, each kind in the order of the frame. -/
theorem Playback.agents_eq (p : Playback α) (f : Frame α) :
    p.agents f = Pass.figures p.camera f := by
  simp only [agents, Frame.partition, Pass.figures, List.map_filterMap]
  congr 1
  · refine List.filterMap_congr fun a _ => ?_
    cases h : a.kind <;> simp [Frame.pedestrian?, Camera.pedestrianStroke?, h]
  · refine List.filterMap_congr fun a _ => ?_
    cases h : a.kind <;> simp [Frame.vehicle?, Camera.vehicleStroke?, h]

/-- **Every step is a pass.** -/
theorem Playback.passed_step (surface : Surface σ α ε) (p : Playback α) (world : σ)
    (acts : List (Act α ε)) :
    ∃ pass world', Passed surface p world pass world'
      ∧ p.step surface.recorded (world, acts)
        = (pass.result p.state, pass.after p, world', acts ++ pass.acts p.camera p.overlay) := by
  -- Interruption, exit and source are asked in this order, and the first of them ends the pass.
  cases stop : surface.isInterrupted world with
  | true =>
    exact ⟨_, _, .interrupted stop, by
      simp [step, signal, stop, Pass.result, Pass.after, Pass.acts]⟩
  | false =>
    cases hpoll : surface.pollExit world with
    | mk answer polled =>
      cases answer with
      | some reason =>
        exact ⟨_, _, .left stop hpoll, by
          simp [step, signal, stop, hpoll, Pass.result, Pass.after, Pass.acts]⟩
      | none =>
        cases hread : surface.read (drawAll surface p.ground polled) with
        | mk result drawn =>
          cases result with
          | error fault =>
            refine ⟨_, _, .failed stop hpoll hread, ?_⟩
            simp [step, signal, stop, hpoll, drawAll_recorded, hread, Pass.result, Pass.after,
              Pass.acts, ← Pass.ground_eq]
          | ok f =>
            refine ⟨_, _, .shown stop hpoll hread, ?_⟩
            simp [step, signal, stop, hpoll, drawAll_recorded, hread, Pass.result, Pass.after,
              Pass.acts, ← Pass.ground_eq, agents_eq]

namespace Pass

omit [Scalar α] in
/-- No pass changes the camera or what lies over the map. -/
@[simp] theorem camera_after (p : Playback α) (pass : Pass α ε) :
    (pass.after p).camera = p.camera := by
  cases pass <;> rfl

omit [Scalar α] in

/-- A pass keeps the overlay. -/
@[simp] theorem overlay_after (p : Playback α) (pass : Pass α ε) :
    (pass.after p).overlay = p.overlay := by
  cases pass <;> rfl

end Pass

/-! ## Runs and performances -/

/-- **The rules of a run**, with the passes of which it consists, what the caller is told, and the
world afterwards. -/
inductive Ran (surface : Surface σ α ε) : Playback α → σ → Nat → List (Pass α ε) →
    Option (Except ε Exit) → σ → Prop
  /-- A stopped playback does not run. -/
  | stopped {p : Playback α} {world : σ} {bound : Nat} {reason : Exit}
    (stopped : p.state = .stopped reason) : Ran surface p world bound [] (some (.ok reason)) world
  /-- The run has not ended yet. -/
  | unfinished {p : Playback α} {world : σ} (running : p.state = .running) :
    Ran surface p world 0 [] none world
  /-- The run ends with the first fault. -/
  | failed {p : Playback α} {world world' : σ} {bound : Nat} {fault : ε}
    (running : p.state = .running) (passed : Passed surface p world (.failed fault) world') :
    Ran surface p world (bound + 1) [.failed fault] (some (.error fault)) world'
  /-- The run ends where it is told to stop. -/
  | left {p : Playback α} {world world' : σ} {bound : Nat} {pass : Pass α ε} {reason : Exit}
    (running : p.state = .running) (passed : Passed surface p world pass world')
    (exit : pass.exit? = some reason) :
    Ran surface p world (bound + 1) [pass] (some (.ok reason)) world'
  /-- After a frame the run goes on. -/
  | shown {p : Playback α} {world later world' : σ} {bound : Nat} {f : Frame α}
    {passes : List (Pass α ε)} {result : Option (Except ε Exit)} (running : p.state = .running)
    (passed : Passed surface p world (.shown f) later)
    (rest : Ran surface ((Pass.shown f : Pass α ε).after p) later bound passes result world') :
    Ran surface p world (bound + 1) (.shown f :: passes) result world'

namespace Playback

variable (surface : Surface σ α ε) {p : Playback α} (world : σ)

/-- A playback that has stopped tells its reason again. -/
theorem run_of_stopped {reason : Exit} (h : p.state = .stopped reason) (bound : Nat) :
    run surface bound p world = (some (.ok reason), p, world) := by
  cases bound <;> simp [run, h]

/-- A playback that may not go on leaves everything as it is. -/
theorem run_zero_of_running (h : p.state = .running) :
    run surface 0 p world = (none, p, world) := by
  simp [run, h]

/-- A playback that may go on makes a step, and goes on if it has not stopped. -/
theorem run_succ_of_running (h : p.state = .running) (bound : Nat) :
    run surface (bound + 1) p world
      = match step surface p world with
        | (.error fault, p, world) => (some (.error fault), p, world)
        | (.ok _, p, world) => run surface bound p world := by
  obtain ⟨camera, overlay, state, shown⟩ := p
  obtain rfl : state = .running := h
  rfl

/-- **Every run is a sequence of passes.** -/
theorem ran_run (bound : Nat) (p : Playback α) (acts : List (Act α ε)) :
    ∃ passes result world', Ran surface p world bound passes result world'
      ∧ p.run surface.recorded bound (world, acts)
        = (result, passes.foldl Pass.after p, world',
          acts ++ passes.flatMap (Pass.acts p.camera p.overlay)) := by
  -- On the number of steps that are left; acts go on behind those recorded so far.
  induction bound generalizing p world acts with
  | zero =>
    cases hstate : p.state with
    | stopped reason => exact ⟨_, _, _, .stopped hstate, by simp [run_of_stopped _ _ hstate]⟩
    | running => exact ⟨_, _, _, .unfinished hstate, by simp [run_zero_of_running _ _ hstate]⟩
  | succ bound ih =>
    cases hstate : p.state with
    | stopped reason => exact ⟨_, _, _, .stopped hstate, by simp [run_of_stopped _ _ hstate]⟩
    | running =>
      obtain ⟨pass, later, passed, hstep⟩ := p.passed_step surface world acts
      rw [run_succ_of_running _ _ hstate, hstep]
      cases pass with
      | failed fault => exact ⟨_, _, _, .failed hstate passed, by simp [Pass.result]⟩
      | interrupted =>
        refine ⟨_, _, _, .left hstate passed rfl, ?_⟩
        simp [Pass.result, Pass.after, run_of_stopped]
      | left reason =>
        refine ⟨_, _, _, .left hstate passed rfl, ?_⟩
        simp [Pass.result, Pass.after, run_of_stopped]
      | shown f =>
        obtain ⟨passes, result, world', rest, hrun⟩ :=
          ih later ((Pass.shown f : Pass α ε).after p)
            (acts ++ Pass.acts p.camera p.overlay (.shown f))
        exact ⟨_, _, _, .shown hstate passed rest, by simp [Pass.result, hrun]⟩

end Playback

/-- **The rules of a performance**, with the passes of which it consists, what the caller is told,
and the world afterwards. -/
inductive Performed (surface : Surface σ α ε) : Playback α → σ → List (Cue σ) → List (Pass α ε) →
    List (Answer ε) → σ → Prop
  /-- It is over. -/
  | nil (p : Playback α) (world : σ) : Performed surface p world [] [] [] world
  /-- A step is one pass. -/
  | step {p : Playback α} {world later world' : σ} {cues : List (Cue σ)} {pass : Pass α ε}
    {passes : List (Pass α ε)} {answers : List (Answer ε)}
    (passed : Passed surface p world pass later)
    (rest : Performed surface (pass.after p) later cues passes answers world') :
    Performed surface p world (.step :: cues) (pass :: passes)
      (.stepped (pass.result p.state) :: answers) world'
  /-- A run is several. -/
  | run {p : Playback α} {world later world' : σ} {cues : List (Cue σ)} {bound : Nat}
    {first passes : List (Pass α ε)} {result : Option (Except ε Exit)} {answers : List (Answer ε)}
    (ran : Ran surface p world bound first result later)
    (rest : Performed surface (first.foldl Pass.after p) later cues passes answers world') :
    Performed surface p world (.run bound :: cues) (first ++ passes) (.ran result :: answers) world'
  /-- The world changes by itself. -/
  | meanwhile {p : Playback α} {world world' : σ} {cues : List (Cue σ)} {change : σ → σ}
    {passes : List (Pass α ε)} {answers : List (Answer ε)}
    (rest : Performed surface p (change world) cues passes answers world') :
    Performed surface p world (.meanwhile change :: cues) passes answers world'

namespace Pass

omit [Scalar α] in

/-- Passes keep the camera. -/
@[simp] theorem camera_foldl_after (p : Playback α) (passes : List (Pass α ε)) :
    (passes.foldl after p).camera = p.camera := by
  induction passes generalizing p with
  | nil => rfl
  | cons pass passes ih => simp [ih]

omit [Scalar α] in

/-- Passes keep the overlay. -/
@[simp] theorem overlay_foldl_after (p : Playback α) (passes : List (Pass α ε)) :
    (passes.foldl after p).overlay = p.overlay := by
  induction passes generalizing p with
  | nil => rfl
  | cons pass passes ih => simp [ih]

omit [Scalar α] in
/-- Frames are counted as they are shown. -/
theorem shown_foldl_after (p : Playback α) (passes : List (Pass α ε)) :
    (passes.foldl after p).shown = p.shown + .ofNat (passes.countP isShown) := by
  induction passes generalizing p with
  | nil => simp
  | cons pass passes ih =>
    cases pass with
    | shown f =>
      rw [List.foldl_cons, ih, List.countP_cons_of_pos (by rfl), UInt64.ofNat_add, after,
        UInt64.add_assoc, UInt64.add_comm 1]
      rfl
    | _ => simp [ih, after, isShown]

end Pass

namespace Performance

variable (surface : Surface σ α ε) (s : Performance σ α ε)

/-- A step is one pass. -/
theorem heed_step :
    ∃ pass later, Passed surface s.playback s.world pass later
      ∧ s.heed surface .step = (some (.stepped (pass.result s.playback.state)),
        ⟨pass.after s.playback, later,
          s.acts ++ pass.acts s.playback.camera s.playback.overlay⟩) := by
  obtain ⟨pass, later, passed, hstep⟩ := s.playback.passed_step surface s.world s.acts
  exact ⟨pass, later, passed, by simp [heed, hstep]⟩

/-- A run is several. -/
theorem heed_run (bound : Nat) :
    ∃ passes result later, Ran surface s.playback s.world bound passes result later
      ∧ s.heed surface (.run bound) = (some (.ran result),
        ⟨passes.foldl Pass.after s.playback, later,
          s.acts ++ passes.flatMap (Pass.acts s.playback.camera s.playback.overlay)⟩) := by
  obtain ⟨passes, result, later, ran, hrun⟩ :=
    Playback.ran_run surface s.world bound s.playback s.acts
  exact ⟨passes, result, later, ran, by simp [heed, hrun]⟩

/-- **Every performance is a sequence of passes.** -/
theorem performed_perform (cues : List (Cue σ)) :
    ∃ passes, Performed surface s.playback s.world cues passes (s.perform surface cues).1
        (s.perform surface cues).2.world
      ∧ (s.perform surface cues).2.playback = passes.foldl Pass.after s.playback
      ∧ (s.perform surface cues).2.acts
        = s.acts ++ passes.flatMap (Pass.acts s.playback.camera s.playback.overlay) := by
  -- On the cues; the passes of one cue come before those of the others.
  induction cues generalizing s with
  | nil => exact ⟨[], .nil _ _, rfl, by simp⟩
  | cons cue cues ih =>
    obtain ⟨passes, performed, hplayback, hacts⟩ := ih (s.heed surface cue).2
    rw [perform_cons]
    cases cue with
    | step =>
      obtain ⟨pass, later, passed, hheed⟩ := s.heed_step surface
      rw [hheed] at performed hplayback hacts ⊢
      exact ⟨_, .step passed performed, hplayback, by simpa using hacts⟩
    | run bound =>
      obtain ⟨first, result, later, ran, hheed⟩ := s.heed_run surface bound
      rw [hheed] at performed hplayback hacts ⊢
      exact ⟨_, .run ran performed, by simpa using hplayback, by simpa using hacts⟩
    | meanwhile change => exact ⟨passes, .meanwhile performed, hplayback, hacts⟩

end Performance

/-! ## What is drawn -/

/-- A pedestrian's stroke is a shape. -/
theorem Camera.exists_shape_of_pedestrianStroke? {c : Camera α} {a : Agent α} {stroke : Stroke α}
    (h : c.pedestrianStroke? a = some stroke) : ∃ shape, stroke = .shape shape := by
  unfold pedestrianStroke? at h
  split at h
  · exact ⟨_, (Option.some.inj h).symm⟩
  · simp at h

/-- A vehicle's stroke is a shape. -/
theorem Camera.exists_shape_of_vehicleStroke? {c : Camera α} {a : Agent α} {stroke : Stroke α}
    (h : c.vehicleStroke? a = some stroke) : ∃ shape, stroke = .shape shape := by
  unfold vehicleStroke? at h
  split at h
  · exact ⟨_, (Option.some.inj h).symm⟩
  · simp at h

namespace Pass

variable (camera : Camera α) (overlay : List (Tile α))

/-- The strokes of agents are shapes. -/
theorem exists_shape_of_mem_figures {camera : Camera α} {f : Frame α} {stroke : Stroke α}
    (h : stroke ∈ figures camera f) : ∃ shape, stroke = .shape shape := by
  obtain h | h := List.mem_append.mp h
  · obtain ⟨a, -, ha⟩ := List.mem_filterMap.mp h
    exact Camera.exists_shape_of_pedestrianStroke? ha
  · obtain ⟨a, -, ha⟩ := List.mem_filterMap.mp h
    exact Camera.exists_shape_of_vehicleStroke? ha

/-- Signs and lights are not drawn. -/
theorem figures_filter_moving (f : Frame α) :
    figures camera { f with
        agents := f.agents.filter fun a => a.kind.isPedestrian || a.kind.isVehicle }
      = figures camera f := by
  simp only [figures, List.filterMap_filter]
  congr 1
  · refine List.filterMap_congr fun a _ => ?_
    cases h : a.kind <;>
      simp [Camera.pedestrianStroke?, AgentKind.isPedestrian, AgentKind.isVehicle, h]
  · refine List.filterMap_congr fun a _ => ?_
    cases h : a.kind <;>
      simp [Camera.vehicleStroke?, AgentKind.isPedestrian, AgentKind.isVehicle, h]

/-- The strokes of a pass are those among all that is done in it. -/
theorem filterMap_stroke?_acts (pass : Pass α ε) :
    (pass.acts camera overlay).filterMap Act.stroke? = pass.strokes camera overlay := by
  cases pass <;> simp [acts, strokes, List.filterMap_cons]

/-- In a pass a frame is shown once if there is one, and not otherwise. -/
theorem countP_isPresent_acts (pass : Pass α ε) :
    (pass.acts camera overlay).countP Act.isPresent = if pass.isShown then 1 else 0 := by
  have hground :
      ((ground overlay).map (Act.draw : Stroke α → Act α ε)).countP Act.isPresent = 0 := by
    simp [ground, List.countP_eq_zero, Act.isPresent]
  have hfigures (f : Frame α) :
      ((figures camera f).map (Act.draw : Stroke α → Act α ε)).countP Act.isPresent = 0 := by
    simp only [List.countP_eq_zero, List.forall_mem_map]
    intro stroke hstroke
    obtain ⟨shape, rfl⟩ := exists_shape_of_mem_figures hstroke
    simp [Act.isPresent]
  cases pass <;>
    simp [acts, isShown, hground, hfigures, List.countP_append, List.countP_cons, Act.isPresent]

/-- In a pass a frame is read if there is one. -/
theorem countP_isFrame_acts (pass : Pass α ε) :
    (pass.acts camera overlay).countP Act.isFrame = if pass.isShown then 1 else 0 := by
  have hdraw (strokes : List (Stroke α)) :
      (strokes.map (Act.draw : Stroke α → Act α ε)).countP Act.isFrame = 0 := by
    simp [List.countP_eq_zero, Act.isFrame]
  cases pass <;>
    simp [acts, isShown, hdraw, List.countP_append, List.countP_cons, Act.isFrame]

/-- What is done once in every pass in which a frame is shown, and in no other, is done as often as
frames are shown. -/
theorem countP_flatMap_acts {q : Act α ε → Bool}
    (hq : ∀ pass : Pass α ε, (pass.acts camera overlay).countP q = if pass.isShown then 1 else 0)
    (passes : List (Pass α ε)) :
    (passes.flatMap (acts camera overlay)).countP q = passes.countP isShown := by
  induction passes with
  | nil => rfl
  | cons pass passes ih =>
    rw [List.flatMap_cons, List.countP_append, hq, ih, List.countP_cons, Nat.add_comm]

end Pass

/-- **All that a playback does is what it does in its passes.** However a caller lets it step and
run, and whatever the world does meanwhile, the strokes are those of the passes one after the
other: none where it is told to stop, the map where there is no frame, and else the map, the
pedestrians and the vehicles of the frame, and its showing. So frames are counted as they are
shown, and shown as they are read; and signs and lights do not matter. -/
theorem acts_of_cues (surface : Surface σ α ε) (camera : Camera α) (overlay : List (Tile α))
    (world : σ) (cues : List (Cue σ)) :
    let opening : Performance σ α ε := .opening camera overlay world
    let answers := (opening.perform surface cues).1
    let done := (opening.perform surface cues).2
    (∃ passes, Performed surface (.start camera overlay) world cues passes answers done.world
        ∧ done.playback = passes.foldl Pass.after (.start camera overlay)
        ∧ done.acts = passes.flatMap (Pass.acts camera overlay)
        ∧ done.acts.filterMap Act.stroke? = passes.flatMap (Pass.strokes camera overlay))
      ∧ done.playback.shown = .ofNat (done.acts.countP Act.isPresent)
      ∧ done.acts.countP Act.isPresent = done.acts.countP Act.isFrame
      ∧ ∀ f : Frame α, Pass.figures camera { f with
          agents := f.agents.filter fun a => a.kind.isPedestrian || a.kind.isVehicle }
        = Pass.figures camera f := by
  intro opening answers done
  obtain ⟨passes, performed, hplayback, hacts⟩ := opening.performed_perform surface cues
  have hall : done.acts = passes.flatMap (Pass.acts camera overlay) := hacts
  -- Both counts are those of the passes that came to their end.
  have hpresent : done.acts.countP Act.isPresent = passes.countP Pass.isShown := by
    rw [hall, Pass.countP_flatMap_acts _ _ (Pass.countP_isPresent_acts camera overlay)]
  have hframe : done.acts.countP Act.isFrame = passes.countP Pass.isShown := by
    rw [hall, Pass.countP_flatMap_acts _ _ (Pass.countP_isFrame_acts camera overlay)]
  refine ⟨⟨passes, performed, hplayback, hall, ?strokes⟩, ?shown, hpresent.trans hframe.symm,
    Pass.figures_filter_moving camera⟩
  case strokes =>
    rw [hall, List.filterMap_flatMap]
    simp only [Pass.filterMap_stroke?_acts]
  case shown =>
    rw [hpresent, show done.playback = _ from hplayback, Pass.shown_foldl_after]
    exact UInt64.zero_add _

end TownTraffic

import TownTraffic.Binary.Instance
import TownTraffic.Proofs.Passes
import TownTraffic.Session.Fault

/-!
# Stopped playbacks

A run ends at once if the playback is stopped. A step does not look: it asks the world anew whether
to stop, and draws if it is not told to. So a stopped playback rests only as long as every step is
told to stop for the same reason.

* **`Performance.Rests`** — whether a stopped performance is as it was.
* **`rests_iff_told`** — how long it rests; **`not_rests_withdrawn`** it need not rest.
-/

namespace TownTraffic

variable {σ α ε : Type}

/-! ## Beginnings of a list -/

/-- What holds of every beginning of a list holds of the empty one, and of those that go on. -/
theorem forall_prefix_cons_iff {β : Type} {q : List β → Prop} {y : β} {l : List β} :
    (∀ first, first <+: y :: l → q first) ↔ q [] ∧ ∀ first, first <+: l → q (y :: first) := by
  constructor
  · exact fun h => ⟨h [] List.nil_prefix, fun first hfirst =>
      h (y :: first) (List.cons_prefix_cons.mpr ⟨rfl, hfirst⟩)⟩
  · rintro ⟨hnil, hcons⟩ first hfirst
    obtain rfl | ⟨rest, rfl, hrest⟩ := List.prefix_cons_iff.mp hfirst
    · exact hnil
    · exact hcons rest hrest

/-- What holds before every occurrence of an item holds before the first one, if that is where the
list begins, and before those in the rest. -/
theorem forall_append_cons_iff {β : Type} {q : List β → Prop} {x y : β} {l : List β} :
    (∀ first last, y :: l = first ++ x :: last → q first)
      ↔ (y = x → q []) ∧ ∀ first last, l = first ++ x :: last → q (y :: first) := by
  constructor
  · exact fun h => ⟨fun hy => h [] l (by rw [hy]; rfl), fun first last hl =>
      h (y :: first) last (by rw [hl]; rfl)⟩
  · rintro ⟨hnil, hcons⟩ first last hl
    cases first with
    | nil => exact hnil (List.cons.inj hl).1
    | cons z first =>
      obtain ⟨rfl, hrest⟩ := List.cons.inj hl
      exact hcons first last hrest

/-! ## Resting -/

namespace Performance

/-- **Whether a stopped performance is as it was**: it is stopped for the same reason, no frame has
been counted, and nothing has been drawn or read. -/
structure Rests (reason : Exit) (s s' : Performance σ α ε) : Prop where
  state_eq : s'.playback.state = .stopped reason
  shown_eq : s'.playback.shown = s.playback.shown
  deeds_eq : s'.acts.filter Act.isDeed = s.acts.filter Act.isDeed

variable {s s' s'' : Performance σ α ε} {reason : Exit}

/-- A playback that has stopped rests as it is. -/
theorem Rests.refl (stopped : s.playback.state = .stopped reason) : s.Rests reason s :=
  ⟨stopped, rfl, rfl⟩

/-- From a performance that rests one may count on. -/
theorem Rests.iff (rests : s.Rests reason s') : s.Rests reason s'' ↔ s'.Rests reason s'' := by
  constructor
  · exact fun h => ⟨h.state_eq, h.shown_eq.trans rests.shown_eq.symm,
      h.deeds_eq.trans rests.deeds_eq.symm⟩
  · exact fun h => ⟨h.state_eq, h.shown_eq.trans rests.shown_eq, h.deeds_eq.trans rests.deeds_eq⟩

end Performance

/-! ## A pass at a stopped playback -/

namespace Pass

/-- A playback is stopped if it is told to; otherwise its state stays. -/
theorem state_after (p : Playback α) (pass : Pass α ε) :
    (pass.after p).state = (pass.exit?.map PlaybackState.stopped).getD p.state := by
  cases pass <;> rfl

/-- No pass sets a stopped playback going. -/
theorem exists_stopped_after {p : Playback α} {reason : Exit} (stopped : p.state = .stopped reason)
    (pass : Pass α ε) : ∃ other, (pass.after p).state = .stopped other := by
  rw [state_after]
  cases pass.exit? with
  | none => exact ⟨reason, stopped⟩
  | some other => exact ⟨other, rfl⟩

/-- Nor do several. -/
theorem exists_stopped_foldl_after {p : Playback α} {reason : Exit}
    (stopped : p.state = .stopped reason) (passes : List (Pass α ε)) :
    ∃ other, (passes.foldl after p).state = .stopped other := by
  induction passes generalizing p reason with
  | nil => exact ⟨reason, stopped⟩
  | cons pass passes ih =>
    obtain ⟨other, hother⟩ := exists_stopped_after stopped pass
    exact ih hother

/-- Where a playback is told to stop, no frame is shown. -/
theorem shown_after {p : Playback α} {pass : Pass α ε} {reason : Exit}
    (h : pass.exit? = some reason) : (pass.after p).shown = p.shown := by
  cases pass with
  | shown f => simp [exit?] at h
  | _ => rfl

/-- Something is drawn or read unless the playback is told to stop. -/
theorem filter_isDeed_acts_eq_nil_iff [Scalar α] (camera : Camera α) (overlay : List (Tile α))
    (pass : Pass α ε) :
    (pass.acts camera overlay).filter Act.isDeed = [] ↔ pass.exit? ≠ none := by
  cases pass <;> simp [acts, exit?, ground, Act.isDeed]

end Pass

variable [Scalar α]

/-- What a pass is told is what the world has to say. -/
theorem Passed.exit?_eq {surface : Surface σ α ε} {p : Playback α} {world world' : σ}
    {pass : Pass α ε} (passed : Passed surface p world pass world') :
    (Playback.signal surface world).1 = pass.exit? := by
  cases passed with
  | interrupted stop => simp [Playback.signal, stop, Pass.exit?]
  | left go poll => simp [Playback.signal, go, poll, Pass.exit?]
  | failed go poll => simp [Playback.signal, go, poll, Pass.exit?]
  | shown go poll => simp [Playback.signal, go, poll, Pass.exit?]

namespace Performance

variable {surface : Surface σ α ε} {s s' : Performance σ α ε} {reason : Exit}

/-- A run leaves a stopped performance alone. -/
theorem heed_run_of_stopped (stopped : s.playback.state = .stopped reason) (bound : Nat) :
    s.heed surface (.run bound) = (some (.ran (some (.ok reason))), s) := by
  simp [heed, Playback.run_of_stopped _ _ stopped]

/-- A performance rests after a step that is told to stop, and after no other. -/
theorem rests_heed_step_iff :
    s.Rests reason (s.heed surface .step).2
      ↔ (Playback.signal surface s.world).1 = some reason := by
  -- A step is one pass, and only a pass that is told to exit draws and reads nothing.
  obtain ⟨pass, later, passed, hheed⟩ := s.heed_step surface
  rw [passed.exit?_eq, hheed]
  constructor
  · intro rests
    have hdeeds := rests.deeds_eq
    rw [List.filter_append, List.append_right_eq_self, Pass.filter_isDeed_acts_eq_nil_iff] at hdeeds
    have hstate := rests.state_eq
    rw [Pass.state_after] at hstate
    cases hexit : pass.exit? with
    | none => exact absurd hexit hdeeds
    | some other => simpa [hexit] using hstate
  · intro hexit
    refine ⟨?_, Pass.shown_after hexit, ?_⟩
    · simp [Pass.state_after, hexit]
    · have hnil : (pass.acts s.playback.camera s.playback.overlay).filter Act.isDeed = [] :=
        (Pass.filter_isDeed_acts_eq_nil_iff _ _ pass).mpr (by simp [hexit])
      rw [List.filter_append, hnil, List.append_nil]

/-- A cue leaves a stopped performance resting, a step only if it is told to stop. -/
theorem rests_heed_iff (stopped : s.playback.state = .stopped reason) (cue : Cue σ) :
    s.Rests reason (s.heed surface cue).2
      ↔ (cue = .step → (Playback.signal surface s.world).1 = some reason) := by
  cases cue with
  | step => simp [rests_heed_step_iff]
  | run bound => simp [heed_run_of_stopped stopped, Rests.refl stopped]
  | meanwhile change => exact iff_of_true ⟨stopped, rfl, rfl⟩ (by simp)

/-- A stopped performance never goes on running. -/
theorem exists_stopped (stopped : s.playback.state = .stopped reason) (cues : List (Cue σ)) :
    ∃ other, (s.perform surface cues).2.playback.state = .stopped other := by
  obtain ⟨passes, -, hplayback, -⟩ := s.performed_perform surface cues
  rw [hplayback]
  exact Pass.exists_stopped_foldl_after stopped passes

/-- A stopped performance rests as long as every step is told to stop for the same reason. -/
theorem rests_iff (stopped : s.playback.state = .stopped reason) (cues : List (Cue σ)) :
    (∀ earlier, earlier <+: cues → s.Rests reason (s.perform surface earlier).2)
      ↔ ∀ earlier later, cues = earlier ++ .step :: later →
        (Playback.signal surface (s.perform surface earlier).2.world).1 = some reason := by
  induction cues generalizing s with
  | nil => simp [Rests.refl stopped]
  | cons cue cues ih =>
    rw [forall_prefix_cons_iff, forall_append_cons_iff, perform_nil,
      and_iff_right (Rests.refl stopped)]
    -- What rests after every beginning rests after the first cue.
    have hcue : (∀ earlier, earlier <+: cues →
        s.Rests reason (s.perform surface (cue :: earlier)).2) →
        s.Rests reason (s.heed surface cue).2 := fun h => h [] List.nil_prefix
    rw [← and_iff_right_of_imp hcue, ← rests_heed_iff stopped cue]
    refine and_congr_right fun rests => ?_
    simp only [perform_cons, rests.iff]
    exact ih rests.state_eq

end Performance

/-- **How long a stopped playback rests.** Whatever is done with it and whatever the world does
meanwhile, it stays stopped. But it stays stopped for the same reason, with nothing drawn, read or
counted, exactly as long as every step is told to stop for that reason: runs leave it alone, and
steps do not look whether it is stopped. -/
theorem rests_iff_told (surface : Surface σ α ε) {s : Performance σ α ε} {reason : Exit}
    (stopped : s.playback.state = .stopped reason) (cues : List (Cue σ)) :
    (∃ other, (s.perform surface cues).2.playback.state = .stopped other)
      ∧ ((∀ earlier, earlier <+: cues → s.Rests reason (s.perform surface earlier).2)
        ↔ ∀ earlier later, cues = earlier ++ .step :: later →
          (Playback.signal surface (s.perform surface earlier).2.world).1 = some reason) :=
  ⟨Performance.exists_stopped stopped cues, Performance.rests_iff stopped cues⟩

/-! ### A world that follows a script -/

/-- A world in which all is laid down: whether the viewer is interrupted, what the window asks for,
and the frames to come. -/
structure Script (α : Type) where
  interrupted : Bool
  asks : Option Exit
  frames : List (Frame α)

namespace Script

/-- Frames come one after the other; then the connection is closed. -/
def surface : Surface (Script α) α SessionFault where
  isInterrupted w := w.interrupted
  pollExit w := (w.asks, w)
  draw _ w := w
  read w :=
    match w.frames with
    | [] => (.error .disconnected, w)
    | f :: frames => (.ok f, { w with frames })

/-- A camera that takes metres for pixels. -/
def camera : Camera Float32 := ⟨⟨1, .zero, .zero, 0⟩, ⟨1, 1⟩⟩

/-- An empty frame. -/
def frame : Frame Float32 := ⟨1, 0, 32, []⟩

/-- A playback that is interrupted before its first frame. -/
def interruption : Performance (Script Float32) Float32 SessionFault :=
  ((Performance.opening camera [] ⟨true, none, [frame]⟩).perform surface [.run 1]).2

/-- The interruption is withdrawn. -/
def withdraw (w : Script Float32) : Script Float32 := { w with interrupted := false }

/-- Then the window asks to stop. -/
def close (w : Script Float32) : Script Float32 := { w with asks := some .windowClosed }

/-- The playback has been told to stop, and the world still tells it so. -/
theorem interruption_eq :
    interruption = ⟨⟨camera, [], .stopped .interrupted, 0⟩, ⟨true, none, [frame]⟩, []⟩ := rfl

end Script

/-- An interrupted playback rests while the interruption lasts, whatever the window asks for. -/
theorem rests_iff_told_interruption :
    Script.interruption.playback.state = .stopped .interrupted
      ∧ Script.interruption.Rests .interrupted
        (Script.interruption.perform Script.surface
          [.run 2, .step, .meanwhile Script.close, .step]).2 := by
  refine ⟨rfl, ((rests_iff_told Script.surface rfl _).2.mpr fun earlier later hcues => ?_) _
    (List.prefix_refl _)⟩
  -- The second cue and the fourth are steps.
  match earlier, hcues with
  | [], hcues => cases hcues
  | [_], hcues => cases hcues; rfl
  | [_, _], hcues => cases hcues
  | [_, _, _], hcues => cases hcues; rfl
  | _ :: _ :: _ :: _ :: earlier, hcues => simp at hcues

/-- **A stopped playback need not rest.** When the interruption of a stopped playback is withdrawn,
the next step reads a frame, draws it and counts it; and when the window then asks to stop, the
reason becomes another. -/
theorem not_rests_withdrawn :
    Script.interruption.playback.state = .stopped .interrupted
      ∧ Script.interruption.playback.shown = 0
      ∧ Script.interruption.acts = []
      ∧ (Script.interruption.perform Script.surface
          [.meanwhile Script.withdraw, .step]).2.playback.shown = 1
      ∧ (Script.interruption.perform Script.surface [.meanwhile Script.withdraw, .step]).2.acts
        = [.poll none, .draw .background, .read (.ok Script.frame), .draw .present]
      ∧ (Script.interruption.perform Script.surface
          [.meanwhile Script.withdraw, .meanwhile Script.close, .step]).2.playback.state
        = .stopped .windowClosed := by
  rw [Script.interruption_eq]
  refine ⟨rfl, rfl, rfl, rfl, rfl, rfl⟩

end TownTraffic

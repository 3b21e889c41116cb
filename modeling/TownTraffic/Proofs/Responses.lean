import TownTraffic.Proofs.History
import TownTraffic.Proofs.Requests
import TownTraffic.Session.Connection

/-!
# Responses are read back

Whatever a viewer sends, a line that gets an answer gets a line that holds this answer and nothing
else: a text that is echoed cannot end it early, and the viewer reads the same response off it. The
numbers of a response are those of the town and its agents; that each of them is read back from its
own text is a matter of the number format and is assumed.

* **`Response.numbers`** — the floating-point numbers in a response.
* **`Response.carries`** — a response is carried if its numbers are.
* **`Host.Answers`** — the answers that a line can get.
* **`Host.ofText_line_of_receive`** — the answer to a line is read back.
-/

namespace TownTraffic

open Json Text

variable {α : Type}

/-! ## The numbers in a response -/

/-- The numbers in a place. -/
def Vec3.numbers (v : Vec3 α) : List α := [v.x, v.y, v.z]

/-- The numbers in an attitude. -/
def Attitude.numbers (a : Attitude α) : List α := [a.pitch, a.yaw, a.roll]

/-- The numbers in a pose. -/
def Pose.numbers (p : Pose α) : List α := p.location.numbers ++ p.attitude.numbers

/-- The numbers that tell about an agent. -/
def AgentKind.numbers : AgentKind α → List α
  | vehicle pose speed | pedestrian pose speed => pose.numbers ++ [speed]
  | speedLimitSign pose limit => pose.numbers ++ [limit]
  | trafficLight pose _ => pose.numbers

/-- The numbers in a response. -/
def Response.numbers : Response α → List α
  | town description => description.startSpots.flatMap Pose.numbers
  | frame f => f.agents.flatMap fun agent => agent.kind.numbers
  | ping _ | episodeReady _ | badRequest _ | badState => []

/-! ## Changing the numbers -/

/-- A place with other numbers. -/
def Vec3.map (f : α → α) (v : Vec3 α) : Vec3 α := ⟨f v.x, f v.y, f v.z⟩

/-- An attitude with other numbers. -/
def Attitude.map (f : α → α) (a : Attitude α) : Attitude α := ⟨f a.pitch, f a.yaw, f a.roll⟩

/-- A pose with other numbers. -/
def Pose.map (f : α → α) (p : Pose α) : Pose α := ⟨p.location.map f, p.attitude.map f⟩

/-- An agent with other numbers. -/
def AgentKind.map (f : α → α) : AgentKind α → AgentKind α
  | vehicle pose speed => vehicle (pose.map f) (f speed)
  | pedestrian pose speed => pedestrian (pose.map f) (f speed)
  | speedLimitSign pose limit => speedLimitSign (pose.map f) (f limit)
  | trafficLight pose signal => trafficLight (pose.map f) signal

/-- An agent with other numbers, but the same identity. -/
def Agent.map (f : α → α) (a : Agent α) : Agent α := ⟨a.id, a.kind.map f⟩

/-- A frame whose agents have other numbers. -/
def Frame.map (f : α → α) (frame : Frame α) : Frame α :=
  { frame with agents := frame.agents.map (Agent.map f) }

/-- A description whose spots have other numbers. -/
def TownDescription.map (f : α → α) (d : TownDescription α) : TownDescription α :=
  ⟨d.mapName, d.startSpots.map (Pose.map f)⟩

/-- A response with other numbers. -/
def Response.map (f : α → α) : Response α → Response α
  | town description => town (description.map f)
  | frame shown => frame (shown.map f)
  | response => response

/-- An agent's kind whose numbers are left alone is left alone. -/
theorem AgentKind.map_self (k : AgentKind α) : (k.map fun x => x) = k := by cases k <;> rfl

/-- Agents whose numbers are left alone are left alone. -/
theorem Agent.map_self : Agent.map (fun x : α => x) = fun a => a :=
  funext fun a => by simp [map, AgentKind.map_self]

/-- A response whose numbers stay the same stays the same. -/
theorem Response.map_self (r : Response α) : (r.map fun x => x) = r := by
  cases r with
  | town description =>
    have hpose : Pose.map (fun x : α => x) = fun p => p := rfl
    simp [map, TownDescription.map, hpose]
  | frame shown => simp [map, Frame.map, Agent.map_self]
  | _ => rfl

/-! ## What responses are made of -/

open Codec (ReadsBack)

/-- **Whether a binary32 number is read as another one.** -/
def Json.Codec.IsReadAs (x y : Float32) : Prop := ∀ depth, (Codec.real32 "f32").Conveys depth x y

/-- A number that is read back is read as itself. -/
theorem Json.Codec.ReadsBack.isReadAs {x : Float32} (h : ReadsBack x) : Codec.IsReadAs x x :=
  fun depth => (Codec.carries_real32 h depth).conveys

open Codec (IsReadAs)

section

variable {f : Float32 → Float32}

/-- A position is conveyed if its numbers are read, each as its reading. -/
theorem Vec3.conveys {v : Vec3 Float32} (h : ∀ x ∈ v.numbers, IsReadAs x (f x)) (depth : Nat) :
    (Wire.codec : Codec (Vec3 Float32)).Conveys (depth + 1) v (v.map f) := by
  obtain ⟨hx, hy, hz⟩ : IsReadAs v.x (f v.x) ∧ IsReadAs v.y (f v.y) ∧ IsReadAs v.z (f v.z) := by
    simpa [numbers] using h
  exact Codec.conveys_record (by decide) ((f v.x, f v.y, f v.z, ()))
    ⟨hx _, hy _, hz _, trivial⟩ rfl

/-- An attitude is conveyed if its angles are read. -/
theorem Attitude.conveys {a : Attitude Float32} (h : ∀ x ∈ a.numbers, IsReadAs x (f x))
    (depth : Nat) : (Wire.codec : Codec (Attitude Float32)).Conveys (depth + 1) a (a.map f) := by
  obtain ⟨hpitch, hyaw, hroll⟩ :
      IsReadAs a.pitch (f a.pitch) ∧ IsReadAs a.yaw (f a.yaw) ∧ IsReadAs a.roll (f a.roll) := by
    simpa [numbers] using h
  exact Codec.conveys_record (by decide) ((f a.pitch, f a.yaw, f a.roll, ()))
    ⟨hpitch _, hyaw _, hroll _, trivial⟩ rfl

/-- A pose is conveyed if its numbers are read. -/
theorem Pose.conveys {p : Pose Float32} (h : ∀ x ∈ p.numbers, IsReadAs x (f x)) (depth : Nat) :
    (Wire.codec : Codec (Pose Float32)).Conveys (depth + 2) p (p.map f) := by
  obtain ⟨hlocation, hattitude⟩ := List.forall_mem_append.mp h
  exact Codec.conveys_record (by decide) ((p.location.map f, p.attitude.map f, ()))
    ⟨Vec3.conveys hlocation _, Attitude.conveys hattitude _, trivial⟩ rfl

/-- A pose is conveyed next to a number. -/
theorem Pose.conveys_with {p : Pose Float32} {number : Float32}
    (h : ∀ x ∈ p.numbers ++ [number], IsReadAs x (f x)) (depth : Nat) :
    (Wire.codec : Codec (Pose Float32)).Conveys (depth + 2) p (p.map f)
      ∧ (Wire.codec : Codec Float32).Conveys (depth + 2) number (f number) := by
  obtain ⟨hpose, hnumber⟩ := List.forall_mem_append.mp h
  exact ⟨Pose.conveys hpose depth, hnumber number (List.mem_singleton_self number) _⟩

/-- A signal is carried by its name. -/
theorem Signal.carries (depth : Nat) (s : Signal) :
    (Wire.codec : Codec Signal).Carries depth s := by
  cases s <;> exact Variants.carries_choice rfl rfl depth

/-- What is known of an agent is conveyed under the name of its kind. -/
theorem AgentKind.conveys {k : AgentKind Float32} (h : ∀ x ∈ k.numbers, IsReadAs x (f x))
    (depth : Nat) : ∃ v, variants.Conveys (depth + 2) k (k.map f) v := by
  cases k with
  | vehicle pose speed =>
    obtain ⟨hpose, hspeed⟩ := Pose.conveys_with h depth
    exact ⟨_, Variants.conveys_record rfl rfl ((pose.map f, f speed, ())) rfl (by decide)
      ⟨hpose, hspeed, trivial⟩⟩
  | pedestrian pose speed =>
    obtain ⟨hpose, hspeed⟩ := Pose.conveys_with h depth
    exact ⟨_, Variants.conveys_record rfl rfl ((pose.map f, f speed, ())) rfl (by decide)
      ⟨hpose, hspeed, trivial⟩⟩
  | speedLimitSign pose limit =>
    obtain ⟨hpose, hlimit⟩ := Pose.conveys_with h depth
    exact ⟨_, Variants.conveys_record rfl rfl ((pose.map f, f limit, ())) rfl (by decide)
      ⟨hpose, hlimit, trivial⟩⟩
  | trafficLight pose signal =>
    exact ⟨_, Variants.conveys_record rfl rfl ((pose.map f, signal, ())) rfl (by decide)
      ⟨Pose.conveys h depth, (Signal.carries _ signal).conveys, trivial⟩⟩

/-- An agent is conveyed if the numbers of its kind are read. -/
theorem Agent.conveys {a : Agent Float32} (h : ∀ x ∈ a.kind.numbers, IsReadAs x (f x))
    (depth : Nat) : (Wire.codec : Codec (Agent Float32)).Conveys (depth + 4) a (Agent.map f a) := by
  obtain ⟨v, hkind⟩ := AgentKind.conveys h depth
  exact Codec.conveys_record (by decide) ((a.id, a.kind.map f, ()))
    ⟨(Codec.carries_word32 _ _ _).conveys, hkind.tagged, trivial⟩ rfl

/-- A frame is conveyed if the numbers of all its agents are read. -/
theorem Frame.conveys {shown : Frame Float32}
    (h : ∀ agent ∈ shown.agents, ∀ x ∈ agent.kind.numbers, IsReadAs x (f x)) (depth : Nat) :
    (Wire.codec : Codec (Frame Float32)).Conveys (depth + 6) shown (shown.map f) := by
  have hagents : (Wire.codec : Codec (List (Agent Float32))).Conveys (depth + 5) shown.agents
      (shown.agents.map (Agent.map f)) :=
    Codec.conveys_list fun agent hagent => Agent.conveys (h agent hagent) depth
  exact Codec.conveys_record (by decide)
    ((shown.number, shown.reportedAt, shown.gameTime, shown.agents.map (Agent.map f), ()))
    ⟨(Codec.carries_word64 _ _ _).conveys, (Codec.carries_integer64 _ _ _).conveys,
      (Codec.carries_word64 _ _ _).conveys, hagents, trivial⟩ rfl

/-- The description of a town is conveyed if the numbers of all its spots are read. -/
theorem TownDescription.conveys {d : TownDescription Float32}
    (h : ∀ spot ∈ d.startSpots, ∀ x ∈ spot.numbers, IsReadAs x (f x)) (depth : Nat) :
    (Wire.codec : Codec (TownDescription Float32)).Conveys (depth + 4) d (d.map f) := by
  have hspots : (Wire.codec : Codec (List (Pose Float32))).Conveys (depth + 3) d.startSpots
      (d.startSpots.map (Pose.map f)) :=
    Codec.conveys_list fun spot hspot => Pose.conveys (h spot hspot) depth
  exact Codec.conveys_record (by decide) ((d.mapName, d.startSpots.map (Pose.map f), ()))
    ⟨(Codec.carries_string _ _ _).conveys, hspots, trivial⟩ rfl

end

namespace Response

/-- **A response is conveyed** by the form of responses number by number. -/
theorem conveys {f : Float32 → Float32} {r : Response Float32}
    (h : ∀ x ∈ r.numbers, IsReadAs x (f x)) (depth : Nat) :
    ∃ v, variants.Conveys (depth + 6) r (r.map f) v := by
  cases r with
  | ping payload =>
    exact ⟨_, Variants.conveys_record rfl rfl ((payload, ())) rfl (by decide)
      ⟨(Request.carries_payload _ payload).conveys, trivial⟩⟩
  | town description =>
    have hspots : ∀ spot ∈ description.startSpots, ∀ x ∈ spot.numbers, IsReadAs x (f x) :=
      fun spot hspot x hx => h x (List.mem_flatMap.mpr ⟨spot, hspot, hx⟩)
    exact ⟨_, Variants.conveys_record rfl rfl ((description.map f, ())) rfl (by decide)
      ⟨TownDescription.conveys hspots _, trivial⟩⟩
  | episodeReady ready =>
    exact ⟨_, Variants.conveys_record rfl rfl ((ready, ())) rfl (by decide)
      ⟨(Codec.carries_boolean _ ready).conveys, trivial⟩⟩
  | frame shown =>
    have hagents : ∀ agent ∈ shown.agents, ∀ x ∈ agent.kind.numbers, IsReadAs x (f x) :=
      fun agent hagent x hx => h x (List.mem_flatMap.mpr ⟨agent, hagent, hx⟩)
    exact ⟨_, Variants.conveys_record rfl rfl ((shown.map f, ())) rfl (by decide)
      ⟨Frame.conveys hagents _, trivial⟩⟩
  | badRequest reason =>
    exact ⟨_, Variants.conveys_record rfl rfl ((reason, ())) rfl (by decide)
      ⟨(Codec.carries_string _ _ reason).conveys, trivial⟩⟩
  | badState => exact ⟨_, (Variants.carries_bare rfl rfl _).conveys⟩

/-- **A response is read off its line number by number.** -/
theorem ofText_line_of_isReadAs {f : Float32 → Float32} {r : Response Float32}
    (h : ∀ x ∈ r.numbers, IsReadAs x (f x)) :
    (Wire.codec : Codec (Response Float32)).ofText r.line = .ok (r.map f) := by
  obtain ⟨v, conveys⟩ := conveys h 120
  exact Codec.ofText_toText_of_conveys rfl conveys

/-- **A response is carried** by the form of responses if its numbers are read back. -/
theorem carries {r : Response Float32} (h : ∀ x ∈ r.numbers, ReadsBack x) (depth : Nat) :
    ∃ v, variants.Carries (depth + 6) r v := by
  obtain ⟨v, conveys⟩ := conveys (f := fun x => x) (fun x hx => (h x hx).isReadAs) depth
  rw [map_self] at conveys
  exact ⟨v, conveys.carries⟩

/-- **A response is read off its line.** -/
theorem ofText_line {r : Response Float32} (h : ∀ x ∈ r.numbers, ReadsBack x) :
    (Wire.codec : Codec (Response Float32)).ofText r.line = .ok r := by
  obtain ⟨v, carries⟩ := carries h 120
  exact Codec.ofText_toText rfl carries

/-- **A response has a line to itself.** -/
theorem fits_line {r : Response Float32} (h : ∀ x ∈ r.numbers, ReadsBack x) : Line.Fits r.line := by
  obtain ⟨v, carries⟩ := carries h 120
  exact Codec.fits_toText carries

end Response

/-! ## The answer to a line -/

/-- **The answers that a line can get**: the refusal of what is no request or needs something
spoiled, or else what the service of the request answers. -/
inductive Host.Answers [Scalar α] (h : Host α) (viewer : Nat) (text : String)
    (around : Surroundings) : Response α → Prop
  /-- The line is no request. -/
  | unreadable {report : Report} (unread : Request.ofLine text = .error report) :
    Answers h viewer text around (unreadable text report)
  /-- The request needs something spoiled. -/
  | refused {request : Request} (read : Request.ofLine text = .ok request)
    (spoiled : ((h.progress viewer).spoiled || h.simulator.spoiled) = true) :
    Answers h viewer text around (.badRequest spoiledReason)
  /-- The request is served. -/
  | served {request : Request} {r : Response α} (read : Request.ofLine text = .ok request)
    (sound : ((h.progress viewer).spoiled || h.simulator.spoiled) = false)
    (serves : (serve around request (h.progress viewer).value h.simulator.value).1 = .answer r) :
    Answers h viewer text around r

/-- What is answered has one of the reasons why a line is answered. -/
theorem Host.answers_of_receive [Scalar α] {h : Host α} {viewer : Nat} {text : String}
    {around : Surroundings} {r : Response α}
    (answered : (h.receive viewer text around).1 = .answer r) : h.Answers viewer text around r := by
  rw [receive_eq] at answered
  cases read : Request.ofLine text with
  | error report =>
    simp only [route, read] at answered
    obtain rfl := Outcome.answer.inj answered
    exact .unreadable read
  | ok request =>
    cases sound : (h.progress viewer).spoiled || h.simulator.spoiled with
    | true =>
      simp only [route, read, sound, if_true] at answered
      obtain rfl := Outcome.answer.inj answered
      exact .refused read sound
    | false =>
      simp only [route, read, sound, Bool.false_eq_true, if_false] at answered
      refine .served read sound ?_
      -- Only a service that breaks off leaves more behind than it answers.
      split at answered
      case h_1 => cases answered
      case h_2 hserve => rwa [hserve]

/-- **The answer to a line is read back.** At any host, however it was reached, whatever the line:
if it gets an answer, with numbers that are finite, the line of the answer has no line feed, the
viewer reads it off the connection whatever is sent behind it, and what it says is the answer. It is
assumed of the number format that these finite numbers are read back. -/
theorem Host.ofText_line_of_receive {h : Host Float32} {viewer : Nat} {text : String}
    {around : Surroundings} {r : Response Float32}
    (answered : (h.receive viewer text around).1 = .answer r)
    (finite : ∀ x ∈ r.numbers, x.isFinite = true)
    (readsBack : ∀ x ∈ r.numbers, x.isFinite = true → ReadsBack x) :
    h.Answers viewer text around r
      ∧ Line.feed ∉ Utf8.encode r.line
      ∧ (Wire.codec : Codec (Response Float32)).ofText r.line = .ok r
      ∧ ∀ (rest : List UInt8) (ended : Bool),
        Inbox.take ⟨r.bytes ++ rest, ended⟩ = (.line r.line, ⟨rest, ended⟩) := by
  have hnumbers : ∀ x ∈ r.numbers, ReadsBack x := fun x hx => readsBack x hx (finite x hx)
  have fits := Response.fits_line hnumbers
  exact ⟨answers_of_receive answered, Utf8.feed_not_mem_encode fits.feed_not_mem,
    Response.ofText_line hnumbers, Inbox.take_ofText fits⟩

/-! ### A vehicle and a pedestrian -/

/-- A viewer who has asked for a staged episode and been put on a spot. -/
def Staged.entered {town : Town Float32} (p : Staged town) : List Event := [
  .line 0 (Request.configure p.settings).line ⟨0, ⟨0, 0⟩⟩,
  .line 0 (Request.startEpisode 0).line ⟨0, ⟨0, 0⟩⟩]

/-- It is sent the first frame of the episode. -/
theorem Host.receive_entered {town : Town Float32} (p : Staged town) (h : 0 < town.spotCount) :
    (((fresh town).after p.entered).receive 0 Request.readFrame.line ⟨0, ⟨0, 0⟩⟩).1
      = .answer (.frame (p.episode.frame 0)) := by
  simp [Staged.entered, step, receive_eq, route, Request.ofLine_line, serve, fresh, Guarded.sound,
    Progress.start, Simulator.idle, Simulator.configure, Simulator.publish, Simulator.look, h]

/-- All numbers in the first frame of an episode with a vehicle and a pedestrian are finite, and
each is read back from its own text. -/
theorem Staged.numbers_pair :
    (Response.frame (Staged.pair.episode.frame 0)).numbers.length = 45
      ∧ ∀ x ∈ (Response.frame (Staged.pair.episode.frame 0)).numbers, x.isFinite = true
        ∧ ((Codec.real32 "f32").ofText ((Codec.real32 "f32").toText x)).toOption = some x := by
  decide +kernel

/-- A viewer is sent a vehicle, a pedestrian, the lights and the sign, and the numbers of their
poses and speeds are read back. -/
theorem Host.ofText_line_of_receive_pair :
    ∃ r : Response Float32,
      (((Host.fresh Town.served).after Staged.pair.entered).receive 0 Request.readFrame.line
          ⟨0, ⟨0, 0⟩⟩).1 = .answer r
        ∧ r = .frame (Staged.pair.episode.frame 0)
        ∧ r.numbers.length = 45
        ∧ Line.feed ∉ Utf8.encode r.line
        ∧ (Wire.codec : Codec (Response Float32)).ofText r.line = .ok r := by
  obtain ⟨count, numbers⟩ := Staged.numbers_pair
  have readsBack : ∀ x ∈ (Response.frame (Staged.pair.episode.frame 0)).numbers,
      x.isFinite = true → ReadsBack x := by
    intro x hx _
    have htext := (numbers x hx).2
    unfold ReadsBack
    cases hread : (Codec.real32 "f32").ofText ((Codec.real32 "f32").toText x) with
    | error report => simp [hread, Except.toOption] at htext
    | ok y => simpa [hread, Except.toOption] using htext
  have answered := Host.receive_entered .pair (by decide)
  obtain ⟨-, hfeed, htext, -⟩ :=
    Host.ofText_line_of_receive answered (fun x hx => (numbers x hx).1) readsBack
  exact ⟨_, answered, rfl, count, hfeed, htext⟩

end TownTraffic

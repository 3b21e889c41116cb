import TownTraffic.Proofs.Forms
import TownTraffic.Proofs.Streams
import TownTraffic.Session.Service

/-!
# Requests are read back

Whatever a viewer asks, its line holds the request and nothing but the request: neither the texts in
it nor its numbers can end the line early, and the service reads the same request off it. So a
stream of requests is read as those requests, in the same order.

* **`Request.carries`** — every request is carried by the form of requests.
* **`Request.fits_line`** — every request has a line to itself.
* **`Request.streams_read_back`** — streams of requests are read back.
-/

namespace TownTraffic

open Json Text

/-- **What is carried with its name inside has a line to itself.** -/
theorem Json.Codec.fits_toText {β : Type} {vs : Variants β} {depth : Nat} {x : β} {v : Variant β}
    (carries : vs.Carries depth x v) : Line.Fits ((Codec.tagged vs).toText x) where
  feed_not_mem := by
    intro hmem
    have hle := Codec.printable_toText carries '\n' hmem
    exact absurd hle (by decide)
  head? := by
    intro c hc
    rw [Codec.head?_toText] at hc
    obtain rfl := Option.some.inj hc
    rfl
  getLast? := by
    intro c hc
    rw [Codec.getLast?_toText] at hc
    obtain rfl := Option.some.inj hc
    rfl

/-! ## What requests are made of -/

/-- A quality is carried by its name. -/
theorem Quality.carries (depth : Nat) (q : Quality) :
    (Wire.codec : Codec Quality).Carries depth q := by
  cases q <;> exact Variants.carries_choice rfl rfl depth

/-- A seed is carried, and so is that there is none. -/
theorem Settings.carries_seed (depth : Nat) (seed : Option UInt64) :
    (Wire.codec : Codec (Option UInt64)).Carries depth seed :=
  Codec.carries_optional fun n _ => ⟨Codec.carries_word64 _ depth n, nofun⟩

/-- Settings are carried, since their members are. -/
theorem Settings.carries (depth : Nat) (s : Settings) :
    (Wire.codec : Codec Settings).Carries (depth + 1) s :=
  Codec.carries_record (by decide)
    ⟨Codec.carries_boolean _ _, Codec.carries_boolean _ _, Codec.carries_word32 _ _ _,
      Codec.carries_word32 _ _ _, Codec.carries_word32 _ _ _, Quality.carries _ _,
      carries_seed _ _, carries_seed _ _, trivial⟩ rfl

/-- A payload is carried, whatever characters it has. -/
theorem Request.carries_payload (depth : Nat) (payload : Option String) :
    (Wire.codec : Codec (Option String)).Carries depth payload :=
  Codec.carries_optional fun s _ => ⟨Codec.carries_string _ depth s, nofun⟩

namespace Request

/-- **Every request is carried** by the form of requests. -/
theorem carries (r : Request) (depth : Nat) : ∃ v, variants.Carries (depth + 1) r v := by
  cases r with
  | ping payload =>
    exact ⟨_, Variants.carries_record rfl rfl rfl (by decide) ⟨carries_payload _ payload, trivial⟩⟩
  | configure settings =>
    exact ⟨_, Variants.carries_record rfl rfl rfl (by decide) ⟨settings.carries depth, trivial⟩⟩
  | startEpisode spot =>
    exact ⟨_, Variants.carries_record rfl rfl rfl (by decide)
      ⟨Codec.carries_word64 _ _ spot, trivial⟩⟩
  | readFrame => exact ⟨_, Variants.carries_bare rfl rfl _⟩

/-- **A request is read off its line.** -/
theorem ofLine_line (r : Request) : ofLine r.line = .ok r := by
  obtain ⟨v, carries⟩ := r.carries 125
  exact Codec.ofText_toText rfl carries

/-- **Every request has a line to itself.** -/
theorem fits_line (r : Request) : Line.Fits r.line := by
  obtain ⟨v, carries⟩ := r.carries 125
  exact Codec.fits_toText carries

/-! ## Streams of requests -/

/-- The bytes of a request on a line of its own. -/
def bytes (r : Request) : List UInt8 := Line.ofText r.line

/-- The requests on the lines of a stream, each line without the blanks at its ends; none where a
line holds no request. -/
def ofStream (stream : List UInt8) : List (Option Request) :=
  (Line.split stream).map fun line =>
    (Line.text line).toOption.bind fun text => (ofLine text).toOption

/-- The requests of a stream are those that were sent. -/
theorem ofStream_flatMap_bytes (requests : List Request) :
    ofStream (requests.flatMap bytes) = requests.map some := by
  have hlines : requests.flatMap bytes = (requests.map line).flatMap Line.ofText := by
    rw [List.flatMap_map]
    rfl
  have hfits : ∀ text ∈ requests.map line, Line.Fits text := by
    intro text htext
    obtain ⟨r, -, rfl⟩ := List.mem_map.mp htext
    exact r.fits_line
  rw [ofStream, hlines, Line.split_flatMap_ofText hfits, List.map_map, List.map_map]
  refine List.map_congr_left fun r _ => ?_
  show (Line.text (Line.ofText r.line)).toOption.bind (fun text => (ofLine text).toOption) = some r
  rw [Line.text_ofText r.fits_line]
  show (ofLine r.line).toOption = some r
  rw [r.ofLine_line]
  rfl

/-- **A stream of requests is read as those requests**, none of which can end its line early: for
every request the line starts and ends with a brace, has no line feed and is read as the request,
and the service takes it off the stream as it is, whatever has arrived behind it. -/
theorem streams_read_back :
    (∀ r : Request,
      Line.feed ∉ Utf8.encode r.line ∧ r.line.toList.head? = some '{'
        ∧ r.line.toList.getLast? = some '}' ∧ ofLine r.line = .ok r
        ∧ ∀ (rest : List UInt8) (ended : Bool),
          Inbox.take ⟨r.bytes ++ rest, ended⟩ = (.line r.line, ⟨rest, ended⟩))
    ∧ ∀ requests : List Request, ofStream (requests.flatMap bytes) = requests.map some := by
  refine ⟨fun r => ?_, ofStream_flatMap_bytes⟩
  have fits := r.fits_line
  exact ⟨Utf8.feed_not_mem_encode fits.feed_not_mem, Codec.head?_toText _ _,
    Codec.getLast?_toText _ _, r.ofLine_line, Inbox.take_ofText fits⟩

end Request

end TownTraffic

import TownTraffic.Binary.Instance
import TownTraffic.Chart.Sheet
import TownTraffic.Proofs.Entries
import Mathlib

/-!
# Where the image of a map is looked for

A descriptor gives the path of its image. The image is looked for under this path from the directory
of maps, even if the descriptor itself lies further down. So it is found beside its descriptor just
if the descriptor lies directly in the directory of maps, or by chance.

* **`Folder.place`** — the place that steps lead to; **`Folder.descent?`** the steps that remain of
  a path which never climbs above its start.
* **`Folder.exists_place_of_follow`** — a file that is found is at the place that the steps lead to.
* **`extension?_joinPath`** — the extension of a file is the same from every directory.
* **`Folder.HasImage`**, **`Sheet.openImage_eq_ok_iff`** — images under a path.
* **`Sheet.home`** — the directory of a descriptor; **`Sheet.OpensFrom`** — whether an image is
  looked for from a directory.
* **`Sheet.opens_from_maps`** — where it is looked for.
-/

namespace TownTraffic

/-! ## Places -/

namespace Folder

/-- The place that steps lead to from a directory. -/
def place : (directory : List String) → (steps : List String) → List String
  | directory, [] => directory
  | directory, step :: steps =>
    if step = "" ∨ step = "." then place directory steps
    else if step = ".." then place directory.dropLast steps
    else place (directory ++ [step]) steps

/-- The names that remain of steps, if these never climb above where they start. -/
def descent? : (taken : List String) → (steps : List String) → Option (List String)
  | taken, [] => some taken
  | taken, step :: steps =>
    if step = "" ∨ step = "." then descent? taken steps
    else if step = ".." then
      if taken = [] then none else descent? taken.dropLast steps
    else descent? (taken ++ [step]) steps

/-- Steps that do not climb above where they start lead as far down from every directory. -/
theorem place_append_of_descent? {taken steps names : List String} (directory : List String)
    (h : descent? taken steps = some names) :
    place (directory ++ taken) steps = directory ++ names := by
  fun_induction descent? taken steps with
  | case1 taken =>
    obtain rfl := Option.some.inj h
    rfl
  | case2 taken step steps hstay ih => rw [place, if_pos hstay, ih h]
  | case3 => cases h
  | case4 taken steps hne hstay ih =>
    rw [place, if_neg hstay, if_pos rfl, List.dropLast_append_of_ne_nil hne, ih h]
  | case5 taken step steps hstay hup ih =>
    rw [place, if_neg hstay, if_neg hup, List.append_assoc, ih h]

/-- **A file that is found lies at the place that the steps lead to**, and they do take a step. -/
theorem exists_place_of_follow {f : Folder} {start steps : List String} {bytes : List UInt8}
    (h : f.follow start steps = .ok (.file bytes)) :
    (∃ directory name, place start steps = directory ++ [name]
        ∧ f.entry? (directory ++ [name]) = some (.file bytes))
      ∧ ∃ step ∈ steps, step ≠ "" ∧ step ≠ "." := by
  -- On the steps, as they are followed: staying, going up, and down into a directory or a file.
  fun_induction follow f start steps with
  | case1 => cases h
  | case2 start step steps hstay ih =>
    obtain ⟨hplace, other, hmem, hother⟩ := ih h
    exact ⟨by rwa [place, if_pos hstay], other, List.mem_cons_of_mem step hmem, hother⟩
  | case3 start steps hstay ih =>
    obtain ⟨hplace, other, hmem, hother⟩ := ih h
    exact ⟨by rwa [place, if_neg hstay, if_pos rfl], other, List.mem_cons_of_mem _ hmem, hother⟩
  | case4 => cases h
  | case5 => cases h
  | case6 start step steps hstay hup hshort hentry ih =>
    obtain ⟨hplace, other, hmem, hother⟩ := ih h
    exact ⟨by rwa [place, if_neg hstay, if_neg hup], other, List.mem_cons_of_mem _ hmem, hother⟩
  | case7 start step hstay hup hshort found hentry =>
    obtain rfl : found = bytes := by
      simpa using h
    refine ⟨⟨start, step, ?_, hentry⟩, step, List.mem_singleton_self step, not_or.mp hstay⟩
    rw [place, if_neg hstay, if_neg hup, place]
  | case8 => cases h

end Folder

/-! ## Paths below a directory -/

/-- The names of a path are those before a stroke and those behind it. -/
theorem pathNames_append_stroke (directory path : String) :
    pathNames (directory ++ "/" ++ path) = pathNames directory ++ pathNames path := by
  have hstroke : (directory ++ "/" ++ path).toList = directory.toList ++ '/' :: path.toList := by
    rw [String.toList_append, String.toList_append, List.append_assoc]
    rfl
  rw [pathNames, hstroke, List.splitOn_append_cons_self, List.map_append, ← pathNames, ← pathNames]

/-- A path below a directory ends in the names of the path. -/
theorem exists_pathNames_joinPath (directory : String) {path : String}
    (relative : isAbsolute path = false) :
    ∃ names, pathNames (joinPath directory path) = names ++ pathNames path := by
  rw [joinPath, if_neg (by rw [relative]; exact Bool.false_ne_true)]
  by_cases hempty : directory = ""
  case pos => exact ⟨[], by simp [hempty]⟩
  case neg =>
    have hfull : directory.isEmpty = false := by
      simpa using hempty
    rw [hfull, Bool.false_or]
    split
    case isTrue hends =>
      obtain ⟨front, hfront⟩ : ∃ front, directory.toList = front ++ ['/'] :=
        List.getLast?_eq_some_iff.mp (beq_iff_eq.mp hends)
      have hdirectory : directory = .ofList front ++ "/" :=
        String.toList_inj.mp (by simp [hfront])
      exact ⟨pathNames (.ofList front), by rw [hdirectory, pathNames_append_stroke]⟩
    case isFalse => exact ⟨pathNames directory, pathNames_append_stroke directory path⟩

/-- **The extension of a file is the same from every directory**, if the path of the file takes a
step. -/
theorem extension?_joinPath (directory : String) {path : String}
    (relative : isAbsolute path = false) (h : ∃ step ∈ pathNames path, step ≠ "" ∧ step ≠ ".") :
    extension? (joinPath directory path) = extension? path := by
  obtain ⟨names, hnames⟩ := exists_pathNames_joinPath directory relative
  obtain ⟨step, hmem, hstep⟩ := h
  -- The last name that counts is one of the path's own.
  obtain ⟨last, hlast⟩ : ∃ last,
      ((pathNames path).filter fun name => name != "" && name != ".").getLast? = some last := by
    refine Option.ne_none_iff_exists'.mp (mt List.getLast?_eq_none_iff.mp ?_)
    refine List.ne_nil_of_mem (a := step) (List.mem_filter.mpr ⟨hmem, ?_⟩)
    simpa using hstep
  rw [extension?, extension?, fileName?, fileName?, hnames, List.filter_append,
    List.getLast?_append, hlast, Option.some_or]

/-! ## Images -/

/-- **Whether there is an image** at the place that a path leads to from a directory: a file with
the extension of the format that can be read, and the picture in it. -/
structure Folder.HasImage (f : Folder) (directory : List String) (path : String)
    (place : List String) (picture : Png.Picture) : Prop where
  endless : path.toList.contains '\x00' = false
  leads : Folder.place directory (pathNames path) = place
  shows : ∃ bytes, f.follow directory (pathNames path) = .ok (.file bytes)
    ∧ f.entry? place = some (.file bytes) ∧ Png.picture? bytes = some picture
  format : ∃ extension, extension? path = some extension
    ∧ ImageFormat.ofExtension? extension = some .png

/-- A format is accepted just if the extension is that of the only one that can be read. -/
theorem checkFormat_eq_ok_iff (path : String) : checkFormat path = .ok () ↔
    ∃ extension, extension? path = some extension
      ∧ ImageFormat.ofExtension? extension = some .png := by
  cases hextension : extension? path with
  | none => simp [checkFormat, hextension]
  | some extension =>
    simp only [checkFormat, hextension, Option.some.injEq, exists_eq_left']
    cases hformat : ImageFormat.ofExtension? extension with
    | none => simp
    | some format => cases format <;> simp

namespace Folder

variable {f : Folder} {path : String} {bytes : List UInt8}

/-- A path leads to a file if its names do. -/
theorem find_eq_file_iff : f.find path = .ok (.file bytes) ↔
    path.toList.contains '\x00' = false
      ∧ f.follow (f.start path) (pathNames path) = .ok (.file bytes) := by
  rw [find]
  cases path.toList.contains '\x00' <;> simp

/-- Bytes are those of the file that the path leads to. -/
theorem find_of_bytes (h : f.bytes path = .ok bytes) : f.find path = .ok (.file bytes) := by
  rw [Folder.bytes] at h
  split at h
  case h_1 found hfind =>
    obtain rfl := Except.ok.inj h
    exact hfind
  case h_2 => cases h
  case h_3 => cases h

/-- A relative path starts at the folder. -/
theorem start_of_relative (f : Folder) (relative : isAbsolute path = false) :
    f.start path = f.home := by
  simp [start, relative]

end Folder

namespace Sheet

/-- An image is opened if its path leads to a file of the right format with the picture in it. -/
theorem openImage_eq_ok_iff_find (maps : Folder) (directory path : String) (picture : Png.Picture) :
    openImage maps directory path = .ok picture ↔
      ∃ bytes, maps.find path = .ok (.file bytes)
        ∧ checkFormat (joinPath directory path) = .ok () ∧ Png.picture? bytes = some picture := by
  simp only [openImage, bind_eq_ok_iff, mapError_eq_ok_iff]
  constructor
  · rintro ⟨entry, hfind, ⟨⟩, hformat, hpicture⟩
    cases entry with
    | directory => cases hpicture
    | file bytes =>
      refine ⟨bytes, hfind, hformat, ?_⟩
      cases hdecoded : Png.picture? bytes with
      | none => simp [hdecoded] at hpicture
      | some found => simpa [hdecoded] using hpicture
  · rintro ⟨bytes, hfind, hformat, hpicture⟩
    exact ⟨.file bytes, hfind, (), hformat, by simp [hpicture]⟩

/-- **An image is opened just if it is there**, at the place that its path leads to from the
directory of maps. -/
theorem openImage_eq_ok_iff (maps : Folder) (directory : String) {path : String}
    (relative : isAbsolute path = false) (picture : Png.Picture) :
    openImage maps directory path = .ok picture
      ↔ ∃ place, maps.HasImage maps.home path place picture := by
  rw [openImage_eq_ok_iff_find]
  constructor
  · rintro ⟨bytes, hfind, hformat, hpicture⟩
    obtain ⟨hendless, hfollow⟩ := Folder.find_eq_file_iff.mp hfind
    rw [maps.start_of_relative relative] at hfollow
    obtain ⟨⟨home, name, hplace, hentry⟩, hstep⟩ := Folder.exists_place_of_follow hfollow
    rw [checkFormat_eq_ok_iff, extension?_joinPath directory relative hstep] at hformat
    exact ⟨home ++ [name], hendless, hplace, ⟨bytes, hfollow, hentry, hpicture⟩, hformat⟩
  · rintro ⟨place, image⟩
    obtain ⟨bytes, hfollow, -, hpicture⟩ := image.shows
    have hstep := (Folder.exists_place_of_follow hfollow).2
    rw [← maps.start_of_relative relative] at hfollow
    refine ⟨bytes, Folder.find_eq_file_iff.mpr ⟨image.endless, hfollow⟩, ?_, hpicture⟩
    rw [checkFormat_eq_ok_iff, extension?_joinPath directory relative hstep]
    exact image.format

/-! ## Sheets -/

variable {α : Type}

/-- The directory that the descriptor of a map lies in. -/
def home (maps : Folder) (name : String) : List String :=
  (Folder.place (maps.start (descriptorPath name)) (pathNames (descriptorPath name))).dropLast

/-- The descriptor of a map with a flat name lies in the directory of maps itself. -/
theorem home_of_flat (maps : Folder) {name : String} (flat : '/' ∉ name.toList) :
    home maps name = maps.home := by
  have hpath : '/' ∉ (descriptorPath name).toList := by
    simp [descriptorPath, flat]
  have hnames : pathNames (descriptorPath name) = [descriptorPath name] := by
    rw [pathNames, List.splitOn_eq_singleton hpath, List.map_singleton, String.ofList_toList]
  have relative : isAbsolute (descriptorPath name) = false := by
    rw [isAbsolute, beq_eq_false_iff_ne]
    exact fun hfirst => hpath (List.mem_of_head? hfirst)
  -- The extension alone is longer than a step that is no name.
  have hlong : 5 ≤ (descriptorPath name).length := by
    rw [descriptorPath, String.length_append]
    exact Nat.le_add_left 5 name.length
  have hstep : ∀ step : String, step.length < 5 → descriptorPath name ≠ step := by
    rintro step hshort rfl
    omega
  have hstay : ¬(descriptorPath name = "" ∨ descriptorPath name = ".") :=
    not_or.mpr ⟨hstep "" (by decide), hstep "." (by decide)⟩
  rw [home, maps.start_of_relative relative, hnames, Folder.place, if_neg hstay,
    if_neg (hstep ".." (by decide)), Folder.place, List.dropLast_concat]

variable [Scalar α] [Json.Wire α]

/-- **Whether the image of a map is looked for from a directory**: the map has a sheet just if the
path that its descriptor gives leads from there to an image, and this is the image of the sheet. -/
def OpensFrom (maps : Folder) (directory name : String) (d : Descriptor α) (home : List String) :
    Prop :=
  ∀ sheet : Sheet α, load maps directory name = .ok sheet ↔
    ∃ place picture, maps.HasImage home d.image place picture
      ∧ sheet = ⟨name, d.calibration, picture⟩

section

variable {maps : Folder} {directory name : String} {d : Descriptor α}

/-- A descriptor that is loaded is a file in its directory. -/
theorem exists_entry_of_loadDescriptor (loaded : loadDescriptor maps directory name = .ok d) :
    ∃ file bytes, maps.entry? (home maps name ++ [file]) = some (.file bytes) := by
  rw [loadDescriptor, bind_eq_ok_iff] at loaded
  obtain ⟨text, htext, -⟩ := loaded
  rw [mapError_eq_ok_iff, Folder.text, bind_eq_ok_iff] at htext
  obtain ⟨bytes, hbytes, -⟩ := htext
  obtain ⟨-, hfollow⟩ := Folder.find_eq_file_iff.mp (Folder.find_of_bytes hbytes)
  obtain ⟨⟨home, file, hplace, hentry⟩, -⟩ := Folder.exists_place_of_follow hfollow
  exact ⟨file, bytes, by rw [Sheet.home, hplace, List.dropLast_concat, hentry]⟩

/-- With its descriptor, a sheet depends on its image alone. -/
theorem load_of_loadDescriptor (loaded : loadDescriptor maps directory name = .ok d) :
    load maps directory name
      = ((openImage maps directory d.image).mapError (.image (joinPath directory d.image))).map
          fun picture => ⟨name, d.calibration, picture⟩ := by
  rw [load, loaded]
  show ((openImage maps directory d.image).mapError _ >>= _) = _
  cases openImage maps directory d.image <;> rfl

/-- A sheet has the image that is opened. -/
theorem load_eq_ok_iff (loaded : loadDescriptor maps directory name = .ok d) (sheet : Sheet α) :
    load maps directory name = .ok sheet ↔
      ∃ picture, openImage maps directory d.image = .ok picture
        ∧ sheet = ⟨name, d.calibration, picture⟩ := by
  rw [load_of_loadDescriptor loaded]
  cases openImage maps directory d.image with
  | error fault => simp [Except.mapError, Except.map]
  | ok picture => simp [Except.mapError, Except.map, eq_comm]

/-- Where an image is looked for shows in the image that is opened. -/
theorem opensFrom_iff (loaded : loadDescriptor maps directory name = .ok d) {home : List String} :
    OpensFrom maps directory name d home ↔ ∀ picture,
      openImage maps directory d.image = .ok picture
        ↔ ∃ place, maps.HasImage home d.image place picture := by
  constructor
  · intro hopens picture
    have hsheet := hopens ⟨name, d.calibration, picture⟩
    rw [load_eq_ok_iff loaded] at hsheet
    simpa using hsheet
  · intro hpicture sheet
    rw [load_eq_ok_iff loaded, exists_comm]
    simp only [hpicture, exists_and_right]

/-- **The image of a map is looked for from the directory of maps**, wherever its descriptor lies.
The map has a sheet just if there is an image there, and otherwise the fault names the path there.
From the directory of the descriptor a path that does not climb above its start leads to the same
place only if that is the directory of maps itself, as it is for a flat name. So the image is looked
for beside the descriptor just if the path leads from both directories to the same picture or from
both to none. -/
theorem opens_from_maps (loaded : loadDescriptor maps directory name = .ok d)
    (relative : isAbsolute d.image = false) :
    OpensFrom maps directory name d maps.home
      ∧ (∀ fault : SheetFault α, load maps directory name = .error fault →
          ∃ reason, fault = .image (joinPath directory d.image) reason)
      ∧ (∃ file bytes, maps.entry? (home maps name ++ [file]) = some (.file bytes))
      ∧ ('/' ∉ name.toList → home maps name = maps.home)
      ∧ ((Folder.descent? [] (pathNames d.image)).isSome →
          ∀ place picture, maps.HasImage maps.home d.image place picture →
            (maps.HasImage (home maps name) d.image place picture ↔ home maps name = maps.home))
      ∧ (OpensFrom maps directory name d (home maps name) ↔
          ∀ picture, (∃ place, maps.HasImage maps.home d.image place picture)
            ↔ ∃ place, maps.HasImage (home maps name) d.image place picture) := by
  have hpicture := openImage_eq_ok_iff maps directory relative
  refine ⟨(opensFrom_iff loaded).mpr hpicture, ?faults, exists_entry_of_loadDescriptor loaded,
    home_of_flat maps, ?places, ?beside⟩
  case faults =>
    intro fault hfault
    rw [load_of_loadDescriptor loaded, map_eq_error_iff] at hfault
    cases himage : openImage maps directory d.image with
    | error reason =>
      rw [himage] at hfault
      exact ⟨reason, (Except.error.inj hfault).symm⟩
    | ok picture =>
      rw [himage] at hfault
      cases hfault
  case places =>
    intro stays place picture himage
    obtain ⟨names, hnames⟩ := Option.isSome_iff_exists.mp stays
    constructor
    · intro hbeside
      -- The path leads down from either directory, so its place tells where it has started.
      have hmaps := Folder.place_append_of_descent? maps.home hnames
      have hhome := Folder.place_append_of_descent? (home maps name) hnames
      rw [List.append_nil, himage.leads] at hmaps
      rw [List.append_nil, hbeside.leads, hmaps] at hhome
      exact (List.append_cancel_right hhome).symm
    · intro hhome
      rwa [hhome]
  case beside =>
    rw [opensFrom_iff loaded]
    simp only [hpicture]

end

/-! ### A map further down -/

/-- A picture of one pixel. -/
def dot : List UInt8 :=
  [137, 80, 78, 71, 13, 10, 26, 10, 0, 0, 0, 13, 73, 72, 68, 82, 0, 0, 0, 1, 0, 0, 0, 1, 8, 6, 0,
    0, 0, 31, 21, 196, 137, 0, 0, 0, 13, 73, 68, 65, 84, 120, 218, 99, 96, 80, 245, 202, 7, 0, 1,
    119, 0, 223, 67, 133, 181, 7, 0, 0, 0, 0, 73, 69, 78, 68, 174, 66, 96, 130]

/-- What there is in the picture: a pixel of four samples, behind the filter of its row. -/
def dotPicture : Png.Picture := ⟨⟨1, 1, 8, .trueColourWithAlpha, false⟩, [], [0, 0, 37, 74, 111]⟩

/-- The descriptor of a map with its image beside it, in a directory of its own. -/
def nested : Folder where
  home := ["maps"]
  files := [
    (["maps", "Towns", "A.json"], "\x7b\"image\":\"A.png\",\"pixel_density\":1\x7d".toUTF8.toList),
    (["maps", "Towns", "A.png"], dot)]

/-- What the descriptor says. -/
def nestedDescriptor : Descriptor Float32 := ⟨"A.png", ⟨1, .zero, .zero, 0⟩⟩

/-- The image of the map further down is looked for in the directory of maps. -/
theorem opens_from_maps_nested :
    loadDescriptor nested "maps" "Towns/A" = .ok nestedDescriptor
      ∧ isAbsolute nestedDescriptor.image = false
      ∧ OpensFrom nested "maps" "Towns/A" nestedDescriptor ["maps"] := by
  have loaded : loadDescriptor nested "maps" "Towns/A" = .ok nestedDescriptor := by decide +kernel
  have relative : isAbsolute nestedDescriptor.image = false := by decide
  exact ⟨loaded, relative, (opens_from_maps loaded relative).1⟩

/-- The image lies beside the descriptor, but it is not looked for there. -/
theorem not_opensFrom_home :
    loadDescriptor nested "maps" "Towns/A" = .ok nestedDescriptor
      ∧ isAbsolute nestedDescriptor.image = false
      ∧ home nested "Towns/A" = ["maps", "Towns"]
      ∧ nested.HasImage ["maps", "Towns"] nestedDescriptor.image ["maps", "Towns", "A.png"]
        dotPicture
      ∧ ¬ OpensFrom nested "maps" "Towns/A" nestedDescriptor ["maps", "Towns"] := by
  have himage : nested.HasImage ["maps", "Towns"] nestedDescriptor.image
      ["maps", "Towns", "A.png"] dotPicture := by
    refine ⟨by decide, by decide, ⟨dot, by decide, by decide, by decide +kernel⟩, "png", ?_, ?_⟩
    · decide
    · decide
  refine ⟨by decide +kernel, by decide, by decide, himage, ?_⟩
  intro hopens
  have hload := (hopens ⟨"Towns/A", nestedDescriptor.calibration, dotPicture⟩).mpr
    ⟨_, _, himage, rfl⟩
  have hmissing : load nested "maps" "Towns/A"
      = .error (.image "maps/A.png" (.folder .missing) : SheetFault Float32) := by decide +kernel
  rw [hmissing] at hload
  cases hload

end Sheet

end TownTraffic

import TownTraffic.Chart.Folder
import TownTraffic.Text.Quoted

/-!
# Formats of images

The format of an image is told by the extension of its file, in any case. Of all formats only PNG
can be read.

* **`ImageFormat`** — the formats; **`ImageFormat.ofExtension?`** tells them apart.
* **`FormatFault`** — why a file has no format that can be read.
-/

namespace TownTraffic

/-- The formats of images. -/
inductive ImageFormat where
  | avif | bmp | dds | exr | farbfeld | gif | hdr | ico | jpeg | png | pnm | qoi | tga | tiff | webP
deriving Repr, DecidableEq

namespace ImageFormat

/-- The name of a format. -/
def name : ImageFormat → String
  | avif => "Avif"
  | bmp => "Bmp"
  | dds => "Dds"
  | exr => "OpenExr"
  | farbfeld => "Farbfeld"
  | gif => "Gif"
  | hdr => "Hdr"
  | ico => "Ico"
  | jpeg => "Jpeg"
  | png => "Png"
  | pnm => "Pnm"
  | qoi => "Qoi"
  | tga => "Tga"
  | tiff => "Tiff"
  | webP => "WebP"

/-- The extensions of each format. -/
def extensions : List (ImageFormat × List String) :=
  [(avif, ["avif"]), (jpeg, ["jpg", "jpeg", "jfif"]), (png, ["png", "apng"]), (gif, ["gif"]),
    (webP, ["webp"]), (tiff, ["tif", "tiff"]), (tga, ["tga"]), (dds, ["dds"]), (bmp, ["bmp"]),
    (ico, ["ico"]), (hdr, ["hdr"]), (exr, ["exr"]), (pnm, ["pbm", "pam", "ppm", "pgm", "pnm"]),
    (farbfeld, ["ff"]), (qoi, ["qoi"])]

/-- The format of an extension. -/
def ofExtension? (extension : String) : Option ImageFormat :=
  let lower := String.ofList (extension.toList.map Char.toLower)
  (extensions.find? fun (_, known) => known.contains lower).map (·.1)

end ImageFormat

/-- Why a file has no format that can be read. -/
inductive FormatFault where
  /-- The file has no extension. -/
  | noExtension
  /-- The extension is that of no format. -/
  | unknownExtension (extension : String)
  | unsupported (format : ImageFormat)
deriving Repr, DecidableEq

/-- The fault in words. -/
def FormatFault.message : FormatFault → String
  | noExtension => "The image format could not be determined"
  | unknownExtension extension =>
    "The file extension `." ++ Text.quoted extension ++ "` was not recognized as an image format"
  | unsupported format => "The image format " ++ format.name ++ " is not supported"

/-- Whether the file at a path is in the format that can be read. -/
def checkFormat (path : String) : Except FormatFault Unit := do
  let some extension := extension? path | .error .noExtension
  match ImageFormat.ofExtension? extension with
  | none => .error (.unknownExtension extension)
  | some .png => .ok ()
  | some format => .error (.unsupported format)

end TownTraffic

import BlitReel.Failure
import BlitReel.Picture.Bmp
import BlitReel.Picture.Gif
import BlitReel.Picture.Png

/-!
# Picture files

The kind of a picture file shows in its first octets. Files of an unknown kind and broken files of
a known kind fail differently. Bitmaps, GIF and PNG files are decoded here; for JPEG and WebP files there
are decoders to be plugged in, and whatever is said about pictures holds for all of them.
-/

namespace BlitReel.Picture

/-- The kinds of picture files. -/
inductive FileKind where
  | bmp
  | gif
  | jpeg
  | png
  | webp
  deriving DecidableEq

/-- How the files of a kind begin; `none` stands for any octet. -/
def FileKind.opening : FileKind → List (Option UInt8)
  | .bmp => literal "BM" ++ List.replicate 4 none ++ List.replicate 4 (some 0)
  | .gif => literal "GIF8" ++ none :: literal "a"
  | .jpeg => [some 0xFF, some 0xD8]
  | .png => Png.signature.map some
  | .webp => literal "RIFF" ++ List.replicate 4 none ++ literal "WEBPVP8"
where
  literal (s : String) : List (Option UInt8) := (Octets.ofString s).map some

/-- Whether a file begins like this. -/
def opensWith : List (Option UInt8) → Octets → Bool
  | [], _ => true
  | _ :: _, [] => false
  | want :: more, b :: rest => (want == none || want == some b) && opensWith more rest

/-- The kind of a file. -/
def kindOf? (file : Octets) : Option FileKind :=
  [FileKind.bmp, .gif, .jpeg, .png, .webp].find? fun k => opensWith k.opening file

/-- Decoders for the kinds of files that are recognised but not decoded here. They give the picture of a file,
or nothing if the file is broken. -/
structure Codecs where
  jpeg : Octets → Option Picture := fun _ => none
  webp : Octets → Option Picture := fun _ => none

/-- The picture of a file. -/
def decode (file : Octets) (codecs : Codecs := {}) : Except Failure Picture :=
  match kindOf? file with
  | none => .error (.plain "image: unknown format")
  | some kind =>
    let p? := match kind with
      | .bmp => Bmp.decode file.toArray
      | .gif => Gif.decode file
      | .png => Png.decode file.toArray
      | .jpeg => codecs.jpeg file
      | .webp => codecs.webp file
    match p? with
    | some p => .ok p
    | none => .error ⟨.picture, malformed⟩

end BlitReel.Picture

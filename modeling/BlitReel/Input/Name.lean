import BlitReel.Files.Path
import BlitReel.Text.Utf8

/-!
# Names of inputs

What an input is shows in its name: an address to download from, a still picture, a movie file
that carries its own header, or something only the decoder knows. Its title is the last component
of the name without the extension.
-/

namespace BlitReel.Input

/-- Whether an input is downloaded (`IsURL`). -/
def isUrl (name : Octets) : Bool :=
  name.startsWith (Octets.ofString "http://") || name.startsWith (Octets.ofString "https://")

/-- Lower case, as far as the result can be an ASCII letter: besides the capital letters, the dotted
capital I and the Kelvin sign. -/
def lowerChar (c : Char) : Char :=
  if c.toNat == 0x130 then 'i' else if c.toNat == 0x212A then 'k' else c.toLower

/-- The extension of a name in lower case. -/
def lowerExtension (name : Octets) : String :=
  String.ofList ((Utf8.text (Path.extension name)).toList.map lowerChar)

/-- Whether an input is a still picture (`IsStillImage`). -/
def isStill (name : Octets) : Bool :=
  [".png", ".jpg", ".jpeg", ".gif", ".bmp", ".webp"].contains (lowerExtension name)

/-- Whether an input is a movie file whose header can be read directly. -/
def isMovie (name : Octets) : Bool := [".mp4", ".m4v", ".mov"].contains (lowerExtension name)

/-- The title of an input (`FileTitle`). -/
def title (name : Octets) : Octets :=
  let base := Path.base name
  base.take (base.length - (Path.extension base).length)

end BlitReel.Input

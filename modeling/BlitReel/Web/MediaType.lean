import BlitReel.Files.Path

/-!
# Media types

The type of a served file is told by its extension, or else by how its content begins.
-/

namespace BlitReel.Web

/-- Types by extension. -/
def typesByExtension : List (String × String) := [
  (".avif", "image/avif"), (".css", "text/css; charset=utf-8"), (".gif", "image/gif"),
  (".htm", "text/html; charset=utf-8"), (".html", "text/html; charset=utf-8"), (".jpeg", "image/jpeg"),
  (".jpg", "image/jpeg"), (".js", "text/javascript; charset=utf-8"), (".json", "application/json"),
  (".mjs", "text/javascript; charset=utf-8"), (".pdf", "application/pdf"), (".png", "image/png"),
  (".svg", "image/svg+xml"), (".wasm", "application/wasm"), (".webp", "image/webp"),
  (".xml", "text/xml; charset=utf-8")]

/-- How content of a type begins: octets at an offset, several of which may have to match. -/
structure Signature where
  marks : List (Nat × Octets)
  /-- The least length of the content. -/
  length : Nat := 0
  type : String

/-- Whether content begins as a signature says. -/
def Signature.fits (s : Signature) (content : Octets) : Bool :=
  s.length ≤ content.length && s.marks.all fun (offset, mark) => mark.isPrefixOf (content.drop offset)

/-- A signature at the very front. -/
def front (mark : Octets) (type : String) : Signature := { marks := [(0, mark)], type }

/-- A signature of two parts, the second of which stands at offset eight. -/
def chunked (outer inner type : String) : Signature :=
  { marks := [(0, Octets.ofString outer), (8, Octets.ofString inner)], type }

/-- The tags that tell a web page. -/
def pageTags : List String := [
  "<!DOCTYPE HTML", "<HTML", "<HEAD", "<SCRIPT", "<IFRAME", "<H1", "<DIV", "<FONT", "<TABLE", "<A", "<STYLE",
  "<TITLE", "<B", "<BODY", "<BR", "<P", "<!--"]

/-- Signatures of texts with a mark of their encoding, and of documents. -/
def documentSignatures : List Signature := [
  front (Octets.ofString "%PDF-") "application/pdf",
  front (Octets.ofString "%!PS-Adobe-") "application/postscript",
  { marks := [(0, [0xFE, 0xFF])], length := 4, type := "text/plain; charset=utf-16be" },
  { marks := [(0, [0xFF, 0xFE])], length := 4, type := "text/plain; charset=utf-16le" },
  { marks := [(0, [0xEF, 0xBB, 0xBF])], length := 4, type := "text/plain; charset=utf-8" }]

/-- Signatures of pictures, sounds and films. -/
def mediaSignatures : List Signature := [
  front [0, 0, 1, 0] "image/x-icon",
  front [0, 0, 2, 0] "image/x-icon",
  front (Octets.ofString "BM") "image/bmp",
  front (Octets.ofString "GIF87a") "image/gif",
  front (Octets.ofString "GIF89a") "image/gif",
  chunked "RIFF" "WEBPVP" "image/webp",
  front ([0x89] ++ Octets.ofString "PNG\r\n" ++ [0x1A, 0x0A]) "image/png",
  front [0xFF, 0xD8, 0xFF] "image/jpeg",
  chunked "FORM" "AIFF" "audio/aiff",
  front (Octets.ofString "ID3") "audio/mpeg",
  front (Octets.ofString "OggS" ++ [0]) "application/ogg",
  front (Octets.ofString "MThd" ++ [0, 0, 0, 6]) "audio/midi",
  chunked "RIFF" "AVI " "video/avi",
  chunked "RIFF" "WAVE" "audio/wave"]

/-- Signatures of fonts, archives and programs. -/
def archiveSignatures : List Signature := [
  front [0x1A, 0x45, 0xDF, 0xA3] "video/webm",
  { marks := [(34, Octets.ofString "LP")], length := 36, type := "application/vnd.ms-fontobject" },
  front [0, 1, 0, 0] "font/ttf",
  front (Octets.ofString "OTTO") "font/otf",
  front (Octets.ofString "ttcf") "font/collection",
  front (Octets.ofString "wOFF") "font/woff",
  front (Octets.ofString "wOF2") "font/woff2",
  front [0x1F, 0x8B, 0x08] "application/x-gzip",
  front (Octets.ofString "PK" ++ [3, 4]) "application/zip",
  front (Octets.ofString "Rar!" ++ [0x1A, 7, 0]) "application/x-rar-compressed",
  front (Octets.ofString "Rar!" ++ [0x1A, 7, 1, 0]) "application/x-rar-compressed",
  front ([0] ++ Octets.ofString "asm") "application/wasm"]

/-- The blanks before a tag. -/
def isLeadingBlank (b : UInt8) : Bool := b == 9 || b == 10 || b == 12 || b == 13 || b == 32

/-- Whether content begins with a tag, of either case, and a blank or the end of the tag. -/
def beginsWithTag (content : Octets) (tag : String) : Bool :=
  let mark := (Octets.ofString tag).map Octets.lowerAscii
  let shown := content.take mark.length
  match content.drop mark.length with
  | b :: _ => shown.map Octets.lowerAscii == mark && (b == 0x20 || b == 0x3E)
  | [] => false

/-- Whether a movie box at the front names an `mp4` brand. -/
def isMovieContent (content : Octets) : Bool :=
  let size := (content.take 4).foldl (fun n b => n * 256 + b.toNat) 0
  content.length ≥ 12 && size ≤ content.length && size % 4 == 0
    && (Octets.ofString "ftyp").isPrefixOf (content.drop 4)
    && (List.range (size / 4)).any fun i =>
      i ≥ 2 && i != 3 && (Octets.ofString "mp4").isPrefixOf (content.drop (4 * i))

/-- Octets that no text contains. -/
def isBinary (b : UInt8) : Bool :=
  b ≤ 8 || b == 0x0B || (0x0E ≤ b && b ≤ 0x1A) || (0x1C ≤ b && b ≤ 0x1F)

/-- How much of the content is looked at. -/
def sniffLength : Nat := 512

/-- The type that the beginning of the content tells. -/
def sniff (content : Octets) : String :=
  let content := content.take sniffLength
  let body := content.dropWhile isLeadingBlank
  let find (signatures : List Signature) : Option String := (signatures.find? (·.fits content)).map (·.type)
  if pageTags.any (beginsWithTag body) then "text/html; charset=utf-8"
  else if (Octets.ofString "<?xml").isPrefixOf body then "text/xml; charset=utf-8"
  else match find (documentSignatures ++ mediaSignatures) with
    | some type => type
    | none =>
      if isMovieContent content then "video/mp4"
      else match find archiveSignatures with
        | some type => type
        | none => if body.any isBinary then "application/octet-stream" else "text/plain; charset=utf-8"

/-- The type of a file. -/
def typeOf (name content : Octets) : String :=
  let extension := (Path.extension name).map Octets.lowerAscii
  match typesByExtension.find? fun (e, _) => Octets.ofString e == extension with
  | some (_, type) => type
  | none => sniff content

end BlitReel.Web

import BlitReel.Conversion.Options
import BlitReel.Decoder
import BlitReel.Settings.Basic

/-!
# Settings as options

The decoder and the conversion take their options from the same settings.
-/

namespace BlitReel.Settings

/-- The options of the decoder. -/
def decoderOptions (s : Settings) : DecoderOptions :=
  { program := s.ffmpegPath, geometry := s.geometry, fps := s.fps
    start := s.start, duration := s.duration, debug := s.debug }

/-- The options of a conversion into a directory. -/
def conversionOptions (s : Settings) (outputDir : Octets) : ConversionOptions :=
  { outputDir, geometry := s.geometry, fps := s.fps, slug := s.slug, workers := s.workers.getD 0
    preview := s.preview, previewScale := s.previewScale }

end BlitReel.Settings

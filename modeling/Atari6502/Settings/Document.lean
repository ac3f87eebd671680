import Atari6502.Settings.Basic
import Atari6502.Settings.Format

/-! Settings documents. -/
namespace Atari6502

/-- The object of a document that is for the loader. -/
def LoaderSettings.decoder (format : Settings.Format) : format.Decoder LoaderSettings :=
  format.struct "LoaderConfig" <|
    .field (.build mk) "fallback_address" format.word missingAddress

/-- The object of a document that is for the renderers. -/
def ListingSettings.decoder (format : Settings.Format) : format.Decoder ListingSettings :=
  format.struct "ListingConfig" <|
    .field (.field (.field (.build mk)
      "prompt_limit" format.size missingLimit)
      "show_bytes" format.bool false)
      "hex_width" format.size missingWidth

namespace Settings

def decoder (format : Format) : format.Decoder Settings :=
  format.struct "Config" <|
    .field (.field (.build mk)
      "loader" (LoaderSettings.decoder format) .default)
      "listing" (ListingSettings.decoder format) .default

/-- The settings in a document. -/
def parse (format : Format) (document : String) : Except Fault Settings :=
  format.decode (decoder format) document

end Settings
end Atari6502

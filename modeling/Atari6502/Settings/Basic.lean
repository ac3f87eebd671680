import Atari6502.Address

/-! Settings of the loader and of the renderers. -/
namespace Atari6502

namespace Settings

def standardAddress : Address := 0x2000

def standardLimit : Nat := 300

def standardWidth : Nat := 16

end Settings

/-- Settings of the loader. -/
structure LoaderSettings where
  /-- Where a file without segments is loaded. -/
  fallbackAddress : Address
deriving DecidableEq, Repr

namespace LoaderSettings

def default : LoaderSettings where
  fallbackAddress := Settings.standardAddress

/-- The address in a document that writes settings of the loader, but not this one. -/
def missingAddress : Address :=
  Settings.standardAddress

end LoaderSettings

/-- Settings of the renderers. -/
structure ListingSettings where
  /-- Entries of an excerpt. -/
  excerptLimit : Nat
  /-- Disassemblies show the bytes. -/
  showBytes : Bool
  /-- Bytes in a row of a hex dump. -/
  hexWidth : Nat
deriving DecidableEq, Repr

namespace ListingSettings

def default : ListingSettings where
  excerptLimit := Settings.standardLimit
  showBytes := false
  hexWidth := Settings.standardWidth

/-- The limit in a document that writes settings of the renderers, but not this one. -/
def missingLimit : Nat :=
  Settings.standardLimit

/-- The width in such a document. -/
def missingWidth : Nat :=
  Settings.standardWidth

end ListingSettings

/-- Settings of the loader and of the renderers. -/
structure Settings where
  loader : LoaderSettings := .default
  listing : ListingSettings := .default
deriving DecidableEq, Repr

namespace Settings

def fallbackAddress (settings : Settings) : Address :=
  settings.loader.fallbackAddress

def excerptLimit (settings : Settings) : Nat :=
  settings.listing.excerptLimit

def showBytes (settings : Settings) : Bool :=
  settings.listing.showBytes

def hexWidth (settings : Settings) : Nat :=
  settings.listing.hexWidth

end Settings
end Atari6502

import Mathlib.Data.List.Basic

/-!
# Presets

`services/presets.py`: starting points for a new mirror set.
-/

namespace AptlyGui

def ubuntuKeyring : String := "/usr/share/keyrings/ubuntu-archive-keyring.gpg"
def debianKeyring : String := "/usr/share/keyrings/debian-archive-keyring.gpg"

def ubuntuComponents : List String := ["main", "restricted", "universe", "multiverse"]
def debianComponents : List String := ["main", "contrib", "non-free", "non-free-firmware"]

/-- What `as_form` reads of a preset; its id, label and note are for the page only. -/
structure Preset where
  name : String
  archiveUrl : String
  suites : List String
  components : List String
  keyrings : List String
  publishPrefix : String
  architectures : List String := ["amd64"]
  deriving DecidableEq, Repr

/-- `_ubuntu` -/
def ubuntuPreset (code : String) : Preset where
  name := s!"ubuntu-{code}"
  archiveUrl := "http://archive.ubuntu.com/ubuntu"
  suites := [code, s!"{code}-updates", s!"{code}-security", s!"{code}-backports"]
  components := ubuntuComponents
  keyrings := [ubuntuKeyring]
  publishPrefix := "ubuntu"

/-- `_debian` -/
def debianPreset (code : String) : Preset where
  name := s!"debian-{code}"
  archiveUrl := "http://deb.debian.org/debian"
  suites := [code, s!"{code}-updates", s!"{code}-backports"]
  components := debianComponents
  keyrings := [debianKeyring]
  publishPrefix := "debian"

/-- `_debian_security` -/
def debianSecurityPreset (code : String) : Preset where
  name := s!"debian-{code}-security"
  archiveUrl := "http://security.debian.org/debian-security"
  suites := [s!"{code}-security"]
  components := debianComponents
  keyrings := [debianKeyring]
  publishPrefix := "debian-security"

def presets : List Preset :=
  [ubuntuPreset "resolute", ubuntuPreset "noble", ubuntuPreset "jammy", ubuntuPreset "focal",
    debianPreset "trixie", debianSecurityPreset "trixie", debianPreset "bookworm",
    debianSecurityPreset "bookworm"]

end AptlyGui

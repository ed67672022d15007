import AptlyGui.Services.Naming
import Mathlib.Data.List.Dedup
import Mathlib.Data.List.Sort

/-!
# Candidate sets of existing mirrors

`services/adoption.py`: mirrors that no set manages are grouped by the set their
name suggests, their archive and the pattern of the name.
-/

namespace AptlyGui

/-- `sorted({...})` -/
def sortedSet (values : List String) : List String := values.dedup.insertionSort (· ≤ ·)

/-- A guess that some existing mirrors belong together as one set. -/
structure Proposal where
  name : String
  archiveUrl : String
  suites : List String
  components : List String
  architectures : List String
  mirrors : List String
  filter : Option String
  publishPrefix : Option String
  keyringGuess : Option String
  pattern : Pattern
  inconsistent : List String
  deriving DecidableEq, Repr

/-- Propose the publish prefix whose publications line up with this set's suites. -/
def guessPrefix (suites components : List String) (published : List Published) : Option String :=
  let candidates := (published.filter fun item => item.distribution ∈ suites ∧
    ∃ source ∈ item.sources, source.component ∈ components).map Published.barePrefix
  match candidates.dedup with
  | [single] => some single
  | _ => none

/-- `needle in text.lower()` for a needle of small ASCII letters. -/
def mentions (text needle : String) : Bool :=
  (text.toList.map Char.toLower).tails.any fun rest => needle.toList.isPrefixOf rest

/-- The first entry of `KEYRING_GUESSES` that the archive mentions. -/
def guessKeyring (archiveUrl : String) : Option String :=
  if mentions archiveUrl "ubuntu" then some "/usr/share/keyrings/ubuntu-archive-keyring.gpg"
  else if mentions archiveUrl "debian" then some "/usr/share/keyrings/debian-archive-keyring.gpg"
  else none

/-- What mirrors are grouped by. -/
structure GroupKey where
  setName : String
  archiveUrl : String
  pattern : Pattern
  deriving DecidableEq, Repr

/-- The order of tuples. -/
def GroupKey.before (first second : GroupKey) : Prop :=
  first.setName < second.setName ∨ first.setName = second.setName ∧
    (first.archiveUrl < second.archiveUrl ∨ first.archiveUrl = second.archiveUrl ∧
      first.pattern.text ≤ second.pattern.text)

instance : DecidableRel GroupKey.before := fun first second => by
  unfold GroupKey.before
  infer_instance

/-- A mirror whose name follows a convention, with what the name says. -/
structure Member where
  mirror : Mirror
  split : Split
  deriving DecidableEq, Repr

def Member.key (member : Member) : GroupKey :=
  ⟨member.split.setName, member.mirror.archiveUrl, member.split.pattern⟩

/-- The mirrors that fit a convention, in aptly's order. -/
def membersOf (mirrors : List Mirror) : List Member :=
  mirrors.filterMap fun mirror => (splitMirrorName mirror none).map (⟨mirror, ·⟩)

/-- `_build` -/
def buildProposal (key : GroupKey) (members : List Member) (published : List Published) :
    Proposal :=
  let suites := sortedSet (members.map fun member => member.split.suite)
  let components := sortedSet (members.map fun member => member.split.component)
  let filters := (members.map fun member => member.mirror.filter).dedup
  { name := key.setName
    archiveUrl := key.archiveUrl
    suites := suites
    components := components
    architectures := sortedSet (members.flatMap fun member => member.mirror.architectures)
    mirrors := (members.map fun member => member.mirror.name).insertionSort (· ≤ ·)
    filter :=
      match filters with
      | [single] => single
      | _ => none
    publishPrefix := guessPrefix suites components published
    keyringGuess := guessKeyring key.archiveUrl
    pattern := key.pattern
    inconsistent := if filters.length > 1 then ["filter"] else [] }

/-- Group unmanaged mirrors into candidate sets; the rest fit no convention. -/
def proposeSets (mirrors : List Mirror) (published : List Published) (managed : List String) :
    List Proposal × List Mirror :=
  let unmanaged := mirrors.filter fun mirror => mirror.name ∉ managed
  let members := membersOf unmanaged
  let keys := (members.map Member.key).dedup.insertionSort GroupKey.before
  (keys.map fun key =>
      buildProposal key (members.filter fun member => member.key = key) published,
    unmanaged.filter fun mirror => (splitMirrorName mirror none).isNone)

end AptlyGui

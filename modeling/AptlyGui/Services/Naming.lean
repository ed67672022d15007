import AptlyGui.Aptly.Model

/-!
# How a set's mirrors are named in aptly

`services/naming.py`: the two patterns in use, `str.format` on them, and which
set and pattern the name of an existing mirror suggests.
-/

namespace AptlyGui

inductive Pattern where
  /-- `{set}-{suite}-{component}` -/
  | setSuiteComponent
  /-- `{suite}-{component}` -/
  | suiteComponent
  deriving DecidableEq, Repr

def Pattern.text : Pattern → String
  | .setSuiteComponent => "\x7bset\x7d-\x7bsuite\x7d-\x7bcomponent\x7d"
  | .suiteComponent => "\x7bsuite\x7d-\x7bcomponent\x7d"

/-- `pattern.format(set=..., suite=..., component=...)` -/
def Pattern.format (pattern : Pattern) (setName suite component : String) : String :=
  match pattern with
  | .setSuiteComponent => s!"{setName}-{suite}-{component}"
  | .suiteComponent => s!"{suite}-{component}"

structure Split where
  setName : String
  suite : String
  component : String
  pattern : Pattern
  deriving DecidableEq, Repr

/-- `text[: -len(suffix)]` if the text ends with this suffix. -/
def dropSuffix (text suffix : String) : Option String :=
  if suffix.toList.isSuffixOf text.toList then
    some (String.ofList (text.toList.take (text.toList.length - suffix.toList.length)))
  else none

/-- `noble-updates` and `noble-security` both belong to `noble`. -/
def suiteStem (suite : String) : String :=
  (["-updates", "-security", "-backports", "-proposed"].findSome? (dropSuffix suite)).getD suite

/-- Work out which set a mirror belongs to, and under which naming. -/
def splitMirrorName (mirror : Mirror) (setName : Option String) : Option Split :=
  match mirror.components with
  | [component] =>
      let suite := mirror.distribution
      match dropSuffix mirror.name s!"-{suite}-{component}" with
      | some stem =>
          if stem ≠ "" then some ⟨stem, suite, component, .setSuiteComponent⟩
          else unprefixed suite component
      | none => unprefixed suite component
  | _ => none
where
  /-- No set prefix: the set is named after the stem the suites share. -/
  unprefixed (suite component : String) : Option Split :=
    if mirror.name = s!"{suite}-{component}" then
      let named := setName.getD ""
      some ⟨if named ≠ "" then named else suiteStem suite, suite, component, .suiteComponent⟩
    else none

theorem append_of_dropSuffix {text suffix stem : String}
    (dropped : dropSuffix text suffix = some stem) : stem ++ suffix = text := by
  unfold dropSuffix at dropped
  split at dropped
  · rename_i ends
    cases dropped
    obtain ⟨front, split⟩ := List.isSuffixOf_iff_suffix.mp ends
    apply String.toList_inj.mp
    rw [String.toList_append, ← split]
    simp
  · cases dropped

theorem dropSuffix_append (stem suffix : String) :
    dropSuffix (stem ++ suffix) suffix = some stem := by
  unfold dropSuffix
  rw [if_pos]
  · simp
  · rw [List.isSuffixOf_iff_suffix, String.toList_append]
    exact List.suffix_append stem.toList suffix.toList

theorem dropSuffix_of_short {text suffix : String} (short : text.length < suffix.length) :
    dropSuffix text suffix = none := by
  unfold dropSuffix
  rw [if_neg]
  intro ends
  have fits := (List.isSuffixOf_iff_suffix.mp ends).length_le
  simp only [String.length_toList] at fits
  omega

/-- A mirror has the name that the suggested pattern makes of the suggested set. -/
theorem format_splitMirrorName {mirror : Mirror} {setName : Option String} {split : Split}
    (found : splitMirrorName mirror setName = some split) :
    split.pattern.format split.setName split.suite split.component = mirror.name := by
  have unprefixed {suite component : String}
      (plain : splitMirrorName.unprefixed mirror setName suite component = some split) :
      split.pattern.format split.setName split.suite split.component = mirror.name := by
    unfold splitMirrorName.unprefixed at plain
    split at plain
    · rename_i named
      cases plain
      exact named.symm
    · cases plain
  unfold splitMirrorName at found
  split at found
  · dsimp only at found
    split at found
    · rename_i dropped
      split at found
      · cases found
        rw [← append_of_dropSuffix dropped]
        simp only [Pattern.format, String.append_assoc]
        rfl
      · exact unprefixed found
    · exact unprefixed found
  · cases found

/-- The suite and the component are aptly's own. -/
theorem fields_of_splitMirrorName {mirror : Mirror} {setName : Option String} {split : Split}
    (found : splitMirrorName mirror setName = some split) :
    split.suite = mirror.distribution ∧ mirror.components = [split.component] := by
  unfold splitMirrorName splitMirrorName.unprefixed at found
  split at found
  · rename_i single
    rw [single]
    dsimp only at found
    split at found
    · split at found
      · cases found
        exact ⟨rfl, rfl⟩
      · split at found
        · cases found
          exact ⟨rfl, rfl⟩
        · cases found
    · split at found
      · cases found
        exact ⟨rfl, rfl⟩
      · cases found
  · cases found

section Named

variable {mirror : Mirror} {setName suite component : String}

theorem splitMirrorName_setSuiteComponent (given : Option String) (nonempty : setName ≠ "")
    (distribution : mirror.distribution = suite) (components : mirror.components = [component])
    (named : mirror.name = Pattern.setSuiteComponent.format setName suite component) :
    splitMirrorName mirror given = some ⟨setName, suite, component, .setSuiteComponent⟩ := by
  have joined : mirror.name = setName ++ s!"-{suite}-{component}" := by
    rw [named]
    simp only [Pattern.format, String.append_assoc]
    rfl
  simp only [splitMirrorName, components, distribution, joined, dropSuffix_append, if_pos nonempty]

/-- A name without a set is too short to end in `-suite-component`. -/
theorem splitMirrorName_suiteComponent (distribution : mirror.distribution = suite)
    (components : mirror.components = [component])
    (named : mirror.name = Pattern.suiteComponent.format setName suite component) :
    splitMirrorName mirror none = some ⟨suiteStem suite, suite, component, .suiteComponent⟩ := by
  have short : dropSuffix mirror.name s!"-{suite}-{component}" = none := by
    apply dropSuffix_of_short
    rw [named]
    have hyphen : (toString "-").length = 1 := by decide
    simp only [Pattern.format, String.length_append, hyphen]
    omega
  simp only [splitMirrorName, components, distribution, short]
  exact if_pos named

end Named

/-- Splitting a name and building one are inverse to each other. -/
theorem split_inverts_format :
    (∀ (mirror : Mirror) (given : Option String) (split : Split),
      splitMirrorName mirror given = some split →
        split.pattern.format split.setName split.suite split.component = mirror.name ∧
          split.suite = mirror.distribution ∧ mirror.components = [split.component]) ∧
    (∀ (mirror : Mirror) (given : Option String) (setName suite component : String),
      setName ≠ "" → mirror.distribution = suite → mirror.components = [component] →
        mirror.name = Pattern.setSuiteComponent.format setName suite component →
        splitMirrorName mirror given = some ⟨setName, suite, component, .setSuiteComponent⟩) ∧
    ∀ (mirror : Mirror) (setName suite component : String),
      mirror.distribution = suite → mirror.components = [component] →
        mirror.name = Pattern.suiteComponent.format setName suite component →
        splitMirrorName mirror none = some ⟨suiteStem suite, suite, component, .suiteComponent⟩ := by
  refine ⟨?_, ?_, ?_⟩
  · intro mirror given split found
    exact ⟨format_splitMirrorName found, fields_of_splitMirrorName found⟩
  · intro mirror given setName suite component
    exact splitMirrorName_setSuiteComponent given
  · intro mirror setName suite component
    exact splitMirrorName_suiteComponent

/-- Both ways on names full of hyphens. -/
theorem split_inverts_format_updates :
    splitMirrorName ⟨"a-b-b-updates-non-free", "", "b-updates", ["non-free"], [], none⟩ none =
        some ⟨"a-b", "b-updates", "non-free", .setSuiteComponent⟩ ∧
      Pattern.setSuiteComponent.format "a-b" "b-updates" "non-free" = "a-b-b-updates-non-free" ∧
      splitMirrorName ⟨"b-updates-non-free", "", "b-updates", ["non-free"], [], none⟩ none =
        some ⟨"b", "b-updates", "non-free", .suiteComponent⟩ := by
  have split := split_inverts_format.2.1
    ⟨"a-b-b-updates-non-free", "", "b-updates", ["non-free"], [], none⟩ none
    "a-b" "b-updates" "non-free" (by decide) rfl rfl (by decide)
  have built := split_inverts_format.1 _ none _ split
  have bare := split_inverts_format.2.2
    ⟨"b-updates-non-free", "", "b-updates", ["non-free"], [], none⟩ ""
    "b-updates" "non-free" rfl rfl (by decide)
  refine ⟨split, built.1, ?_⟩
  rw [bare]
  decide +kernel

end AptlyGui

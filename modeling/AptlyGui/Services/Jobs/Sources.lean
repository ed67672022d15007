import AptlyGui.Services.Jobs.Runner
import AptlyGui.Library.Fold

/-!
# The sources of one suite

What `sourcesFor` makes of a target: exactly the set's components, each with
the snapshot that the target records for it in this suite.
-/

namespace AptlyGui

namespace JobRunner

variable {mirrorSet : MirrorSet} {target : SnapshotSet} {suite : String}
  {sources : Dict String String}

/-- Every component has its snapshot, and there is nothing else. -/
theorem sourcesFor_get? (found : sourcesFor mirrorSet target suite = .ok sources)
    (component : String) : sources.get? component =
      if component ∈ mirrorSet.components then
        target.snapshots.get? (mirrorSet.mirrorName suite component)
      else none := by
  have general := List.invariant_of_foldlM (fun seen (sources : Dict String String) =>
    sources.get? component =
      if component ∈ seen then target.snapshots.get? (mirrorSet.mirrorName suite component)
      else none) (by simp) ?_ found
  · exact general
  · intro seen item value next holds turn
    split at turn
    · rename_i name recorded
      cases turn
      by_cases here : component = item
      · subst here
        simp [recorded]
      · simp [here, holds]
    · cases turn

theorem sourcesFor_recorded (found : sourcesFor mirrorSet target suite = .ok sources)
    {component : String} (listed : component ∈ mirrorSet.components) :
    ∃ name, target.snapshots.get? (mirrorSet.mirrorName suite component) = some name := by
  have general := List.invariant_of_foldlM (fun seen (_ : Dict String String) =>
    ∀ component ∈ seen, ∃ name,
      target.snapshots.get? (mirrorSet.mirrorName suite component) = some name)
    (by simp) ?_ found
  · exact general component listed
  · intro seen item value next holds turn other present
    split at turn
    · rename_i name recorded
      rcases List.mem_append.mp present with earlier | here
      · exact holds other earlier
      · obtain rfl := List.mem_singleton.mp here
        exact ⟨name, recorded⟩
    · cases turn

theorem sourcesFor_values (found : sourcesFor mirrorSet target suite = .ok sources)
    {name : String} (listed : name ∈ sources.values) : name ∈ target.snapshots.values := by
  obtain ⟨component, lookup⟩ := Dict.mem_values_iff.mp listed
  rw [sourcesFor_get? found] at lookup
  split at lookup
  · exact Dict.mem_values_iff.mpr ⟨_, lookup⟩
  · cases lookup

theorem sourcesFor_error {error : Exn}
    (failed : sourcesFor mirrorSet target suite = .error error) :
    error.isException = true := by
  obtain ⟨component, -, sources, raised⟩ := List.error_of_foldlM failed
  split at raised
  · cases raised
  · cases raised
    rfl

theorem verifyProblems_error {actual : Dict (String × String) Published}
    {error : Exn} (failed : verifyProblems mirrorSet target actual = .error error) :
    error.isException = true := by
  obtain ⟨suite, -, problems, raised⟩ := List.error_of_foldlM failed
  split at raised
  · cases raised
  · rename_i found _
    cases inner : componentProblems mirrorSet target suite found with
    | ok more =>
        rw [inner] at raised
        cases raised
    | error error =>
        rw [inner] at raised
        cases raised
        obtain ⟨component, -, listed, raised⟩ := List.error_of_foldlM inner
        split at raised
        · cases raised
          rfl
        · split at raised <;> cases raised

/-- The Verify step finds nothing wrong with a suite only when each component points where the
target says. -/
theorem snapshotFor_of_componentProblems {found : Published}
    (none : componentProblems mirrorSet target suite found = .ok []) :
    ∀ component ∈ mirrorSet.components, ∃ name,
      target.snapshots.get? (mirrorSet.mirrorName suite component) = some name ∧
        found.snapshotFor component = some name := by
  have general := List.invariant_of_foldlM (fun seen (problems : List String) => problems = [] →
    ∀ component ∈ seen, ∃ name,
      target.snapshots.get? (mirrorSet.mirrorName suite component) = some name ∧
        found.snapshotFor component = some name) (by simp) ?_ none
  · exact general rfl
  · intro seen item problems next holds turn
    split at turn
    · cases turn
    · rename_i expected recorded
      split at turn
      · cases turn
        simp
      · rename_i points
        cases turn
        intro silent component listed
        rcases List.mem_append.mp listed with earlier | here
        · exact holds silent component earlier
        · obtain rfl := List.mem_singleton.mp here
          exact ⟨expected, recorded, by simpa using points⟩

theorem found_of_verifyProblems {actual : Dict (String × String) Published}
    (none : verifyProblems mirrorSet target actual = .ok []) :
    ∀ suite ∈ mirrorSet.suites, ∃ found,
      actual.get? (mirrorSet.publishPrefix, suite) = some found ∧
        ∀ component ∈ mirrorSet.components, ∃ name,
          target.snapshots.get? (mirrorSet.mirrorName suite component) = some name ∧
            found.snapshotFor component = some name := by
  have general := List.invariant_of_foldlM (fun seen (problems : List String) => problems = [] →
    ∀ suite ∈ seen, ∃ found, actual.get? (mirrorSet.publishPrefix, suite) = some found ∧
      ∀ component ∈ mirrorSet.components, ∃ name,
        target.snapshots.get? (mirrorSet.mirrorName suite component) = some name ∧
          found.snapshotFor component = some name) (by simp) ?_ none
  · exact general rfl
  · intro seen item problems next holds turn
    split at turn
    · cases turn
      simp
    · rename_i found listed
      cases inner : componentProblems mirrorSet target item found with
      | error error =>
          rw [inner] at turn
          cases turn
      | ok more =>
          rw [inner] at turn
          cases turn
          intro silent suite present
          obtain ⟨earlier, last⟩ := List.append_eq_nil_iff.mp silent
          rcases List.mem_append.mp present with before | here
          · exact holds earlier suite before
          · obtain rfl := List.mem_singleton.mp here
            exact ⟨found, listed, snapshotFor_of_componentProblems (last ▸ inner)⟩

end JobRunner

end AptlyGui

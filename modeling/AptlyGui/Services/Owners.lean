import AptlyGui.Library.Cut
import AptlyGui.Services.Jobs.Frame
import Mathlib.Data.List.Flatten
import Mathlib.Data.List.ProdSigma

/-!
# Who owns a mirror name

A mirror set owns the names it generates for its suites and components.  The
create form looks only at the name of the set, and the adopt form at nothing,
so two sets may expect one mirror, and one set may expect it twice.

A name is joined with dashes, which its parts may have themselves.  So two names
clash when their parts are the same, and also when a dash within a part of the
one is where parts of the other are joined.
-/

namespace AptlyGui

/-- The mirror names of all stored sets, one for each set, suite and component. -/
def Database.mirrorNames (db : Database) : List String :=
  db.mirrorSets.rows.flatMap MirrorSet.expectedMirrors

def Database.OneOwner (db : Database) : Prop := db.mirrorNames.Nodup

/-! ## When two names clash -/

/-- Two texts in front of and behind a dash make one text: they are the same, or one front goes on,
behind a dash, with what the other rear begins with. -/
def Coincide (first second : String × String) : Prop :=
  first = second ∨
    (∃ between, second.1 = first.1 ++ "-" ++ between ∧ first.2 = between ++ "-" ++ second.2) ∨
    ∃ between, first.1 = second.1 ++ "-" ++ between ∧ second.2 = between ++ "-" ++ first.2

namespace MirrorSet

/-- What stands in front of the component in a mirror's name. -/
def lead (mirrorSet : MirrorSet) (suite : String) : String :=
  match mirrorSet.mirrorPattern with
  | .setSuiteComponent => mirrorSet.name ++ "-" ++ suite
  | .suiteComponent => suite

/-- No two suites and components of the set coincide. -/
def Single (mirrorSet : MirrorSet) : Prop :=
  (mirrorSet.suites ×ˢ mirrorSet.components).Pairwise fun first second => ¬ Coincide first second

/-- No suite and component of the one set coincides with one of the other set, each behind the name
of its set where the pattern has it. -/
def Apart (mirrorSet other : MirrorSet) : Prop :=
  ∀ suite ∈ mirrorSet.suites, ∀ component ∈ mirrorSet.components,
    ∀ otherSuite ∈ other.suites, ∀ otherComponent ∈ other.components,
      ¬ Coincide (mirrorSet.lead suite, component) (other.lead otherSuite, otherComponent)

end MirrorSet

theorem joined_eq_iff (first second : String × String) :
    first.1 ++ "-" ++ first.2 = second.1 ++ "-" ++ second.2 ↔ Coincide first second := by
  have texts (text other : String) : text = other ↔ text.toList = other.toList :=
    String.toList_inj.symm
  have joined (front rear : String) : (front ++ "-" ++ rear).toList = front.toList ++ '-' :: rear.toList := by
    simp
  have pieces (claim : List Char → Prop) : (∃ between : String, claim between.toList) ↔
      ∃ between, claim between :=
    ⟨fun ⟨between, held⟩ => ⟨_, held⟩, fun ⟨between, held⟩ => ⟨String.ofList between, by simpa using held⟩⟩
  rw [texts, joined, joined, List.append_cons_eq_iff, Coincide, Prod.ext_iff]
  simp only [texts, joined]
  rw [← pieces fun between => second.1.toList = first.1.toList ++ '-' :: between ∧
      first.2.toList = between ++ '-' :: second.2.toList,
    ← pieces fun between => first.1.toList = second.1.toList ++ '-' :: between ∧
      second.2.toList = between ++ '-' :: first.2.toList]

instance (first second : String × String) : Decidable (Coincide first second) :=
  decidable_of_iff _ (joined_eq_iff first second)

instance : DecidablePred MirrorSet.Single := fun mirrorSet =>
  inferInstanceAs (Decidable ((mirrorSet.suites ×ˢ mirrorSet.components).Pairwise
    fun first second => ¬ Coincide first second))

instance (mirrorSet other : MirrorSet) : Decidable (mirrorSet.Apart other) :=
  inferInstanceAs (Decidable (∀ suite ∈ mirrorSet.suites, ∀ component ∈ mirrorSet.components,
    ∀ otherSuite ∈ other.suites, ∀ otherComponent ∈ other.components,
      ¬ Coincide (mirrorSet.lead suite, component) (other.lead otherSuite, otherComponent)))

section Clash

variable {mirrorSet other : MirrorSet} {suite component : String}

theorem MirrorSet.mirrorName_eq_lead (mirrorSet : MirrorSet) (suite component : String) :
    mirrorSet.mirrorName suite component = mirrorSet.lead suite ++ "-" ++ component := by
  rw [mirrorName, lead]
  cases mirrorSet.mirrorPattern <;> simp [Pattern.format, toString]

/-- The name of the set, if it is there, is the same in all its mirrors' names. -/
theorem MirrorSet.mirrorName_eq_iff (mirrorSet : MirrorSet) (first second : String × String) :
    mirrorSet.mirrorName first.1 first.2 = mirrorSet.mirrorName second.1 second.2 ↔
      Coincide first second := by
  rw [← joined_eq_iff, mirrorName_eq_lead, mirrorName_eq_lead]
  unfold lead
  split
  · simp only [← String.toList_inj, String.toList_append, List.append_assoc, List.append_cancel_left_eq]
  · exact Iff.rfl

theorem MirrorSet.expectedMirrors_eq_map (mirrorSet : MirrorSet) : mirrorSet.expectedMirrors =
    (mirrorSet.suites ×ˢ mirrorSet.components).map fun pair =>
      mirrorSet.mirrorName pair.1 pair.2 := by
  rw [expectedMirrors]
  induction mirrorSet.suites with
  | nil => rfl
  | cons suite rest inductionHypothesis =>
      rw [List.flatMap_cons, List.product_cons, List.map_append, List.map_map, inductionHypothesis]
      rfl

theorem MirrorSet.nodup_expectedMirrors_iff : mirrorSet.expectedMirrors.Nodup ↔ mirrorSet.Single := by
  rw [expectedMirrors_eq_map, List.Nodup, List.pairwise_map, Single]
  exact List.Pairwise.iff fun first second => not_congr (mirrorSet.mirrorName_eq_iff first second)

theorem MirrorSet.apart_iff : mirrorSet.Apart other ↔
    ∀ name ∈ mirrorSet.expectedMirrors, name ∉ other.expectedMirrors := by
  simp only [Apart, ← joined_eq_iff, ← mirrorName_eq_lead, mem_expectedMirrors]
  constructor
  · rintro apart name ⟨suite, here, component, among, rfl⟩
      ⟨otherSuite, there, otherComponent, within, same⟩
    exact apart suite here component among otherSuite there otherComponent within same.symm
  · intro apart suite here component among otherSuite there otherComponent within same
    exact apart _ ⟨suite, here, component, among, rfl⟩
      ⟨otherSuite, there, otherComponent, within, same.symm⟩

end Clash

/-! ## What is stored -/

/-- Every mirror set among the changes is single, and apart from those before it. -/
def Write.keepsApart (stored : List MirrorSet) : List Write → Bool
  | [] => true
  | .addMirrorSet mirrorSet :: rest =>
      decide mirrorSet.Single && (stored.all fun other => decide (mirrorSet.Apart other)) &&
        keepsApart (stored ++ [mirrorSet]) rest
  | _ :: rest => keepsApart stored rest

/-- A set is stored only if it is single, and apart from the sets that are stored. -/
def World.keepsApart (world : World) (op : Op) (_ : Event) : Bool :=
  match op with
  | .commit _ writes => Write.keepsApart world.db.mirrorSets.rows writes
  | _ => true

section Owners

variable {db after : Database} {now : Time} {inserted keys : Inserted} {mirrorSet : MirrorSet}

theorem Database.mirrorNames_insert (table : Table MirrorSet) (mirrorSet : MirrorSet) :
    (table.insert mirrorSet).rows.flatMap MirrorSet.expectedMirrors =
      table.rows.flatMap MirrorSet.expectedMirrors ++ mirrorSet.expectedMirrors := by
  simp only [Table.insert, List.flatMap_append, List.flatMap_cons, List.flatMap_nil,
    List.append_nil]
  rfl

theorem Database.mirrorNames_delete (table : Table MirrorSet) (id : Nat) :
    ((table.delete id).rows.flatMap MirrorSet.expectedMirrors).Sublist
      (table.rows.flatMap MirrorSet.expectedMirrors) :=
  List.filter_sublist.flatMap _

/-- One more set leaves every name with one owner just when it is single and apart. -/
theorem Database.oneOwner_insert_iff (owned : db.OneOwner)
    (sets : after.mirrorSets = db.mirrorSets.insert mirrorSet) : after.OneOwner ↔
      mirrorSet.Single ∧ ∀ other ∈ db.mirrorSets.rows, mirrorSet.Apart other := by
  rw [OneOwner, mirrorNames] at owned
  rw [OneOwner, mirrorNames, sets, mirrorNames_insert, List.nodup_append']
  simp only [owned, true_and, MirrorSet.nodup_expectedMirrors_iff, MirrorSet.apart_iff,
    List.disjoint_right, List.mem_flatMap, not_exists, not_and]
  refine and_congr_right fun _ => ?_
  constructor
  · exact fun disjoint other listed name new => disjoint new other listed
  · exact fun apart name new other listed => apart other listed name new

/-- A commit that keeps the sets apart leaves every name with one owner. -/
theorem Database.oneOwner_of_writeAll {writes : List Write} {stored : List MirrorSet}
    (known : ∀ row ∈ db.mirrorSets.rows, ∃ other ∈ stored,
      row.expectedMirrors = other.expectedMirrors) (owned : db.OneOwner)
    (apart : Write.keepsApart stored writes = true)
    (committed : db.writeAll now inserted writes = .ok (after, keys)) : after.OneOwner := by
  induction writes generalizing db inserted stored with
  | nil =>
      cases committed
      exact owned
  | cons change rest inductionHypothesis =>
      rw [writeAll] at committed
      split at committed
      · rename_i middle handed wrote
        have sets := (write_tables wrote).2.2.1
        have spared : middle.mirrorSets = db.mirrorSets → Write.keepsApart stored rest = true →
            after.OneOwner := by
          intro same others
          refine inductionHypothesis ?_ ?_ others committed
          · rw [same]
            exact known
          · rw [OneOwner, mirrorNames, same]
            exact owned
        cases change with
        | addMirrorSet mirrorSet =>
            simp only [Write.keepsApart, Bool.and_eq_true, decide_eq_true_eq, List.all_eq_true]
              at apart
            obtain ⟨⟨single, separate⟩, others⟩ := apart
            have added : middle.mirrorSets = db.mirrorSets.insert mirrorSet := sets
            refine inductionHypothesis ?_ ?_ others committed
            · intro row listed
              rw [added] at listed
              rcases List.mem_append.mp listed with old | new
              · obtain ⟨other, among, same⟩ := known row old
                exact ⟨other, List.mem_append_left _ among, same⟩
              · obtain rfl := List.mem_singleton.mp new
                exact ⟨mirrorSet, List.mem_append_right _ (List.mem_singleton_self _), rfl⟩
            · refine (oneOwner_insert_iff owned added).mpr ⟨single, fun row listed => ?_⟩
              obtain ⟨other, among, same⟩ := known row listed
              rw [MirrorSet.apart_iff, same, ← MirrorSet.apart_iff]
              exact separate other among
        | deleteMirrorSet id =>
            have fewer : middle.mirrorNames.Sublist db.mirrorNames := by
              rw [mirrorNames, sets]
              exact mirrorNames_delete db.mirrorSets id
            refine inductionHypothesis (fun row listed => known row ?_) (fewer.nodup owned) apart
              committed
            rw [sets] at listed
            exact List.mem_of_mem_filter listed
        | _ => exact spared sets apart
      · cases committed

end Owners

/-- Every mirror name has one owner in every state of every run in which each set that is stored is
single, and apart from the sets that are stored already. -/
theorem every_mirror_name_has_one_owner {self : JobRunner} {start system : System}
    (owned : start.world.db.OneOwner)
    (reached : System.Reachable self
      (fun system label => system.checked World.keepsApart label) start system) :
    system.world.db.OneOwner := by
  refine reached.keeps_db Database.OneOwner (fun world owned => owned) ?_ owned
  intro world op event db apart stored owned
  cases op with
  | commit session writes =>
      simp only [World.stored] at stored
      split at stored
      · rename_i committed
        cases stored
        exact Database.oneOwner_of_writeAll (fun row listed => ⟨row, listed, rfl⟩) owned apart committed
      · cases stored
  | _ => cases stored

namespace Owners

/-- An operator creates one set and adopts another. -/
def stored (created adopted : SetForm) : List Label :=
  [.start, .arrive (.web (.newSetSubmit "operator" created)), .serve 0 .proceed,
    .serve 0 .proceed, .serve 0 .proceed, .serve 0 .proceed,
    .arrive (.web (.adoptSubmit adopted)), .serve 1 .proceed]

end Owners

theorem not_every_mirror_name_has_one_owner : ¬ ∀ (self : JobRunner) (aptly : Aptly)
    (labels : List Label) (system : System),
    (System.blank .empty aptly).run self labels = some system → system.world.db.OneOwner := by
  intro claimed
  have runs : ((System.blank .empty Sample.mirrored).run Sample.runner
      (Owners.stored (Sample.form "debian" "stable") (Sample.form "debian-copy" "stable"))).any
      (fun system => decide (system.world.db.mirrorNames = ["stable-main", "stable-main"])) =
      true := by
    decide
  obtain ⟨system, ran, names⟩ := (Option.any_eq_true _ _).mp runs
  have owned := claimed _ _ _ _ ran
  rw [Database.OneOwner, of_decide_eq_true names] at owned
  exact absurd owned (by decide)

/-- The second set has another suite. -/
theorem every_mirror_name_has_one_owner_debian : ∃ system : System,
    system.world.db.mirrorNames = ["stable-main", "testing-main"] ∧
      system.world.db.OneOwner := by
  have runs : ((System.blank .empty Sample.mirrored).runUnder Sample.runner
      (fun system label => system.checked World.keepsApart label)
      (Owners.stored (Sample.form "debian" "stable") (Sample.form "debian-testing" "testing"))).any
      (fun system => decide (system.world.db.mirrorNames = ["stable-main", "testing-main"])) =
      true := by
    decide
  obtain ⟨system, ran, names⟩ := (Option.any_eq_true _ _).mp runs
  have owned : (System.blank .empty Sample.mirrored).world.db.OneOwner := by
    rw [Database.OneOwner]
    decide
  exact ⟨system, of_decide_eq_true names,
    every_mirror_name_has_one_owner owned (.of_runUnder ran)⟩

end AptlyGui

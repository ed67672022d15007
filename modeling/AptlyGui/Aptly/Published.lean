import AptlyGui.Aptly.Prefix

/-!
# What aptly publishes

Clients of a published tree can tell which snapshot stands behind a component,
by place and distribution, and nothing else: a `View`.  A publishing call asks
for some components of one publication to be pointed at snapshots, and on views
that is all it does, however often it is carried out.
-/

namespace AptlyGui

/-- The snapshot behind each component, by place and distribution. -/
abbrev View := Place → String → String → Option String

namespace View

/-- One publication shows these sources, and as before what is not among them. -/
def point (view : View) (place : Place) (distribution : String) (sources : Dict String String) :
    View :=
  fun spot suite component =>
    if spot = place ∧ suite = distribution then
      (sources.get? component).or (view spot suite component)
    else view spot suite component

@[simp]
theorem point_point (view : View) (place : Place) (distribution : String)
    (sources : Dict String String) :
    (view.point place distribution sources).point place distribution sources =
      view.point place distribution sources := by
  funext spot suite component
  by_cases here : spot = place ∧ suite = distribution
  · simp only [point, if_pos here]
    cases sources.get? component <;> rfl
  · simp only [point, if_neg here]

end View

namespace Aptly

variable {aptly before after : Aptly} {place : Place} {distribution : String}
  {publication : Publication}

/-- aptly keeps one publication for each place and distribution. -/
def Distinct (aptly : Aptly) : Prop :=
  ∀ first ∈ aptly.published, ∀ second ∈ aptly.published, first.place = second.place →
    first.distribution = second.distribution → first = second

def publicationAt (aptly : Aptly) (place : Place) (distribution : String) : Option Publication :=
  aptly.published.find? fun publication =>
    publication.place = place ∧ publication.distribution = distribution

def view (aptly : Aptly) : View := fun place distribution component =>
  (aptly.publicationAt place distribution).bind fun publication =>
    (Published.parse publication).snapshotFor component

/-- Some publication there names this snapshot. -/
def Names (aptly : Aptly) (place : Place) (distribution component name : String) : Prop :=
  ∃ publication ∈ aptly.published, publication.place = place ∧
    publication.distribution = distribution ∧ ⟨component, name⟩ ∈ publication.sources

theorem of_publicationAt (found : aptly.publicationAt place distribution = some publication) :
    publication ∈ aptly.published ∧ publication.place = place ∧
      publication.distribution = distribution := by
  have matched := List.find?_some found
  simp only [decide_eq_true_eq] at matched
  exact ⟨List.mem_of_find?_eq_some found, matched⟩

theorem publicationAt_isSome_iff : (aptly.publicationAt place distribution).isSome = true ↔
    ∃ publication ∈ aptly.published,
      publication.place = place ∧ publication.distribution = distribution := by
  simp [publicationAt, List.find?_isSome]

theorem publicationAt_eq_some_iff (distinct : aptly.Distinct) :
    aptly.publicationAt place distribution = some publication ↔
      publication ∈ aptly.published ∧ publication.place = place ∧
        publication.distribution = distribution := by
  refine ⟨of_publicationAt, ?_⟩
  rintro ⟨listed, here, named⟩
  obtain ⟨other, found⟩ := Option.isSome_iff_exists.mp
    (publicationAt_isSome_iff.mpr ⟨publication, listed, here, named⟩)
  obtain ⟨known, there, called⟩ := of_publicationAt found
  rw [found, distinct other known publication listed (there.trans here.symm)
    (called.trans named.symm)]

/-- The order of the listing does not matter. -/
theorem Distinct.perm (distinct : before.Distinct) (same : after.published.Perm before.published) :
    after.Distinct := by
  intro first one second two
  exact distinct first (same.mem_iff.mp one) second (same.mem_iff.mp two)

theorem publicationAt_perm (distinct : before.Distinct)
    (same : after.published.Perm before.published) (place : Place) (distribution : String) :
    after.publicationAt place distribution = before.publicationAt place distribution := by
  ext publication
  rw [publicationAt_eq_some_iff distinct, publicationAt_eq_some_iff (distinct.perm same),
    same.mem_iff]

theorem view_perm (distinct : before.Distinct) (same : after.published.Perm before.published) :
    after.view = before.view := by
  funext place distribution component
  rw [view, view, publicationAt_perm distinct same]

theorem names_perm (same : after.published.Perm before.published) {component name : String} :
    after.Names place distribution component name ↔ before.Names place distribution component name := by
  unfold Names
  simp only [same.mem_iff]

end Aptly

/-! ## Pointing a publication at snapshots -/

/-- What a publishing call is about. -/
structure Pointing where
  place : Place
  distribution : String
  sources : Dict String String

namespace Pointing

variable {pointing : Pointing} {before after : Aptly}

/-- The publication afterwards: a new one, or the old one with other snapshots. -/
def result (pointing : Pointing) : Option Publication → Publication
  | none =>
      { storage := pointing.place.storage
        barePrefix := pointing.place.barePrefix
        distribution := pointing.distribution
        sources := pointing.sources.entries.map fun (component, name) => ⟨component, name⟩ }
  | some publication =>
      { publication with
        sources := publication.sources.map fun source =>
          ⟨source.component, (pointing.sources.get? source.component).getD source.name⟩ }

def publishedAfter (pointing : Pointing) (aptly : Aptly) : List Publication :=
  pointing.result (aptly.publicationAt pointing.place pointing.distribution) ::
    aptly.published.filter fun publication =>
      ¬ (publication.place = pointing.place ∧ publication.distribution = pointing.distribution)

/-- The publication has the components that are to be pointed elsewhere. -/
def Suits (pointing : Pointing) (aptly : Aptly) : Prop :=
  ∀ publication, aptly.publicationAt pointing.place pointing.distribution = some publication →
    ∀ component ∈ pointing.sources.keys,
      ∃ source ∈ publication.sources, source.component = component

theorem place_result (aptly : Aptly) :
    (pointing.result (aptly.publicationAt pointing.place pointing.distribution)).place =
      pointing.place ∧
    (pointing.result (aptly.publicationAt pointing.place pointing.distribution)).distribution =
      pointing.distribution := by
  cases found : aptly.publicationAt pointing.place pointing.distribution with
  | none => exact ⟨rfl, rfl⟩
  | some publication =>
      obtain ⟨-, here, named⟩ := Aptly.of_publicationAt found
      exact ⟨here, named⟩

theorem mem_publishedAfter {publication : Publication} :
    publication ∈ pointing.publishedAfter before ↔
      publication = pointing.result (before.publicationAt pointing.place pointing.distribution) ∨
      publication ∈ before.published ∧
        ¬ (publication.place = pointing.place ∧
          publication.distribution = pointing.distribution) := by
  simp only [publishedAfter, List.mem_cons, List.mem_filter, decide_eq_true_eq]

variable (carried : after.published.Perm (pointing.publishedAfter before))

include carried

theorem distinct_after (distinct : before.Distinct) : after.Distinct := by
  obtain ⟨here, named⟩ := @place_result pointing before
  intro first one second two place distribution
  rcases mem_publishedAfter.mp (carried.mem_iff.mp one) with rfl | ⟨one, other⟩
  · rcases mem_publishedAfter.mp (carried.mem_iff.mp two) with rfl | ⟨two, other⟩
    · rfl
    · exact absurd ⟨place.symm.trans here, distribution.symm.trans named⟩ other
  · rcases mem_publishedAfter.mp (carried.mem_iff.mp two) with rfl | ⟨two, -⟩
    · exact absurd ⟨place.trans here, distribution.trans named⟩ other
    · exact distinct first one second two place distribution

theorem publicationAt_after (distinct : before.Distinct) (place : Place) (distribution : String) :
    after.publicationAt place distribution =
      if place = pointing.place ∧ distribution = pointing.distribution then
        some (pointing.result (before.publicationAt pointing.place pointing.distribution))
      else before.publicationAt place distribution := by
  obtain ⟨here, named⟩ := @place_result pointing before
  have afterwards := distinct_after carried distinct
  split
  · rename_i same
    obtain ⟨rfl, rfl⟩ := same
    rw [Aptly.publicationAt_eq_some_iff afterwards, carried.mem_iff, mem_publishedAfter]
    exact ⟨.inl rfl, here, named⟩
  · rename_i other
    ext publication
    rw [Aptly.publicationAt_eq_some_iff afterwards, Aptly.publicationAt_eq_some_iff distinct,
      carried.mem_iff, mem_publishedAfter]
    constructor
    · rintro ⟨rfl | ⟨listed, -⟩, place, distribution⟩
      · exact absurd ⟨place.symm.trans here, distribution.symm.trans named⟩ other
      · exact ⟨listed, place, distribution⟩
    · rintro ⟨listed, rfl, rfl⟩
      exact ⟨.inr ⟨listed, other⟩, rfl, rfl⟩

omit carried

theorem snapshotFor_entries (entries : List (String × String)) (component : String) :
    ((entries.map fun (component, name) => (⟨component, name⟩ : PublishedSource)).find?
      fun source => source.component = component).map PublishedSource.name =
        Dict.getEntries component entries := by
  induction entries with
  | nil => rfl
  | cons entry rest inductionHypothesis =>
      obtain ⟨key, value⟩ := entry
      rw [List.map_cons, List.find?_cons, Dict.getEntries]
      by_cases here : key = component
      · simp [here]
      · simp only [here, decide_false, if_false]
        exact inductionHypothesis

theorem snapshotFor_repointed (sources : Dict String String) (listed : List PublishedSource)
    (component : String)
    (known : component ∈ sources.keys → ∃ source ∈ listed, source.component = component) :
    ((listed.map fun source => (⟨source.component,
      (sources.get? source.component).getD source.name⟩ : PublishedSource)).find?
        fun source => source.component = component).map PublishedSource.name =
      (sources.get? component).or
        ((listed.find? fun source => source.component = component).map PublishedSource.name) := by
  induction listed with
  | nil =>
      have unknown : sources.get? component = none := by
        rw [Dict.get?_eq_none_iff]
        intro key
        obtain ⟨_, listed, -⟩ := known key
        cases listed
      simp [unknown]
  | cons source rest inductionHypothesis =>
      rw [List.map_cons, List.find?_cons, List.find?_cons]
      by_cases here : source.component = component
      · subst here
        cases sources.get? source.component <;> simp
      · simp only [here, decide_false]
        apply inductionHypothesis
        intro key
        obtain ⟨other, listed, same⟩ := known key
        rcases List.mem_cons.mp listed with rfl | later
        · exact absurd same here
        · exact ⟨other, later, same⟩

/-- Carried out, the call has pointed the view, and has done nothing else. -/
theorem view_after (carried : after.published.Perm (pointing.publishedAfter before))
    (distinct : before.Distinct) (suits : pointing.Suits before) :
    after.view = before.view.point pointing.place pointing.distribution pointing.sources := by
  funext place distribution component
  rw [Aptly.view, publicationAt_after carried distinct, View.point]
  split
  · rename_i same
    obtain ⟨rfl, rfl⟩ := same
    rw [Aptly.view, Option.bind_some]
    cases found : before.publicationAt pointing.place pointing.distribution with
    | none =>
        rw [Option.bind_none, Option.or_none]
        exact snapshotFor_entries pointing.sources.entries component
    | some publication =>
        exact snapshotFor_repointed pointing.sources publication.sources component
          (suits publication found component)
  · rfl

/-- Whatever a publication names afterwards, the call has asked for, or it has been named before. -/
theorem names_of_after (carried : after.published.Perm (pointing.publishedAfter before))
    {place : Place} {distribution component name : String}
    (named : after.Names place distribution component name) :
    (place = pointing.place ∧ distribution = pointing.distribution ∧
        pointing.sources.get? component = some name) ∨
      ¬ (place = pointing.place ∧ distribution = pointing.distribution ∧
          component ∈ pointing.sources.keys) ∧
        before.Names place distribution component name := by
  obtain ⟨publication, listed, rfl, rfl, shown⟩ := named
  rcases mem_publishedAfter.mp (carried.mem_iff.mp listed) with rfl | ⟨old, other⟩
  · obtain ⟨here, called⟩ := @place_result pointing before
    cases found : before.publicationAt pointing.place pointing.distribution with
    | none =>
        rw [found] at shown here called
        obtain ⟨entry, asked, same⟩ := List.mem_map.mp shown
        cases same
        exact .inl ⟨here, called, Dict.get?_eq_some_iff.mpr asked⟩
    | some publication =>
        rw [found] at shown here called
        obtain ⟨source, before, same⟩ := List.mem_map.mp shown
        cases same
        obtain ⟨present, -, -⟩ := Aptly.of_publicationAt found
        cases known : pointing.sources.get? source.component with
        | some name => exact .inl ⟨here, called, rfl⟩
        | none =>
            rw [Dict.get?_eq_none_iff] at known
            exact .inr ⟨fun asked => known asked.2.2, publication, present, rfl, rfl, before⟩
  · exact .inr ⟨fun asked => other ⟨asked.1, asked.2.1⟩, publication, old, rfl, rfl, shown⟩

end Pointing

end AptlyGui

import AptlyGui.Services.Presets
import AptlyGui.Web.Handlers
import Mathlib.Data.List.DropRight
import Mathlib.Data.String.Basic

/-!
# Lists in form fields

A form holds a list as one text, joined by commas or on lines of its own, and
`_split` takes it apart again.  It gives a joined list back when its entries
are such as `_split` itself makes.
-/

namespace AptlyGui

/-! ## Taking a field apart -/

theorem splitCommas_eq (chars : List Char) : splitCommas chars = chars.splitOn ',' := by
  induction chars with
  | nil => rfl
  | cons char rest inductionHypothesis =>
      rw [splitCommas, List.splitOn_cons_eq_if_modifyHead, inductionHypothesis]
      simp only [beq_iff_eq]
      split
      · rfl
      · cases pieces : rest.splitOn ',' with
        | nil => exact absurd pieces (List.splitOn_ne_nil ',' rest)
        | cons first others => rfl

theorem splitCommas_append (first rest : List Char) :
    splitCommas (first ++ ',' :: rest) = splitCommas first ++ splitCommas rest := by
  rw [splitCommas_eq, splitCommas_eq, splitCommas_eq]
  exact List.splitOn_append_cons_self first rest

/-- The pieces are made of what stands between the commas. -/
theorem mem_of_mem_splitCommas {chars piece : List Char} (listed : piece ∈ splitCommas chars)
    {char : Char} (among : char ∈ piece) : char ∈ chars ∧ char ≠ ',' := by
  induction chars generalizing piece with
  | nil =>
      obtain rfl := List.mem_singleton.mp listed
      cases among
  | cons head rest inductionHypothesis =>
      have later : ∀ {piece : List Char}, piece ∈ splitCommas rest → char ∈ piece →
          char ∈ head :: rest ∧ char ≠ ',' := by
        intro piece listed among
        obtain ⟨present, other⟩ := inductionHypothesis listed among
        exact ⟨List.mem_cons_of_mem _ present, other⟩
      rw [splitCommas] at listed
      split at listed
      · rcases List.mem_cons.mp listed with rfl | after
        · cases among
        · exact later after among
      · rename_i other
        have here : head ∈ head :: rest ∧ head ≠ ',' := ⟨List.mem_cons_self, other⟩
        cases pieces : splitCommas rest with
        | nil =>
            rw [pieces] at listed
            obtain rfl := List.mem_singleton.mp listed
            obtain rfl := List.mem_singleton.mp among
            exact here
        | cons first others =>
            rw [pieces] at listed later
            rcases List.mem_cons.mp listed with rfl | after
            · rcases List.mem_cons.mp among with rfl | inside
              · exact here
              · exact later List.mem_cons_self inside
            · exact later (List.mem_cons_of_mem _ after) among

/-! ## Trimming -/

theorem stripChars_eq (chars : List Char) :
    stripChars chars = (chars.dropWhile isSpace).rdropWhile isSpace := rfl

theorem stripChars_isPrefix_dropWhile (chars : List Char) :
    stripChars chars <+: chars.dropWhile isSpace :=
  List.rdropWhile_prefix isSpace _

theorem mem_of_mem_stripChars {chars : List Char} {char : Char} (kept : char ∈ stripChars chars) :
    char ∈ chars :=
  List.dropWhile_subset isSpace ((stripChars_isPrefix_dropWhile chars).subset kept)

theorem head?_stripChars {chars : List Char} {char : Char}
    (first : char ∈ (stripChars chars).head?) : isSpace char = false := by
  obtain ⟨rest, trimmed⟩ := List.head?_eq_some_iff.mp first
  obtain ⟨more, whole⟩ := stripChars_isPrefix_dropWhile chars
  have bare := List.head?_dropWhile_not isSpace chars
  rw [← whole, trimmed] at bare
  exact bare

theorem getLast?_stripChars {chars : List Char} {char : Char}
    (last : char ∈ (stripChars chars).getLast?) : isSpace char = false := by
  have some : stripChars chars ≠ [] := by
    intro empty
    rw [empty] at last
    cases last
  rw [List.getLast?_eq_some_getLast some, Option.mem_some_iff] at last
  rw [← last]
  have bare := List.rdropWhile_last_not isSpace (chars.dropWhile isSpace) some
  exact Bool.eq_false_of_not_eq_true bare

/-- A text without whitespace at its ends stays as it is. -/
theorem stripChars_eq_self {chars : List Char}
    (first : ∀ char ∈ chars.head?, isSpace char = false)
    (last : ∀ char ∈ chars.getLast?, isSpace char = false) :
    stripChars chars = chars := by
  have front : chars.dropWhile isSpace = chars := by
    cases chars with
    | nil => rfl
    | cons char rest => exact List.dropWhile_cons_of_neg (by simp [first char rfl])
  rw [stripChars_eq, front, List.rdropWhile_eq_self_iff]
  intro some
  simp [last _ (List.getLast?_eq_some_getLast some)]

/-- A leading space makes no difference. -/
theorem stripChars_space (chars : List Char) : stripChars (' ' :: chars) = stripChars chars := by
  rw [stripChars_eq, stripChars_eq, List.dropWhile_cons_of_pos (by decide)]

/-! ## Entries -/

/-- A text that can stand in a list. -/
@[mk_iff]
structure ListEntry (entry : String) : Prop where
  written : entry ≠ ""
  comma : ',' ∉ entry.toList
  newline : '\n' ∉ entry.toList
  first : ∀ char ∈ entry.toList.head?, isSpace char = false
  last : ∀ char ∈ entry.toList.getLast?, isSpace char = false

instance (entry : String) : Decidable (ListEntry entry) :=
  decidable_of_iff
    (entry ≠ "" ∧ ',' ∉ entry.toList ∧ '\n' ∉ entry.toList ∧
      entry.toList.head?.all (!isSpace ·) = true ∧ entry.toList.getLast?.all (!isSpace ·) = true)
    (by simp [listEntry_iff, Option.all_eq_true])

/-- `value.replace("\n", ",")` -/
theorem splitField_eq (value : String) : splitField value =
    ((splitCommas (value.toList.map fun char => if char = '\n' then ',' else char)).map
      stripChars).filterMap fun part => if part = [] then none else some (String.ofList part) := rfl

/-- Whatever is taken out of a field can stand in a list. -/
theorem listEntry_of_mem_splitField {value entry : String} (listed : entry ∈ splitField value) :
    ListEntry entry := by
  rw [splitField_eq] at listed
  obtain ⟨part, among, kept⟩ := List.mem_filterMap.mp listed
  obtain ⟨piece, split, rfl⟩ := List.mem_map.mp among
  split at kept
  · cases kept
  · rename_i some
    cases kept
    have inside : ∀ char ∈ stripChars piece, char ≠ ',' ∧ char ≠ '\n' := by
      intro char among
      obtain ⟨present, comma⟩ := mem_of_mem_splitCommas split (mem_of_mem_stripChars among)
      refine ⟨comma, ?_⟩
      rintro rfl
      obtain ⟨original, -, same⟩ := List.mem_map.mp present
      split at same
      · cases same
      · contradiction
    refine ⟨by simpa using some, ?_, ?_, ?_, ?_⟩ <;> simp only [String.toList_ofList]
    · exact fun among => (inside _ among).1 rfl
    · exact fun among => (inside _ among).2 rfl
    · exact fun char => head?_stripChars
    · exact fun char => getLast?_stripChars

/-- An entry is a field of its own. -/
theorem ListEntry.splitField {entry : String} (plain : ListEntry entry) :
    splitField entry = [entry] := by
  have same : (entry.toList.map fun char => if char = '\n' then ',' else char) = entry.toList := by
    conv_rhs => rw [← List.map_id entry.toList]
    apply List.map_congr_left
    intro char among
    rw [if_neg]
    · rfl
    · rintro rfl
      exact plain.newline among
  rw [splitField_eq, same, splitCommas_eq, List.splitOn_eq_singleton plain.comma, List.map_singleton,
    stripChars_eq_self plain.first plain.last]
  simp [plain.written]

/-! ## Joining -/

/-- What stands between two lists in a field so that it takes them apart. -/
def Separates (separator : String) : Prop :=
  ∀ first rest, splitField (first ++ separator ++ rest) = splitField first ++ splitField rest

theorem separates_of_comma {separator : String}
    (comma : (separator.toList.map fun char => if char = '\n' then ',' else char) = [',']) :
    Separates separator := by
  intro first rest
  simp only [splitField_eq, String.toList_append, List.map_append, List.append_assoc]
  rw [comma, List.singleton_append, splitCommas_append, List.map_append, List.filterMap_append]

theorem separates_comma : Separates "," := separates_of_comma (by decide)

theorem separates_newline : Separates "\n" := separates_of_comma (by decide)

/-- The first piece has a leading space, which trimming takes away. -/
theorem splitField_space (value : String) : splitField (" " ++ value) = splitField value := by
  simp only [splitField_eq, String.toList_append, List.map_append]
  have space : (" ".toList.map fun char => if char = '\n' then ',' else char) = [' '] := by decide
  rw [space, List.singleton_append, splitCommas, if_neg (by decide)]
  cases splitCommas (value.toList.map fun char => if char = '\n' then ',' else char) with
  | nil => rfl
  | cons first others => rw [List.map_cons, List.map_cons, stripChars_space]

theorem separates_commaSpace : Separates ", " := by
  intro first rest
  have apart : first ++ ", " ++ rest = first ++ "," ++ (" " ++ rest) := by
    simp only [String.append_assoc]
    rfl
  rw [apart, separates_comma, splitField_space]

theorem splitField_empty : splitField "" = [] := by decide

/-- Splitting a joined field gives the pieces of its parts. -/
theorem Separates.splitField_intercalate {separator : String} (separates : Separates separator)
    (parts : List String) :
    splitField (separator.intercalate parts) = parts.flatMap splitField := by
  induction parts with
  | nil => rw [String.intercalate_nil, splitField_empty, List.flatMap_nil]
  | cons part rest inductionHypothesis =>
      cases rest with
      | nil => simp
      | cons other rest =>
          rw [String.intercalate_cons_of_ne_nil (by simp), separates, inductionHypothesis]
          rfl

/-- A joined list comes back exactly when each part is an entry. -/
theorem Separates.splitField_eq_iff {separator : String} (separates : Separates separator)
    (entries : List String) : splitField (separator.intercalate entries) = entries ↔
      ∀ entry ∈ entries, ListEntry entry := by
  rw [separates.splitField_intercalate]
  constructor
  · intro same entry listed
    rw [← same] at listed
    obtain ⟨part, -, piece⟩ := List.mem_flatMap.mp listed
    exact listEntry_of_mem_splitField piece
  · intro plain
    induction entries with
    | nil => rfl
    | cons entry rest inductionHypothesis =>
        rw [List.flatMap_cons, (plain entry List.mem_cons_self).splitField,
          inductionHypothesis fun other listed => plain other (List.mem_cons_of_mem _ listed)]
        rfl

/-- List fields survive the form: joined by commas or on lines of their own, a list comes back if
and only if each entry can stand in one, and what a field holds is such a list. -/
theorem list_fields_survive :
    (∀ entries : List String, ∀ separator ∈ [",", ", ", "\n"],
      splitField (separator.intercalate entries) = entries ↔ ∀ entry ∈ entries, ListEntry entry) ∧
    ∀ value, splitField (", ".intercalate (splitField value)) = splitField value := by
  refine ⟨fun entries separator among => ?_, fun value => ?_⟩
  · have separates : Separates separator := by
      simp only [List.mem_cons, List.not_mem_nil, or_false] at among
      rcases among with rfl | rfl | rfl
      · exact separates_comma
      · exact separates_commaSpace
      · exact separates_newline
    exact separates.splitField_eq_iff entries
  · exact (separates_commaSpace.splitField_eq_iff _).mpr fun _ => listEntry_of_mem_splitField

/-! ## Forms that are filled in beforehand -/

/-- `_blank_form` -/
def blankForm : SetForm where
  name := ""
  archiveUrl := ""
  suites := ""
  components := ""
  architectures := "amd64"
  publishPrefix := ""
  keyrings := ""
  signingKey := ""
  filter := ""
  publishEndpoint := ""
  publicUrl := ""
  mirrorPattern := Pattern.setSuiteComponent.text

/-- What `as_form` fills in of a blank form. -/
def Preset.asForm (preset : Preset) : SetForm :=
  { blankForm with
    name := preset.name
    archiveUrl := preset.archiveUrl
    suites := ", ".intercalate preset.suites
    components := ", ".intercalate preset.components
    architectures := ", ".intercalate preset.architectures
    keyrings := ", ".intercalate preset.keyrings
    publishPrefix := preset.publishPrefix
    signingKey := ""
    filter := "" }

def Preset.lists (preset : Preset) : List (List String) :=
  [preset.suites, preset.components, preset.architectures, preset.keyrings]

/-- What each list of a preset consists of can stand in a list. -/
def Preset.Fillable (preset : Preset) : Prop :=
  ∀ list ∈ preset.lists, ∀ entry ∈ list, ListEntry entry

/-- A preset that is submitted as it stands makes a set with its lists. -/
theorem Preset.mirrorSet_asForm_iff (preset : Preset) :
    (preset.asForm.mirrorSet false).suites = preset.suites ∧
      (preset.asForm.mirrorSet false).components = preset.components ∧
      (preset.asForm.mirrorSet false).architectures = preset.architectures ∧
      (preset.asForm.mirrorSet false).keyrings = preset.keyrings ↔
    preset.Fillable := by
  simp [SetForm.mirrorSet, asForm, Fillable, lists, separates_commaSpace.splitField_eq_iff]

theorem ListEntry.append {front back : String} (plain : ListEntry front) (also : ListEntry back) :
    ListEntry (front ++ back) := by
  have written : front.toList ≠ [] := by simpa using plain.written
  have closed : back.toList ≠ [] := by simpa using also.written
  refine ⟨?_, ?_, ?_, ?_, ?_⟩
  · simp [plain.written]
  · simp [plain.comma, also.comma]
  · simp [plain.newline, also.newline]
  · rw [String.toList_append, List.head?_append_of_ne_nil _ written]
    exact plain.first
  · rw [String.toList_append, List.getLast?_append_of_ne_nil _ closed]
    exact also.last

section

variable {code : String}

theorem fillable_ubuntuPreset (plain : ListEntry code) : (ubuntuPreset code).Fillable := by
  simp only [Preset.Fillable, Preset.lists, ubuntuPreset, ubuntuComponents, ubuntuKeyring,
    List.forall_mem_cons]
  refine ⟨⟨plain, plain.append ?_, plain.append ?_, plain.append ?_, nofun⟩, ?_⟩ <;> decide

theorem fillable_debianPreset (plain : ListEntry code) : (debianPreset code).Fillable := by
  simp only [Preset.Fillable, Preset.lists, debianPreset, debianComponents, debianKeyring,
    List.forall_mem_cons]
  refine ⟨⟨plain, plain.append ?_, plain.append ?_, nofun⟩, ?_⟩ <;> decide

theorem fillable_debianSecurityPreset (plain : ListEntry code) :
    (debianSecurityPreset code).Fillable := by
  simp only [Preset.Fillable, Preset.lists, debianSecurityPreset, debianComponents, debianKeyring,
    List.forall_mem_cons]
  refine ⟨⟨plain.append ?_, nofun⟩, ?_⟩ <;> decide

end

theorem fillable_of_mem_presets : ∀ preset ∈ presets, preset.Fillable := by
  simp only [presets, List.forall_mem_cons]
  refine ⟨?_, ?_, ?_, ?_, ?_, ?_, ?_, ?_, nofun⟩
  · exact fillable_ubuntuPreset (by decide)
  · exact fillable_ubuntuPreset (by decide)
  · exact fillable_ubuntuPreset (by decide)
  · exact fillable_ubuntuPreset (by decide)
  · exact fillable_debianPreset (by decide)
  · exact fillable_debianSecurityPreset (by decide)
  · exact fillable_debianPreset (by decide)
  · exact fillable_debianSecurityPreset (by decide)

end AptlyGui

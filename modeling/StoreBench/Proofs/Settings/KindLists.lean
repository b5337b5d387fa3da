import StoreBench.Proofs.KindSets
import StoreBench.Proofs.Settings.Spellings

/-! The kinds of settings.

Kinds are given as one text with commas or as a list of texts.  Both forms are read as the kinds
that their items spell, and refused for the first item that is neither blank nor the name of a
kind.  Whatever else a table of settings holds, the field of the kinds says what the kinds are, and
no other setting depends on it.
-/

namespace StoreBench.Settings

open StoreBench.Document (Value Table)
open StoreBench.Kind (Foreign)

variable {name : String} {value : Value} {settings : Settings} {kinds : List Kind}
  {items : List String} {cause : ReadError}

theorem takeKinds_text (text : String) : takeKinds (.text text) = kindsOfNames (Text.items text) :=
  rfl

theorem takeKinds_list (items : List String) :
    takeKinds (.list (items.map .text)) = kindsOfNames items := by
  have names : (items.map Value.text).mapM textOf? = some items := by
    induction items with
    | nil => rfl
    | cons item items ih =>
        rw [List.map_cons, List.mapM_cons, ih]
        rfl
  rw [takeKinds, names]

theorem Lists.takeKinds_joined (lists : Lists items kinds) :
    takeKinds (.text (",".intercalate items)) = .ok kinds := by
  by_cases none : items = []
  · subst none
    cases lists
    decide
  · rw [takeKinds_text, Text.items_intercalate none lists.plain, lists.read]

/-- The settings with other kinds. -/
def withKinds (kinds : List Kind) (settings : Settings) : Settings :=
  { settings with kinds }

theorem assign_withKinds (other : name ≠ "kinds") :
    (settings.withKinds kinds).assign name value =
      withKinds kinds <$> settings.assign name value := by
  unfold assign
  split
  · exact absurd rfl other
  -- Every other value is taken without a look at the settings, and put beside their kinds.
  all_goals simp only [map_bind, map_pure] <;> rfl

/-- Takes one field of a table. -/
def takeField (settings : Settings) (field : String × Value) : Taken Settings :=
  inField field.1 (settings.assign field.1 field.2)

theorem take_table (fields : Table) : take (.table fields) = fields.foldlM takeField default :=
  rfl

theorem takeField_withKinds {field : String × Value} (other : field.1 ≠ "kinds") :
    takeField (settings.withKinds kinds) field = withKinds kinds <$> takeField settings field := by
  rw [takeField, takeField, assign_withKinds other]
  cases settings.assign field.1 field.2 <;> rfl

theorem foldlM_withKinds {fields : Table} (absent : "kinds" ∉ fields.map Prod.fst) :
    fields.foldlM takeField (settings.withKinds kinds) =
      withKinds kinds <$> fields.foldlM takeField settings := by
  induction fields generalizing settings with
  | nil => rfl
  | cons field fields ih =>
      rw [List.map_cons, List.mem_cons, not_or] at absent
      obtain ⟨other, absent⟩ := absent
      rw [List.foldlM_cons, List.foldlM_cons, takeField_withKinds (Ne.symm other), bind_map_left,
        map_bind]
      exact bind_congr fun next => ih absent

theorem takeField_kinds (read : takeKinds value = .ok kinds) :
    takeField settings ("kinds", value) = .ok (settings.withKinds kinds) := by
  rw [takeField, assign, read]
  rfl

theorem takeField_refused (refused : takeKinds value = refuse cause) :
    takeField settings ("kinds", value) = .error (cause, ["kinds"]) := by
  rw [takeField, assign, refused]
  rfl

/-- As the kinds of settings, the value stands for these kinds: settings with it are those without
it, but for the kinds. -/
def Gives (value : Value) (kinds : List Kind) : Prop :=
  ∀ before after : Table, "kinds" ∉ after.map Prod.fst →
    take (.table (before ++ ("kinds", value) :: after)) =
      withKinds kinds <$> take (.table (before ++ after))

/-- There are no settings with the value as their kinds, and the fault is found at their field. -/
structure Refused (value : Value) (cause : ReadError) : Prop where
  fails : ∀ before after settings,
    take (.table (before ++ ("kinds", value) :: after)) ≠ .ok settings
  told : ∀ before after settings, take (.table before) = .ok settings →
    take (.table (before ++ ("kinds", value) :: after)) = .error (cause, ["kinds"])

theorem gives_of_read (read : takeKinds value = .ok kinds) : Gives value kinds := by
  intro before after absent
  rw [take_table, take_table, List.foldlM_append, List.foldlM_append, map_bind]
  refine bind_congr fun settings => ?_
  rw [List.foldlM_cons, takeField_kinds read]
  exact foldlM_withKinds absent

theorem refused_of_unread (refused : takeKinds value = refuse cause) : Refused value cause := by
  have rejected (settings : Settings) (after : Table) :
      (("kinds", value) :: after).foldlM takeField settings = .error (cause, ["kinds"]) := by
    rw [List.foldlM_cons, takeField_refused refused]
    rfl
  constructor
  · intro before after settings accepted
    rw [take_table, List.foldlM_append] at accepted
    cases first : before.foldlM takeField default with
    | error fault =>
        rw [first] at accepted
        cases accepted
    | ok mid =>
        rw [first] at accepted
        cases (rejected mid after).symm.trans accepted
  · intro before after settings accepted
    rw [take_table] at accepted
    rw [take_table, List.foldlM_append, accepted]
    exact rejected settings after

theorem refusedList_of_foreign {item : String} (member : item ∈ items) (foreign : Foreign item) :
    ∃ first ∈ items, Foreign first ∧ Refused (.list (items.map .text)) (.unknownKind first) := by
  obtain ⟨first, inside, other, refused⟩ := refused_of_foreign member foreign
  exact ⟨first, inside, other, refused_of_unread ((takeKinds_list items).trans refused)⟩

/-- A value stands for the kinds that are read from it, and for no others. -/
theorem gives_iff : Gives value kinds ↔ takeKinds value = .ok kinds := by
  constructor
  · intro gives
    have alone := gives [] [] List.not_mem_nil
    cases read : takeKinds value with
    | error fault =>
        have failed : take (.table [("kinds", value)]) = inField "kinds" (.error fault) := by
          rw [take_table, List.foldlM_cons, takeField, assign, read]
          rfl
        cases failed.symm.trans alone
    | ok others =>
        have same := (gives_of_read read [] [] List.not_mem_nil).symm.trans alone
        have equal : others = kinds := congrArg Settings.kinds (Except.ok.inj same)
        rw [equal]
  · exact gives_of_read

/-- Kinds are read from a text or a list exactly as they are written there. -/
structure KindsRead : Prop where
  given : ∀ (items : List String) (kinds : List Kind), Lists items kinds →
    Gives (.text (",".intercalate items)) kinds ∧ Gives (.list (items.map .text)) kinds
  divided : ∀ text, ",".intercalate (Text.items text) = text ∧
    ∀ item ∈ Text.items text, ',' ∉ item.toList
  texts : ∀ text kinds, Gives (.text text) kinds ↔ Lists (Text.items text) kinds
  lists : ∀ items kinds, Gives (.list (items.map .text)) kinds ↔ Lists items kinds
  refusedTexts : ∀ text, ∀ item ∈ Text.items text, Foreign item →
    ∃ first ∈ Text.items text, Foreign first ∧ Refused (.text text) (.unknownKind first)
  refusedLists : ∀ items : List String, ∀ item ∈ items, Foreign item →
    ∃ first ∈ items, Foreign first ∧ Refused (.list (items.map .text)) (.unknownKind first)
  commas : ∀ items : List String, ∀ item ∈ items, ',' ∈ item.toList →
    ∃ first ∈ items, Foreign first ∧ Refused (.list (items.map .text)) (.unknownKind first)
  selected : ∀ (settings : Settings) (kind : Kind),
    settings.selected.contains kind = true ↔ kind ∈ settings.kinds
  listed : ∀ (settings : Settings) (kind : Kind),
    kind ∈ settings.selected.toList ↔ kind ∈ settings.kinds
  ascending : ∀ settings : Settings, settings.selected.toList.Pairwise (·.index < ·.index)

theorem kinds_read : KindsRead where
  given items kinds lists :=
    ⟨gives_of_read lists.takeKinds_joined, gives_of_read ((takeKinds_list items).trans lists.read)⟩
  divided text := ⟨Text.intercalate_items text, fun _ => Text.plain_of_mem_items⟩
  texts text kinds := gives_iff.trans kindsOfNames_ok_iff
  lists items kinds := by
    rw [gives_iff, takeKinds_list, kindsOfNames_ok_iff]
  refusedTexts text item member foreign := by
    obtain ⟨first, inside, other, refused⟩ := refused_of_foreign member foreign
    exact ⟨first, inside, other, refused_of_unread refused⟩
  refusedLists items item member foreign := refusedList_of_foreign member foreign
  commas items item member comma := refusedList_of_foreign member (Kind.foreign_of_comma comma)
  selected settings kind := KindSet.contains_ofList settings.kinds kind
  listed settings kind :=
    (KindSet.mem_toList _ kind).trans (KindSet.contains_ofList settings.kinds kind)
  ascending settings := KindSet.ascending_toList _

example : takeKinds (.text " CRUD\t,,Iterate,\u3000del,set,sEt") =
    .ok [.crud, .iterate, .delete, .set, .set] := by decide +kernel

end StoreBench.Settings

import StoreBench.Proofs.Text.Words
import StoreBench.Settings.Configuration

/-! How lists of kinds are written.

An item of a list spells a kind, or is blank and stands for none; any other item is foreign to lists
of kinds, and the first foreign item is what a list is refused for.
-/

namespace StoreBench

open StoreBench.Text (Blank Cased)

namespace Kind

variable {kind : Kind} {name item : String}

/-- What a kind is called besides its name. -/
def aliases : Kind → List String
  | .iterate => ["iterate"]
  | .delete => ["delete"]
  | .crud => ["transact"]
  | _ => []

def names (kind : Kind) : List String :=
  kind.name :: kind.aliases

/-- All names that stand for a kind, nine of them. -/
def words : List String :=
  all.flatMap names

example : words =
    ["set", "get", "iter", "iterate", "del", "delete", "batch", "crud", "transact"] := rfl

/-- A text spells a kind by one of its names, with each letter in lower or upper case and blanks
on both sides. -/
inductive Spells (kind : Kind) : String → Prop where
  | spelled {name : String} {before word after : List Char} (named : name ∈ kind.names)
      (cased : Cased word name.toList) (left : Blank before) (right : Blank after) :
      Spells kind (String.ofList (before ++ (word ++ after)))

theorem names_lower (named : name ∈ kind.names) :
    ∀ letter ∈ name.toList, letter.isLower = true := by
  have lower : ∀ name ∈ kind.names, name.toList.all Char.isLower = true := by
    cases kind <;> decide
  exact List.all_eq_true.mp (lower name named)

theorem names_ne_nil (named : name ∈ kind.names) : name.toList ≠ [] := by
  revert name
  cases kind <;> decide

theorem lookup_spellings : spellings.lookup name = some kind ↔ name ∈ kind.names := by
  constructor
  · intro found
    obtain ⟨before, after, whole, _⟩ := List.lookup_eq_some_iff.mp found
    have listed : (name, kind) ∈ spellings := by
      rw [whole]
      exact List.mem_append_right _ List.mem_cons_self
    have suits : ∀ entry ∈ spellings, entry.1 ∈ entry.2.names := by decide
    exact suits _ listed
  · revert name
    cases kind <;> decide

theorem lookup_spellings_none : spellings.lookup name = none ↔ name ∉ words := by
  constructor
  · intro missing listed
    obtain ⟨kind, _, named⟩ := List.mem_flatMap.mp listed
    rw [lookup_spellings.mpr named] at missing
    cases missing
  · intro unlisted
    by_contra found
    obtain ⟨kind, found⟩ := Option.ne_none_iff_exists'.mp found
    exact unlisted (List.mem_flatMap.mpr ⟨kind, kind.mem_all, lookup_spellings.mp found⟩)

theorem lower_ofList (text : List Char) :
    Text.lower (String.ofList text) = String.ofList (text.map Char.toLower) := by
  rw [Text.lower, String.toList_ofList]

theorem read?_eq_some_iff : read? item = some kind ↔ kind.Spells item := by
  rw [read?, lookup_spellings]
  constructor
  · intro named
    obtain ⟨before, after, whole, left, right⟩ := Text.trimChars_blanks item.toList
    have cased : Cased (Text.trimChars item.toList) (Text.lower (Text.trim item)).toList := by
      rw [Text.cased_iff (names_lower named), Text.trim, lower_ofList, String.toList_ofList]
    rw [← @String.ofList_toList item, whole]
    exact .spelled named cased left right
  · rintro ⟨named, cased, left, right⟩
    have spelled := (Text.cased_iff (names_lower named)).mp cased
    rw [Text.trim, String.toList_ofList,
      Text.trimChars_word left (cased.solid (names_lower named)) right, lower_ofList, spelled,
      String.ofList_toList]
    exact named

theorem Spells.not_blank (spells : kind.Spells item) : ¬ Blank item.toList := by
  rcases spells with @⟨name, before, word, after, named, cased, left, right⟩
  rw [String.toList_ofList, ← Text.trimChars_eq_nil_iff,
    Text.trimChars_word left (cased.solid (names_lower named)) right]
  rintro rfl
  exact names_ne_nil named (List.forall₂_nil_left_iff.mp cased)

/-- Neither a blank nor a letter is a comma. -/
theorem Spells.plain (spells : kind.Spells item) : ',' ∉ item.toList := by
  rcases spells with @⟨name, before, word, after, named, cased, left, right⟩
  rw [String.toList_ofList]
  intro comma
  rcases List.mem_append.mp comma with inLeft | inRest
  · exact absurd (left _ inLeft) (by decide)
  · rcases List.mem_append.mp inRest with inWord | inRight
    · have letter : ','.toLower ∈ name.toList := by
        rw [← (Text.cased_iff (names_lower named)).mp cased]
        exact List.mem_map_of_mem inWord
      exact absurd (names_lower named _ letter) (by decide)
    · exact absurd (right _ inRight) (by decide)

/-- An item that stands for something, but not for a kind. -/
structure Foreign (item : String) : Prop where
  visible : ¬ Blank item.toList
  unknown : Text.lower (Text.trim item) ∉ words

theorem read?_eq_none (foreign : Foreign item) : read? item = none :=
  lookup_spellings_none.mpr foreign.unknown

theorem Spells.not_foreign (spells : kind.Spells item) : ¬ Foreign item := by
  intro foreign
  have read := read?_eq_some_iff.mpr spells
  rw [read?_eq_none foreign] at read
  cases read

/-- An item is blank, spells a kind, or is foreign. -/
theorem item_cases (item : String) :
    Blank item.toList ∨ (∃ kind : Kind, kind.Spells item) ∨ Foreign item := by
  by_cases blank : Blank item.toList
  · exact .inl blank
  · cases read : read? item with
    | none => exact .inr (.inr ⟨blank, lookup_spellings_none.mp read⟩)
    | some kind => exact .inr (.inl ⟨kind, read?_eq_some_iff.mp read⟩)

theorem foreign_of_comma (comma : ',' ∈ item.toList) : Foreign item := by
  rcases item_cases item with blank | ⟨kind, spells⟩ | foreign
  · exact absurd (blank _ comma) (by decide)
  · exact absurd comma spells.plain
  · exact foreign

end Kind

namespace Settings

open StoreBench.Kind (Foreign)

variable {item : String} {before after items : List String} {kind : Kind} {kinds : List Kind}

/-- The items list these kinds, in their order and as often as they come. -/
inductive Lists : List String → List Kind → Prop where
  | nil : Lists [] []
  | blank {item : String} {items : List String} {kinds : List Kind} (none : Blank item.toList)
      (rest : Lists items kinds) : Lists (item :: items) kinds
  | kind {item : String} {items : List String} {kind : Kind} {kinds : List Kind}
      (spells : kind.Spells item) (rest : Lists items kinds) : Lists (item :: items) (kind :: kinds)

theorem kindsOfNames_blank (none : Blank item.toList) :
    kindsOfNames (item :: items) = kindsOfNames items := by
  have dropped : (Text.trim item).isEmpty = true := (Text.trim_isEmpty_iff item).mpr none
  rw [kindsOfNames, List.filter_cons_of_neg (by simp [dropped])]
  rfl

theorem filter_visible (visible : ¬ Blank item.toList) :
    (item :: items).filter (fun name => !(Text.trim name).isEmpty) =
      item :: items.filter fun name => !(Text.trim name).isEmpty := by
  have kept : ¬ (Text.trim item).isEmpty = true :=
    fun given => visible ((Text.trim_isEmpty_iff item).mp given)
  exact List.filter_cons_of_pos (by simp [kept])

theorem kindsOfNames_spelled (spells : kind.Spells item) :
    kindsOfNames (item :: items) = (kind :: ·) <$> kindsOfNames items := by
  rw [kindsOfNames, filter_visible spells.not_blank, List.mapM_cons]
  simp only [Kind.read?_eq_some_iff.mpr spells]
  rfl

theorem kindsOfNames_foreign (foreign : Foreign item) :
    kindsOfNames (item :: items) = refuse (.unknownKind item) := by
  rw [kindsOfNames, filter_visible foreign.visible, List.mapM_cons]
  simp only [Kind.read?_eq_none foreign]
  rfl

theorem Lists.read (lists : Lists items kinds) : kindsOfNames items = .ok kinds := by
  induction lists with
  | nil => rfl
  | blank none rest ih => rw [kindsOfNames_blank none, ih]
  | kind spells rest ih =>
      rw [kindsOfNames_spelled spells, ih]
      rfl

/-- The first foreign item is named. -/
theorem Lists.refused (lists : Lists before kinds) (foreign : Foreign item) :
    kindsOfNames (before ++ item :: after) = refuse (.unknownKind item) := by
  induction lists with
  | nil => exact kindsOfNames_foreign foreign
  | blank none rest ih => rw [List.cons_append, kindsOfNames_blank none, ih]
  | kind spells rest ih =>
      rw [List.cons_append, kindsOfNames_spelled spells, ih]
      rfl

theorem lists_or_foreign (items : List String) :
    (∃ kinds, Lists items kinds) ∨ ∃ before item after kinds,
      items = before ++ item :: after ∧ Lists before kinds ∧ Foreign item := by
  induction items with
  | nil => exact .inl ⟨[], .nil⟩
  | cons item items ih =>
      rcases Kind.item_cases item with blank | ⟨kind, spells⟩ | foreign
      · rcases ih with ⟨kinds, lists⟩ | ⟨before, first, after, kinds, rfl, lists, foreign⟩
        · exact .inl ⟨kinds, .blank blank lists⟩
        · exact .inr ⟨item :: before, first, after, kinds, rfl, .blank blank lists, foreign⟩
      · rcases ih with ⟨kinds, lists⟩ | ⟨before, first, after, kinds, rfl, lists, foreign⟩
        · exact .inl ⟨kind :: kinds, .kind spells lists⟩
        · exact .inr ⟨item :: before, first, after, kind :: kinds, rfl, .kind spells lists, foreign⟩
      · exact .inr ⟨[], item, items, [], rfl, .nil, foreign⟩

theorem kindsOfNames_ok_iff : kindsOfNames items = .ok kinds ↔ Lists items kinds := by
  constructor
  · intro read
    rcases lists_or_foreign items with
      ⟨others, lists⟩ | ⟨before, item, after, others, rfl, lists, foreign⟩
    · rw [lists.read] at read
      cases read
      exact lists
    · rw [lists.refused foreign] at read
      cases read
  · exact Lists.read

theorem Lists.no_foreign (lists : Lists items kinds) : ∀ item ∈ items, ¬ Foreign item := by
  induction lists with
  | nil => exact fun item member => absurd member List.not_mem_nil
  | blank none rest ih =>
      exact List.forall_mem_cons.mpr ⟨fun foreign => foreign.visible none, ih⟩
  | kind spells rest ih =>
      exact List.forall_mem_cons.mpr ⟨spells.not_foreign, ih⟩

/-- A foreign item is enough for a list to be refused, if not for this item then for one before. -/
theorem refused_of_foreign (member : item ∈ items) (foreign : Foreign item) :
    ∃ first ∈ items, Foreign first ∧ kindsOfNames items = refuse (.unknownKind first) := by
  rcases lists_or_foreign items with
    ⟨kinds, lists⟩ | ⟨before, first, after, kinds, rfl, lists, other⟩
  · exact absurd foreign (lists.no_foreign item member)
  · exact ⟨first, List.mem_append_right _ List.mem_cons_self, other, lists.refused other⟩

theorem Lists.plain (lists : Lists items kinds) : ∀ item ∈ items, ',' ∉ item.toList := by
  induction lists with
  | nil => exact fun item member => absurd member List.not_mem_nil
  | blank none rest ih =>
      exact List.forall_mem_cons.mpr ⟨fun comma => absurd (none _ comma) (by decide), ih⟩
  | kind spells rest ih => exact List.forall_mem_cons.mpr ⟨spells.plain, ih⟩

end Settings

end StoreBench

import GrafanaInstall.Codec
import GrafanaInstall.Proofs.Instant

/-!
# Codecs that read back what they write

A codec is lawful if it reads each value back from what it writes, and never writes null. The law
is built up like the codecs: from single values over fields to records.
-/

namespace GrafanaInstall

/-- Null is kept for the absence of a value. -/
structure Codec.Lawful (codec : Codec α) : Prop where
  read_write : ∀ a, codec.read (codec.write a) = some a
  write_ne_null : ∀ a, codec.write a ≠ .null

namespace Codec.Lawful

theorem write_inj {codec : Codec α} (h : codec.Lawful) {a b : α} :
    codec.write a = codec.write b ↔ a = b := by
  constructor
  · intro hwrite
    exact Option.some.inj (by rw [← h.read_write a, hwrite, h.read_write b])
  · rintro rfl
    rfl

/-! ## Single values -/

theorem string : Codec.string.Lawful := ⟨fun _ => rfl, nofun⟩

theorem bool : Codec.bool.Lawful := ⟨fun _ => rfl, nofun⟩

theorem int32 : Codec.int32.Lawful where
  read_write n := by
    have bounds := And.intro n.minValue_le_toInt n.toInt_le
    simp only [Codec.int32, if_pos bounds, Int32.ofInt_toInt]
  write_ne_null := nofun

theorem int64 : Codec.int64.Lawful where
  read_write n := by
    have bounds := And.intro n.minValue_le_toInt n.toInt_le
    simp only [Codec.int64, if_pos bounds, Int64.ofInt_toInt]
  write_ne_null := nofun

theorem instant_read (text : String) : Codec.instant.read (.string text) = Instant.ofText? text :=
  Option.bind_some ..

theorem instant : Codec.instant.Lawful where
  read_write i := (instant_read i.text).trans i.ofText?_text
  write_ne_null i := by simp [Codec.instant]

theorem plain : Codec.plain.Lawful :=
  ⟨Json.Plain.plain?_json, Json.Plain.present⟩

theorem word {words : List (String × α)} {spell : α → String}
    (h : ∀ a, words.lookup (spell a) = some a) : (Codec.word words spell).Lawful :=
  ⟨h, nofun⟩

/-! ## Lists and dictionaries -/

theorem mapM_map {write : α → β} {read : β → Option α} (h : ∀ a, read (write a) = some a)
    (items : List α) : (items.map write).mapM read = some items := by
  induction items with
  | nil => rfl
  | cons a rest ih => simp [List.mapM_cons, h, ih]

theorem list {item : Codec α} (h : item.Lawful) : item.list.Lawful :=
  ⟨mapM_map h.read_write, nofun⟩

theorem map {entry : Codec α} (h : entry.Lawful) : (Codec.map entry).Lawful where
  read_write dictionary := by
    simp only [Codec.map]
    rw [mapM_map]
    · exact congrArg some dictionary.ofEntries_entries
    · intro entry
      simp [h.read_write]
  write_ne_null := nofun

end Codec.Lawful

/-! ## Fields -/

structure Field.Lawful (field : Field α) : Prop where
  read_of_write : ∀ {a value}, field.write a = some value → field.read value = some a
  absent_of_write : ∀ {a}, field.write a = none → field.absent = some a

namespace Field.Lawful

theorem required (name : String) {codec : Codec α} (h : codec.Lawful) :
    (Field.required name codec).Lawful where
  read_of_write {a _} e := by cases e; exact h.read_write a
  absent_of_write := nofun

theorem optional (name : String) {codec : Codec α} (h : codec.Lawful) :
    (Field.optional name codec).Lawful where
  read_of_write {a value} e := by
    obtain ⟨a, rfl, rfl⟩ := Option.map_eq_some_iff.mp e
    have hnull := h.write_ne_null a
    simp [Field.optional, h.read_write]
  absent_of_write {a} e := by rw [Option.map_eq_none_iff.mp e]; rfl

theorem defaulted (name : String) {codec : Codec α} (h : codec.Lawful) (default : α) :
    (Field.defaulted name codec default).Lawful where
  read_of_write {a _} e := by cases e; exact h.read_write a
  absent_of_write := nofun

theorem nullable (name : String) {codec : Codec α} (h : codec.Lawful) (default : α) :
    (Field.nullable name codec default).Lawful where
  read_of_write {a value} e := by
    cases e
    have hnull := h.write_ne_null a
    simp [Field.nullable, h.read_write]
  absent_of_write := nofun

theorem nonempty (name : String) {item : Codec α} (h : item.Lawful) :
    (Field.nonempty name item).Lawful where
  read_of_write {items value} e := by
    cases items with
    | nil => cases e
    | cons a rest => cases e; exact (Codec.Lawful.list h).read_write _
  absent_of_write {items} e := by
    cases items with
    | nil => rfl
    | cons a rest => cases e

theorem tag (name text : String) : (Field.tag name text).Lawful where
  read_of_write e := by cases e; simp [Field.tag]
  absent_of_write := nofun

theorem reached {field : Field α} (h : field.Lawful) : { field with beyond := none }.Lawful :=
  ⟨h.read_of_write, h.absent_of_write⟩

end Field.Lawful

/-- Under different keys, an entry of a field's name is what is read. -/
theorem Field.readEntries_nodup (field : Field α) (repetition : Repetition)
    {entries : List (String × Json)} (h : (entries.map Prod.fst).Nodup) :
    field.readEntries repetition entries =
      match entries.lookup field.name with
      | none => field.absent
      | some value => field.read value := by
  rw [Field.readEntries, Entries.filter_key h]
  cases entries.lookup field.name <;> rfl

theorem Codec.stamped_object (stamps : List (String × String)) {entries : List (String × Json)}
    (h : Entries.Ordered entries) : ∃ stampedEntries,
      stamps.foldl (fun value stamp => value.set stamp.1 (.string stamp.2)) (.object entries) =
        Json.object stampedEntries ∧ Entries.Ordered stampedEntries ∧
      ∀ name ∉ stamps.map Prod.fst, stampedEntries.lookup name = entries.lookup name := by
  induction stamps generalizing entries with
  | nil => exact ⟨entries, rfl, h, fun _ _ => rfl⟩
  | cons stamp rest ih =>
    obtain ⟨key, text⟩ := stamp
    obtain ⟨stampedEntries, e, ordered, found⟩ :=
      ih (Entries.ordered_insert key (.string text) h)
    refine ⟨stampedEntries, e, ordered, fun name hname => ?_⟩
    obtain ⟨hne, hrest⟩ := List.ne_and_not_mem_of_not_mem_cons hname
    rw [found name hrest, Entries.lookup_insert, if_neg hne]

/-! ## Records -/

/-- The law of a list of fields under some names: in order, the fields are read back wherever each
name leads to what was written under it, unless two fields share a name. -/
structure Fields.Lawful (fields : Fields α) (names : List String) : Prop where
  written : ∀ a, ((fields.write a).map Prod.fst).Sublist names
  read_of_lookup : names.Nodup → ∀ a repetition {entries}, Entries.Ordered entries →
    (∀ name ∈ names, entries.lookup name = (fields.write a).lookup name) →
    fields.readEntries repetition entries = some a

namespace Fields.Lawful

theorem none : Fields.none.Lawful [] := ⟨fun _ => .slnil, fun _ _ _ _ _ _ => rfl⟩

theorem lookup_eq_none {fields : Fields α} (h : fields.Lawful names) (a : α) {name : String}
    (fresh : name ∉ names) : (fields.write a).lookup name = Option.none := by
  rw [List.lookup_eq_none_iff]
  intro entry hmem
  simp only [bne_iff_ne]
  rintro rfl
  exact fresh ((h.written a).subset (List.mem_map_of_mem hmem))

theorem cons {field : Field α} {rest : Fields β} (hfield : field.Lawful)
    (hrest : rest.Lawful names) : (Fields.cons field rest).Lawful (field.name :: names) where
  written := fun (a, b) => by
    have sublist := hrest.written b
    cases h : field.write a with
    | none => simpa [Fields.cons, h] using sublist.cons _
    | some value => simpa [Fields.cons, h] using sublist
  read_of_lookup := fun distinct (a, b) repetition {entries} ordered found => by
    obtain ⟨fresh, others_distinct⟩ := List.nodup_cons.mp distinct
    have first : field.readEntries repetition entries = some a := by
      rw [field.readEntries_nodup repetition ordered.nodup, found _ List.mem_cons_self]
      cases h : field.write a with
      | none => simp [Fields.cons, h, hrest.lookup_eq_none b fresh, hfield.absent_of_write h]
      | some value => simp [Fields.cons, h, hfield.read_of_write h]
    -- What the first field writes is under none of the other names.
    have others : rest.readEntries repetition entries = some b := by
      refine hrest.read_of_lookup others_distinct b repetition ordered fun name hname => ?_
      have hne : name ≠ field.name := fun e => fresh (e ▸ hname)
      rw [found _ (List.mem_cons_of_mem _ hname)]
      cases h : field.write a with
      | none => simp [Fields.cons, h]
      | some value => simp [Fields.cons, h, Entries.lookup_cons_ite, hne]
    simp [Fields.cons, first, others]

theorem as {fields : Fields α} {make : α → β} {parts : β → α}
    (make_parts : ∀ b, make (parts b) = b) (h : fields.Lawful names) :
    (fields.as make parts).Lawful names where
  written b := h.written (parts b)
  read_of_lookup distinct b repetition _ ordered found := by
    simp [Fields.as, h.read_of_lookup distinct (parts b) repetition ordered found, make_parts]

theorem read_sorted {fields : Fields α} (h : fields.Lawful names) (distinct : names.Nodup)
    (repetition : Repetition) (a : α) :
    fields.readEntries repetition (Entries.sort (fields.write a)) = some a :=
  h.read_of_lookup distinct a repetition (Entries.ordered_sort _) fun name _ =>
    Entries.lookup_sort (distinct.sublist (h.written a)) name

theorem record {fields : Fields α} (h : fields.Lawful names) (distinct : names.Nodup) :
    fields.record.Lawful :=
  ⟨h.read_sorted distinct .refused, nofun⟩

theorem mapping {fields : Fields α} (h : fields.Lawful names) (distinct : names.Nodup) :
    fields.mapping.Lawful :=
  ⟨h.read_sorted distinct .lastCounts, nofun⟩

theorem stamped {fields : Fields α} (h : fields.Lawful names) (distinct : names.Nodup)
    {stamps : List (String × String)} (fresh : ∀ stamp ∈ stamps, stamp.1 ∉ names) :
    (fields.record.stamped stamps).Lawful := by
  have sorted (a) := Codec.stamped_object stamps (Entries.ordered_sort (fields.write a))
  constructor
  · intro a
    obtain ⟨stampedEntries, e, ordered, found⟩ := sorted a
    refine (congrArg fields.record.read e).trans ?_
    refine h.read_of_lookup distinct a .refused ordered fun name hname => ?_
    have hother : name ∉ stamps.map Prod.fst := fun hmem => by
      obtain ⟨stamp, hstamp, rfl⟩ := List.mem_map.mp hmem
      exact fresh stamp hstamp hname
    exact (found name hother).trans (Entries.lookup_sort (distinct.sublist (h.written a)) name)
  · intro a
    obtain ⟨stampedEntries, e, -⟩ := sorted a
    exact fun null => Json.noConfusion (e.symm.trans null)

end Fields.Lawful

end GrafanaInstall

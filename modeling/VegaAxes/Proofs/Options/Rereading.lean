import Mathlib.Data.List.Forall2
import VegaAxes.Options.Normalizing
import VegaAxes.Proofs.Json.Fields
import VegaAxes.Proofs.Options.Intake

/-!
# Written options read back

Every option is read back from its written form as it is, with the kind that it has: `Recovers`
for a value and `Reads` for a record, whatever fields of other records stand behind its own.
-/

namespace VegaAxes

-- ---------------------------------------------------------------------------
-- Values
-- ---------------------------------------------------------------------------

/-- The reader finds every value in its written form, which is no null. -/
structure Reader.Recovers (r : Reader α) (toJson : α → Json) : Prop where
  read : ∀ a, r (toJson a) = .ok a
  ne_null : ∀ a, toJson a ≠ .null

namespace Reader.Recovers

variable {r : Reader α} {toJson : α → Json}

theorem optional (h : Recovers r toJson) (a : Option α) :
    Reader.optional r (.ofOption toJson a) = .ok a := by
  cases a with
  | none => rfl
  | some a =>
    have hread : Reader.optional r (toJson a) = (r (toJson a)).map some := by
      cases hjson : toJson a with
      | null => exact absurd hjson (h.ne_null a)
      | _ => rfl
    rw [Json.ofOption, hread, h.read]
    rfl

theorem list (h : Recovers r toJson) : Recovers (Reader.list r) fun as => .arr (as.map toJson) where
  read := by
    intro as
    have hitems (start : Nat) : Checked.items r start (as.map toJson) = .ok as := by
      induction as generalizing start with
      | nil => rfl
      | cons a as ih => rw [List.map_cons, Checked.items, h.read, ih]; rfl
    exact hitems 0
  ne_null := by simp

theorem pair (h : Recovers r toJson) :
    Recovers (Reader.pair r) fun (a, b) => .arr [toJson a, toJson b] where
  read := by
    rintro ⟨a, b⟩
    simp only [Reader.pair, h.read]
    rfl
  ne_null := by simp

theorem map (h : Recovers r toJson) (f : α → β) (a : α) : r.map f (toJson a) = .ok (f a) := by
  rw [Reader.map, h.read]
  rfl

end Reader.Recovers

namespace Reader

theorem text_recovers : Recovers text .str :=
  ⟨fun _ => rfl, by simp⟩

theorem flag_recovers : Recovers flag .bool :=
  ⟨fun _ => rfl, by simp⟩

theorem integer_recovers : Recovers integer .int :=
  ⟨fun _ => rfl, by simp⟩

theorem float_recovers : Recovers float .float :=
  ⟨fun _ => rfl, by simp⟩

theorem number_recovers : Recovers number Number.toJson where
  read n := by cases n <;> rfl
  ne_null n := by cases n <;> simp [Number.toJson]

end Reader

theorem Reader.union_of_none {asIs : Json → Option α}
    {members : List (String × Reader α)} {v : Json}
    (h : asIs v = none) : union asIs members v = firstOf members v := by
  rw [union, h]

theorem Reader.word_recovers [Vocabulary α]
    (h : ∀ a ∈ (Vocabulary.members : List α), Text.isWhole (Vocabulary.word a) = true) :
    Recovers (α := α) word Vocabulary.toJson where
  read a := by
    simp only [Vocabulary.toJson, word, wording, h a (Vocabulary.mem_members a), if_true,
      Vocabulary.ofWord?_word]
  ne_null := by simp [Vocabulary.toJson]

-- ---------------------------------------------------------------------------
-- Records
-- ---------------------------------------------------------------------------

namespace RecordReader

variable {f : RecordReader (α → β)} {r : RecordReader α} {reader : Reader α} {fs rest : Fields}
  {g : α → β} {a : α} {read : Checked α} {readLeft : Checked (α → β)} {key : FieldKey}
  {main other used : String} {v : Json}

/-- What is read of the record, whatever fields of other records stand behind its own. -/
structure Reads (r : RecordReader α) (fs : Fields) (read : Checked α) : Prop where
  eq : ∀ rest : Fields, (∀ key ∈ r.keys, rest.get? key.main = none) → r.read (fs ++ rest) = read

theorem find?_append (h : key.find? fs = some (used, v)) (hrest : rest.get? key.main = none) :
    key.find? (fs ++ rest) = some (used, v) := by
  unfold FieldKey.find? at h ⊢
  rw [Fields.get?_append, Fields.get?_append]
  cases hmain : fs.get? key.main with
  | some w =>
    rw [hmain] at h
    simpa using h
  | none =>
    rw [hmain] at h
    obtain ⟨w, hw, heq⟩ := Option.map_eq_some_iff.mp h
    simpa [hrest, hw] using heq

namespace Reads

theorem pure (fs : Fields) (a : α) : Reads (RecordReader.pure a) fs (.ok a) :=
  ⟨fun _ _ => rfl⟩

theorem seq (hf : Reads f fs readLeft) (hr : Reads r fs read) :
    Reads (f.seq r) fs (readLeft.seq read) where
  eq rest hrest := by
    have hleft := hf.eq rest fun key hkey => hrest key (List.mem_append_left _ hkey)
    have hright := hr.eq rest fun key hkey => hrest key (List.mem_append_right _ hkey)
    rw [← hleft, ← hright]
    rfl

theorem append (h : Reads r fs read) (hrest : ∀ key ∈ r.keys, rest.get? key.main = none) :
    Reads r (fs ++ rest) read where
  eq rest' hrest' := by
    rw [List.append_assoc]
    refine h.eq _ fun key hkey => ?_
    rw [Fields.get?_append, hrest key hkey, hrest' key hkey]
    rfl

theorem required (hf : Reads f fs (.ok g))
    (hfind : FieldKey.find? ⟨main, other⟩ fs = some (used, v))
    (hread : reader v = .ok a) : Reads (f.required main other reader) fs (.ok (g a)) := by
  refine hf.seq (⟨fun rest hrest => ?_⟩ : Reads _ fs (.ok a))
  simp only [find?_append hfind (hrest _ List.mem_cons_self), hread]
  rfl

theorem anyField {default : α} (hf : Reads f fs readLeft)
    (hfind : FieldKey.find? ⟨main, other⟩ fs = some (used, v)) (hread : reader v = read) :
    Reads (f.field main other default reader) fs (readLeft.seq (read.under used)) := by
  refine hf.seq ⟨fun rest hrest => ?_⟩
  simp only [find?_append hfind (hrest _ List.mem_cons_self), hread]

theorem field {default : α} (hf : Reads f fs (.ok g))
    (hfind : FieldKey.find? ⟨main, other⟩ fs = some (used, v)) (hread : reader v = .ok a) :
    Reads (f.field main other default reader) fs (.ok (g a)) :=
  hf.anyField hfind hread

end Reads

def Named (keys : List FieldKey) : Prop :=
  ∀ key ∈ keys, Text.isWhole key.other = true ∧
    (key.main = key.other ∨ key.main ∉ keys.map (·.other))

instance (keys : List FieldKey) : Decidable (Named keys) := by
  unfold Named
  infer_instance

theorem noExtras_ok (hr : Named r.keys) (hfs : fs.keys ⊆ r.keys.map (·.other)) :
    r.noExtras fs = .ok () := by
  have hextras : r.extras fs = [] := by
    refine List.filter_eq_nil_iff.mpr fun ⟨k, v⟩ hfield => ?_
    have hk : k ∈ fs.keys := List.mem_map_of_mem hfield
    obtain ⟨key, hkey, rfl⟩ := List.mem_map.mp (hfs hk)
    have hreads : key.reads fs key.other = true := by
      obtain ⟨w, hw⟩ :=
        Option.ne_none_iff_exists'.mp (mt Fields.get?_eq_none_iff.mp (not_not.mpr hk))
      obtain hsame | hmain := (hr key hkey).2
      · simp [FieldKey.reads, FieldKey.find?, hsame, hw]
      · simp [FieldKey.reads, FieldKey.find?, hw,
          Fields.get?_eq_none_iff.mpr fun hmem => hmain (hfs hmem)]
    simpa using ⟨key, hkey, hreads⟩
  rw [noExtras, hextras]

theorem Reads.strict (h : Reads r fs read) (hr : Named r.keys)
    (hfs : fs.keys ⊆ r.keys.map (·.other)) (kind : ProblemKind) :
    r.strict kind (.obj fs) = read := by
  have hwhole : (Fields.keys fs).find? (!Text.isWhole ·) = none := by
    refine List.find?_eq_none.mpr fun k hk => ?_
    obtain ⟨key, hkey, rfl⟩ := List.mem_map.mp (hfs hk)
    simp [(hr key hkey).1]
  have hread : r.read fs = read := by
    simpa using h.eq [] fun _ _ => rfl
  rw [RecordReader.strict]
  simp only [hwhole, hread, noExtras_ok hr hfs]
  cases read <;> rfl

end RecordReader

-- ---------------------------------------------------------------------------
-- The schema
-- ---------------------------------------------------------------------------

namespace Schema

open RecordReader

variable (intake : Intake)

theorem align_recovers : Reader.Recovers (α := LabelAlign) Reader.word Vocabulary.toJson :=
  Reader.word_recovers (by decide)

theorem axisValue_recovers : Reader.Recovers axisValue AxisValue.toJson where
  read x := by cases x <;> rfl
  ne_null x := by cases x <;> simp [AxisValue.toJson]

theorem label_recovers : Reader.Recovers (label intake) Label.toJson where
  read l := by
    refine Reads.strict ?_ (by decide) (List.Subset.refl _) _
    exact Reads.pure _ Label.mk
      |>.required rfl (axisValue_recovers.read _)
      |>.field rfl (Reader.text_recovers.optional _)
      |>.field rfl (align_recovers.optional _)
      |>.field rfl (Reader.text_recovers.optional _)
  ne_null l := by simp [Label.toJson]

theorem axisLabel_recovers : Reader.Recovers (axisLabel intake) AxisLabel.toJson where
  read l := by
    cases l with
    | plain x => cases x <;> rfl
    | styled l =>
      have hread : (Reader.map .styled (label intake)) l.toJson = .ok (AxisLabel.styled l) :=
        (label_recovers intake).map _ _
      rw [AxisLabel.toJson, axisLabel, Reader.union_of_none rfl]
      exact Reader.firstOf_ok.mpr (.inl hread)
  ne_null l := by
    cases l with
    | plain x => exact axisValue_recovers.ne_null x
    | styled l => exact (label_recovers intake).ne_null l

theorem subLabel_recovers : Reader.Recovers (subLabel intake) SubLabel.toJson where
  read l := by
    refine Reads.strict ?_ (by decide) (List.Subset.refl _) _
    exact Reads.pure _ SubLabel.mk
      |>.required rfl (axisValue_recovers.read _)
      |>.required rfl (Reader.text_recovers.read _)
      |>.field rfl (align_recovers.optional _)
      |>.field rfl (Reader.text_recovers.optional _)
  ne_null l := by simp [SubLabel.toJson]

theorem lineStyle_recovers : Reader.Recovers lineStyle LineStyle.toJson where
  read style := by
    rw [lineStyle, Reader.union_of_none rfl]
    cases style with
    | named type =>
      exact Reader.firstOf_ok.mpr
        (.inl ((Reader.word_recovers (α := LineType) (by decide)).map _ _))
    | dashes lengths =>
      refine Reader.firstOf_ok.mpr (.inr ⟨?_, ?_⟩)
      · simp [Reader.map, Reader.word, LineStyle.toJson, Checked.fail, Checked.map]
      · exact Reader.firstOf_ok.mpr (.inl (Reader.number_recovers.list.map _ _))
  ne_null style := by cases style <;> simp [LineStyle.toJson, Vocabulary.toJson]

theorem referenceLine_recovers :
    Reader.Recovers (referenceLine intake) ReferenceLineOptions.toJson where
  read l := by
    refine Reads.strict ?_ (by decide) (List.Subset.refl _) _
    exact Reads.pure _ ReferenceLineOptions.mk
      |>.required rfl (axisValue_recovers.read _)
      |>.field rfl (Reader.text_recovers.optional _)
      |>.field rfl (Reader.text_recovers.optional _)
      |>.field rfl (Reader.text_recovers.optional _)
      |>.field rfl (Reader.text_recovers.optional _)
      |>.field rfl (Reader.text_recovers.optional _)
      |>.field rfl (Reader.text_recovers.optional _)
      |>.field rfl ((Reader.word_recovers (by decide)).read _)
      |>.field rfl ((Reader.word_recovers (by decide)).read _)
      |>.field rfl (lineStyle_recovers.read _)
  ne_null l := by simp [ReferenceLineOptions.toJson]

theorem noteDetail_recovers : Reader.Recovers (noteDetail intake) NoteDetail.toJson where
  read d := by
    refine Reads.strict ?_ (by decide) (List.Subset.refl _) _
    exact Reads.pure _ NoteDetail.mk
      |>.required rfl (Reader.text_recovers.read _)
      |>.field rfl (Reader.text_recovers.optional _)
  ne_null d := by simp [NoteDetail.toJson]

theorem note_recovers : Reader.Recovers (note intake) NoteOptions.toJson where
  read n := by
    refine Reads.strict ?_ (by cases intake <;> decide) (List.Subset.refl _) _
    exact Reads.pure _ NoteOptions.mk
      |>.field rfl (Reader.text_recovers.optional _)
      |>.field rfl ((Reader.word_recovers (by decide)).optional _)
      |>.field rfl (Reader.number_recovers.optional _)
      |>.field rfl (Reader.text_recovers.optional _)
      |>.field rfl (Reader.text_recovers.optional _)
      |>.field rfl ((noteDetail_recovers intake).list.read _)
      |>.field rfl (Reader.flag_recovers.read _)
  ne_null n := by simp [NoteOptions.toJson]

theorem thumbnail_recovers : Reader.Recovers (thumbnail intake) ThumbnailOptions.toJson where
  read t := by
    refine Reads.strict ?_ (by decide) (List.Subset.refl _) _
    exact Reads.pure _ ThumbnailOptions.mk
      |>.field rfl (Reader.text_recovers.optional _)
  ne_null t := by simp [ThumbnailOptions.toJson]

theorem title_recovers : Reader.Recovers title Title.toJson where
  read t := by
    rw [title, Reader.union_of_none rfl]
    cases t with
    | line s => rfl
    | lines ss =>
      refine Reader.firstOf_ok.mpr (.inr ⟨?_, ?_⟩)
      · simp [Reader.map, Reader.text, Title.toJson, Checked.fail, Checked.map]
      · exact Reader.firstOf_ok.mpr (.inl (Reader.text_recovers.list.map _ _))
  ne_null t := by cases t <;> simp [Title.toJson]

theorem labelOffset_recovers : Reader.Recovers labelOffset LabelOffset.toJson where
  read x := by cases x <;> rfl
  ne_null x := by cases x <;> simp [LabelOffset.toJson]

end Schema

end VegaAxes
